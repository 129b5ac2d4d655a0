import PlotPage.Yaml.Tag

/-!
# Nodes

A document is a table of parts.  Each part has a tag and is a text, a sequence or a mapping, and
what it consists of is given by places in the table.  So a part that has a name can stand in
several places, and also inside itself.
-/

namespace PlotPage.Yaml

/-- What a part of a document consists of; other parts are given by their places. -/
inductive Form where
  | text (s : String)
  | sequence (items : List Nat)
  | mapping (entries : List (Nat × Nat))
  deriving DecidableEq, Repr

/-- A part of a document. -/
structure Node where
  tag : Tag
  form : Form
  deriving DecidableEq, Repr

/-- What stands at a place without a part. -/
def Node.absent : Node := ⟨.unknown, .text ""⟩

abbrev Parts := Array Node

/-- A document: its parts, and the place of the one that is the whole. -/
structure Outline where
  parts : Parts
  root : Nat

namespace Parts

def tag (ps : Parts) (i : Nat) : Tag := (ps.getD i .absent).tag

def form (ps : Parts) (i : Nat) : Form := (ps.getD i .absent).form

/-- The entries of a part, which are none unless it is a mapping. -/
def entries (ps : Parts) (i : Nat) : List (Nat × Nat) :=
  match ps.form i with
  | .mapping es => es
  | _ => []

def setTag (ps : Parts) (i : Nat) (t : Tag) : Parts := ps.modify i fun n => { n with tag := t }

def setForm (ps : Parts) (i : Nat) (f : Form) : Parts := ps.modify i fun n => { n with form := f }

/-- The text of a part: a mapping has the text of its default value. -/
def text? (ps : Parts) : (fuel : Nat) → Nat → Option String
  | 0, _ => none
  | fuel + 1, i =>
    match ps.form i with
    | .text s => some s
    | .sequence _ => none
    | .mapping es =>
      match es.find? fun e => ps.tag e.1 = .default with
      | some (_, v) => text? ps fuel v
      | none => none

end Parts

end PlotPage.Yaml
