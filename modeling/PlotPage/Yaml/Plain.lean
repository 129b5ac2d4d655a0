import PlotPage.Yaml.Cursor

/-!
# Plain texts

A text without quotes is a sequence of words with gaps between them.  It goes on over line breaks
as long as the lines are indented deeper than the collection it stands in, and it ends before a
colon with a blank after it, before a comment, and inside brackets before any of their marks.
-/

namespace PlotPage.Yaml.Plain

/-- Whether a plain text can begin with `c` when `next` follows it. -/
def canBegin (inFlow : Bool) (c : Char) (next : Option Char) : Bool :=
  !(endsToken (some c) || isOneOf "-?:,[]\x7b\x7d#&*!|>'\"%@`" c) ||
    (!endsToken next && (c == '-' || (!inFlow && (c == '?' || c == ':'))))

/-- Whether a word ends before `c` when `next` follows it. -/
def endsBefore (inFlow : Bool) (c : Char) (next : Option Char) : Bool :=
  endsToken (some c) ||
    (c == ':' && (endsToken next || (inFlow && next.any (isOneOf ",[]\x7b\x7d")))) ||
    (inFlow && isOneOf ",?[]\x7b\x7d" c)

/-- The word at the start of a list of characters. -/
def word (inFlow : Bool) : List Char → List Char
  | [] => []
  | c :: cs => if endsBefore inFlow c cs.head? then [] else c :: word inFlow cs

/-- What lies between two words: the text that it stands for, which is empty if the text cannot go
on after it, the place after it, and whether it has a line break. -/
structure Gap where
  text : List Char
  after : Cursor
  isBroken : Bool

/-- The line breaks that follow a line break, unless a document begins or ends after one. -/
def moreBreaks : (fuel : Nat) → Cursor → Option (List Char) × Cursor
  | 0, c => (none, c)
  | fuel + 1, c =>
    let c := c.skipSpaces
    match c.lineBreak? with
    | none => (some [], c)
    | some (b, c) =>
      if c.isAtMark then (none, c)
      else
        let (bs, c) := moreBreaks fuel c
        (bs.map (b :: ·), c)

def gap (c : Cursor) : Gap :=
  let (spaces, c) := c.takeWhile (· == ' ')
  match c.lineBreak? with
  | none => ⟨spaces, c, false⟩
  | some (b, c) =>
    if c.isAtMark then ⟨[], c, true⟩
    else
      match moreBreaks (c.size + 1) c with
      | (none, c) => ⟨[], c, true⟩
      | (some bs, c) => ⟨foldBreaks b bs, c, true⟩

/-- Reads words and gaps.  The last component tells whether the last gap has a line break. -/
def content (inFlow : Bool) (indent : Nat) : (fuel : Nat) → Cursor → List Char × Cursor × Bool
  | 0, c => ([], c, false)
  | fuel + 1, c =>
    let first := word inFlow c.rest
    let g := gap (c.forward first.length)
    if g.text.isEmpty || g.after.peek = some '#' || (!inFlow && g.after.column < indent) ||
        (word inFlow g.after.rest).isEmpty then
      (first, g.after, g.isBroken)
    else
      let (text, c, isBroken) := content inFlow indent fuel g.after
      (first ++ g.text ++ text, c, isBroken)

/-- Reads a plain text whose further lines are indented by at least `indent` columns. -/
def read (inFlow : Bool) (indent : Nat) (c : Cursor) : String × Cursor × Bool :=
  let (text, c, isBroken) := content inFlow indent (c.size + 1) c
  (String.ofList text, c, isBroken)

end PlotPage.Yaml.Plain
