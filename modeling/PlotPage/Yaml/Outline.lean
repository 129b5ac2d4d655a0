import PlotPage.Yaml.Node
import PlotPage.Yaml.Token

/-!
# Outlines

The parts of a document are read from its tokens.  A name given to a part may be used from the
moment at which the part begins, so a part may stand inside itself; a name may be given only once.
A text holds at most one document.  A reader looks at one token at a time and fails where the tokens
break off, unless it has found another fault before.
-/

namespace PlotPage.Yaml.Outline

/-- What is known while a document is read. -/
structure Reader where
  /-- The tokens that are left. -/
  tokens : List Token
  /-- What is wrong after the tokens. -/
  problem : Option Problem
  /-- What the handles of tags stand for. -/
  handles : List (String × String)
  /-- The places of the parts that have a name. -/
  named : List (String × Nat) := []
  parts : Parts := #[]

namespace Reader

/-- The next token; there is none at the end of the text. -/
def look (r : Reader) : Except Problem (Option Token) :=
  match r.tokens, r.problem with
  | [], some problem => .error problem
  | ts, _ => .ok ts.head?

def skip (r : Reader) : Reader := { r with tokens := r.tokens.drop 1 }

def sees (r : Reader) (ts : List Token) : Except Problem Bool := do
  return (← r.look).any ts.contains

/-- Adds a part, with a name if it has one. -/
def add (r : Reader) (name : Option String) (tag : Tag) (form : Form) :
    Except Problem (Nat × Reader) :=
  let i := r.parts.size
  let r := { r with parts := r.parts.push ⟨tag, form⟩ }
  match name with
  | none => .ok (i, r)
  | some a =>
    if (r.named.lookup a).isSome then .error .malformed
    else .ok (i, { r with named := (a, i) :: r.named })

def addEmpty (r : Reader) : Nat × Reader :=
  (r.parts.size, { r with parts := r.parts.push ⟨.null, .text ""⟩ })

def fill (r : Reader) (i : Nat) (form : Form) : Reader :=
  { r with parts := r.parts.setForm i form }

/-- Reads the name and the tag in front of a part, in either order. -/
def properties (r : Reader) : Except Problem (Option String × Option TagText × Reader) := do
  match ← r.look with
  | some (.anchor a) =>
    let r := r.skip
    match ← r.look with
    | some (.tag t) => return (some a, some t, r.skip)
    | _ => return (some a, none, r)
  | some (.tag t) =>
    let r := r.skip
    match ← r.look with
    | some (.anchor a) => return (some a, some t, r.skip)
    | _ => return (none, some t, r)
  | _ => return (none, none, r)

end Reader

/-- The handles that need no directive. -/
def standardHandles : List (String × String) := [("!", "!"), ("!!", Tag.space)]

def tagName (handles : List (String × String)) (t : TagText) : Except Problem String :=
  match t.handle with
  | none => .ok t.rest
  | some h =>
    match handles.lookup h with
    | some link => .ok (link ++ t.rest)
    | none => .error .malformed

/-- The tag that leaves the kind of a part open. -/
def openTag : String := "!"

/-- The kind of a collection. -/
def collectionTag (usual : Tag) : Option String → Tag
  | none => usual
  | some t => if t = openTag then usual else Tag.ofName t

/-- The kind of a text. -/
def textTag (isPlain : Bool) (s : String) : Option String → Tag
  | none => if isPlain then Tag.ofPlain s else .text
  | some t => if t = openTag then Tag.ofPlain s else Tag.ofName t

mutual
/-- Reads a part.  Block collections are read only where `block` holds, and a sequence that is not
indented only where `bare` holds. -/
def read (block bare : Bool) : (fuel : Nat) → Reader → Except Problem (Nat × Reader)
  | 0, _ => .error .malformed
  | fuel + 1, r => do
    match ← r.look with
    | some (.alias a) =>
      match r.named.lookup a with
      | some i => return (i, r.skip)
      | none => throw .malformed
    | _ =>
      let (name, tag, r) ← r.properties
      let tag ← tag.mapM (tagName r.handles)
      let next ← r.look
      match next, block, bare with
      | some (.text s isPlain), _, _ => r.skip.add name (textTag isPlain s tag) (.text s)
      | some .blockEntry, _, true =>
        let (i, r) ← r.add name (collectionTag .sequence tag) (.sequence [])
        let (items, r) ← readBare fuel r
        return (i, r.fill i (.sequence items))
      | some .flowSequenceStart, _, _ =>
        let (i, r) ← r.skip.add name (collectionTag .sequence tag) (.sequence [])
        let (items, r) ← readFlowItems true fuel r
        return (i, r.fill i (.sequence items))
      | some .flowMappingStart, _, _ =>
        let (i, r) ← r.skip.add name (collectionTag .mapping tag) (.mapping [])
        let (entries, r) ← readFlowEntries true fuel r
        return (i, r.fill i (.mapping entries))
      | some .blockSequenceStart, true, _ =>
        let (i, r) ← r.skip.add name (collectionTag .sequence tag) (.sequence [])
        let (items, r) ← readItems fuel r
        return (i, r.fill i (.sequence items))
      | some .blockMappingStart, true, _ =>
        let (i, r) ← r.skip.add name (collectionTag .mapping tag) (.mapping [])
        let (entries, r) ← readEntries fuel r
        return (i, r.fill i (.mapping entries))
      | _, _, _ =>
        if name.isSome || tag.isSome then r.add name (textTag true "" tag) (.text "")
        else throw .malformed

/-- Reads a part, or an absent one before one of the given tokens. -/
def readUnless (ends : List Token) (block bare : Bool) :
    (fuel : Nat) → Reader → Except Problem (Nat × Reader)
  | 0, _ => .error .malformed
  | fuel + 1, r => do if ← r.sees ends then return r.addEmpty else read block bare fuel r

def readItems : (fuel : Nat) → Reader → Except Problem (List Nat × Reader)
  | 0, _ => .error .malformed
  | fuel + 1, r => do
    match ← r.look with
    | some .blockEntry =>
      let (i, r) ← readUnless [.blockEntry, .blockEnd] true false fuel r.skip
      let (rest, r) ← readItems fuel r
      return (i :: rest, r)
    | some .blockEnd => return ([], r.skip)
    | _ => throw .malformed

/-- Reads the items of a sequence that is not indented. -/
def readBare : (fuel : Nat) → Reader → Except Problem (List Nat × Reader)
  | 0, _ => .error .malformed
  | fuel + 1, r => do
    match ← r.look with
    | some .blockEntry =>
      let (i, r) ← readUnless [.blockEntry, .key, .value, .blockEnd] true false fuel r.skip
      let (rest, r) ← readBare fuel r
      return (i :: rest, r)
    | _ => return ([], r)

/-- Reads the entries of a block mapping.  An entry may lack its key or its value. -/
def readEntries : (fuel : Nat) → Reader → Except Problem (List (Nat × Nat) × Reader)
  | 0, _ => .error .malformed
  | fuel + 1, r => do
    match ← r.look with
    | some .blockEnd => return ([], r.skip)
    | some .key =>
      let (k, r) ← readUnless [.key, .value, .blockEnd] true true fuel r.skip
      let (v, r) ←
        if ← r.sees [.value] then readUnless [.key, .value, .blockEnd] true true fuel r.skip
        else pure r.addEmpty
      let (rest, r) ← readEntries fuel r
      return ((k, v) :: rest, r)
    | _ => throw .malformed

/-- Reads the items inside square brackets.  An item with a colon is a mapping of one entry. -/
def readFlowItems (first : Bool) : (fuel : Nat) → Reader → Except Problem (List Nat × Reader)
  | 0, _ => .error .malformed
  | fuel + 1, r => do
    if ← r.sees [.flowSequenceEnd] then return ([], r.skip)
    let r ← if first then pure r else if ← r.sees [.flowEntry] then pure r.skip else throw .malformed
    if ← r.sees [.flowSequenceEnd] then return ([], r.skip)
    let (i, r) ←
      if ← r.sees [.key] then do
        let (k, r) ← readUnless [.value, .flowEntry, .flowSequenceEnd] false false fuel r.skip
        let (v, r) ←
          if ← r.sees [.value] then
            readUnless [.flowEntry, .flowSequenceEnd] false false fuel r.skip
          else pure r.addEmpty
        r.add none .mapping (.mapping [(k, v)])
      else read false false fuel r
    let (rest, r) ← readFlowItems false fuel r
    return (i :: rest, r)

/-- Reads the entries inside curly brackets.  An entry without a colon has no value. -/
def readFlowEntries (first : Bool) :
    (fuel : Nat) → Reader → Except Problem (List (Nat × Nat) × Reader)
  | 0, _ => .error .malformed
  | fuel + 1, r => do
    if ← r.sees [.flowMappingEnd] then return ([], r.skip)
    let r ← if first then pure r else if ← r.sees [.flowEntry] then pure r.skip else throw .malformed
    if ← r.sees [.flowMappingEnd] then return ([], r.skip)
    let (k, v, r) ←
      if ← r.sees [.key] then do
        let (k, r) ← readUnless [.value, .flowEntry, .flowMappingEnd] false false fuel r.skip
        let (v, r) ←
          if ← r.sees [.value] then
            readUnless [.flowEntry, .flowMappingEnd] false false fuel r.skip
          else pure r.addEmpty
        pure (k, v, r)
      else do
        let (k, r) ← read false false fuel r
        pure (k, r.addEmpty)
    let (rest, r) ← readFlowEntries false fuel r
    return ((k, v) :: rest, r)
end

/-- Reads the directives at the start of a document.  The version of the language may be given
once, and so may what a handle stands for. -/
def readDirectives (fuel : Nat) (hasVersion : Bool) (handles : List (String × String))
    (r : Reader) : Except Problem Reader := do
  match fuel with
  | 0 => throw .malformed
  | fuel + 1 =>
    match ← r.look with
    | some (.directive (.version major)) =>
      if hasVersion || major ≠ 1 then throw .malformed
      else readDirectives fuel true handles r.skip
    | some (.directive (.handle h link)) =>
      if (handles.lookup h).isSome then throw .malformed
      else readDirectives fuel hasVersion ((h, link) :: handles) r.skip
    | some (.directive .other) => readDirectives fuel hasVersion handles r.skip
    | _ => return { r with handles := handles ++ standardHandles }

/-- Reads the directives of a document and the mark at its start. -/
def readStart (r : Reader) : Except Problem Reader := do
  let r ← readDirectives (r.tokens.length + 1) false [] r
  if ← r.sees [.documentStart] then return r.skip else throw .malformed

/-- Whether a token shows that nothing stands between it and the mark of the document before. -/
def endsDocument : Option Token → Bool
  | none => true
  | some (.directive _) => true
  | some .documentStart => true
  | some .documentEnd => true
  | _ => false

/-- Reads the part that is a whole document, from the directives on. -/
def readRoot (r : Reader) : Except Problem (Nat × Reader) := do
  let fuel := 4 * r.tokens.length + 8
  match ← r.look with
  | some (.directive _) | some .documentStart =>
    let r ← readStart r
    if endsDocument (← r.look) then return r.addEmpty else read true false fuel r
  | _ => read true false fuel r

def readEnd : (fuel : Nat) → Reader → Except Problem Unit
  | 0, _ => .error .malformed
  | fuel + 1, r => do
    match ← r.look with
    | none => return ()
    | some .documentEnd => readEnd fuel r.skip
    | _ =>
      let _ ← readStart r
      throw .malformed

/-- The document of a run of tokens, if there is one. -/
def ofTokens (run : TokenRun) : Except Problem (Option Outline) := do
  let r : Reader := { tokens := run.tokens, problem := run.problem, handles := standardHandles }
  match ← r.look with
  | none => return none
  | some _ =>
    let (root, r) ← readRoot r
    readEnd (r.tokens.length + 1) r
    return some ⟨r.parts, root⟩

end PlotPage.Yaml.Outline
