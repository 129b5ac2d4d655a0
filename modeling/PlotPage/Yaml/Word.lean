import PlotPage.Yaml.Cursor

/-!
# Names, tags and directives

An anchor and an alias are named by a word.  A tag is written in full between angle brackets, or as
a handle and what is appended to the text that the handle stands for; characters that may not occur
in it are written as bytes with percent signs.  A directive gives the version of the language or
what a handle stands for.
-/

namespace PlotPage.Yaml

/-- A tag as it is written. -/
structure TagText where
  /-- The handle; a tag written in full has none. -/
  handle : Option String
  rest : String
  deriving DecidableEq, Repr

/-- A directive. -/
inductive Directive where
  | version (major : Nat)
  | handle (name link : String)
  | other
  deriving DecidableEq, Repr

namespace Word

def name (c : Cursor) : Except Problem (String × Cursor) :=
  let (word, c) := c.takeWhile isWordChar
  if word.isEmpty || !(endsToken c.peek || c.peek.any (isOneOf "?:,]\x7d%@`")) then
    .error .malformed
  else .ok (String.ofList word, c)

/-- The characters of links; a percent sign begins a byte. -/
def isLinkChar (c : Char) : Bool := c.isAlphanum || isOneOf "-;/?:@&=+$,_.!~*'()[]" c

def hexValue? (c : Char) : Option Nat :=
  if c.isDigit then some (c.toNat - 48)
  else if isOneOf "abcdef" c then some (c.toNat - 87)
  else if isOneOf "ABCDEF" c then some (c.toNat - 55)
  else none

/-- The bytes that are written with percent signs at the start of a list of characters. -/
def bytes : List Char → Except Problem (List UInt8)
  | '%' :: a :: b :: cs =>
    match hexValue? a, hexValue? b with
    | some x, some y => do return UInt8.ofNat (16 * x + y) :: (← bytes cs)
    | _, _ => .error .malformed
  | '%' :: _ => .error .malformed
  | _ => .ok []

def linkChars : (fuel : Nat) → Cursor → Except Problem (List Char × Cursor)
  | 0, _ => .error .malformed
  | fuel + 1, c => do
    let (text, c) := c.takeWhile isLinkChar
    if c.peek = some '%' then
      let bs ← bytes c.rest
      match String.fromUTF8? ⟨bs.toArray⟩ with
      | none => throw .malformed
      | some part =>
        let (more, c) ← linkChars fuel (c.forward (3 * bs.length))
        return (text ++ part.toList ++ more, c)
    else return (text, c)

/-- Reads a link, which has at least one character. -/
def link (c : Cursor) : Except Problem (String × Cursor) := do
  let (text, after) ← linkChars (c.size + 1) c
  if after.index = c.index then throw .malformed
  return (String.ofList text, after)

/-- Reads a handle: an exclamation mark, alone before a space, or a word between two. -/
def handle (c : Cursor) : Except Problem (String × Cursor) :=
  match c.rest with
  | '!' :: ' ' :: _ => .ok ("!", c.step)
  | '!' :: rest =>
    let word := rest.takeWhile isWordChar
    if rest[word.length]? = some '!' then
      .ok (String.ofList ('!' :: word ++ ['!']), c.forward (word.length + 2))
    else .error .malformed
  | _ => .error .malformed

def tag (c : Cursor) : Except Problem (TagText × Cursor) := do
  let after := c.rest.drop 1
  let (t, c) ←
    if after.head? = some '<' then do
      let (text, c) ← link (c.forward 2)
      if c.peek = some '>' then pure (TagText.mk none text, c.step) else throw .malformed
    else if endsToken after.head? then pure (TagText.mk none "!", c.step)
    else do
      let hasHandle := (after.takeWhile fun ch => !endsWord (some ch)).contains '!'
      let (h, c) ← if hasHandle then handle c else pure ("!", c.step)
      let (text, c) ← link c
      pure (TagText.mk (some h) text, c)
  if endsWord c.peek then return (t, c) else throw .malformed

def versionNumber (c : Cursor) : Except Problem (Nat × Cursor) :=
  let (digits, c) := c.takeWhile Char.isDigit
  if digits.isEmpty then .error .malformed
  else if 4300 < digits.length then .error (.outside .longInteger)
  else .ok (digits.foldl (fun n d => 10 * n + (d.toNat - 48)) 0, c)

/-- Reads a directive from its percent sign up to the end of its line. -/
def directive (c : Cursor) : Except Problem (Directive × Cursor) := do
  let (word, c) := c.step.takeWhile isWordChar
  if word.isEmpty || !endsWord c.peek then throw .malformed
  let (d, c) ←
    if word = "YAML".toList then do
      let (major, c) ← versionNumber c.skipSpaces
      if c.peek ≠ some '.' then throw .malformed
      let (_, c) ← versionNumber c.step
      pure (Directive.version major, c)
    else if word = "TAG".toList then do
      let (name, c) ← handle c.skipSpaces
      if c.peek ≠ some ' ' then throw .malformed
      let (text, c) ← link c.skipSpaces
      pure (Directive.handle name text, c)
    else pure (Directive.other, c.skipWhile fun ch => !isBreak ch)
  if endsWord c.peek then return (d, ← c.endLine) else throw .malformed

end Word

end PlotPage.Yaml
