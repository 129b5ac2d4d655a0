import PlotPage.Yaml.Cursor

/-!
# Block texts

A block text is written on lines of its own below a header, each indented by the same number of
columns.  A literal text keeps its line breaks and a folded one joins lines that start with no
blank.  The header may fix the indentation and says what becomes of the line breaks at the end.
-/

namespace PlotPage.Yaml.Block

/-- What becomes of the line breaks at the end: the first stays, none stays, all stay. -/
inductive Ending where
  | clip
  | strip
  | keep
  deriving DecidableEq, Repr

def ending? : Char → Option Ending
  | '+' => some .keep
  | '-' => some .strip
  | _ => none

def indentation? (c : Char) : Option Nat := if c.isDigit then some (c.toNat - 48) else none

/-- Reads a mark if one comes next. -/
def mark? {α : Type} (read? : Char → Option α) (c : Cursor) : Option α × Cursor :=
  match c.peek.bind read? with
  | some a => (some a, c.step)
  | none => (none, c)

/-- Reads the header after its first character, up to the end of its line.  The marks of ending and
indentation may come in either order. -/
def header (c : Cursor) : Except Problem (Ending × Option Nat × Cursor) := do
  let (before, c) := mark? ending? c
  let (size, c) := mark? indentation? c
  let (after, c) := if before.isNone && size.isSome then mark? ending? c else (none, c)
  if size = some 0 || !endsWord c.peek then throw .malformed
  return ((before <|> after).getD .clip, size, ← c.endLine)

/-- The empty lines at the start of a text whose indentation is not fixed, and the widest run of
spaces on them and on the line after them. -/
def leadingBreaks : (fuel : Nat) → (width : Nat) → Cursor → List Char × Nat × Cursor
  | 0, width, c => ([], width, c)
  | fuel + 1, width, c =>
    let (spaces, c) := c.takeWhile (· == ' ')
    let width := if spaces.isEmpty then width else max width c.column
    match c.lineBreak? with
    | none => ([], width, c)
    | some (b, c) =>
      let (bs, width, c) := leadingBreaks fuel width c
      (b :: bs, width, c)

/-- Skips spaces up to the column `indent`. -/
def skipIndent (indent : Nat) (c : Cursor) : Cursor :=
  c.forward (min (indent - c.column) (c.rest.takeWhile (· == ' ')).length)

/-- The empty lines before the next line of a text with the given indentation. -/
def breaks (indent : Nat) : (fuel : Nat) → Cursor → List Char × Cursor
  | 0, c => ([], c)
  | fuel + 1, c =>
    let c := skipIndent indent c
    match c.lineBreak? with
    | none => ([], c)
    | some (b, c) =>
      let (bs, c) := breaks indent fuel c
      (b :: bs, c)

/-- Whether a line of the text starts here. -/
def hasLine (indent : Nat) (c : Cursor) : Bool := c.column == indent && c.peek.isSome

/-- Whether a line does not start with a blank. -/
def startsFull (c : Cursor) : Bool := !c.peek.any isSpaceOrTab

/-- The lines of a text without the line breaks at its end. -/
structure Lines where
  text : List Char
  /-- The line break of the last line. -/
  last : List Char
  /-- The line breaks after the last line. -/
  trailing : List Char
  after : Cursor

/-- Reads the lines of a text; `before` are the empty lines before the first. -/
def lines (folded : Bool) (indent : Nat) : (fuel : Nat) → (before : List Char) → Cursor → Lines
  | 0, before, c => ⟨[], [], before, c⟩
  | fuel + 1, before, c =>
    if hasLine indent c then
      let full := startsFull c
      let (line, c) := c.takeWhile fun ch => !isBreak ch
      let (last, c) := match c.lineBreak? with
        | some (b, c) => ([b], c)
        | none => ([], c)
      let (between, c) := breaks indent (c.size + 1) c
      if hasLine indent c then
        let join := if folded && last = ['\n'] && full && startsFull c then
            (if between.isEmpty then [' '] else [])
          else last
        let more := lines folded indent fuel between c
        { more with text := before ++ line ++ join ++ more.text }
      else ⟨before ++ line, last, between, c⟩
    else ⟨[], [], before, c⟩

/-- Reads a block text from its first character.  Its lines are indented deeper than the
collection it stands in, whose lines have `indent - 1` columns before them. -/
def read (folded : Bool) (indent : Nat) (c : Cursor) : Except Problem (String × Cursor) := do
  let (ending, size, c) ← header c.step
  let least := max indent 1
  let (before, column, c) := match size with
    | some n =>
      let (bs, c) := breaks (least + n - 1) (c.size + 1) c
      (bs, least + n - 1, c)
    | none =>
      let (bs, width, c) := leadingBreaks (c.size + 1) 0 c
      (bs, max least width, c)
  let ls := lines folded column (c.size + 1) before c
  let tail := match ending with
    | .clip => ls.last
    | .strip => []
    | .keep => ls.last ++ ls.trailing
  return (String.ofList (ls.text ++ tail), ls.after)

end PlotPage.Yaml.Block
