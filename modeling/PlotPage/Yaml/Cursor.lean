import PlotPage.Fault

/-!
# Positions in a YAML text

A cursor is what is left of a text together with the place that has been reached: how many
characters lie behind and how many ahead, on which line and in which column.  Columns decide where a
block ends, so a cursor only moves by `forward`, which counts every character; a byte order mark has
no width.
-/

namespace PlotPage.Yaml

/-- What is wrong with a YAML text: its form, or a part of it that has no value. -/
inductive Problem where
  | malformed
  | outside (cause : Outside)
  deriving DecidableEq, Repr

/-- The characters that may occur in a YAML text. -/
def isAllowed (c : Char) : Bool :=
  let n := c.toNat
  n == 0x09 || n == 0x0a || n == 0x0d || (0x20 ≤ n && n ≤ 0x7e) || n == 0x85 ||
    (0xa0 ≤ n && n ≤ 0xd7ff) || (0xe000 ≤ n && n ≤ 0xfffd) || 0x10000 ≤ n

def isBreak (c : Char) : Bool :=
  let n := c.toNat
  n == 0x0a || n == 0x85 || n == 0x2028 || n == 0x2029

def isSpaceOrTab (c : Char) : Bool := c == ' ' || c == '\t'

def isWordChar (c : Char) : Bool := c.isAlphanum || c == '-' || c == '_'

/-- Whether a line ends here; nothing is left at the end of the text. -/
def endsLine : Option Char → Bool
  | none => true
  | some c => isBreak c

/-- Whether a word ends here: at a space or at the end of the line. -/
def endsWord : Option Char → Bool
  | some ' ' => true
  | c => endsLine c

/-- Whether a token ends here: at a space, at a tab or at the end of the line. -/
def endsToken : Option Char → Bool
  | some '\t' => true
  | c => endsWord c

/-- Whether a character belongs to a class that is written as a text. -/
def isOneOf (chars : String) (c : Char) : Bool := chars.toList.contains c

/-- A place in a text. -/
structure Cursor where
  rest : List Char
  /-- The number of characters that are left. -/
  size : Nat
  size_eq : size = rest.length
  index : Nat := 0
  line : Nat := 0
  column : Nat := 0

namespace Cursor

def ofChars (cs : List Char) : Cursor := ⟨cs, cs.length, rfl, 0, 0, 0⟩

def peek (c : Cursor) : Option Char := c.rest.head?

def step (c : Cursor) : Cursor :=
  match h : c.rest with
  | [] => c
  | ch :: rest =>
    have size_eq : c.size - 1 = rest.length := by simp [c.size_eq, h]
    if isBreak ch then ⟨rest, c.size - 1, size_eq, c.index + 1, c.line + 1, 0⟩
    else if ch.toNat = 0xfeff then ⟨rest, c.size - 1, size_eq, c.index + 1, c.line, c.column⟩
    else ⟨rest, c.size - 1, size_eq, c.index + 1, c.line, c.column + 1⟩

def forward : (n : Nat) → Cursor → Cursor
  | 0, c => c
  | n + 1, c => forward n c.step

/-- The longest run of characters on which `p` holds, and the place after it. -/
def takeWhile (p : Char → Bool) (c : Cursor) : List Char × Cursor :=
  let run := c.rest.takeWhile p
  (run, c.forward run.length)

/-- The place after the longest run of characters on which `p` holds. -/
def skipWhile (p : Char → Bool) (c : Cursor) : Cursor := (c.takeWhile p).2

/-- The place after the spaces that come next. -/
def skipSpaces (c : Cursor) : Cursor := c.skipWhile (· == ' ')

/-- The line break that comes next, and the place after it.  The next-line character counts as a
line feed. -/
def lineBreak? (c : Cursor) : Option (Char × Cursor) :=
  match c.rest with
  | [] => none
  | ch :: _ =>
    if isBreak ch then some (if ch.toNat = 0x85 then '\n' else ch, c.step) else none

/-- The place after a comment, if one comes next. -/
def skipComment (c : Cursor) : Cursor :=
  if c.peek = some '#' then c.skipWhile fun ch => !isBreak ch else c

/-- The place after the line break that comes next, if one does. -/
def skipBreak (c : Cursor) : Cursor :=
  match c.lineBreak? with
  | some (_, after) => after
  | none => c

/-- Whether three equal characters come next as a word of their own. -/
def hasTriple (mark : Char) (c : Cursor) : Bool :=
  match c.rest with
  | x :: y :: z :: rest => x == mark && y == mark && z == mark && endsToken rest.head?
  | _ => false

/-- Whether a line that starts here begins or ends a document. -/
def isAtMark (c : Cursor) : Bool := c.hasTriple '-' || c.hasTriple '.'

/-- The start of the next line, if nothing but a comment is left of this one. -/
def endLine (c : Cursor) : Except Problem Cursor :=
  let c := c.skipSpaces.skipComment
  if endsLine c.peek then .ok c.skipBreak else .error .malformed

end Cursor

/-- What a line break inside a text and the empty lines after it stand for: one line feed is a
space, and before empty lines it is nothing. -/
def foldBreaks (first : Char) (more : List Char) : List Char :=
  if first ≠ '\n' then first :: more
  else if more.isEmpty then [' '] else more

end PlotPage.Yaml
