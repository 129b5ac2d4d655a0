/-!
# Paths

A path is a root and a list of names.  Empty names and single dots are left out when a path is
read; two dots stay, because what they mean depends on the directories that are there.
-/

namespace PlotPage

/-- A path; the root is empty, one slash or two slashes. -/
structure FilePath where
  root : String
  parts : List String
  deriving DecidableEq, Repr

namespace FilePath

def splitSlashes : List Char → List (List Char)
  | [] => [[]]
  | c :: cs =>
    if c = '/' then [] :: splitSlashes cs
    else
      match splitSlashes cs with
      | [] => [[c]]
      | name :: names => (c :: name) :: names

/-- The root that a text begins with: exactly two slashes are a root of their own. -/
def rootOf : List Char → String
  | '/' :: '/' :: '/' :: _ => "/"
  | '/' :: '/' :: _ => "//"
  | '/' :: _ => "/"
  | _ => ""

def read (s : String) : FilePath :=
  ⟨rootOf s.toList,
    ((splitSlashes s.toList).filter fun n => n ≠ [] && n ≠ ['.']).map String.ofList⟩

/-- The text of a path; a path without names is a dot. -/
def text (p : FilePath) : String :=
  if p.root = "" && p.parts.isEmpty then "." else p.root ++ "/".intercalate p.parts

def parent (p : FilePath) : FilePath := { p with parts := p.parts.dropLast }

/-- The last name; empty without names. -/
def name (p : FilePath) : String := p.parts.getLastD ""

/-- The last dot of a name and what follows it, unless the dot begins or ends the name. -/
def suffixChars (name : List Char) : List Char :=
  let tail := (name.reverse.takeWhile (· ≠ '.')).reverse
  let before := name.length - tail.length
  if before ≤ 1 || tail.isEmpty then [] else '.' :: tail

def suffix (p : FilePath) : String := String.ofList (suffixChars p.name.toList)

/-- Whether a text can be a suffix: nothing, or a dot and more without a slash. -/
def isSuffix (s : List Char) : Bool :=
  !s.contains '/' && (s.isEmpty || (s.head? = some '.' && s ≠ ['.']))

/-- The path with the given suffix in place of its own. -/
def withSuffix? (p : FilePath) (s : String) : Option FilePath :=
  if !isSuffix s.toList || p.name = "" then none
  else
    let name := p.name.toList
    let stem := name.take (name.length - (suffixChars name).length)
    some { p with parts := p.parts.dropLast ++ [String.ofList stem ++ s] }

/-- Whether no name of a path holds a null character. -/
def isNullFree (p : FilePath) : Bool :=
  p.parts.all fun n => !n.toList.contains (Char.ofNat 0)

end FilePath

end PlotPage
