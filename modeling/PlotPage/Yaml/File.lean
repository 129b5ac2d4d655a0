import PlotPage.Files.System
import PlotPage.Yaml.Build

/-!
# YAML files

A YAML text has the value of its single document, or the value null if it has none.  All line ends
of a file count as line feeds.
-/

namespace PlotPage

namespace Yaml

/-- A text whose line ends are all line feeds. -/
def unifyLineEnds : List Char → List Char
  | [] => []
  | '\r' :: '\n' :: cs => '\n' :: unifyLineEnds cs
  | '\r' :: cs => '\n' :: unifyLineEnds cs
  | c :: cs => c :: unifyLineEnds cs

/-- The part of a text that is read when its characters are checked piece by piece: everything up to
the piece with a character that may not occur, of 8192 characters if it is the first and of 4096
otherwise. -/
def readable (cs : List Char) : List Char :=
  let n := (cs.takeWhile isAllowed).length
  if n = cs.length then cs
  else if n < 8192 then []
  else cs.take (n / 4096 * 4096)

/-- The value of a YAML text.  A character that may not occur is a fault even after the document,
but what cannot be read before it is found first. -/
def read (s : String) (halves : Halves := .last) : Except Problem Value := do
  let cs := unifyLineEnds s.toList
  let outline ← Outline.ofTokens (.ofChars halves (readable cs))
  if !cs.all isAllowed then throw .malformed
  match outline with
  | none => return .null
  | some o => o.value

end Yaml

namespace FileSystem

/-- A cause outside the library as a fault. -/
def refused {α : Type} (r : Except Outside α) : Except Fault α := r.mapError .outside

/-- The value of the YAML file that a path leads to. -/
def readYaml (fs : FileSystem) (p : FilePath) (halves : Halves := .last) :
    Except Fault Value := do
  if !(← refused (fs.exists? p)) then throw (.missingMarkup p.text)
  let content ← refused (fs.read p)
  match String.fromUTF8? ⟨content.toArray⟩ with
  | none => throw (.outside .unencodable)
  | some s =>
    match Yaml.read s halves with
    | .ok v => return v
    | .error .malformed => throw (.badMarkup p.text)
    | .error (.outside cause) => throw (.outside cause)

end FileSystem

end PlotPage
