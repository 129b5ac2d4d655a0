import PlotPage.Settings
import PlotPage.Yaml.File

/-!
# Loading settings and descriptions

Settings and descriptions are kept in YAML files.  A file that is missing or holds nothing is a
fault of its own; what the file holds is then built like any other value.
-/

namespace PlotPage

/-- The settings of a file, or the shipped ones without a file, and what is reported about them. -/
def Settings.load (fs : FileSystem) (path : Option FilePath) (halves : Halves := .last) :
    Except Fault Settings × List Notice :=
  match path with
  | none => (.ok .shipped, [])
  | some p =>
    let start : Notice := ⟨.info, source, s!"Loading configuration from {p.text}"⟩
    match FileSystem.refused (fs.exists? p) with
    | .error f => (.error f, [])
    | .ok false => (.error (.missingSettings p.text), [])
    | .ok true =>
      match fs.readYaml p halves with
      | .error f => (.error f, [start])
      | .ok .null => (.error (.emptySettings p.text), [start])
      | .ok v =>
        match build v with
        | .error f => (.error f, [start])
        | .ok (s, notices) =>
          (.ok s, start :: notices ++ [⟨.info, source, "Configuration loaded successfully"⟩])

namespace Description

/-- What is reported before a description is read. -/
def loadNotice (p : FilePath) : Notice := ⟨.info, source, s!"Loading document from {p.text}"⟩

/-- The page of the description in a file, and what is reported while it is built. -/
def readFile (fs : FileSystem) (p : FilePath) (prefersColumns : Bool)
    (halves : Halves := .last) : Except Fault Page × List Notice :=
  match fs.readYaml p halves with
  | .error f => (.error f, [])
  | .ok .null => (.error (.emptyDescription p.text), [])
  | .ok v => build v prefersColumns

/-- The page of the description in a file, and all that is reported about it. -/
def load (fs : FileSystem) (p : FilePath) (prefersColumns : Bool)
    (halves : Halves := .last) : Except Fault Page × List Notice :=
  let (result, notices) := readFile fs p prefersColumns halves
  (result, loadNotice p :: notices)

end Description

end PlotPage
