import PlotPage.Fault
import PlotPage.Files.Path

/-!
# File systems

A file system assigns a file or a directory to absolute places, which are lists of names from the
root, and knows a working directory, from which relative paths start.  A path is followed name by
name: every name but the last must be a directory, and two dots lead to the directory above.
-/

namespace PlotPage

/-- A place in a file system, from the root downwards. -/
abbrev Place := List String

/-- What stands at a place. -/
inductive Node where
  | file (content : List UInt8)
  | directory
  deriving DecidableEq

/-- Files and directories by place. -/
structure FileSystem where
  working : Place
  entries : List (Place × Node)

namespace FileSystem

def empty : FileSystem :=
  ⟨["tmp", "work"], [([], .directory), (["tmp"], .directory), (["tmp", "work"], .directory)]⟩

/-- What stands at a place. -/
def node? (fs : FileSystem) (p : Place) : Option Node :=
  (fs.entries.find? fun e => e.1 = p).map Prod.snd

def put (fs : FileSystem) (p : Place) (n : Node) : FileSystem :=
  { fs with entries := (p, n) :: fs.entries.filter fun e => e.1 ≠ p }

def erase (fs : FileSystem) (p : Place) : FileSystem :=
  { fs with entries := fs.entries.filter fun e => e.1 ≠ p }

@[simp] theorem node?_put_self (fs : FileSystem) (p : Place) (n : Node) :
    (fs.put p n).node? p = some n := by
  simp [node?, put]

theorem node?_put_of_ne (fs : FileSystem) {p q : Place} (n : Node) (h : p ≠ q) :
    (fs.put p n).node? q = fs.node? q := by
  simp only [node?, put]
  rw [List.find?_cons_of_neg (by simpa using h), List.find?_filter]
  congr 2
  funext e
  by_cases he : e.1 = q
  · simp [he, Ne.symm h]
  · simp [he]

@[simp] theorem node?_erase_self (fs : FileSystem) (p : Place) :
    (fs.erase p).node? p = none := by
  simp [node?, erase]

theorem node?_erase_of_ne (fs : FileSystem) {p q : Place} (h : p ≠ q) :
    (fs.erase p).node? q = fs.node? q := by
  simp only [node?, erase]
  rw [List.find?_filter]
  congr 2
  funext e
  by_cases he : e.1 = q
  · simp [he, Ne.symm h]
  · simp [he]

/-- The longest name that a file or a directory may have, in bytes. -/
def maxNameSize : Nat := 255

def follow (fs : FileSystem) : (start : Place) → List String → Except Outside Place
  | start, [] => .ok start
  | start, name :: names =>
    match fs.node? start with
    | none => .error .noFile
    | some (.file _) => .error .fileAsDirectory
    | some .directory =>
      if name = ".." then follow fs start.dropLast names
      else if maxNameSize < name.utf8ByteSize then .error .nameTooLong
      else follow fs (start ++ [name]) names

/-- The place that a path leads to, whether or not anything stands there. -/
def place (fs : FileSystem) (p : FilePath) : Except Outside Place :=
  if p.isNullFree then fs.follow (if p.root = "" then fs.working else []) p.parts
  else .error .badPath

/-- Whether anything stands where a path leads. -/
def exists? (fs : FileSystem) (p : FilePath) : Except Outside Bool :=
  match fs.place p with
  | .ok q => .ok (fs.node? q).isSome
  | .error .nameTooLong => .error .nameTooLong
  | .error _ => .ok false

def isDirectory (fs : FileSystem) (p : FilePath) : Bool :=
  match fs.place p with
  | .ok q => fs.node? q = some .directory
  | .error _ => false

/-- The content of the file that a path leads to. -/
def read (fs : FileSystem) (p : FilePath) : Except Outside (List UInt8) := do
  match fs.node? (← fs.place p) with
  | some (.file content) => return content
  | some .directory => throw .directoryInTheWay
  | none => throw .noFile

/-- Opens a file for writing from its start: an existing file becomes empty. -/
def create (fs : FileSystem) (p : FilePath) : Except Outside FileSystem := do
  let q ← fs.place p
  match fs.node? q with
  | some .directory => throw .directoryInTheWay
  | _ => return fs.put q (.file [])

/-- Opens a file for writing at its end: an existing file stays. -/
def openAtEnd (fs : FileSystem) (p : FilePath) : Except Outside (Place × FileSystem) := do
  let q ← fs.place p
  match fs.node? q with
  | some .directory => throw .directoryInTheWay
  | some (.file _) => return (q, fs)
  | none => return (q, fs.put q (.file []))

/-- Writes at the end of the file at a place. -/
def append (fs : FileSystem) (q : Place) (data : List UInt8) : FileSystem :=
  match fs.node? q with
  | some (.file content) => fs.put q (.file (content ++ data))
  | _ => fs

/-- Writes at the end of the file that a path leads to. -/
def write (fs : FileSystem) (p : FilePath) (data : List UInt8) : Except Outside FileSystem := do
  return fs.append (← fs.place p) data

/-- Moves a file to another path, where it takes the place of a file that is there. -/
def rename (fs : FileSystem) (source target : FilePath) : Except Outside FileSystem := do
  let s ← fs.place source
  let t ← fs.place target
  match fs.node? s with
  | some (.file content) =>
    match fs.node? t with
    | some .directory => throw .directoryInTheWay
    | _ => return (fs.erase s).put t (.file content)
  | some .directory => throw .directoryInTheWay
  | none => throw .noFile

def remove (fs : FileSystem) (p : FilePath) : Except Outside FileSystem := do
  let q ← fs.place p
  match fs.node? q with
  | some (.file _) => return fs.erase q
  | some .directory => throw .directoryInTheWay
  | none => throw .noFile

/-- Makes a directory, unless the device refuses it.  A path without names is a directory that
nobody can make. -/
def makeDirectory (fs : FileSystem) (p : FilePath) (refusal : Option Outside) :
    Except Outside FileSystem := do
  let q ← fs.place p
  match fs.node? q with
  | some _ => throw .fileInTheWay
  | none =>
    if p.parts = [] then throw .noFile
    else
      match refusal with
      | some cause => throw cause
      | none => return fs.put q .directory

/-- Makes a directory; one that is there already is no fault. -/
def ensureSingle (fs : FileSystem) (p : FilePath) (refusal : Option Outside) :
    Except Outside FileSystem :=
  match fs.makeDirectory p refusal with
  | .ok fs => .ok fs
  | .error .noFile => .error .noFile
  | .error cause => if cause ≠ .badPath && fs.isDirectory p then .ok fs else .error cause

/-- Makes the directory with the given names, last name first, and those above it that are
missing.  What has been made stays when a later step fails. -/
def ensureNames (fs : FileSystem) (refusal : FilePath → Option Outside) (root : String) :
    List String → Except Outside Unit × FileSystem
  | [] =>
    match fs.ensureSingle ⟨root, []⟩ (refusal ⟨root, []⟩) with
    | .ok fs => (.ok (), fs)
    | .error cause => (.error cause, fs)
  | name :: above =>
    let path : FilePath := ⟨root, (name :: above).reverse⟩
    match fs.ensureSingle path (refusal path) with
    | .ok fs => (.ok (), fs)
    | .error .noFile =>
      match ensureNames fs refusal root above with
      | (.error cause, fs) => (.error cause, fs)
      | (.ok (), fs) =>
        match fs.ensureSingle path (refusal path) with
        | .ok fs => (.ok (), fs)
        | .error cause => (.error cause, fs)
    | .error cause => (.error cause, fs)

/-- Makes a directory and those above it that are missing; the device may refuse each of them. -/
def ensureDirectory (fs : FileSystem) (p : FilePath)
    (refusal : FilePath → Option Outside := fun _ => none) : Except Outside Unit × FileSystem :=
  ensureNames fs refusal p.root p.parts.reverse

/-- The places below the working directory, with what stands there. -/
def below (fs : FileSystem) : List (Place × Node) :=
  fs.entries.filterMap fun e =>
    if fs.working.isPrefixOf e.1 && e.1 ≠ fs.working then
      some (e.1.drop fs.working.length, e.2)
    else none

/-- Puts a file below the working directory together with the directories it lies in. -/
def install (fs : FileSystem) (path : String) (content : List UInt8) : FileSystem :=
  let p := FilePath.read path
  let (_, fs) := fs.ensureDirectory p.parent
  match fs.place p with
  | .ok q => fs.put q (.file content)
  | .error _ => fs

end FileSystem

end PlotPage
