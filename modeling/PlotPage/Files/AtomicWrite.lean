import PlotPage.Files.Encoding
import PlotPage.Files.System

/-!
# Atomic writes

A file is replaced as a whole: the new content goes to a temporary file beside it, which then takes
its place in one step.  Whoever looks at the file sees the old content or the new one.  Each step
may be refused by the file system, and also by the device, which is given as a `Trouble`; after a
refusal the temporary file is removed.
-/

namespace PlotPage

/-- What goes wrong on the device, step by step: each directory may be refused, and a failed write
leaves a part of the data. -/
structure Trouble where
  onMake : FilePath → Option Outside
  onCreate : Option Outside
  onWrite : Option (Nat × Outside)
  onSync : Option Outside
  onMove : Option Outside
  onRemove : Option Outside

/-- A device on which nothing goes wrong. -/
def Trouble.never : Trouble := ⟨fun _ => none, none, none, none, none, none⟩

/-- The file systems that a write passes through, from the first to the last, and its result. -/
structure WriteTrace where
  states : List FileSystem
  final : FileSystem
  result : Except Fault Unit

namespace AtomicWrite

def defaultSuffix : String := ".tmp"

/-- A refusal of the device if there is one, and else the given result. -/
def guarded {α : Type} (refusal : Option Outside) (r : Except Outside α) : Except Outside α :=
  match refusal with
  | some cause => .error cause
  | none => r

/-- Fills the temporary file and moves it to the target.  The states are those after each step;
with a cause, the last one is the state in which the write was given up. -/
def attempt (trouble : Trouble) (fs : FileSystem) (temporary target : FilePath)
    (data : List UInt8) : List FileSystem × FileSystem × Option Outside :=
  match guarded trouble.onCreate (fs.create temporary) with
  | .error cause => ([], fs, some cause)
  | .ok created =>
    match trouble.onWrite with
    | some (size, cause) =>
      match created.write temporary (data.take size) with
      | .ok partly => ([created, partly], partly, some cause)
      | .error cause => ([created], created, some cause)
    | none =>
      match created.write temporary data with
      | .error cause => ([created], created, some cause)
      | .ok written =>
        match trouble.onSync with
        | some cause => ([created, written], written, some cause)
        | none =>
          match guarded trouble.onMove (written.rename temporary target) with
          | .error cause => ([created, written], written, some cause)
          | .ok renamed => ([created, written, renamed], renamed, none)

/-- Removes the temporary file after a refusal and reports the refusal. -/
def cleanUp (trouble : Trouble) (fs : FileSystem) (temporary target : FilePath)
    (cause : Outside) : FileSystem × Fault :=
  match fs.exists? temporary with
  | .error other => (fs, .outside other)
  | .ok false => (fs, .writeFailed target.text cause)
  | .ok true =>
    match guarded trouble.onRemove (fs.remove temporary) with
    | .ok fs => (fs, .writeFailed target.text cause)
    | .error other => (fs, .outside other)

/-- The temporary file of a target, if its name leads to one. -/
def temporary? (target : FilePath) (suffix : String) : Option FilePath :=
  target.withSuffix? (target.suffix ++ suffix)

/-- Writes a file atomically.  The directories above the target are made first; only what happens
after that is reported as a failed write. -/
def run (trouble : Trouble) (fs : FileSystem) (target : FilePath) (data : List UInt8)
    (suffix : String) : WriteTrace :=
  match fs.ensureDirectory target.parent trouble.onMake with
  | (.error cause, made) => ⟨[fs, made], made, .error (.outside cause)⟩
  | (.ok (), made) =>
    match temporary? target suffix with
    | none => ⟨[fs, made], made, .error (.outside .badName)⟩
    | some temporary =>
      if !temporary.isNullFree then ⟨[fs, made], made, .error (.outside .badPath)⟩
      else
        match attempt trouble made temporary target data with
        | (states, final, none) => ⟨fs :: made :: states, final, .ok ()⟩
        | (states, final, some cause) =>
          let (cleaned, fault) := cleanUp trouble final temporary target cause
          ⟨fs :: made :: states ++ [cleaned], cleaned, .error fault⟩

end AtomicWrite

namespace FileSystem

def writeBytes (fs : FileSystem) (target : FilePath) (data : List UInt8) (suffix : String)
    (trouble : Trouble := .never) : Except Fault Unit × FileSystem :=
  let t := AtomicWrite.run trouble fs target data suffix
  (t.result, t.final)

/-- Writes a text to a file atomically.  A text that cannot be encoded changes nothing. -/
def writeText (fs : FileSystem) (target : FilePath) (text encoding : String)
    (trouble : Trouble := .never) : Except Fault Unit × FileSystem :=
  match Encoding.encodeNamed encoding text with
  | .error f => (.error f, fs)
  | .ok data => fs.writeBytes target data AtomicWrite.defaultSuffix trouble

end FileSystem

end PlotPage
