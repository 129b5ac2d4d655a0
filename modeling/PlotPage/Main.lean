import PlotPage.CommandLine.Session
import Std.Time.DateTime.Timestamp

/-!
# The program

The outer layer of the command line: it reads the files that a session may need, performs the
session, and writes the files that it has changed.  No process is started from here, so the
plotting program counts as not found.
-/

namespace PlotPage.Program

/-- The file system that holds a working directory and nothing else. -/
def bare (working : Place) : FileSystem :=
  ⟨working, (List.range (working.length + 1)).map fun n => (working.take n, .directory)⟩

def namedFiles (q : Request) : List String :=
  q.document :: (q.config.toList ++ q.scriptOut.toList)

/-- Takes over a file if it can be read. -/
def takeOver (fs : FileSystem) (path : String) : IO FileSystem := do
  match ← (IO.FS.readBinFile path).toBaseIO with
  | .ok content => return fs.install path content.toList
  | .error _ => return fs

/-- Takes over the files that a request and its settings name. -/
def gather (fs : FileSystem) (q : Request) : IO FileSystem := do
  let fs ← (namedFiles q).foldlM takeOver fs
  match (Settings.load fs (q.config.map FilePath.read)).1 with
  | .ok s => s.logFile.toList.foldlM takeOver fs
  | .error _ => return fs

def placeText (p : Place) : String := "/" ++ "/".intercalate p

/-- Writes the files that have changed. -/
def save (before after : FileSystem) : IO Unit :=
  after.entries.forM fun (place, node) => do
    match node with
    | .directory => return
    | .file content =>
      if before.node? place ≠ some node then
        IO.FS.createDirAll (placeText place.dropLast)
        IO.FS.writeBinFile (placeText place) ⟨content.toArray⟩

def presentStamp : IO Stamp := do
  let now ← Std.Time.Timestamp.now
  return (Stamp.ofMicros? (now.toNanosecondsSinceUnixEpoch.val / 1000)).getD ⟨"", ""⟩

def usage : String :=
  "usage: plotpage document [-c CONFIG] [-t TERMINAL] [-o OUTPUT] [--script-out FILE] [--run] " ++
    "[--log-level LEVEL]"

/-- Tells how a session has ended, and gives the status of the program. -/
def conclude : Ending → IO UInt32
  | .returned status => return status.toUInt32
  | .usage 0 => do
    (← IO.getStdout).putStrLn usage
    return 0
  | .usage status => do
    (← IO.getStderr).putStrLn usage
    return status.toUInt32
  | .escaped f => do
    (← IO.getStderr).putStrLn (Session.faultText f)
    return 1

def serve (args : List String) : IO UInt32 := do
  let working := (FilePath.read (← IO.currentDir).toString).parts
  let files ← match Request.read args with
    | .ok q => gather (bare working) q
    | .error _ => pure (bare working)
  let surroundings := ⟨← presentStamp, ← (← IO.getStderr).isTty, .notFound⟩
  let (ending, x) := Session.perform surroundings args { files }
  save files x.files
  (← IO.getStdout).putStr x.output
  (← IO.getStderr).putStr x.errors
  conclude ending

end PlotPage.Program

def main (args : List String) : IO UInt32 := PlotPage.Program.serve args
