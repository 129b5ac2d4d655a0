import PlotPage.CommandLine.Arguments
import PlotPage.Document.Writing
import PlotPage.Loading
import PlotPage.Log.Basic
import PlotPage.Runner.Basic

/-!
# Sessions

A session is one run of the program: it loads settings, sets up the log, loads a description,
compiles it, and then writes the script to a file or to the output, feeds it to the plotting
program, or both.  Faults that belong to the user's files and to the plotting program end the
session with status 1; all other faults end it as they are.

The texts of the files may have halves of surrogate pairs.  A script with a half can be compiled,
but not be written, printed or fed, and the system cannot be asked for a file with a half in its
name.  On the lines of the log a half is the character that stands for it.
-/

namespace PlotPage

/-- What a session can touch.  The device on which the files are may refuse a script. -/
structure Session where
  files : FileSystem
  trouble : Trouble := .never
  log : Log := {}
  output : String := ""
  errors : String := ""
  calls : List ProcessCall := []
  /-- The characters that stand for halves of surrogate pairs.  The texts of the session, and those
  that the plotting program prints, have them for no other reason. -/
  halves : Halves := .last
  /-- Whether the output takes the halves that stand for bytes, and writes these bytes. -/
  escapesBytes : Bool := false

/-- What surrounds a session: the time at which it happens, whether errors go to a terminal, and
what the plotting program does. -/
structure Surroundings where
  stamp : Stamp
  isTerminal : Bool
  outcome : ProcessOutcome

/-- How a session ends. -/
inductive Ending where
  | returned (status : Nat)
  /-- The command line asked for help or was misused. -/
  | usage (status : Nat)
  | escaped (cause : Fault)
  deriving DecidableEq

namespace Session

/-- The name under which sessions report. -/
def source : String := "plotscript.scripts.compile_plot"

def programName : String := "compile_plot"

def report (w : Surroundings) (notices : List Notice) (x : Session) : Session :=
  let (text, files) := x.log.reportAll w.stamp notices x.files
  { x with errors := x.errors ++ text, files }

def faultText (f : Fault) : String := f.message?.getD Fault.detail

/-- Whether a fault belongs to a file that the user has given. -/
def isFileFault (f : Fault) : Bool := f.kind = .settings || f.kind = .fileMissing

def isProgramFault (f : Fault) : Bool :=
  f.kind = .programMissing || f.kind = .programTimeout || f.kind = .programFailed

/-- The terminal of the settings, or the one that the command line puts in its place. -/
def terminal (q : Request) (s : Settings) : Except Fault Terminal := do
  let t ← Terminal.ofValues (.text s.device) (.text s.output)
  if q.terminal.isNone && q.output.isNone then return t
  else Terminal.ofValues (.text (q.terminal.getD t.device)) (.text (q.output.getD t.output))

def load (w : Surroundings) (q : Request) (s : Settings) (x : Session) :
    Except Fault Page × Session :=
  let path := FilePath.read q.document
  let x := x.report w [Description.loadNotice path]
  let (result, notices) := Description.readFile x.files path s.prefersColumns x.halves
  (result, x.report w notices)

def compile (w : Surroundings) (p : Page) (t : Terminal) (x : Session) :
    Except Fault String × Session :=
  let (result, notices) := p.compile t
  (result, x.report w notices)

/-- The log after a file has been written atomically: the temporary file has moved to the target. -/
def logAfterWrite (l : Log) (fs : FileSystem) (target : FilePath) : Log :=
  match AtomicWrite.temporary? target AtomicWrite.defaultSuffix with
  | none => l
  | some temporary =>
    match fs.place temporary, fs.place target with
    | .ok p, .ok q => l.moved p q
    | _, _ => l

/-- Whether the system can be asked for a path: its names have no halves but those for bytes. -/
def canName (x : Session) (p : FilePath) : Bool := p.parts.all (x.halves.encodes true)

/-- Why a file is not opened that the system cannot be asked for, and the files after it.  The
directories above it are made before, unless they cannot be named themselves. -/
def refuseName (x : Session) (p : FilePath) (refusal : FilePath → Option Outside) :
    Outside × FileSystem :=
  if x.canName p.parent then
    match x.files.ensureDirectory p.parent refusal with
    | (.error cause, files) => (cause, files)
    | (.ok (), files) => (.unencodable, files)
  else (.unencodable, x.files)

/-- What writing a script to a file answers, and the files after it. -/
def store (x : Session) (target : FilePath) (script : String) : Except Fault Unit × FileSystem :=
  if !x.halves.encodes false script then (.error (.outside .unencodable), x.files)
  else if x.canName target then x.files.writeText target script "utf-8" x.trouble
  else
    let (cause, files) := x.refuseName target x.trouble.onMake
    (.error (.outside cause), files)

/-- Compiles a page again and writes the script to a file. -/
def write (w : Surroundings) (p : Page) (path : String) (t : Terminal) (x : Session) :
    Except Fault Unit × Session :=
  match compile w p t x with
  | (.error f, x) => (.error f, x)
  | (.ok script, x) =>
    let target := FilePath.read path
    match x.store target script with
    | (.error f, files) => (.error f, { x with files })
    | (.ok (), files) =>
      let x := { x with files, log := logAfterWrite x.log files target }
      (.ok (), x.report w [Page.writtenNotice target])

/-- Writes a text to the output. -/
def print (text : String) (x : Session) : Except Fault Unit × Session :=
  if x.halves.encodes x.escapesBytes text then (.ok (), { x with output := x.output ++ text })
  else (.error (.outside .unencodable), x)

/-- What comes of feeding a script to the program: a script with a half is not fed, although the
program has been started. -/
def fed (x : Session) (script : String) (outcome : ProcessOutcome) : ProcessOutcome :=
  if outcome.isFed && !x.halves.encodes false script then .refused .unencodable else outcome

/-- Feeds a script to the plotting program. -/
def run (w : Surroundings) (s : Settings) (script : String) (x : Session) : Ending × Session :=
  match Runner.new s.executable (.real s.timeout) with
  | .error f => (.escaped f, x)
  | .ok r =>
    let t := r.run script (x.fed script w.outcome)
    let x := { x with calls := x.calls ++ t.calls }.report w t.notices
    match t.result with
    | .error f =>
      if isProgramFault f then (.returned 1, x.report w [⟨.error, source, faultText f⟩])
      else (.escaped f, x)
    | .ok result =>
      let x := { x with output := x.output ++ result.output }
      (.returned 0, x.report w [⟨.info, source, "gnuplot finished"⟩])

/-- Does with a page what the command line asks for. -/
def deliver (w : Surroundings) (q : Request) (s : Settings) (p : Page) (t : Terminal)
    (x : Session) : Ending × Session :=
  match compile w p t x with
  | (.error f, x) => (.escaped f, x)
  | (.ok script, x) =>
    let path := q.scriptOut.getD ""
    let (written, x) :=
      if path ≠ "" then write w p path t x
      else if q.run then (.ok (), x)
      else x.print script
    match written with
    | .error f => (.escaped f, x)
    | .ok () => if q.run then run w s script x else (.returned 0, x)

/-- The part of a session for which the log carries the name of the description. -/
def process (w : Surroundings) (q : Request) (s : Settings) (x : Session) : Ending × Session :=
  match terminal q s with
  | .error f => (.escaped f, x)
  | .ok t =>
    match load w q s x with
    | (.error f, x) =>
      if isFileFault f then
        (.returned 1, x.report w [⟨.error, source, "Cannot load document: " ++ faultText f⟩])
      else (.escaped f, x)
    | (.ok p, x) => deliver w q s p t x

/-- The log setup of a session. -/
def logRequest (q : Request) (s : Settings) : LogRequest where
  level := q.level.getD s.level
  file := s.logFile
  json := s.json
  context := .map [(.text "app", .text programName)]

def documentField : String := "document"

/-- Runs a step with the name of the description in the log. -/
def named (q : Request) (step : Session → Ending × Session) (x : Session) : Ending × Session :=
  let context := x.log.context.push [(documentField, .text q.document)]
  let (ending, x) := step { x with log := { x.log with context } }
  (ending, { x with log := { x.log with context := x.log.context.pop [documentField] } })

/-- Sets the log up.  When its file cannot be opened, the old handlers are gone. -/
def setUp (w : Surroundings) (r : LogRequest) (x : Session) : Except Fault Unit × Session :=
  let path := FilePath.read (r.file.getD "")
  match Level.ofName? (Text.upper r.level), x.canName path with
  | some level, false =>
    let (cause, files) := x.refuseName path fun _ => none
    (.error (.outside cause), { x with log := { x.log.release with level }, files })
  | _, _ =>
    match x.log.setup w.isTerminal x.files r with
    | (.error f, log, files) => (.error f, { x with log, files })
    | (.ok _, log, files) => (.ok (), { x with log, files })

def serve (w : Surroundings) (q : Request) (x : Session) : Ending × Session :=
  let (result, notices) := Settings.load x.files (q.config.map FilePath.read) x.halves
  let x := x.report w notices
  match result with
  | .error f =>
    if isFileFault f then
      (.returned 1, { x with errors := x.errors ++ "Error loading config: " ++ faultText f ++ "\n" })
    else (.escaped f, x)
  | .ok s =>
    match x.setUp w (logRequest q s) with
    | (.error f, x) => (.escaped f, x)
    | (.ok (), x) => named q (process w q s) x

def perform (w : Surroundings) (args : List String) (x : Session) : Ending × Session :=
  match Request.read args with
  | .error .help => (.usage 0, x)
  | .error .misuse => (.usage 2, x)
  | .ok q => serve w q x

end Session

end PlotPage
