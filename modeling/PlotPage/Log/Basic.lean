import PlotPage.Files.System
import PlotPage.Log.Record
import PlotPage.Text.Upper

/-!
# The log of a process

Records go to handlers, each with an outlet and a style.  Setting the log up replaces the handlers
that were installed by the last setup and leaves all others alone.  Without any handler a warning
or worse is written as a bare message.
-/

namespace PlotPage

/-- Where a handler writes: to the error stream, to the file at a place, or nowhere any more once
that file has been replaced. -/
inductive Outlet where
  | stream
  | file (place : Place)
  | lost
  deriving DecidableEq, Repr

/-- A handler. -/
structure LogHandler where
  id : Nat
  outlet : Outlet
  style : LineStyle
  deriving DecidableEq, Repr

/-- The state of the log. -/
structure Log where
  level : Level := .warning
  handlers : List LogHandler := []
  /-- The handlers that the last setup installed. -/
  installed : List LogHandler := []
  nextId : Nat := 0
  context : LogContext := {}

/-- What a log setup asks for. -/
structure LogRequest where
  level : String := "INFO"
  file : Option String := none
  json : Bool := false
  hasColors : Bool := true
  context : Value := .null

namespace Log

/-- Opens the file at the end of a path, and makes the directories it lies in. -/
def openFile (fs : FileSystem) (p : FilePath) : Except Fault Place × FileSystem :=
  match fs.ensureDirectory p.parent with
  | (.error cause, fs) => (.error (.outside cause), fs)
  | (.ok (), fs) =>
    match fs.openAtEnd p with
    | .error cause => (.error (.outside cause), fs)
    | .ok (place, fs) => (.ok place, fs)

/-- The log without the handlers that the last setup installed. -/
def release (l : Log) : Log :=
  { l with handlers := l.handlers.filter fun h => !l.installed.contains h, installed := [] }

def install (l : Log) (outlets : List (Outlet × LineStyle)) : Log :=
  let added := outlets.mapIdx fun i o => ⟨l.nextId + i, o.1, o.2⟩
  { l with handlers := l.handlers ++ added, installed := added, nextId := l.nextId + added.length }

def outlets (isTerminal : Bool) (fs : FileSystem) (q : LogRequest) :
    Except Fault (List (Outlet × LineStyle)) × FileSystem :=
  let stream := (Outlet.stream,
    if q.json then LineStyle.json else .human (q.hasColors && isTerminal))
  let fileStyle := if q.json then LineStyle.json else .human false
  match q.file with
  | none => (.ok [stream], fs)
  | some "" => (.ok [stream], fs)
  | some name =>
    match openFile fs (.read name) with
    | (.error f, fs) => (.error f, fs)
    | (.ok place, fs) => (.ok [stream, (.file place, fileStyle)], fs)

/-- Sets the log up.  An unknown level changes nothing; a file that cannot be opened is found out
when the old handlers are gone and the level is set, and a bad context when the new handlers are
there. -/
def setup (isTerminal : Bool) (l : Log) (fs : FileSystem) (q : LogRequest) :
    Except Fault (List LogHandler) × Log × FileSystem :=
  match Level.ofName? (Text.upper q.level) with
  | none => (.error (.unknownLevel q.level), l, fs)
  | some level =>
    let l := { l.release with level }
    match outlets isTerminal fs q with
    | (.error f, fs) => (.error f, l, fs)
    | (.ok outlets, fs) =>
      let l := l.install outlets
      if q.context.isTruthy then
        match l.context.pushValue q.context with
        | .error f => (.error f, l, fs)
        | .ok context => (.ok l.installed, { l with context }, fs)
      else (.ok l.installed, l, fs)

/-- What a handler writes for a record: text for the error stream, and the files after it.  A
record that cannot be written is left out. -/
def emit (c : LogContext) (r : LogRecord) (h : LogHandler) (fs : FileSystem) :
    String × FileSystem :=
  match r.write h.style c with
  | .error _ => ("", fs)
  | .ok line =>
    match h.outlet with
    | .stream => (line ++ "\n", fs)
    | .file place => ("", fs.append place (line ++ "\n").toUTF8.toList)
    | .lost => ("", fs)

def emitAll (c : LogContext) (r : LogRecord) : List LogHandler → FileSystem → String × FileSystem
  | [], fs => ("", fs)
  | h :: hs, fs =>
    let (text, fs) := emit c r h fs
    let (more, fs) := emitAll c r hs fs
    (text ++ more, fs)

/-- Reports a notice: what is written to the error stream, and the files after it. -/
def report (l : Log) (stamp : Stamp) (n : Notice) (fs : FileSystem) : String × FileSystem :=
  if n.level.rank < l.level.rank then ("", fs)
  else if l.handlers.isEmpty then
    (if n.level.rank < Level.warning.rank then "" else n.message ++ "\n", fs)
  else
    emitAll l.context
      { stamp, level := n.level.name, source := n.source, template := n.message } l.handlers fs

def reportAll (l : Log) (stamp : Stamp) : List Notice → FileSystem → String × FileSystem
  | [], fs => ("", fs)
  | n :: ns, fs =>
    let (text, fs) := l.report stamp n fs
    let (more, fs) := l.reportAll stamp ns fs
    (text ++ more, fs)

/-- The log after a file has been moved: a handler keeps writing to the file that it has opened, and
loses a file that another takes the place of. -/
def moved (l : Log) (source target : Place) : Log :=
  let renew (h : LogHandler) : LogHandler :=
    if h.outlet = .file source then { h with outlet := .file target }
    else if h.outlet = .file target then { h with outlet := .lost }
    else h
  { l with handlers := l.handlers.map renew, installed := l.installed.map renew }

end Log

end PlotPage
