import PlotPage.Journal
import PlotPage.Text.Blank
import PlotPage.Value.Scalar

/-!
# Running scripts

A script is fed to the plotting program, which either is not found, does not end in time, or exits
with a status and two texts.  A status other than zero is a fault that carries the errors of the
program; errors on a clean exit are reported as a warning.  The program is started exactly once.

The system itself may refuse the run: it may know the program and not start it, it may not know how
to wait for such a limit, and what the program prints may be no text.  The cause is then handed on
as it is.
-/

namespace PlotPage

/-- What comes of starting the program. -/
inductive ProcessOutcome where
  | notFound
  | timedOut
  | exited (status : Int) (output errors : Option String)
  /-- The program is not started for another reason than that it is missing, the limit is one that
  the system cannot wait for, or the script or what the program prints cannot be converted. -/
  | refused (cause : Outside)
  deriving DecidableEq, Repr

/-- Whether the program was started and took the script. -/
def ProcessOutcome.isFed : ProcessOutcome → Bool
  | .timedOut => true
  | .exited .. => true
  | .notFound => false
  | .refused _ => false

/-- One start of a program. -/
structure ProcessCall where
  executable : String
  input : String
  timeout : Scalar
  deriving DecidableEq

/-- A clean exit. -/
structure RunResult where
  status : Int
  output : String
  errors : String
  deriving DecidableEq, Repr

/-- A program and its time limit in seconds. -/
structure Runner where
  executable : String
  timeout : Scalar
  deriving DecidableEq

/-- What a run did and how it ended. -/
structure RunTrace where
  result : Except Fault RunResult
  calls : List ProcessCall
  notices : List Notice

namespace Runner

/-- The name under which runs report. -/
def source : String := "plotscript.runner.gnuplot_runner"

/-- A runner of a program; its name must not be empty and its time limit not zero or less. -/
def new (executable : String) (timeout : Value) : Except Fault Runner :=
  if executable = "" then .error .emptyExecutable
  else
    match Scalar.ofValue? timeout with
    | none => .error (.outside .notOrdered)
    | some t =>
      if t.isNotPositive then do throw (.runnerTimeout (← timeout.plain))
      else .ok ⟨executable, t⟩

/-- A double with one place after the point. -/
def onePlace : Double → String
  | .nan => "nan"
  | .infinite negative => String.ofList (signText negative) ++ "inf"
  | .finite negative mantissa exponent _ =>
    String.ofList (signText negative ++ Double.fixedDigits mantissa exponent 1)

/-- The last line of what is left of the errors of a program without the blanks around them. -/
def lastLine (errors : List Char) : Option (List Char) :=
  (Text.lineChars (Text.trimChars errors)).getLast?

/-- The line of the errors that a message quotes. -/
def errorDetail (errors : String) : String :=
  match lastLine errors.toList with
  | some line => String.ofList line
  | none => "no error output"

/-- The result of a process that has been started. -/
def conclude (r : Runner) : ProcessOutcome → Except Fault RunResult × List Notice
  | .notFound => (.error (.programMissing r.executable), [])
  | .timedOut => (do throw (.programTimeout (onePlace (← r.timeout.toDouble))), [])
  | .exited status output errors =>
    let errors := errors.getD ""
    if status ≠ 0 then (.error (.programFailed status errors (errorDetail errors)), [])
    else
      (.ok ⟨status, output.getD "", errors⟩,
        if Text.isBlankText errors then []
        else [⟨.warning, source, "gnuplot reported: " ++ Text.trim errors⟩])
  | .refused cause => (.error (.outside cause), [])

def run (r : Runner) (script : String) (outcome : ProcessOutcome) : RunTrace :=
  let lines := script.toList.count '\n'
  let (result, notices) := r.conclude outcome
  { result := result
    calls := [⟨r.executable, script, r.timeout⟩]
    notices := ⟨.info, source, s!"Running {r.executable} ({lines} script lines)"⟩ :: notices }

end Runner

end PlotPage
