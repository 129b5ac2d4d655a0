/-!
# Journal

What the library reports while it works: notices in the order in which they were made, each with a
level and the name of the part that made it.  Nothing is written anywhere; whoever owns the process
decides which notices are kept.
-/

namespace PlotPage

/-- How serious a notice is. -/
inductive Level where
  | debug
  | info
  | warning
  | error
  | critical
  deriving DecidableEq, Repr

namespace Level

def all : List Level := [.debug, .info, .warning, .error, .critical]

def name : Level → String
  | .debug => "DEBUG"
  | .info => "INFO"
  | .warning => "WARNING"
  | .error => "ERROR"
  | .critical => "CRITICAL"

def rank : Level → Nat
  | .debug => 10
  | .info => 20
  | .warning => 30
  | .error => 40
  | .critical => 50

def ofName? (s : String) : Option Level := all.find? fun l => l.name = s

theorem ofName?_name (l : Level) : ofName? l.name = some l := by
  cases l <;> decide

end Level

/-- One thing that was reported. -/
structure Notice where
  level : Level
  source : String
  message : String
  deriving DecidableEq, Repr

/-- The result of a call that may fail, what it reported, and the state that it left. -/
structure Outcome (σ ε α : Type) where
  result : Except ε α
  state : σ
  notices : List Notice := []

end PlotPage
