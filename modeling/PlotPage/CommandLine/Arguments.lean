import PlotPage.Journal
import PlotPage.Text.Digit
import PlotPage.Text.Upper

/-!
# Arguments of the command line

A command line names one description and gives options in any order.  A long option may be cut
short as long as it stays unique, and takes its value after an equals sign or from the next
argument; a short one may have its value attached.  Two hyphens alone end the options.
-/

namespace PlotPage

/-- The options. -/
inductive Flag where
  | help
  | config
  | terminal
  | output
  | scriptOut
  | run
  | logLevel
  deriving DecidableEq, Repr

namespace Flag

def all : List Flag := [.help, .config, .terminal, .output, .scriptOut, .run, .logLevel]

def long : Flag → String
  | .help => "--help"
  | .config => "--config"
  | .terminal => "--terminal"
  | .output => "--output"
  | .scriptOut => "--script-out"
  | .run => "--run"
  | .logLevel => "--log-level"

def letter? : Flag → Option Char
  | .help => some 'h'
  | .config => some 'c'
  | .terminal => some 't'
  | .output => some 'o'
  | _ => none

def takesValue : Flag → Bool
  | .help => false
  | .run => false
  | _ => true

def ofLetter? (c : Char) : Option Flag := all.find? fun f => f.letter? = some c

/-- The options whose long forms begin with the given characters. -/
def completions (name : List Char) : List Flag := all.filter fun f => name.isPrefixOf f.long.toList

end Flag

/-- How reading a command line ends without a request. -/
inductive Stop where
  | help
  | misuse
  deriving DecidableEq, Repr

/-- What a command line asks for. -/
structure Request where
  document : String
  config : Option String := none
  terminal : Option String := none
  output : Option String := none
  scriptOut : Option String := none
  run : Bool := false
  level : Option String := none
  deriving DecidableEq, Repr

/-- One argument by its form.  What is attached to an option stands after an equals sign or, when it
runs on, directly after the letter. -/
inductive Argument where
  | flag (f : Flag) (runsOn : Bool) (attached : Option (List Char))
  | unknown
  | word (s : String)
  | endMark
  deriving DecidableEq, Repr

namespace Argument

/-- What stands before and after the first equals sign. -/
def splitEquals : List Char → List Char × Option (List Char)
  | [] => ([], none)
  | c :: cs =>
    if c = '=' then ([], some cs)
    else
      let (name, value) := splitEquals cs
      (c :: name, value)

/-- Whether a character is a digit of any script. -/
def isDigit (c : Char) : Bool := (Text.digitValue? c).isSome

/-- Whether characters after a hyphen make a negative number: digits, or a point and digits with
or without digits before it.  A line feed at the end does not count. -/
def isNumber (cs : List Char) : Bool :=
  let cs := if cs.getLast? = some '\n' then cs.dropLast else cs
  match cs.dropWhile isDigit with
  | [] => !cs.isEmpty
  | '.' :: places => !places.isEmpty && places.all isDigit
  | _ => false

/-- An argument that looks like an option but is none: a text with a blank, or an unknown option. -/
def ofStranger (s : String) : Argument := if s.toList.contains ' ' then .word s else .unknown

/-- The form of an argument before the mark that ends the options. -/
def ofText (s : String) : Except Stop Argument :=
  match s.toList with
  | '-' :: '-' :: _ =>
    let (name, attached) := splitEquals s.toList
    match Flag.completions name with
    | [] => .ok (ofStranger s)
    | [f] => .ok (.flag f false attached)
    | _ => .error .misuse
  | '-' :: c :: cs =>
    match Flag.ofLetter? c, cs with
    | some f, [] => .ok (.flag f true none)
    | some f, '=' :: value => .ok (.flag f false (some value))
    | some f, value => .ok (.flag f true (some value))
    | none, _ => .ok (if isNumber (c :: cs) then .word s else ofStranger s)
  | _ => .ok (.word s)

/-- The forms of arguments. -/
def ofTexts : List String → Except Stop (List Argument)
  | [] => .ok []
  | s :: rest =>
    if s = "--" then .ok (.endMark :: rest.map .word)
    else do return (← ofText s) :: (← ofTexts rest)

end Argument

/-- What has been read of a command line. -/
structure Reading where
  document : Option String := none
  request : Request := { document := "" }
  hasExtras : Bool := false

namespace Reading

/-- Takes a word as the description; a second one is too many. -/
def word (r : Reading) (s : String) : Reading :=
  match r.document with
  | none => { r with document := some s }
  | some _ => { r with hasExtras := true }

def value (r : Reading) (f : Flag) (s : String) : Except Stop Reading :=
  let q := r.request
  match f with
  | .config => .ok { r with request := { q with config := some s } }
  | .terminal => .ok { r with request := { q with terminal := some s } }
  | .output => .ok { r with request := { q with output := some s } }
  | .scriptOut => .ok { r with request := { q with scriptOut := some s } }
  | .logLevel =>
    let level := Text.upper s
    if (Level.ofName? level).isNone then .error .misuse
    else .ok { r with request := { q with level := some level } }
  | .help | .run => .ok r

/-- What the characters that run on after the letter for help lead to.  They are letters of further
options: help is given unless one that takes a value lacks it, or a hyphen or an equals sign follows
the letter for help.  A letter of no option ends the reading, and help is given. -/
def helpThen (next : Option Argument) : List Char → Stop
  | [] => .help
  | '-' :: _ => .misuse
  | '=' :: _ => .misuse
  | c :: cs =>
    match Flag.ofLetter? c with
    | none => .help
    | some .help => helpThen next cs
    | some _ =>
      match cs, next with
      | [], some (.word _) => .help
      | [], _ => .misuse
      | _ :: _, _ => .help

def switch (r : Reading) (f : Flag) (runsOn : Bool) (attached : Option (List Char))
    (next : Option Argument) : Except Stop Reading :=
  match attached with
  | some cs => if runsOn then .error (helpThen next cs) else .error .misuse
  | none =>
    if f = .help then .error .help
    else .ok { r with request := { r.request with run := true } }

/-- Takes arguments in order.  The mark that ends the options belongs to the description beside
it. -/
def arguments : Reading → List Argument → Except Stop Reading
  | r, [] => .ok r
  | r, .unknown :: rest => arguments { r with hasExtras := true } rest
  | r, .word s :: .endMark :: rest => arguments (r.word s) rest
  | r, .word s :: rest => arguments (r.word s) rest
  | r, .endMark :: .word s :: rest => arguments (r.word s) rest
  | r, .endMark :: rest => arguments { r with hasExtras := true } rest
  | r, .flag f runsOn attached :: rest =>
    if f.takesValue then
      match attached, rest with
      | some cs, rest => do arguments (← r.value f (String.ofList cs)) rest
      | none, .word s :: rest => do arguments (← r.value f s) rest
      | none, _ => .error .misuse
    else do arguments (← r.switch f runsOn attached rest.head?) rest

end Reading

def Request.read (args : List String) : Except Stop Request := do
  let r ← Reading.arguments {} (← Argument.ofTexts args)
  match r.document with
  | none => throw .misuse
  | some document =>
    if r.hasExtras then throw .misuse else return { r.request with document }

end PlotPage
