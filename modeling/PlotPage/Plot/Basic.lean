import PlotPage.Plot.Table
import PlotPage.Script.Line
import PlotPage.Text.Blank

/-!
# Plots

A plot is an expression or a table, with a title and a style that may be missing.  It gives one
clause of the `plot` command, and a table also gives inline data, which follow the command because
the clause names `'-'` as its source.
-/

namespace PlotPage

/-- A title or a style, as it was given.  It is first written when its plot is, and then it may turn
out to have no text: one that holds an integer of too many digits has none. -/
structure Label where
  value : Value

/-- What a plot draws. -/
inductive Plot.Source where
  | function (expression : String)
  | table (rows : Table)
  deriving DecidableEq

/-- One data series of a graph. -/
structure Plot where
  source : Plot.Source
  title : Option Label
  style : Option Label

namespace Label

def isWritable (l : Label) : Bool := l.value.plain?.isSome

/-- The text of a label that can be written. -/
def text (l : Label) : String := l.value.plain?.getD ""

theorem isWritable_text (s : String) : isWritable ⟨.text s⟩ = true := rfl

theorem text_text (s : String) : text ⟨.text s⟩ = s := rfl

end Label

namespace Plot

/-- The clause that names the data after the command as source. -/
def inlineSource : String := "'-'"

/-- The title of a plot: a single line without double quotes. -/
def checkTitle : Value → Except Fault (Option Label)
  | .null => .ok none
  | v => do
    Line.checkValue "Plot title" v
    Line.checkUnquoted "Plot title" v
    return some ⟨v⟩

/-- The style of a plot: a single line. -/
def checkStyle : Value → Except Fault (Option Label)
  | .null => .ok none
  | v => do
    Line.checkValue "Plot style" v
    return some ⟨v⟩

/-- The expression of a plot: a text on a single line that is not blank. -/
def checkExpression (v : Value) : Except Fault String :=
  match v with
  | .text s =>
    if Text.isBlankText s then .error .emptyExpression
    else do
      Line.check "Function expression" s
      return s
  | v => if v.isTruthy then .error (.outside .noOperation) else .error .emptyExpression

def ofFunction (expression title style : Value) : Except Fault Plot := do
  let expression ← checkExpression expression
  let title ← checkTitle title
  let style ← checkStyle style
  return ⟨.function expression, title, style⟩

def ofTable (data title style : Value) : Except Fault Plot := do
  let rows ← Table.ofValue data
  let title ← checkTitle title
  let style ← checkStyle style
  return ⟨.table rows, title, style⟩

def titleClause : Option Label → String
  | none => ""
  | some l => " title \"" ++ l.text ++ "\""

/-- The style as a part of a clause; an empty one is left out. -/
def styleClause : Option Label → String
  | none => ""
  | some l => if l.value.isTruthy then " with " ++ l.text else ""

/-- The first part of the clause of a plot. -/
def Source.clause : Source → String
  | .function expression => expression
  | .table _ => inlineSource

/-- Whether the clause of a plot can be written. -/
def isWritable (p : Plot) : Bool := p.title.all Label.isWritable && p.style.all Label.isWritable

/-- The clause of a plot that can be written. -/
def definition (p : Plot) : String :=
  p.source.clause ++ titleClause p.title ++ styleClause p.style

def dataLines (p : Plot) : List String :=
  match p.source with
  | .function _ => []
  | .table rows => Table.lines rows

/-- The kind of a plot, as messages give it. -/
def kindName (p : Plot) : String :=
  match p.source with
  | .function _ => "FunctionPlot"
  | .table _ => "DataSetPlot"

def sameLabel : Option Label → Option Label → Bool
  | none, none => true
  | some l, some m => l.value.same m.value
  | _, _ => false

/-- Equality of tables, number by number: both zeros are equal, and what is no number differs from
itself. -/
def sameRows : Table → Table → Bool
  | [], [] => true
  | r :: rs, q :: qs =>
    r.length == q.length && (r.zip q).all (fun p => p.1.same p.2) && sameRows rs qs
  | _, _ => false

def same (p q : Plot) : Bool :=
  (match p.source, q.source with
    | .function e, .function f => e == f
    | .table rs, .table qs => sameRows rs qs
    | _, _ => false) && sameLabel p.title q.title && sameLabel p.style q.style

/-- How a plot is asked for: an expression, a table, or a value that is no plot. -/
inductive Spec where
  | function (expression title style : Value)
  | table (data title style : Value)
  | other (value : Value)

end Plot

end PlotPage
