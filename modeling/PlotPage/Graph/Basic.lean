import PlotPage.Axis
import PlotPage.Journal
import PlotPage.Plot.Basic

/-!
# Graphs

A graph is one plot area: plots in the order of their clauses, and axes by name in the order in
which the names first appeared.  Axes are shared: a graph refers to its axes, and an axis that
stands in several graphs shows every change in all of them.  The axes and graphs that are in use
form a workspace, in which each of them keeps its place for good.
-/

namespace PlotPage

/-- The place of an axis in its workspace. -/
abbrev AxisId := Nat

/-- The place of a graph in its workspace. -/
abbrev GraphId := Nat

/-- One plot area. -/
structure Graph where
  is3d : Bool
  plots : List Plot
  axes : List (String × AxisId)

namespace Graph

def empty (is3d : Bool) : Graph := ⟨is3d, [], []⟩

instance : Inhabited Graph := ⟨empty false⟩

/-- The name under which graphs report. -/
def source : String := "plotscript.plot.graph"

/-- The axis of a name. -/
def axisId? (g : Graph) (name : String) : Option AxisId :=
  (g.axes.find? fun e => e.1 = name).map Prod.snd

/-- Stores an axis under a name; a name that is there keeps its place. -/
def insertAxis (name : String) (id : AxisId) : List (String × AxisId) → List (String × AxisId)
  | [] => [(name, id)]
  | (n, i) :: rest => if n = name then (n, id) :: rest else (n, i) :: insertAxis name id rest

def isWritable (g : Graph) : Bool := g.plots.all Plot.isWritable

/-- What is made of the plots of a graph, if all of them can be written. -/
def written {α : Type} (g : Graph) (a : α) : Except Fault α :=
  if g.isWritable then .ok a else .error (.outside .longInteger)

theorem written_eq_ok_iff {α : Type} {g : Graph} {a b : α} :
    g.written a = .ok b ↔ g.isWritable = true ∧ a = b := by
  cases h : g.isWritable <;> simp [written, h]

theorem written_eq_error_iff {α : Type} {g : Graph} {a : α} {f : Fault} :
    g.written a = .error f ↔ g.isWritable = false ∧ f = .outside .longInteger := by
  cases h : g.isWritable <;> simp [written, h, eq_comm (a := f)]

theorem written_congr {α : Type} {g g' : Graph} (h : g.plots = g'.plots) (a : α) :
    g.written a = g'.written a := by
  rw [written, written, isWritable, isWritable, h]

/-- The `plot` command; none without plots. -/
def plotCommand? (g : Graph) : Option String :=
  if g.plots.isEmpty then none
  else some ((if g.is3d then "splot " else "plot ") ++ ", ".intercalate (g.plots.map Plot.definition))

/-- The inline data of all plots, in the order of their clauses. -/
def dataLines (g : Graph) : List String := g.plots.flatMap Plot.dataLines

/-- The command and the inline data of a graph, nothing without plots. -/
def drawingLines (g : Graph) : List String :=
  match g.plotCommand? with
  | none => []
  | some command => command :: g.dataLines

/-- What is reported when the lines of a graph are asked for. -/
def lineNotices (g : Graph) : List Notice :=
  if g.plots.isEmpty then [⟨.debug, source, "Graph has no plots; emitting axis settings only"⟩]
  else []

theorem lineNotices_congr {g g' : Graph} (h : g.plots = g'.plots) :
    g.lineNotices = g'.lineNotices := by
  rw [lineNotices, lineNotices, h]

end Graph

/-- The axes and graphs in use. -/
structure Workspace where
  axes : List Axis
  graphs : List Graph

namespace Workspace

def empty : Workspace := ⟨[], []⟩

def axis (w : Workspace) (id : AxisId) : Axis := w.axes.getD id default

def graph (w : Workspace) (id : GraphId) : Graph := w.graphs.getD id default

def setAxis (w : Workspace) (id : AxisId) (a : Axis) : Workspace :=
  { w with axes := w.axes.set id a }

def setGraph (w : Workspace) (id : GraphId) (g : Graph) : Workspace :=
  { w with graphs := w.graphs.set id g }

def addAxis (w : Workspace) (a : Axis) : AxisId × Workspace :=
  (w.axes.length, { w with axes := w.axes ++ [a] })

def addGraph (w : Workspace) (g : Graph) : GraphId × Workspace :=
  (w.graphs.length, { w with graphs := w.graphs ++ [g] })

/-- The lines of a graph: the settings of its axes, the command and the inline data. -/
def graphLines (w : Workspace) (id : GraphId) : List String :=
  (w.graph id).axes.flatMap (fun e => (w.axis e.2).lines) ++ (w.graph id).drawingLines

/-- The axis of a graph under a name, created on first use. -/
def getAxis (w : Workspace) (id : GraphId) (name : Value) : Except Fault (AxisId × Workspace) := do
  let key ← Properties.lookupKey? name
  match key.bind (w.graph id).axisId? with
  | some a => return (a, w)
  | none =>
    let axis ← Axis.ofName name
    let (a, w) := w.addAxis axis
    let g := w.graph id
    return (a, w.setGraph id { g with axes := Graph.insertAxis axis.name a g.axes })

end Workspace

/-- Something that a caller holds: a value, an axis, a graph or a plot. -/
inductive Operand where
  | value (v : Value)
  | axis (id : AxisId)
  | graph (id : GraphId)
  | plot (p : Plot)

namespace Operand

/-- The kind of an operand, as messages give it. -/
def kindName : Operand → String
  | .value v => v.kindName
  | .axis _ => "Axis"
  | .graph _ => "Graph"
  | .plot p => p.kindName

def plot? : Operand → Except Fault Plot
  | .plot p => .ok p
  | o => .error (.unexpected .plot o.kindName)

def axis? : Operand → Except Fault AxisId
  | .axis id => .ok id
  | o => .error (.unexpected .axis o.kindName)

def graph? : Operand → Except Fault GraphId
  | .graph id => .ok id
  | o => .error (.unexpected .graph o.kindName)

end Operand

/-- The plot, or the other value, that is asked for. -/
def Plot.Spec.build : Plot.Spec → Except Fault Operand
  | .function expression title style => (Plot.ofFunction expression title style).map .plot
  | .table data title style => (Plot.ofTable data title style).map .plot
  | .other v => .ok (.value v)

namespace Workspace

def addPlot (w : Workspace) (id : GraphId) (plot : Operand) : Except Fault Workspace := do
  let p ← plot.plot?
  let g := w.graph id
  return w.setGraph id { g with plots := g.plots ++ [p] }

/-- Stores an axis in a graph under a name, which must be its own. -/
def storeAxis (w : Workspace) (id : GraphId) (name : Value) (axis : Operand) :
    Except Fault Workspace := do
  let a ← axis.axis?
  let own := (w.axis a).name
  if name.same (.text own) then
    let g := w.graph id
    return w.setGraph id { g with axes := Graph.insertAxis own a g.axes }
  else throw (.axisMisplaced (Text.quote own) (← name.shown))

def describeGraph (w : Workspace) (id : GraphId) : String :=
  let g := w.graph id
  let names := ", ".intercalate (g.axes.map fun e => Text.quote e.1)
  let is3d := if g.is3d then "True" else "False"
  s!"Graph(plots={g.plots.length}, axes=[{names}], is_3d={is3d})"

end Workspace

end PlotPage
