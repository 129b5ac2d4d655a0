import PlotPage.Graph.Basic

/-!
# Working on graphs and axes

What can be done with the axes and graphs of a workspace, and what each step answers.  A step that
fails changes nothing, with one exception: an axis that a step creates on first use stays, even if
what is then done with it fails.
-/

namespace PlotPage

/-- A plot as an argument: one that is asked for, or something that the caller holds. -/
inductive Plot.Argument where
  | spec (s : Plot.Spec)
  | held (o : Operand)

def Plot.Argument.build : Plot.Argument → Except Fault Operand
  | .spec s => s.build
  | .held o => .ok o

/-- What can be done with a graph. -/
inductive Graph.Command where
  | addPlot (plot : Plot.Argument)
  | getAxis (name : Value)
  | axis (name : Value) (step : Axis.Command)
  | storeAxis (name : Value) (axis : Operand)
  | setIs3d (is3d : Bool)
  | plotCommand
  | lines
  | axisNames
  | size
  | describe

/-- What can be done in a workspace. -/
inductive Workspace.Command where
  | createAxis (name : Value)
  | createGraph (is3d : Bool)
  | onAxis (id : AxisId) (step : Axis.Command)
  | onGraph (id : GraphId) (step : Graph.Command)

namespace Workspace

def textList (ls : List String) : Value := .list (ls.map .text)

def runAxis (w : Workspace) (id : AxisId) (step : Axis.Command) : Outcome Workspace Fault Value :=
  match (w.axis id).run step with
  | .ok (answer, a) => { result := .ok answer, state := w.setAxis id a }
  | .error f => { result := .error f, state := w }

/-- The outcome of a step that answers nothing. -/
def ofEdit (w : Workspace) (e : Except Fault Workspace) : Outcome Workspace Fault Value :=
  match e with
  | .ok w => { result := .ok .null, state := w }
  | .error f => { result := .error f, state := w }

def runGraph (w : Workspace) (id : GraphId) : Graph.Command → Outcome Workspace Fault Value
  | .addPlot plot => w.ofEdit do w.addPlot id (← plot.build)
  | .getAxis name =>
    match w.getAxis id name with
    | .ok (a, w) => { result := .ok (textList (w.axis a).lines), state := w }
    | .error f => { result := .error f, state := w }
  | .axis name step =>
    match w.getAxis id name with
    | .ok (a, w) => w.runAxis a step
    | .error f => { result := .error f, state := w }
  | .storeAxis name axis => w.ofEdit (w.storeAxis id name axis)
  | .setIs3d is3d =>
    { result := .ok .null, state := w.setGraph id { w.graph id with is3d := is3d } }
  | .plotCommand =>
    let g := w.graph id
    { result := g.written ((g.plotCommand?.map .text).getD .null), state := w }
  | .lines =>
    let g := w.graph id
    { result := g.written (textList (w.graphLines id)), state := w, notices := g.lineNotices }
  | .axisNames => { result := .ok (textList ((w.graph id).axes.map Prod.fst)), state := w }
  | .size => { result := .ok (.int (w.graph id).plots.length), state := w }
  | .describe => { result := .ok (.text (w.describeGraph id)), state := w }

def run (w : Workspace) : Workspace.Command → Outcome Workspace Fault Value
  | .createAxis name => w.ofEdit do return (w.addAxis (← Axis.ofName name)).2
  | .createGraph is3d => { result := .ok .null, state := (w.addGraph (.empty is3d)).2 }
  | .onAxis id step => w.runAxis id step
  | .onGraph id step => w.runGraph id step

end Workspace

end PlotPage
