import PlotPage.Document.Script

/-!
# Working on a page

What can be done with a page, and what each step answers.  A step that fails leaves the page as it
was, except for an axis created on first use and a graph that the layout refuses.
-/

namespace PlotPage

/-- A terminal as an argument. -/
structure Terminal.Spec where
  device : Value
  output : Value

/-- The terminal that is asked for; the standard one without a request. -/
def Terminal.build : Option Terminal.Spec → Except Fault Terminal
  | none => .ok .standard
  | some s => Terminal.ofValues s.device s.output

/-- What can be done with a page. -/
inductive Page.Command where
  | addPlot (plot : Plot.Argument) (graph : Value)
  | newGraph (is3d : Bool)
  | addGraph (graph : Operand)
  | graph (index : Int) (step : Graph.Command)
  | axis (name graph : Value) (step : Axis.Command)
  | setTitle (title : Value)
  | title (assigned : Option Value)
  | set (key value : Value)
  | unset (key : Value)
  | properties (step : Properties.Command)
  | addPreInit (command : Value)
  | addPostInit (command : Value)
  | hooks
  | plots
  | setLayout (layout : Layout.Spec)
  | layout (step : Layout.Command)
  | compile (terminal : Option Terminal.Spec)
  | describe
  | workspace (step : Workspace.Command)

namespace Page

/-- The outcome of a step of the workspace. -/
def ofWorkspace (p : Page) (o : Outcome Workspace Fault Value) : Outcome Page Fault Value :=
  { result := o.result, state := { p with workspace := o.state }, notices := o.notices }

/-- The outcome of a step that changes nothing when it fails. -/
def ofEdit (p : Page) (e : Except Fault (Value × Page)) : Outcome Page Fault Value :=
  match e with
  | .ok (answer, p) => { result := .ok answer, state := p }
  | .error f => { result := .error f, state := p }

def withProperties (p : Page) (q : Properties) : Page :=
  { p with document := { p.document with properties := q } }

/-- The graph at a position; a negative one counts from the end. -/
def graphId? (p : Page) (index : Int) : Option GraphId :=
  let n : Int := p.document.graphs.length
  let i := if index < 0 then index + n else index
  if 0 ≤ i then p.document.graphs[i.toNat]? else none

def run (p : Page) : Page.Command → Outcome Page Fault Value
  | .addPlot plot graph => p.ofEdit (p.addPlot plot graph)
  | .newGraph is3d => p.newGraph is3d
  | .addGraph graph => p.addGraph graph
  | .graph index step =>
    match p.graphId? index with
    | some id => p.ofWorkspace (p.workspace.runGraph id step)
    | none => { result := .error (.outside .noSuchGraph), state := p }
  | .axis name graph step =>
    match p.document.graphAt graph with
    | .ok id => p.ofWorkspace (p.workspace.runGraph id (.axis name step))
    | .error f => { result := .error f, state := p }
  | .setTitle title => p.ofEdit do return (.null, ← p.setTitle title)
  | .title none => { result := .ok (.text p.document.title), state := p }
  | .title (some title) => p.ofEdit do
    let p ← p.setTitle title
    return (.text p.document.title, p)
  | .set key value => p.ofEdit do
    return (.null, p.withProperties (← p.document.properties.set key value))
  | .unset key => p.ofEdit do
    return (.null, p.withProperties (← p.document.properties.unset key))
  | .properties step => p.ofEdit do
    let (answer, q) ← p.document.properties.run step
    return (answer, p.withProperties q)
  | .addPreInit command =>
    { result := .ok .null
      state := { p with document :=
        { p.document with preInit := p.document.preInit ++ [command] } } }
  | .addPostInit command =>
    { result := .ok .null
      state := { p with document :=
        { p.document with postInit := p.document.postInit ++ [command] } } }
  | .hooks =>
    { result := .ok (.list [.list p.document.preInit, .list p.document.postInit]), state := p }
  | .plots =>
    let g := p.workspace.graph (p.document.graphs.getD p.document.current 0)
    { result := g.written (Workspace.textList (g.plots.map Plot.definition)), state := p }
  | .setLayout spec =>
    match (do p.document.withLayout (← spec.build) : Except Fault (Document × List Notice)) with
    | .ok (d, notices) =>
      { result := .ok .null, state := { p with document := d }, notices := notices }
    | .error f => { result := .error f, state := p }
  | .layout step =>
    let o := p.document.layout.apply step
    { result := o.result
      state := { p with document := { p.document with layout := o.state } }
      notices := o.notices }
  | .compile terminal =>
    match Terminal.build terminal with
    | .error f => { result := .error f, state := p }
    | .ok t =>
      let (script, notices) := p.compile t
      { result := script.map .text, state := p, notices := notices }
  | .describe => { result := p.document.describe.map .text, state := p }
  | .workspace step => p.ofWorkspace (p.workspace.run step)

/-- Does several things one after the other and keeps what each of them answers. -/
def runAll (p : Page) : List Page.Command → Page × List (Except Fault Value)
  | [] => (p, [])
  | c :: cs =>
    let o := p.run c
    let (q, results) := runAll o.state cs
    (q, o.result :: results)

end Page

end PlotPage
