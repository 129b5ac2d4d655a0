import PlotPage.Graph.Command
import PlotPage.Layout.Basic

/-!
# Documents

A document is a page of graphs: the graphs in order, a title, properties, and commands of its own
that stand before and after the settings.  A new document holds one empty graph, and every further
graph becomes the current one and resizes the layout.  A page is a document together with the
workspace in which its graphs and their axes live.
-/

namespace PlotPage

/-- A page of graphs. -/
structure Document where
  graphs : List GraphId
  current : Nat
  title : String
  preInit : List Value
  postInit : List Value
  properties : Properties
  layout : Layout

/-- A document and the workspace of its graphs. -/
structure Page where
  workspace : Workspace
  document : Document

namespace Document

/-- The name under which documents report. -/
def source : String := "plotscript.script.document"

def ofGraph (id : GraphId) : Document :=
  ⟨[id], 0, "", [], [], .empty, .grid .single⟩

/-- The graph that a value selects: its position, or nothing for the current graph. -/
def graphAt (d : Document) (index : Value) : Except Fault GraphId :=
  match index with
  | .null => .ok (d.graphs.getD d.current 0)
  | v =>
    match Scalar.ofValue? v with
    | none => .error (.outside .notOrdered)
    | some s =>
      if inRange s then
        match s with
        | .bool b => .ok (d.graphs.getD (if b then 1 else 0) 0)
        | .int i => .ok (d.graphs.getD i.toNat 0)
        | .real _ => .error (.outside .notIndex)
      else do throw (.graphIndex (← v.plain) d.graphs.length)
where
  /-- Whether a number is at least zero and below the number of graphs. -/
  inRange : Scalar → Bool
    | .bool b => (if b then 1 else 0) < d.graphs.length
    | .int i => 0 ≤ i && i < d.graphs.length
    | .real x =>
      (Double.zero false).le x && x.isFinite && x.units < d.graphs.length * Double.unitsPerOne

/-- The title that a value gives: a single line without double quotes, empty for none. -/
def checkTitle (v : Value) : Except Fault String := do
  let title ← v.plainOrEmpty
  Line.check "Page title" title
  Line.checkUnquoted "Page title" (.text title)
  return title

/-- A document with another layout, which is first sized for the graphs. -/
def withLayout (d : Document) (l : Layout) : Except Fault (Document × List Notice) := do
  let (l, notices) ← l.resize (.int d.graphs.length)
  return ({ d with layout := l }, notices)

def describe (d : Document) : Except Fault String := do
  let layout ← d.layout.describe
  return s!"Document(graphs={d.graphs.length}, current_graph={d.current}, layout={layout})"

end Document

namespace Page

/-- A new page with a layout of its own, or the single tile that grows with the graphs. -/
def new (layout : Option Layout.Spec) : Except Fault (Page × List Notice) := do
  let (id, w) := Workspace.empty.addGraph (.empty false)
  let d := Document.ofGraph id
  match layout with
  | none => return (⟨w, d⟩, [])
  | some spec =>
    let (d, notices) ← d.withLayout (← spec.build)
    return (⟨w, d⟩, notices)

def setTitle (p : Page) (title : Value) : Except Fault Page := do
  return { p with document := { p.document with title := ← Document.checkTitle title } }

/-- Appends a graph, makes it current and sizes the layout for it.  The graph stays even if the
layout refuses. -/
def appendGraph (p : Page) (id : GraphId) : Outcome Page Fault Value :=
  let d := { p.document with
    graphs := p.document.graphs ++ [id], current := p.document.graphs.length }
  match d.layout.resize (.int d.graphs.length) with
  | .ok (l, notices) =>
    { result := .ok (.int d.current)
      state := { p with document := { d with layout := l } }
      notices := notices ++ [⟨.debug, Document.source, s!"Added graph {d.current}"⟩] }
  | .error f => { result := .error f, state := { p with document := d } }

/-- Appends a graph that the caller holds. -/
def addGraph (p : Page) (graph : Operand) : Outcome Page Fault Value :=
  match graph.graph? with
  | .ok id => p.appendGraph id
  | .error f => { result := .error f, state := p }

def newGraph (p : Page) (is3d : Bool) : Outcome Page Fault Value :=
  let (id, w) := p.workspace.addGraph (.empty is3d)
  Page.appendGraph { p with workspace := w } id

/-- Adds a plot to the graph at a position and answers the position. -/
def addPlot (p : Page) (plot : Plot.Argument) (index : Value) : Except Fault (Value × Page) := do
  let operand ← plot.build
  let id ← p.document.graphAt index
  let w ← p.workspace.addPlot id operand
  let answer := match index with
    | .null => .int p.document.current
    | v => v
  return (answer, { p with workspace := w })

end Page

end PlotPage
