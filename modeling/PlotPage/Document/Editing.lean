import PlotPage.Document.Desk

/-!
# Editing in place

The steps on properties, axes, graphs, documents and layouts say what a step makes of a state as a
whole.  But all these things are objects that are changed where they stand: what a call has written
before it fails stays written, and whoever shares the object sees it.  Here the same steps stand as
programs, in which every check and every write has its place.  The program of an object works on
that object alone, and whoever holds the object runs it there (`Edit.part`).
-/

namespace PlotPage

/-- The same outcome for a state of which the given one is a part. -/
def Outcome.within {σ τ ε α : Type} (put : σ → τ) (o : Outcome σ ε α) : Outcome τ ε α :=
  { result := o.result, state := put o.state, notices := o.notices }

/-- A program that works on a state in place. -/
def Edit (σ α : Type) := σ → Outcome σ Fault α

namespace Edit

variable {σ τ α β : Type}

/-- One program after another.  The second one does not begin if the first one fails, and nothing is
taken back then. -/
def bind (x : Edit σ α) (k : α → Edit σ β) : Edit σ β := fun s =>
  let o := x s
  match o.result with
  | .error f => { result := .error f, state := o.state, notices := o.notices }
  | .ok a =>
    let o' := k a o.state
    { o' with notices := o.notices ++ o'.notices }

instance : Monad (Edit σ) where
  pure a s := { result := .ok a, state := s }
  bind := bind

/-- Looks at the state, and may find a fault. -/
def ask (e : σ → Except Fault α) : Edit σ α := fun s => { result := e s, state := s }

def look (f : σ → α) : Edit σ α := ask fun s => .ok (f s)

def check (e : Except Fault α) : Edit σ α := ask fun _ => e

def write (f : σ → σ) : Edit σ Unit := fun s => { result := .ok (), state := f s }

def report (f : σ → List Notice) : Edit σ Unit := fun s =>
  { result := .ok (), state := s, notices := f s }

/-- Answers and reports what a step does that only looks at the state. -/
def readOff (run : σ → Outcome σ Fault α) : Edit σ α := fun s => { run s with state := s }

/-- A program on a part of the state, where it stands. -/
def part (get : σ → τ) (put : σ → τ → σ) (x : Edit τ α) : Edit σ α := fun s =>
  (x (get s)).within (put s)

/-- A program on something that does not belong to the state, and what that is afterwards. -/
def aside (t : τ) (x : Edit τ Unit) : Edit σ τ := fun s =>
  { result := (x t).result.map fun _ => (x t).state, state := s, notices := (x t).notices }

end Edit

open Edit

/-! ### Properties and axes -/

namespace Properties

def setInPlace (key value : Value) : Edit Properties Unit := do
  let key ← check (Properties.key key)
  check (Line.check "Property key" key)
  let value ← check value.plainOrEmpty
  let shownKey := Text.quote key
  check (Line.check s!"Value of property {shownKey}" value)
  write fun p => p.insert key value

def unsetInPlace (key : Value) : Edit Properties Unit := do
  match ← check (lookupKey? key) with
  | some k => write fun p => p.erase k
  | none => return ()

def Command.inPlace : Properties.Command → Edit Properties Value
  | .set key value => do
    setInPlace key value
    return .null
  | .unset key => do
    unsetInPlace key
    return .null
  | .clear => do
    write fun _ => .empty
    return .null
  | c => ask fun p => (p.run c).map Prod.fst

end Properties

namespace Axis

def onProperties {α : Type} (x : Edit Properties α) : Edit Axis α :=
  part Axis.properties Axis.withProperties x

def setInPlace (key : String) (value : Value) : Edit Axis Unit :=
  onProperties (Properties.setInPlace (.text key) value)

def setLabelInPlace (text : Value) : Edit Axis Unit := do
  check (Line.checkUnquoted "Axis label" text)
  let name ← look Axis.name
  let text ← check text.plain
  setInPlace (labelKey name) (.text ("\"" ++ text ++ "\""))

def setBoundariesInPlace (low high : Value) : Edit Axis Unit := do
  let low ← check (boundText low)
  let high ← check (boundText high)
  let name ← look Axis.name
  setInPlace (rangeKey name) (.text ("[" ++ low ++ ":" ++ high ++ "]"))

def setLogScaleInPlace (enabled : Bool) : Edit Axis Unit := do
  let key ← look fun a => logScaleKey a.name
  if enabled then setInPlace key (.text "")
  else onProperties (Properties.unsetInPlace (.text key))

def setTicsInPlace (spec : Value) : Edit Axis Unit := do
  let name ← look Axis.name
  setInPlace (ticsKey name) spec

def Command.inPlace : Axis.Command → Edit Axis Value
  | .properties c => onProperties c.inPlace
  | .setLabel text => do
    setLabelInPlace text
    return .null
  | .setBoundaries low high => do
    setBoundariesInPlace low high
    return .null
  | .setLogScale enabled => do
    setLogScaleInPlace enabled
    return .null
  | .setTics spec => do
    setTicsInPlace spec
    return .null
  | c => ask fun a => (a.run c).map Prod.fst

end Axis

/-! ### Graphs -/

namespace Graph

def addPlotInPlace (plot : Operand) : Edit Graph Unit := do
  let p ← check plot.plot?
  write fun g => { g with plots := g.plots ++ [p] }

/-- Stores an axis without any check. -/
def putAxisInPlace (name : String) (id : AxisId) : Edit Graph Unit :=
  write fun g => { g with axes := insertAxis name id g.axes }

end Graph

namespace Workspace

def onAxis {α : Type} (id : AxisId) (x : Edit Axis α) : Edit Workspace α :=
  part (fun w => w.axis id) (fun w a => w.setAxis id a) x

def onGraph {α : Type} (id : GraphId) (x : Edit Graph α) : Edit Workspace α :=
  part (fun w => w.graph id) (fun w g => w.setGraph id g) x

def getAxisInPlace (id : GraphId) (name : Value) : Edit Workspace AxisId := do
  let key ← check (Properties.lookupKey? name)
  match ← look fun w => key.bind (w.graph id).axisId? with
  | some a => return a
  | none =>
    let axis ← check (Axis.ofName name)
    let a ← look fun w => w.axes.length
    write fun w => (w.addAxis axis).2
    onGraph id (Graph.putAxisInPlace axis.name a)
    return a

def storeAxisInPlace (id : GraphId) (name : Value) (axis : Operand) : Edit Workspace Unit := do
  let a ← check axis.axis?
  let own ← look fun w => (w.axis a).name
  check (if name.same (.text own) then .ok ()
    else do throw (.axisMisplaced (Text.quote own) (← name.shown)))
  onGraph id (Graph.putAxisInPlace own a)

end Workspace

def Graph.Command.inPlace (id : GraphId) : Graph.Command → Edit Workspace Value
  | .addPlot plot => do
    let operand ← check plot.build
    Workspace.onGraph id (Graph.addPlotInPlace operand)
    return .null
  | .getAxis name => do
    let a ← Workspace.getAxisInPlace id name
    look fun w => Workspace.textList (w.axis a).lines
  | .axis name step => do
    let a ← Workspace.getAxisInPlace id name
    Workspace.onAxis a step.inPlace
  | .storeAxis name held => do
    Workspace.storeAxisInPlace id name held
    return .null
  | .setIs3d is3d => do
    Workspace.onGraph id (write fun g => { g with is3d := is3d })
    return .null
  | c => readOff fun w => w.runGraph id c

def Workspace.Command.inPlace : Workspace.Command → Edit Workspace Value
  | .createAxis name => do
    let axis ← check (Axis.ofName name)
    write fun w => (w.addAxis axis).2
    return .null
  | .createGraph is3d => do
    write fun w => (w.addGraph (.empty is3d)).2
    return .null
  | .onAxis id step => Workspace.onAxis id step.inPlace
  | .onGraph id step => step.inPlace id

/-! ### Layouts -/

def Grid.resizeInPlace (v : Value) : Edit Grid Unit := do
  let n ← check (Grid.count v)
  let sides ← look fun g => Grid.shape n g.prefersColumns
  report fun g => g.resizeNotices n
  write fun g => { g with rows := sides.1, columns := sides.2 }
  write fun g => { g with capacity := n }

/-- A layout that the caller brings along stays as it is when it refuses. -/
def Layout.Custom.resizeInPlace (v : Value) : Edit Layout.Custom Unit := do
  ask fun c => c.accept c.sizes v
  write fun c => { c with sizes := v :: c.sizes }

namespace Layout

def resizeInPlace (v : Value) : Edit Layout Unit
  | .grid g => (Grid.resizeInPlace v g).within .grid
  | .custom c => (Custom.resizeInPlace v c).within .custom

def Command.inPlace : Layout.Command → Edit Layout Value
  | .resize v => do
    resizeInPlace v
    return .null
  | .preferColumns prefersColumns => do
    write fun l =>
      match l with
      | .grid g => .grid { g with prefersColumns := prefersColumns }
      | l => l
    return .null
  | c => readOff fun l => l.apply c

end Layout

/-! ### Documents -/

namespace Page

def withLayout (p : Page) (l : Layout) : Page :=
  { p with document := { p.document with layout := l } }

def onWorkspace {α : Type} (x : Edit Workspace α) : Edit Page α :=
  part Page.workspace (fun p w => { p with workspace := w }) x

def onProperties {α : Type} (x : Edit Properties α) : Edit Page α :=
  part (fun p => p.document.properties) Page.withProperties x

def onLayout {α : Type} (x : Edit Layout α) : Edit Page α :=
  part (fun p => p.document.layout) Page.withLayout x

def addPlotInPlace (plot : Plot.Argument) (index : Value) : Edit Page Value := do
  let operand ← check plot.build
  let id ← ask fun p => p.document.graphAt index
  onWorkspace (Workspace.onGraph id (Graph.addPlotInPlace operand))
  look fun p => match index with
    | .null => .int p.document.current
    | v => v

def getAxisInPlace (name index : Value) : Edit Page AxisId := do
  let id ← ask fun p => p.document.graphAt index
  onWorkspace (Workspace.getAxisInPlace id name)

def setTitleInPlace (title : Value) : Edit Page Unit := do
  let title ← check title.plainOrEmpty
  check (Line.check "Page title" title)
  check (Line.checkUnquoted "Page title" (.text title))
  write fun p => { p with document := { p.document with title := title } }

/-- Gives a document a layout that nobody else holds yet. -/
def setLayoutInPlace (spec : Layout.Spec) : Edit Page Unit := do
  let l ← check spec.build
  let count ← look fun p => p.document.graphs.length
  let l ← aside l (Layout.resizeInPlace (.int count))
  write fun p => p.withLayout l

/-- Appends a graph before the layout is asked. -/
def appendGraphInPlace (id : GraphId) : Edit Page Value := do
  write fun p => { p with document := { p.document with graphs := p.document.graphs ++ [id] } }
  write fun p => { p with document :=
    { p.document with current := p.document.graphs.length - 1 } }
  let count ← look fun p => p.document.graphs.length
  onLayout (Layout.resizeInPlace (.int count))
  let current ← look fun p => p.document.current
  report fun _ => [⟨.debug, Document.source, s!"Added graph {current}"⟩]
  return .int current

def Command.inPlace : Page.Command → Edit Page Value
  | .addPlot plot index => addPlotInPlace plot index
  | .newGraph is3d => do
    let id ← look fun p => p.workspace.graphs.length
    write fun p => { p with workspace := (p.workspace.addGraph (.empty is3d)).2 }
    appendGraphInPlace id
  | .addGraph held => do
    let id ← check held.graph?
    appendGraphInPlace id
  | .graph index step => do
    let id ← ask fun p => match p.graphId? index with
      | some id => .ok id
      | none => .error (.outside .noSuchGraph)
    onWorkspace (step.inPlace id)
  | .axis name index step => do
    let a ← getAxisInPlace name index
    onWorkspace (Workspace.onAxis a step.inPlace)
  | .setTitle text => do
    setTitleInPlace text
    return .null
  | .title (some text) => do
    setTitleInPlace text
    look fun p => .text p.document.title
  | .set key value => do
    onProperties (Properties.setInPlace key value)
    return .null
  | .unset key => do
    onProperties (Properties.unsetInPlace key)
    return .null
  | .properties step => onProperties step.inPlace
  | .addPreInit command => do
    write fun p => { p with document :=
      { p.document with preInit := p.document.preInit ++ [command] } }
    return .null
  | .addPostInit command => do
    write fun p => { p with document :=
      { p.document with postInit := p.document.postInit ++ [command] } }
    return .null
  | .setLayout spec => do
    setLayoutInPlace spec
    return .null
  | .layout step => onLayout step.inPlace
  | .workspace step => onWorkspace step.inPlace
  | c => readOff fun p => p.run c

end Page

/-! ### Desks -/

namespace Desk

def entryAt (position : Nat) : Edit Desk Entry :=
  ask fun d => match d.entries[position]? with
    | some e => .ok e
    | none => .error (.outside .missingItem)

/-- Whether there is a layout at a place. -/
def checkLayout (id : LayoutId) (fault : Fault) : Edit Desk Unit :=
  ask fun d => if d.layouts[id]?.isSome then .ok () else .error fault

def onPage {α : Type} (position : Nat) (e : Entry) (x : Edit Page α) : Edit Desk α :=
  part (fun d => d.page e) (fun d p => d.putPage position e p) x

def onLayout {α : Type} (id : LayoutId) (x : Edit Layout α) : Edit Desk α :=
  part (fun d => d.layoutAt id) (fun d l => { d with layouts := d.layouts.set id l }) x

def setEntry (position : Nat) (e : Entry) : Edit Desk Unit :=
  write fun d => { d with entries := d.entries.set position e }

def holdInPlace (id : LayoutId) (count : Nat) : Edit Desk Unit := do
  checkLayout id (.unexpected .layout Value.null.kindName)
  onLayout id (Layout.resizeInPlace (.int count))

/-- Gives a document a layout that comes to the desk with it. -/
def bringInPlace (position : Nat) (spec : Layout.Spec) : Edit Desk Value := do
  let e ← entryAt position
  let l ← check spec.build
  let l ← aside l (Layout.resizeInPlace (.int e.document.graphs.length))
  let id ← look fun d => d.layouts.length
  write fun d => d.addLayout l
  setEntry position { e with layout := id }
  return .null

def Command.inPlace : Desk.Command → Edit Desk Value
  | .newLayout spec => do
    let l ← check spec.build
    write fun d => d.addLayout l
    return .null
  | .newDocument none => do
    let id ← look fun d => d.layouts.length
    write fun d => d.addLayout (.grid .single)
    write fun d => d.addDocument id
    return .null
  | .newDocument (some id) => do
    holdInPlace id 1
    write fun d => d.addDocument id
    return .null
  | .document position (.setLayout spec) => bringInPlace position spec
  | .document position step => do
    let e ← entryAt position
    onPage position e step.inPlace
  | .assign position id => do
    let e ← entryAt position
    holdInPlace id e.document.graphs.length
    setEntry position { e with layout := id }
    return .null
  | .layout id step => do
    checkLayout id (.outside .noOperation)
    onLayout id step.inPlace

end Desk

end PlotPage
