import PlotPage.Document.Script

/-!
# Descriptions

A description is a mapping from which a page is built; every key is optional:

    title: "Run 42"                 # page title
    set:                            # properties, in order
      grid: ""
    pre_init: ["reset"]
    post_init: ["set style fill solid"]
    graphs:
      - splot: false
        axes:
          x: {label: "time", range: [0, 10], log: false, tics: "2"}
        plots:
          - function: "sin(x)"
            title: "sine"
          - data: [[0, 1.0], [1, 2.5]]
            style: points

The first entry of `graphs` fills the first graph of the page and each further one adds a graph.  A
value of the wrong kind, wherever it is found, makes the whole description invalid.
-/

namespace PlotPage.Description

/-- The name under which descriptions report. -/
def source : String := "plotscript.configs.document_loader"

/-- A field of a mapping, with nothing for a missing one. -/
def fieldOrNull (entries : List (Value × Value)) (name : String) : Value :=
  (Value.field entries name).getD .null

/-- The entries of an optional mapping; one that does not count as true is empty. -/
def entriesOf (v : Value) : Except Fault (List (Value × Value)) :=
  if v.isTruthy then
    match v with
    | .map entries _ => .ok entries
    | _ => .error (.outside .noOperation)
  else .ok []

/-- The items of an optional sequence; one that does not count as true is empty.  A text is gone
through by characters, bytes by their numbers and a mapping by keys. -/
def itemsOf (v : Value) : Except Fault (List Value) :=
  if v.isTruthy then
    match v with
    | .list items _ => .ok items
    | .tuple items _ => .ok items
    | .set items => .ok items
    | .text s => .ok (s.toList.map fun c => .text (String.singleton c))
    | .bytes bs => .ok (bs.map fun b => .int b.toNat)
    | .map entries _ => .ok (entries.map Prod.fst)
    | _ => .error (.outside .notIterable)
  else .ok []

/-- A field that must be true or false. -/
def truthValue (name : String) : Value → Except Fault Bool
  | .bool b => .ok b
  | v => do throw (.notTruthValue name (← v.shown))

def optionalText : Value → Except Fault Value
  | .null => .ok .null
  | v => do return .text (← v.plain)

/-- The plot of an entry, which has an expression or a table. -/
def plot (place : String) (v : Value) : Except Fault Plot :=
  match v with
  | .map entries _ => do
    match Value.field entries "function", Value.field entries "data" with
    | some expression, none =>
      let expression ← expression.plain
      let title ← optionalText (fieldOrNull entries "title")
      let style ← optionalText (fieldOrNull entries "style")
      Plot.ofFunction (.text expression) title style
    | none, some data =>
      let title ← optionalText (fieldOrNull entries "title")
      let style ← optionalText (fieldOrNull entries "style")
      Plot.ofTable data title style
    | _, _ => throw (.notOneSource place)
  | v => do throw (.entryNotMapping place (← v.shown))

/-- One end of a range as a double. -/
def bound : Value → Except Fault Value
  | .null => .ok .null
  | v => do return .real (← v.toDouble)

def range (place : String) (v : Value) : Except Fault (Value × Value) :=
  match v with
  | .list [low, high] _ => do return (← bound low, ← bound high)
  | .tuple [low, high] _ => do return (← bound low, ← bound high)
  | v => do throw (.notRange place (← v.shown))

/-- Changes an axis by what a field holds; a missing field changes nothing. -/
def withField (entries : List (Value × Value)) (name : String)
    (change : Axis → Value → Except Fault Axis) (a : Axis) : Except Fault Axis :=
  match Value.field entries name with
  | some v => change a v
  | none => .ok a

def label (a : Axis) (v : Value) : Except Fault Axis := do
  a.setLabel (.text (← v.plain))

def boundaries (place : String) (a : Axis) (v : Value) : Except Fault Axis := do
  let ends ← range (place ++ ".range") v
  a.setBoundaries ends.1 ends.2

/-- Turns the logarithmic scale of an axis on or off. -/
def logScale (place : String) (a : Axis) (v : Value) : Except Fault Axis := do
  a.setLogScale (← truthValue (place ++ ".log") v)

def tics (a : Axis) (v : Value) : Except Fault Axis := do
  a.setTics (.text (← v.plain))

/-- Applies the settings of an entry to an axis, in a fixed order. -/
def axisSettings (place : String) (a : Axis) (entries : List (Value × Value)) :
    Except Fault Axis := do
  let a ← withField entries "label" label a
  let a ← withField entries "range" (boundaries place) a
  let a ← withField entries "log" (logScale place) a
  withField entries "tics" tics a

/-- Fills the axes of a graph from the entries of `axes`, in order. -/
def fillAxes (place : String) (w : Workspace) (id : GraphId) :
    List (Value × Value) → Except Fault Workspace
  | [] => .ok w
  | (name, v) :: rest => do
    match v with
    | .map entries _ =>
      let name ← name.plain
      let (a, w) ← w.getAxis id (.text name)
      let axis ← axisSettings (place ++ ".axes." ++ name) (w.axis a) entries
      fillAxes place (w.setAxis a axis) id rest
    | _ => throw (.axisEntryNotMapping (place ++ ".axes." ++ (← name.plain)))

/-- Adds the plots of the entries of `plots` to a graph, in order. -/
def fillPlots (place : String) (w : Workspace) (id : GraphId) :
    (index : Nat) → List Value → Except Fault Workspace
  | _, [] => .ok w
  | index, v :: rest => do
    let p ← plot s!"{place}.plots[{index}]" v
    fillPlots place (← w.addPlot id (.plot p)) id (index + 1) rest

def fillGraph (w : Workspace) (id : GraphId) (index : Nat) (v : Value) :
    Except Fault Workspace :=
  let place := s!"graphs[{index}]"
  match v with
  | .map entries _ => do
    let is3d ← truthValue (place ++ ".splot") ((Value.field entries "splot").getD (.bool false))
    let w := w.setGraph id { w.graph id with is3d := is3d }
    let w ← fillAxes place w id (← entriesOf (fieldOrNull entries "axes"))
    fillPlots place w id 0 (← itemsOf (fieldOrNull entries "plots"))
  | v => do throw (.entryNotMapping place (← v.shown))

def fillPageGraph (p : Page) (id : GraphId) (index : Nat) (v : Value) : Except Fault Page := do
  return { p with workspace := ← fillGraph p.workspace id index v }

def addGraphs (p : Page) : (index : Nat) → List Value → Except Fault Page × List Notice
  | _, [] => (.ok p, [])
  | index, v :: rest =>
    let o := p.newGraph false
    match o.result with
    | .error f => (.error f, o.notices)
    | .ok _ =>
      match fillPageGraph o.state (o.state.document.graphs.getLastD 0) index v with
      | .error f => (.error f, o.notices)
      | .ok p =>
        let (result, notices) := addGraphs p (index + 1) rest
        (result, o.notices ++ notices)

/-- Fills the first graph from the first entry and adds a graph for each further one. -/
def fillGraphs (p : Page) : List Value → Except Fault Page × List Notice
  | [] => (.ok p, [])
  | v :: rest =>
    match fillPageGraph p (p.document.graphs.headD 0) 0 v with
    | .error f => (.error f, [])
    | .ok p => addGraphs p 1 rest

/-- Sets the properties of the entries of `set`, in order. -/
def setProperties (q : Properties) : List (Value × Value) → Except Fault Properties
  | [] => .ok q
  | (key, value) :: rest => do
    let key ← key.plain
    let value ← value.plainOrEmpty
    setProperties (← q.set (.text key) (.text value)) rest

def commands (v : Value) : Except Fault (List Value) := do
  (← itemsOf v).mapM fun c => do return .text (← c.plain)

def fillPage (p : Page) (entries : List (Value × Value)) : Except Fault Page := do
  let p ← p.setTitle (fieldOrNull entries "title")
  let q ← setProperties p.document.properties (← entriesOf (fieldOrNull entries "set"))
  let preInit ← commands (fieldOrNull entries "pre_init")
  let postInit ← commands (fieldOrNull entries "post_init")
  return { p with document :=
    { p.document with properties := q, preInit := preInit, postInit := postInit } }

/-- A fault inside a description: values that cannot be used make the description invalid, and
other faults stay as they are. -/
def nameFault (f : Fault) : Fault :=
  if f.kind = .attribute || f.kind = .type || f.kind = .value then .badDescription f else f

/-- The page of a new document whose grid has the given preference. -/
def blankPage (prefersColumns : Bool) : Page :=
  let (id, w) := Workspace.empty.addGraph (.empty false)
  let grid := { Grid.single with prefersColumns := prefersColumns }
  ⟨w, { Document.ofGraph id with layout := .grid grid }⟩

/-- The page of a mapping, and what is reported while it is built. -/
def buildEntries (entries : List (Value × Value)) (prefersColumns : Bool) :
    Except Fault Page × List Notice :=
  match fillPage (blankPage prefersColumns) entries with
  | .error f => (.error f, [])
  | .ok p =>
    match itemsOf (fieldOrNull entries "graphs") with
    | .error f => (.error f, [])
    | .ok items => fillGraphs p items

/-- The page of a description, and what is reported while it is built. -/
def build (v : Value) (prefersColumns : Bool) : Except Fault Page × List Notice :=
  match v with
  | .map entries _ =>
    match buildEntries entries prefersColumns with
    | (.error f, notices) => (.error (nameFault f), notices)
    | (.ok p, notices) =>
      let report := s!"Built document with {p.document.graphs.length} graph(s)"
      (.ok p, notices ++ [⟨.debug, source, report⟩])
  | v => (.error (.descriptionNotMapping v.kindName), [])

end PlotPage.Description
