import PlotPage.Document.Command

/-!
# Documents side by side

Several documents that are worked on by turns may have parts in common: a graph may stand on two
pages, an axis in two graphs, and one layout may place the graphs of two documents.  A desk holds
all of it.  Its documents share a workspace, and each of them refers to its layout by a place, so
that a document that sizes the layout for its own graphs sizes it for everybody who holds it.
-/

namespace PlotPage

/-- The place of a layout on its desk. -/
abbrev LayoutId := Nat

/-- A document and the place of its layout, which stands for the layout in the document itself. -/
structure Desk.Entry where
  document : Document
  layout : LayoutId

/-- Documents with the axes, graphs and layouts that they share. -/
structure Desk where
  workspace : Workspace
  layouts : List Layout
  entries : List Desk.Entry

namespace Desk

def empty : Desk := ⟨.empty, [], []⟩

def layoutAt (d : Desk) (id : LayoutId) : Layout := d.layouts.getD id (.grid .single)

/-- The page of a document, with its layout as it is now. -/
def page (d : Desk) (e : Entry) : Page :=
  ⟨d.workspace, { e.document with layout := d.layoutAt e.layout }⟩

/-- What can be done at a desk. -/
inductive Command where
  /-- A layout in the hands of the caller. -/
  | newLayout (spec : Layout.Spec)
  /-- A document with a layout that is there already, or with one of its own. -/
  | newDocument (layout : Option LayoutId)
  | document (position : Nat) (step : Page.Command)
  /-- Gives a document a layout that is there already. -/
  | assign (position : Nat) (layout : LayoutId)
  | layout (id : LayoutId) (step : Layout.Command)

/-- The desk with another page in the place of a document; the layout is changed where it stands. -/
def putPage (d : Desk) (position : Nat) (e : Entry) (p : Page) : Desk where
  workspace := p.workspace
  layouts := d.layouts.set e.layout p.document.layout
  entries := d.entries.set position ⟨{ p.document with layout := e.document.layout }, e.layout⟩

/-- The desk with another page in the place of a document, whose layout gets a place of its own. -/
def putPageAnew (d : Desk) (position : Nat) (e : Entry) (p : Page) : Desk where
  workspace := p.workspace
  layouts := d.layouts ++ [p.document.layout]
  entries := d.entries.set position
    ⟨{ p.document with layout := e.document.layout }, d.layouts.length⟩

/-- Whether a step gives its document a new layout, if it succeeds. -/
def bringsLayout : Page.Command → Bool
  | .setLayout _ => true
  | _ => false

def runDocument (d : Desk) (position : Nat) (e : Entry) (step : Page.Command) :
    Outcome Desk Fault Value :=
  let o := (d.page e).run step
  { result := o.result, notices := o.notices
    state :=
      match bringsLayout step && o.result.isOk with
      | true => d.putPageAnew position e o.state
      | false => d.putPage position e o.state }

/-- Sizes the layout at a place for a number of graphs, if there is one. -/
def hold (d : Desk) (id : LayoutId) (count : Nat) : Except Fault (Desk × List Notice) :=
  match d.layouts[id]? with
  | none => .error (.unexpected .layout Value.null.kindName)
  | some l => do
    let (l, notices) ← l.resize (.int count)
    return ({ d with layouts := d.layouts.set id l }, notices)

/-- The desk with a new document of one empty graph, whose layout is at a place. -/
def addDocument (d : Desk) (layout : LayoutId) : Desk :=
  let (id, w) := d.workspace.addGraph (.empty false)
  { d with workspace := w, entries := d.entries ++ [⟨.ofGraph id, layout⟩] }

/-- The desk with a layout at a new place. -/
def addLayout (d : Desk) (l : Layout) : Desk := { d with layouts := d.layouts ++ [l] }

/-- The outcome of a step that answers nothing, and changes nothing when it fails. -/
def ofEdit (d : Desk) (e : Except Fault (Desk × List Notice)) : Outcome Desk Fault Value :=
  match e with
  | .ok (d, notices) => { result := .ok .null, state := d, notices := notices }
  | .error f => { result := .error f, state := d }

def run (d : Desk) : Command → Outcome Desk Fault Value
  | .newLayout spec => d.ofEdit do return (d.addLayout (← spec.build), [])
  | .newDocument none =>
    d.ofEdit (.ok ((d.addLayout (.grid .single)).addDocument d.layouts.length, []))
  | .newDocument (some layout) => d.ofEdit do
    let (d, notices) ← d.hold layout 1
    return (d.addDocument layout, notices)
  | .document position step =>
    match d.entries[position]? with
    | some e => d.runDocument position e step
    | none => { result := .error (.outside .missingItem), state := d }
  | .assign position layout =>
    match d.entries[position]? with
    | some e => d.ofEdit do
      let (d, notices) ← d.hold layout e.document.graphs.length
      return ({ d with entries := d.entries.set position { e with layout := layout } }, notices)
    | none => { result := .error (.outside .missingItem), state := d }
  | .layout id step =>
    match d.layouts[id]? with
    | some l =>
      let o := l.apply step
      { result := o.result, state := { d with layouts := d.layouts.set id o.state }
        notices := o.notices }
    | none => { result := .error (.outside .noOperation), state := d }

/-- Does several things one after the other, successful or not. -/
def runAll (d : Desk) (cs : List Command) : Desk := cs.foldl (fun d c => (d.run c).state) d

end Desk

end PlotPage
