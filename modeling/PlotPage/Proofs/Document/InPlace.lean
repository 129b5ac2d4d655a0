import PlotPage.Proofs.Document.Programs
import PlotPage.Proofs.Document.Steps

/-!
# Steps done in place

The programs that change properties, axes, graphs, layouts and documents where they stand do what
the definitions say that become of a whole state.  For most of them this is more than it seems to
be: the definition gives a new state or a fault, so there is no state in between to be left behind
(`Axis.performs_run`, `Workspace.performs_getAxis`, `Page.performs_addPlot`).  A graph that is added
is the exception, and there the definition leaves the same half of the work behind
(`Page.appendGraphInPlace_eq`).  Put together, every step at a desk can be done in place
(`Desk.Command.inPlace_eq`).
-/

namespace PlotPage

open Edit

variable {σ α : Type}

/-! ### Properties and axes -/

namespace Properties

theorem writes_set (key value : Value) : Writes (setInPlace key value) fun p => p.set key value :=
  .check_bind fun k => .check_bind fun _ => .check_bind fun v => .check_bind fun _ =>
    writes_write fun p => Properties.insert p k v

theorem writes_unset (key : Value) : Writes (unsetInPlace key) fun p => p.unset key := by
  unfold unsetInPlace Properties.unset
  refine .check_bind fun k? => ?_
  cases k? with
  | some k => exact writes_write fun p => Properties.erase p k
  | none => exact performs_pure ()

/-- **A step on properties does all or nothing.** -/
theorem performs_run (c : Properties.Command) : Performs c.inPlace fun p => p.run c := by
  cases c with
  | set key value => exact (writes_set key value).answering Value.null
  | unset key => exact (writes_unset key).answering Value.null
  | clear => exact (writes_write fun _ => Properties.empty).answering Value.null
  | get key default =>
    refine (performs_ask _).congr fun p => ?_
    rw [Properties.run]
    cases p.getD key default <;> rfl
  | contains key =>
    refine (performs_ask _).congr fun p => ?_
    rw [Properties.run]
    cases p.contains key <;> rfl
  | keys => exact performs_ask _
  | items => exact performs_ask _
  | size => exact performs_ask _
  | lines => exact performs_ask _

end Properties

namespace Axis

theorem writes_set (key : String) (value : Value) :
    Writes (setInPlace key value) fun a => a.set key value :=
  (Properties.writes_set (.text key) value).part fun _ => rfl

theorem writes_setLabel (text : Value) :
    Writes (setLabelInPlace text) fun a => a.setLabel text :=
  .check_bind fun _ => .look_bind fun name => .check_bind fun shown =>
    writes_set (labelKey name) (.text ("\"" ++ shown ++ "\""))

theorem writes_setBoundaries (low high : Value) :
    Writes (setBoundariesInPlace low high) fun a => a.setBoundaries low high :=
  .check_bind fun l => .check_bind fun h => .look_bind fun name =>
    writes_set (rangeKey name) (.text ("[" ++ l ++ ":" ++ h ++ "]"))

theorem writes_setLogScale (enabled : Bool) :
    Writes (setLogScaleInPlace enabled) fun a => a.setLogScale enabled := by
  cases enabled with
  | true => exact .look_bind fun key => writes_set key (.text "")
  | false =>
    exact .look_bind fun key => (Properties.writes_unset (.text key)).part fun _ => rfl

theorem writes_setTics (spec : Value) : Writes (setTicsInPlace spec) fun a => a.setTics spec :=
  .look_bind fun name => writes_set (ticsKey name) spec

/-- **A step on an axis does all or nothing.** -/
theorem performs_run (c : Axis.Command) : Performs c.inPlace fun a => a.run c := by
  cases c with
  | properties c =>
    refine ((Properties.performs_run c).part fun _ => rfl).congr fun a => ?_
    show (a.properties.run c).map _ = a.properties.run c >>= _
    cases a.properties.run c <;> rfl
  | setLabel text => exact (writes_setLabel text).answering Value.null
  | setBoundaries low high => exact (writes_setBoundaries low high).answering Value.null
  | setLogScale enabled => exact (writes_setLogScale enabled).answering Value.null
  | setTics spec => exact (writes_setTics spec).answering Value.null
  | name => exact performs_ask _
  | describe => exact performs_ask _

end Axis

/-! ### Graphs -/

theorem set_getD_self (l : List α) (i : Nat) (a : α) : l.set i (l.getD i a) = l := by
  by_cases hi : i < l.length
  · rw [List.getD_eq_getElem?_getD, List.getElem?_eq_getElem hi, Option.getD_some,
      List.set_getElem_self]
  · rw [List.set_eq_of_length_le (by omega)]

namespace Workspace

theorem setAxis_axis (w : Workspace) (id : AxisId) : w.setAxis id (w.axis id) = w := by
  rw [setAxis, axis, set_getD_self]

theorem setGraph_graph (w : Workspace) (id : GraphId) : w.setGraph id (w.graph id) = w := by
  rw [setGraph, graph, set_getD_self]

theorem ofEdit_eq (w : Workspace) (e : Except Fault Workspace) :
    w.ofEdit e = .ofExcept w (do return (.null, ← e)) := by
  cases e <;> rfl

theorem writes_addPlot (id : GraphId) (plot : Operand) :
    Writes (onGraph id (Graph.addPlotInPlace plot)) fun w => w.addPlot id plot := by
  have hgraph : Writes (Graph.addPlotInPlace plot) fun g => plot.plot? >>= fun p =>
      .ok { g with plots := g.plots ++ [p] } := .check_bind fun p => writes_write _
  refine (hgraph.part fun w => setGraph_graph w id).congr fun w => ?_
  rw [addPlot]
  cases plot.plot? <;> rfl

/-- **Getting an axis does all or nothing.**  A name that is none is refused before the axis is
made. -/
theorem performs_getAxis (id : GraphId) (name : Value) :
    Performs (getAxisInPlace id name) fun w => w.getAxis id name := by
  unfold getAxisInPlace Workspace.getAxis
  refine .check_bind fun key w => ?_
  rw [(performs_look _).bind_apply]
  dsimp only
  cases key.bind (w.graph id).axisId? with
  | some a => exact performs_pure a w
  | none =>
    dsimp only
    rw [(performs_check _).bind_apply]
    cases Axis.ofName name <;> rfl

theorem writes_storeAxis (id : GraphId) (name : Value) (axis : Operand) :
    Writes (storeAxisInPlace id name axis) fun w => w.storeAxis id name axis := by
  refine Writes.congr (.check_bind fun a => .look_bind fun own => .check_bind fun _ =>
    (writes_write _).part fun w => setGraph_graph w id) fun w => ?_
  rw [storeAxis]
  cases axis.axis? with
  | error f => rfl
  | ok a =>
    simp only [ok_bind]
    split
    · rfl
    · cases name.shown <;> rfl

theorem onAxis_eq (id : AxisId) (step : Axis.Command) (w : Workspace) :
    onAxis id step.inPlace w = w.runAxis id step := by
  have hpart := ((Axis.performs_run step).part fun w => setAxis_axis w id) w
  rw [onAxis, hpart, runAxis]
  show Outcome.ofExcept w (((w.axis id).run step).map fun r => (r.1, w.setAxis id r.2)) = _
  cases (w.axis id).run step <;> rfl

end Workspace

theorem Graph.Command.inPlace_eq (id : GraphId) (step : Graph.Command) (w : Workspace) :
    step.inPlace id w = w.runGraph id step := by
  cases step with
  | addPlot plot =>
    have hplot : Performs (Graph.Command.inPlace id (.addPlot plot)) _ :=
      .check_bind fun operand => (Workspace.writes_addPlot id operand).answering Value.null
    rw [hplot w, Workspace.runGraph, Workspace.ofEdit_eq]
    cases plot.build <;> rfl
  | getAxis name =>
    show (Workspace.getAxisInPlace id name >>= _) w = _
    rw [(Workspace.performs_getAxis id name).bind_apply, Workspace.runGraph]
    cases w.getAxis id name <;> rfl
  | axis name step =>
    show (Workspace.getAxisInPlace id name >>= _) w = _
    rw [(Workspace.performs_getAxis id name).bind_apply, Workspace.runGraph]
    cases w.getAxis id name with
    | error f => rfl
    | ok r => exact Workspace.onAxis_eq r.1 step r.2
  | storeAxis name held =>
    have hstore : Performs (Graph.Command.inPlace id (.storeAxis name held)) _ :=
      (Workspace.writes_storeAxis id name held).answering Value.null
    rw [hstore w, Workspace.runGraph, Workspace.ofEdit_eq]
  | setIs3d is3d => rfl
  | plotCommand => rfl
  | lines => rfl
  | axisNames => rfl
  | size => rfl
  | describe => rfl

theorem Workspace.Command.inPlace_eq (step : Workspace.Command) (w : Workspace) :
    step.inPlace w = w.run step := by
  cases step with
  | createAxis name =>
    have haxis : Performs (Workspace.Command.inPlace (.createAxis name)) _ :=
      .check_bind fun axis =>
        (writes_write fun w => (Workspace.addAxis w axis).2).answering Value.null
    rw [haxis w, Workspace.run, Workspace.ofEdit_eq]
    cases Axis.ofName name <;> rfl
  | createGraph is3d => rfl
  | onAxis id step => exact Workspace.onAxis_eq id step w
  | onGraph id step => exact Graph.Command.inPlace_eq id step w

/-! ### Layouts -/

namespace Layout

/-- **Sizing a layout does all or nothing**, and reports what it does. -/
theorem reports_resize (v : Value) :
    Reports (resizeInPlace v) fun l => (l.resize v).map fun r => (((), r.1), r.2) := by
  intro l
  show resizeInPlace v l = .ofReport l ((l.resize v).map fun r => (((), r.1), r.2))
  cases l with
  | grid g =>
    have hgrid : resizeInPlace v (.grid g) = ((check (Grid.count v) >>= _) g).within .grid := rfl
    rw [hgrid, (performs_check _).bind_apply, resize]
    cases Grid.count v with
    | error f => rfl
    | ok n =>
      show ({ result := .ok (), state := .grid (g.resize n), notices := g.resizeNotices n ++ [] } :
        Outcome Layout Fault Unit) = _
      rw [List.append_nil]
      rfl
  | custom c =>
    have hcustom : resizeInPlace v (.custom c) =
        (((ask fun c => c.accept c.sizes v) >>= _) c).within .custom := rfl
    rw [hcustom, (performs_ask _).bind_apply, resize]
    cases c.accept c.sizes v <;> rfl

theorem Command.inPlace_eq (step : Layout.Command) (l : Layout) :
    step.inPlace l = l.apply step := by
  cases step with
  | resize v =>
    refine ((reports_resize v).then_sure (fun _ => performs_pure Value.null) l).trans ?_
    rw [Layout.apply]
    dsimp only
    cases l.resize v <;> rfl
  | preferColumns b => cases l <;> rfl
  | tile index => rfl
  | tiles => rfl
  | tileLines index => rfl
  | describe => rfl

end Layout

/-! ### Documents -/

namespace Page

theorem ofEdit_eq (p : Page) (e : Except Fault (Value × Page)) : p.ofEdit e = .ofExcept p e := by
  cases e <;> rfl

theorem writes_onProperties {y : Edit Properties Unit} {e : Properties → Except Fault Properties}
    (hy : Writes y e) :
    Writes (onProperties y) fun p => do return p.withProperties (← e p.document.properties) :=
  hy.part fun _ => rfl

theorem performs_addPlot (plot : Plot.Argument) (index : Value) :
    Performs (addPlotInPlace plot index) fun p => p.addPlot plot index := by
  refine Performs.congr (.check_bind fun operand => .ask_bind fun id =>
    ((Workspace.writes_addPlot id operand).part fun _ => rfl).then_sure fun _ => performs_look _)
    fun p => ?_
  unfold addPlot
  cases plot.build with
  | error f => rfl
  | ok operand =>
    simp only [ok_bind]
    cases p.document.graphAt index with
    | error f => rfl
    | ok id =>
      simp only [ok_bind]
      cases p.workspace.addPlot id operand <;> rfl

/-- The axis of a graph of a document, created on first use. -/
def getAxis (p : Page) (name index : Value) : Except Fault (AxisId × Page) := do
  let id ← p.document.graphAt index
  let (a, w) ← p.workspace.getAxis id name
  return (a, { p with workspace := w })

theorem performs_getAxis (name index : Value) :
    Performs (getAxisInPlace name index) fun p => p.getAxis name index := by
  refine Performs.congr (.ask_bind fun id => (Workspace.performs_getAxis id name).part fun _ => rfl)
    fun p => ?_
  rw [getAxis]
  cases p.document.graphAt index with
  | error f => rfl
  | ok id =>
    simp only [ok_bind]
    cases p.workspace.getAxis id name <;> rfl

theorem writes_setTitle (title : Value) :
    Writes (setTitleInPlace title) fun p => p.setTitle title := by
  refine Writes.congr (.check_bind fun t => .check_bind fun _ => .check_bind fun _ =>
    writes_write fun p : Page => { p with document := { p.document with title := t } }) fun p => ?_
  rw [setTitle, Document.checkTitle]
  simp only [bind_assoc]
  rfl

theorem reports_resize (v : Value) : Reports (onLayout (Layout.resizeInPlace v)) fun p =>
    (p.document.layout.resize v).map fun r => (((), p.withLayout r.1), r.2) :=
  ((Layout.reports_resize v).part fun _ => rfl).congr fun p => by
    cases p.document.layout.resize v <;> rfl

/-- A graph that is appended is there before the layout is asked. -/
theorem appendGraphInPlace_eq (id : GraphId) (p : Page) :
    appendGraphInPlace id p = p.appendGraph id := by
  have hlength : (p.document.graphs ++ [id]).length - 1 = p.document.graphs.length := by simp
  let q : Page := { p with document := { p.document with
    graphs := p.document.graphs ++ [id], current := (p.document.graphs ++ [id]).length - 1 } }
  have hq : q = { p with document := { p.document with
      graphs := p.document.graphs ++ [id], current := p.document.graphs.length } } := by
    rw [← hlength]
  have hstart : appendGraphInPlace id p =
      (onLayout (Layout.resizeInPlace (.int (p.document.graphs ++ [id]).length)) >>= _) q := rfl
  have hresize : onLayout (Layout.resizeInPlace (.int (p.document.graphs ++ [id]).length)) q =
      .ofReport q ((p.document.layout.resize (.int (p.document.graphs ++ [id]).length)).map
        fun r => (((), q.withLayout r.1), r.2)) := reports_resize _ q
  rw [hstart, Page.appendGraph]
  dsimp only
  cases hr : p.document.layout.resize (.int (p.document.graphs ++ [id]).length) with
  | error f =>
    rw [hr] at hresize
    rw [bind_of_error (by rw [hresize]; rfl), hresize, hq]
    rfl
  | ok r =>
    rw [hr] at hresize
    rw [bind_of_ok (by rw [hresize]; rfl), hresize, hq]
    rfl

/-- **Giving a page a layout of its own does all or nothing.**  The layout is sized before the page
has it. -/
theorem reports_setLayout (spec : Layout.Spec) : Reports (setLayoutInPlace spec) fun p => do
    let (d, notices) ← p.document.withLayout (← spec.build)
    return (((), { p with document := d }), notices) := by
  refine Reports.congr (.check_bind fun l => .look_bind fun count =>
    ((Layout.reports_resize (.int count)).aside l).then_sure fun l => performs_write _) fun p => ?_
  dsimp only
  cases spec.build with
  | error f => rfl
  | ok l =>
    simp only [ok_bind, Document.withLayout]
    cases l.resize (.int p.document.graphs.length) <;> rfl

end Page

/-- **Every step on a page, done in place, is the step.** -/
theorem Page.Command.inPlace_eq (c : Page.Command) (p : Page) : c.inPlace p = p.run c := by
  cases c with
  | addPlot plot index =>
    have hplot := Page.performs_addPlot plot index p
    rw [Page.run, Page.ofEdit_eq]
    exact hplot
  | newGraph is3d => exact Page.appendGraphInPlace_eq _ _
  | addGraph held =>
    show (check held.graph? >>= _) p = p.addGraph held
    rw [(performs_check _).bind_apply, Page.addGraph]
    cases held.graph? with
    | error f => rfl
    | ok id => exact Page.appendGraphInPlace_eq id p
  | graph index step =>
    show (ask _ >>= _) p = _
    rw [(performs_ask _).bind_apply, Page.run]
    cases p.graphId? index with
    | none => rfl
    | some id => exact congrArg p.ofWorkspace (Graph.Command.inPlace_eq id step p.workspace)
  | axis name index step =>
    show (Page.getAxisInPlace name index >>= _) p = _
    rw [(Page.performs_getAxis name index).bind_apply, Page.run, Page.getAxis]
    cases p.document.graphAt index with
    | error f => rfl
    | ok id =>
      simp only [ok_bind, Workspace.runGraph]
      cases p.workspace.getAxis id name with
      | error f => rfl
      | ok r => exact congrArg p.ofWorkspace (Workspace.onAxis_eq r.1 step r.2)
  | setTitle title =>
    have htitle := (Page.writes_setTitle title).answering Value.null p
    rw [Page.run, Page.ofEdit_eq]
    exact htitle
  | title assigned =>
    cases assigned with
    | none => rfl
    | some title =>
      have hlook := performs_look fun q : Page => Value.text q.document.title
      rw [Page.run, Page.ofEdit_eq]
      refine ((Page.writes_setTitle title).then_sure (fun _ => hlook) p).trans ?_
      dsimp only
      cases p.setTitle title <;> rfl
  | set key value =>
    rw [Page.run, Page.ofEdit_eq]
    refine ((Page.writes_onProperties (Properties.writes_set key value)).answering _ p).trans ?_
    dsimp only
    cases p.document.properties.set key value <;> rfl
  | unset key =>
    rw [Page.run, Page.ofEdit_eq]
    refine ((Page.writes_onProperties (Properties.writes_unset key)).answering _ p).trans ?_
    dsimp only
    cases p.document.properties.unset key <;> rfl
  | properties step =>
    have hstep : Performs (Page.onProperties step.inPlace) _ :=
      (Properties.performs_run step).part fun _ => rfl
    rw [Page.run, Page.ofEdit_eq]
    refine (hstep p).trans ?_
    dsimp only
    cases p.document.properties.run step <;> rfl
  | addPreInit command => rfl
  | addPostInit command => rfl
  | hooks => rfl
  | plots => rfl
  | setLayout spec =>
    refine ((Page.reports_setLayout spec).then_sure (fun _ => performs_pure Value.null) p).trans ?_
    rw [Page.run]
    dsimp only
    cases spec.build with
    | error f => rfl
    | ok l =>
      simp only [ok_bind]
      cases p.document.withLayout l <;> rfl
  | layout step =>
    exact congrArg (Outcome.within p.withLayout)
      (Layout.Command.inPlace_eq step p.document.layout)
  | compile terminal =>
    show ({ p.run (.compile terminal) with state := p } : Outcome Page Fault Value) = _
    rw [Page.run]
    cases Terminal.build terminal <;> rfl
  | describe => rfl
  | workspace step => exact congrArg p.ofWorkspace (Workspace.Command.inPlace_eq step p.workspace)

/-! ### Desks -/

namespace Desk

theorem layoutAt_of_getElem? {d : Desk} {id : LayoutId} {l : Layout} (h : d.layouts[id]? = some l) :
    d.layoutAt id = l := by
  rw [layoutAt, List.getD_eq_getElem?_getD, h]
  rfl

/-- A page is put back where it was taken from. -/
theorem putPage_page {d : Desk} {position : Nat} {e : Entry} (h : d.entries[position]? = some e) :
    d.putPage position e (d.page e) = d := by
  obtain ⟨hlt, rfl⟩ := List.getElem?_eq_some_iff.mp h
  show ({ d with
    layouts := d.layouts.set (d.entries[position]).layout (d.layoutAt (d.entries[position]).layout)
    entries := d.entries.set position d.entries[position] } : Desk) = d
  rw [layoutAt, set_getD_self, List.set_getElem_self]

theorem setLayout_layoutAt (d : Desk) (id : LayoutId) :
    { d with layouts := d.layouts.set id (d.layoutAt id) } = d := by
  rw [layoutAt, set_getD_self]

/-- **Sizing a layout for a document does all or nothing.** -/
theorem reports_hold (id : LayoutId) (count : Nat) : Reports (holdInPlace id count) fun d =>
    (d.hold id count).map fun r => (((), r.1), r.2) := by
  refine Reports.congr (.ask_bind fun _ =>
    (Layout.reports_resize (.int count)).part fun d => d.setLayout_layoutAt id) fun d => ?_
  rw [hold]
  dsimp only
  cases hid : d.layouts[id]? with
  | none => rfl
  | some l =>
    simp only [layoutAt_of_getElem? hid, Option.isSome_some, if_true, ok_bind]
    cases l.resize (.int count) <;> rfl

/-- A step on a document that leaves it its layout is done where the document stands. -/
theorem document_eq {step : Page.Command} (h : bringsLayout step = false) (position : Nat)
    (d : Desk) : (entryAt position >>= fun e => onPage position e step.inPlace) d =
      d.run (.document position step) := by
  rw [entryAt, (performs_ask _).bind_apply, Desk.run]
  cases d.entries[position]? with
  | none => rfl
  | some e =>
    show (step.inPlace (d.page e)).within _ = _
    rw [Page.Command.inPlace_eq]
    unfold runDocument
    rw [h]
    rfl

/-- **Bringing a layout to a desk does all or nothing.** -/
theorem reports_bring (position : Nat) (spec : Layout.Spec) : Reports (bringInPlace position spec)
    fun d => do
      let e ← match d.entries[position]? with
        | some e => .ok e
        | none => .error (.outside .missingItem)
      let (l, notices) ← (← spec.build).resize (.int e.document.graphs.length)
      return ((.null, { d.addLayout l with
        entries := d.entries.set position { e with layout := d.layouts.length } }), notices) := by
  have hplace : ∀ (e : Entry) (l : Layout), Performs
      (do
        let id ← look fun d => d.layouts.length
        write fun d => d.addLayout l
        setEntry position { e with layout := id }
        return Value.null)
      fun d => .ok (.null, { d.addLayout l with
        entries := d.entries.set position { e with layout := d.layouts.length } }) :=
    fun e l d => rfl
  refine Reports.congr (.ask_bind fun e => .check_bind fun l =>
    ((Layout.reports_resize (.int e.document.graphs.length)).aside l).then_sure (hplace e)) fun d => ?_
  dsimp only
  cases d.entries[position]? with
  | none => rfl
  | some e =>
    simp only [ok_bind]
    cases spec.build with
    | error f => rfl
    | ok l =>
      simp only [ok_bind]
      cases l.resize (.int e.document.graphs.length) <;> rfl

theorem bringInPlace_eq (position : Nat) (spec : Layout.Spec) (d : Desk) :
    bringInPlace position spec d = d.run (.document position (.setLayout spec)) := by
  rw [reports_bring position spec d, Desk.run]
  dsimp only
  cases hat : d.entries[position]? with
  | none => rfl
  | some e =>
    have hback := putPage_page hat
    have hpage : (d.page e).run (.setLayout spec) = .ofReport (d.page e) (do
        let (l, notices) ← (← spec.build).resize (.int e.document.graphs.length)
        return ((.null, (d.page e).withLayout l), notices)) := by
      have hstep :=
        (Page.reports_setLayout spec).then_sure (fun _ => performs_pure Value.null) (d.page e)
      refine (Page.Command.inPlace_eq (.setLayout spec) (d.page e)).symm.trans (hstep.trans ?_)
      have hcount : (d.page e).document.graphs = e.document.graphs := rfl
      simp only [Document.withLayout, hcount]
      cases spec.build with
      | error f => rfl
      | ok l =>
        simp only [ok_bind]
        cases l.resize (.int e.document.graphs.length) <;> rfl
    simp only [ok_bind, runDocument]
    rw [hpage]
    cases spec.build with
    | error f =>
      show _ = ({ result := .error f, state := d.putPage position e (d.page e) } :
        Outcome Desk Fault Value)
      rw [hback]
      rfl
    | ok l =>
      simp only [ok_bind]
      cases l.resize (.int e.document.graphs.length) with
      | error f =>
        show _ = ({ result := .error f, state := d.putPage position e (d.page e) } :
          Outcome Desk Fault Value)
        rw [hback]
        rfl
      | ok r => rfl

end Desk

/-- **Every step at a desk, done in place, is the step.** -/
theorem Desk.Command.inPlace_eq (c : Desk.Command) (d : Desk) : c.inPlace d = d.run c := by
  cases c with
  | newLayout spec =>
    show (check spec.build >>= _) d = _
    rw [(performs_check _).bind_apply, Desk.run]
    cases spec.build <;> rfl
  | newDocument layout =>
    cases layout with
    | none => rfl
    | some id =>
      refine ((reports_hold id 1).then_sure (g := fun _ d => (Value.null, d.addDocument id))
        (fun _ _ => rfl) d).trans ?_
      rw [Desk.run]
      dsimp only
      cases d.hold id 1 <;> rfl
  | document position step =>
    cases step with
    | setLayout spec => exact Desk.bringInPlace_eq position spec d
    | _ => exact Desk.document_eq rfl position d
  | assign position id =>
    show (entryAt position >>= _) d = _
    rw [entryAt, (performs_ask _).bind_apply, Desk.run]
    cases d.entries[position]? with
    | none => rfl
    | some e =>
      refine ((reports_hold id e.document.graphs.length).then_sure (g := fun _ d =>
        (Value.null, { d with entries := d.entries.set position { e with layout := id } }))
        (fun _ _ => rfl) d).trans ?_
      dsimp only
      cases d.hold id e.document.graphs.length <;> rfl
  | layout id step =>
    show (checkLayout id (.outside .noOperation) >>= _) d = _
    rw [checkLayout, (performs_ask _).bind_apply, Desk.run]
    dsimp only
    cases hid : d.layouts[id]? with
    | none => rfl
    | some l =>
      show (step.inPlace (d.layoutAt id)).within
        (fun l => { d with layouts := d.layouts.set id l }) = _
      rw [Layout.Command.inPlace_eq, layoutAt_of_getElem? hid]
      rfl

end PlotPage
