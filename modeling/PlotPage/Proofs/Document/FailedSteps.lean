import Mathlib.Data.List.GetD
import PlotPage.Proofs.Description.Graph
import PlotPage.Proofs.Document.InPlace
import PlotPage.Proofs.Document.Interleaving
import PlotPage.Proofs.Document.Refusal

/-!
# Steps that fail

Everything that can be done at a desk can be done in place (`Desk.Command.inPlace_eq`): the
programs, with their checks and writes in order, do what the definitions say.  So whatever stands
half-written when a step fails would show.  Nothing does, with two exceptions.  An addition that the
layout refuses leaves its graph behind.  And a step that asks for an axis and then does something
with it consists of two calls; if the second one fails, the axis that the first one made stays.  It
has no settings yet, so no script shows it (`Workspace.lines_getAxis`).
-/

namespace PlotPage

open Edit

/-! ### Steps of two calls -/

/-- The step is two calls: one that asks for an axis, and one on the axis that it answers. -/
def Graph.Command.Chained : Graph.Command → Prop
  | .axis _ _ => True
  | _ => False

def Workspace.Command.Chained : Workspace.Command → Prop
  | .onGraph _ step => step.Chained
  | _ => False

def Page.Command.Chained : Page.Command → Prop
  | .axis _ _ _ => True
  | .graph _ step => step.Chained
  | .workspace step => step.Chained
  | _ => False

def Desk.Command.Chained : Desk.Command → Prop
  | .document _ step => step.Chained
  | _ => False

def Desk.Command.IsAddition : Desk.Command → Prop
  | .document _ step => step.IsAddition
  | _ => False

/-! ### Programs that fail in a workspace -/

theorem Graph.Command.clean (id : GraphId) {step : Graph.Command} (h : ¬ step.Chained) :
    Clean (step.inPlace id) := by
  cases step with
  | addPlot plot =>
    exact .ask_bind fun operand =>
      ((Workspace.writes_addPlot id operand).answering Value.null).clean
  | getAxis name =>
    exact (Workspace.performs_getAxis id name).clean.then_sure fun a => sure_look _
  | axis name step => exact absurd trivial h
  | storeAxis name held =>
    exact ((Workspace.writes_storeAxis id name held).answering Value.null).clean
  | setIs3d is3d =>
    exact (((writes_write _).part fun w => w.setGraph_graph id).answering Value.null).clean
  | _ => exact clean_readOff _

theorem Workspace.Command.clean {step : Workspace.Command} (h : ¬ step.Chained) :
    Clean step.inPlace := by
  cases step with
  | createAxis name =>
    exact .ask_bind fun axis =>
      ((writes_write fun w => (Workspace.addAxis w axis).2).answering Value.null).clean
  | createGraph is3d => exact ((writes_write _).answering Value.null).clean
  | onAxis id step =>
    exact ((Axis.performs_run step).part fun w => w.setAxis_axis id).clean
  | onGraph id step => exact Graph.Command.clean id h

theorem Layout.Command.clean (step : Layout.Command) : Clean step.inPlace := by
  intro l f hf
  rw [Layout.Command.inPlace_eq] at hf ⊢
  cases step with
  | resize v =>
    rw [Layout.apply] at hf ⊢
    split at hf
    · exact absurd hf (by simp)
    · rfl
  | preferColumns b => cases l <;> exact absurd hf (by simp [Layout.apply])
  | _ => rfl

/-- **A step on a page that fails leaves the page as it was**, if it is a single call and adds no
graph. -/
theorem Page.Command.clean {c : Page.Command} (hchain : ¬ c.Chained) (hadd : ¬ c.IsAddition) :
    Clean c.inPlace := by
  cases c with
  | addPlot plot index => exact (Page.performs_addPlot plot index).clean
  | newGraph is3d => exact absurd trivial hadd
  | addGraph held => exact absurd trivial hadd
  | graph index step => exact .ask_bind fun id => (Graph.Command.clean id hchain).part fun _ => rfl
  | axis name index step => exact absurd trivial hchain
  | setTitle title => exact ((Page.writes_setTitle title).answering Value.null).clean
  | title assigned =>
    cases assigned with
    | none => exact clean_readOff _
    | some title => exact (Page.writes_setTitle title).clean.then_sure fun _ => sure_look _
  | set key value =>
    exact ((Page.writes_onProperties (Properties.writes_set key value)).answering Value.null).clean
  | unset key =>
    exact ((Page.writes_onProperties (Properties.writes_unset key)).answering Value.null).clean
  | properties step => exact ((Properties.performs_run step).part fun _ => rfl).clean
  | addPreInit command => exact ((writes_write _).answering Value.null).clean
  | addPostInit command => exact ((writes_write _).answering Value.null).clean
  | setLayout spec => exact (Page.reports_setLayout spec).clean.then_sure fun _ => sure_pure _
  | layout step => exact (Layout.Command.clean step).part fun _ => rfl
  | workspace step => exact (Workspace.Command.clean hchain).part fun _ => rfl
  | _ => exact clean_readOff _

theorem Page.run_unchanged {p : Page} {c : Page.Command} (hchain : ¬ c.Chained)
    (hadd : ¬ c.IsAddition) {f : Fault} (hf : (p.run c).result = .error f) :
    (p.run c).state = p := by
  have hclean := Page.Command.clean hchain hadd p f
  rw [Page.Command.inPlace_eq] at hclean
  exact hclean hf

/-! ### Axes that have just been made -/

namespace Workspace

/-- The same workspace, or the one that a call left which asked for an axis. -/
def Touched (w w' : Workspace) : Prop := w' = w ∨ ∃ id name a, w.getAxis id name = .ok (a, w')

/-- A graph that has other axes, but the same settings in all. -/
theorem lines_setGraph (w : Workspace) (id : GraphId) (axes : List (String × AxisId))
    (h : axes.flatMap (fun e => (w.axis e.2).lines) =
      (w.graph id).axes.flatMap fun e => (w.axis e.2).lines) (x : GraphId) :
    let w' := w.setGraph id { w.graph id with axes := axes }
    w'.graphLines x = w.graphLines x ∧ (w'.graph x).plots = (w.graph x).plots := by
  intro w'
  have hlines : w'.graphLines x =
      (w'.graph x).axes.flatMap (fun e => (w.axis e.2).lines) ++ (w'.graph x).drawingLines := rfl
  rcases graph_setGraph_cases w id { w.graph id with axes := axes } x with hsame | ⟨rfl, hnew⟩
  · have hgraph : w'.graph x = w.graph x := hsame
    rw [hlines, hgraph]
    exact ⟨rfl, rfl⟩
  · have hgraph : w'.graph x = { w.graph x with axes := axes } := hnew
    rw [hlines, hgraph, h]
    exact ⟨rfl, rfl⟩

theorem lines_addAxis (w : Workspace) {axis : Axis} (h : axis.properties = .empty) (k : AxisId) :
    ((w.addAxis axis).2.axis k).lines = (w.axis k).lines := by
  rcases Nat.lt_trichotomy k w.axes.length with hk | rfl | hk
  · rw [axis_addAxis_of_lt hk]
  · have hdefault : w.axis w.axes.length = default := List.getD_eq_default _ _ le_rfl
    rw [axis_addAxis_self, hdefault, Axis.lines, h]
    rfl
  · have hdefault : w.axis k = default := List.getD_eq_default _ _ hk.le
    have hnone : (w.addAxis axis).2.axis k = default := by
      refine List.getD_eq_default _ _ ?_
      show (w.axes ++ [axis]).length ≤ k
      rw [List.length_append, List.length_singleton]
      omega
    rw [hdefault, hnone]

/-- **An axis without settings shows in no script**, not even in that of another graph. -/
theorem lines_getAxis {w w' : Workspace} {id : GraphId} {name : Value} {a : AxisId}
    (h : w.getAxis id name = .ok (a, w')) (x : GraphId) :
    w'.graphLines x = w.graphLines x ∧ (w'.graph x).plots = (w.graph x).plots := by
  simp only [getAxis, bind_eq_ok_iff] at h
  obtain ⟨key, hkey, h⟩ := h
  split at h
  · obtain ⟨-, rfl⟩ := Prod.mk.inj (Except.ok.inj h)
    exact ⟨rfl, rfl⟩
  · rename_i hfresh
    simp only [bind_eq_ok_iff] at h
    obtain ⟨axis, haxis, h⟩ := h
    obtain ⟨-, rfl⟩ := Prod.mk.inj (Except.ok.inj h)
    obtain ⟨-, rfl, hempty⟩ := Axis.wellFormed_of_ofName haxis
    obtain rfl := Except.ok.inj hkey
    have hlines := lines_addAxis w hempty
    have hinsert : Graph.insertAxis axis.name w.axes.length (w.graph id).axes =
        (w.graph id).axes ++ [(axis.name, w.axes.length)] :=
      insertAxis_of_not_mem (axisId?_eq_none hfresh)
    have hnew : ((w.addAxis axis).2.axis w.axes.length).lines = [] := by
      rw [axis_addAxis_self, Axis.lines, hempty]
      rfl
    have hset := lines_setGraph (w.addAxis axis).2 id
      (Graph.insertAxis axis.name w.axes.length (w.graph id).axes)
      (by
        rw [hinsert, List.flatMap_append, List.flatMap_singleton, hnew, List.append_nil]
        rfl) x
    refine ⟨hset.1.trans ?_, hset.2⟩
    show (w.graph x).axes.flatMap (fun e => ((w.addAxis axis).2.axis e.2).lines) ++ _ = _
    simp only [hlines]
    rfl

end Workspace

/-- What a document compiles to is made of the lines of its graphs. -/
theorem Document.compile_congr {w w' : Workspace}
    (h : ∀ x, w'.graphLines x = w.graphLines x ∧ (w'.graph x).plots = (w.graph x).plots)
    (d : Document) (t : Terminal) : compile w' d t = compile w d t := by
  have hplots : plotLines w' d = plotLines w d := by
    unfold plotLines
    split
    · rename_i id _
      rw [(h id).1, Graph.written_congr (h id).2, Graph.lineNotices_congr (h id).2]
    · rw [Page.tiledLines_congr fun id _ => h id]
  simp only [compile, hplots]

/-! ### Steps that fail at a desk -/

/-- When the second call of a step fails, what is left is what the first call left. -/
theorem Workspace.touched_of_chained {w : Workspace} {id : GraphId} {step : Graph.Command}
    (h : step.Chained) {f : Fault} (hf : (w.runGraph id step).result = .error f) :
    w.Touched (w.runGraph id step).state := by
  cases step with
  | axis name step =>
    rw [runGraph] at hf ⊢
    split at hf
    · rename_i a w' hget
      right
      refine ⟨id, name, a, ?_⟩
      rw [runAxis] at hf ⊢
      split at hf
      · exact absurd hf (by simp)
      · exact hget
    · exact Or.inl rfl
  | _ => exact absurd h not_false

theorem Page.touched_of_chained {p : Page} {c : Page.Command} (h : c.Chained) {f : Fault}
    (hf : (p.run c).result = .error f) :
    ∃ w, p.workspace.Touched w ∧ (p.run c).state = { p with workspace := w } := by
  cases c with
  | axis name index step =>
    rw [Page.run] at hf ⊢
    split at hf
    · have hchained : (Graph.Command.axis name step).Chained := trivial
      exact ⟨_, Workspace.touched_of_chained hchained hf, rfl⟩
    · exact ⟨p.workspace, Or.inl rfl, rfl⟩
  | graph index step =>
    rw [Page.run] at hf ⊢
    split at hf
    · exact ⟨_, Workspace.touched_of_chained h hf, rfl⟩
    · exact ⟨p.workspace, Or.inl rfl, rfl⟩
  | workspace step =>
    cases step with
    | onGraph id step => exact ⟨_, Workspace.touched_of_chained h hf, rfl⟩
    | _ => exact absurd h not_false
  | _ => exact absurd h not_false

namespace Desk

variable {d : Desk} {c : Desk.Command} {f : Fault}

theorem ofEdit_unchanged {e : Except Fault (Desk × List Notice)}
    (hf : (d.ofEdit e).result = .error f) : (d.ofEdit e).state = d := by
  cases e with
  | error g => rfl
  | ok r => exact absurd hf (by simp [ofEdit])

theorem runDocument_of_error {position : Nat} {e : Entry} {step : Page.Command}
    (hf : ((d.page e).run step).result = .error f) : (d.runDocument position e step).state =
      d.putPage position e ((d.page e).run step).state := by
  unfold runDocument
  dsimp only
  rw [hf]
  cases bringsLayout step <;> rfl

theorem run_unchanged (hchain : ¬ c.Chained) (hadd : ¬ c.IsAddition)
    (hf : (d.run c).result = .error f) : (d.run c).state = d := by
  cases c with
  | newLayout spec => exact ofEdit_unchanged hf
  | newDocument layout =>
    cases layout with
    | none => exact ofEdit_unchanged hf
    | some id => exact ofEdit_unchanged hf
  | document position step =>
    rw [Desk.run] at hf ⊢
    split at hf
    · rename_i e he
      have hresult : ((d.page e).run step).result = .error f := hf
      show (d.runDocument position e step).state = d
      rw [runDocument_of_error hresult, Page.run_unchanged hchain hadd hresult, putPage_page he]
    · rfl
  | assign position id =>
    rw [Desk.run] at hf ⊢
    split at hf
    · exact ofEdit_unchanged hf
    · rfl
  | layout id step =>
    rw [Desk.run] at hf ⊢
    split at hf
    · rename_i l hl
      have hclean := Layout.Command.clean step l f
      rw [Layout.Command.inPlace_eq] at hclean
      have hsame := setLayout_layoutAt d id
      rw [layoutAt_of_getElem? hl] at hsame
      show { d with layouts := d.layouts.set id (l.apply step).state } = d
      rw [hclean hf, hsame]
    · rfl

theorem touched_of_chained (hchain : c.Chained) (hf : (d.run c).result = .error f) :
    ∃ w, d.workspace.Touched w ∧ (d.run c).state = { d with workspace := w } := by
  cases c with
  | document position step =>
    rw [Desk.run] at hf ⊢
    split at hf
    · rename_i e he
      have hresult : ((d.page e).run step).result = .error f := hf
      obtain ⟨w, hw, hstate⟩ := Page.touched_of_chained hchain hresult
      refine ⟨w, hw, ?_⟩
      have hback := putPage_page he
      show (d.runDocument position e step).state = _
      rw [runDocument_of_error hresult, hstate]
      show { d.putPage position e (d.page e) with workspace := w } = _
      rw [hback]
    · exact ⟨d.workspace, Or.inl rfl, rfl⟩
  | _ => exact absurd hchain not_false

/-- An axis that has just been made shows in no script. -/
theorem compile_of_touched {w : Workspace} (hw : d.workspace.Touched w) (e : Entry) (t : Terminal) :
    (page { d with workspace := w } e).compile t = (d.page e).compile t := by
  rcases hw with rfl | ⟨id, name, a, hget⟩
  · rfl
  · exact Document.compile_congr (fun x => Workspace.lines_getAxis hget x) _ t

/-- **Steps that fail change nothing.**  Every step at a desk, done in place with its checks and
writes in order, is the step.  When it fails, the whole desk is as it was: properties, axes, graphs,
documents and layouts, whoever shares them.  This holds for all single calls but the additions of
graphs.  A step of two calls leaves what its first call left, and nothing at all if that is the one
that failed.  In any case every document compiles to what it did before. -/
theorem failed_step (d : Desk) (c : Desk.Command) :
    c.inPlace d = d.run c ∧
    (∀ f, (d.run c).result = .error f → ¬ c.IsAddition →
      (¬ c.Chained → (d.run c).state = d) ∧
      (∃ w, d.workspace.Touched w ∧ (d.run c).state = { d with workspace := w }) ∧
      ∀ e t, ((d.run c).state.page e).compile t = (d.page e).compile t) ∧
    ∀ position e name index step f, d.entries[position]? = some e →
      (d.page e).getAxis name index = .error f →
      d.run (.document position (.axis name index step)) = { result := .error f, state := d } := by
  refine ⟨Desk.Command.inPlace_eq c d, ?_, ?_⟩
  · intro f hf hadd
    have hsame : ¬ c.Chained → (d.run c).state = d := fun hchain => run_unchanged hchain hadd hf
    have htouched : ∃ w, d.workspace.Touched w ∧ (d.run c).state = { d with workspace := w } := by
      by_cases hchain : c.Chained
      · exact touched_of_chained hchain hf
      · exact ⟨d.workspace, Or.inl rfl, hsame hchain⟩
    refine ⟨hsame, htouched, ?_⟩
    intro e t
    obtain ⟨w, hw, hstate⟩ := htouched
    rw [hstate]
    exact compile_of_touched hw e t
  · intro position e name index step f he hget
    have hpage : (d.page e).run (.axis name index step) =
        { result := .error f, state := d.page e } := by
      rw [← Page.Command.inPlace_eq]
      show (Page.getAxisInPlace name index >>= _) (d.page e) = _
      rw [(Page.performs_getAxis name index).bind_apply, hget]
    rw [Desk.run, he]
    show d.runDocument position e (.axis name index step) = _
    unfold runDocument
    rw [hpage]
    show ({ result := .error f, state := d.putPage position e (d.page e) } :
      Outcome Desk Fault Value) = _
    rw [putPage_page he]

/-- A desk with a document of two graphs, another of one, and a layout at hand that refuses to hold
two: plots that are none or belong nowhere, names and texts that cannot be used and the layout
itself are refused, and an axis that is asked for beforehand shows in no script. -/
theorem failed_step_refusals :
    let d := empty.runAll [.newDocument none, .newDocument none, .document 0 (.newGraph false),
      .newLayout (.limited 1)]
    let refused : List Desk.Command := [
      .document 0 (.addPlot (.held (.value .null)) .null),
      .document 1 (.addPlot (.spec (.function (.text "x") .null .null)) (.bool true)),
      .document 0 (.graph 1 (.getAxis (.text "a b"))),
      .document 0 (.graph 1 (.storeAxis (.text "x") (.graph 0))),
      .document 0 (.set (.text " ") .null),
      .document 0 (.setTitle (.text "a\nb")),
      .document 0 (.setLayout (.limited 1)),
      .assign 0 2]
    (∀ c ∈ refused, (∃ f, (d.run c).result = .error f) ∧ (d.run c).state = d) ∧
      let chain : Desk.Command := .document 0 (.axis (.text "x") .null (.setLabel (.text "\"")))
      (∃ f, (d.run chain).result = .error f) ∧
        ∀ e t, ((d.run chain).state.page e).compile t = (d.page e).compile t := by
  intro d refused
  have hrefused : ∀ c ∈ refused,
      (∃ f, (d.run c).result = .error f) ∧ ¬ c.IsAddition ∧ ¬ c.Chained := by
    intro c hc
    simp only [refused, List.mem_cons, List.not_mem_nil, or_false] at hc
    rcases hc with rfl | rfl | rfl | rfl | rfl | rfl | rfl | rfl
    all_goals exact ⟨⟨_, rfl⟩, not_false, not_false⟩
  refine ⟨?_, ?_⟩
  · intro c hc
    obtain ⟨⟨f, hf⟩, hadd, hchain⟩ := hrefused c hc
    exact ⟨⟨f, hf⟩, ((failed_step d c).2.1 f hf hadd).1 hchain⟩
  · intro chain
    have hchain : ∃ f, (d.run chain).result = .error f := ⟨_, rfl⟩
    obtain ⟨f, hf⟩ := hchain
    exact ⟨⟨f, hf⟩, ((failed_step d chain).2.1 f hf not_false).2.2⟩

end Desk

end PlotPage
