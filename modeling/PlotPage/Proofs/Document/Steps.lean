import Mathlib.Data.List.Infix
import PlotPage.Document.Command
import PlotPage.Proofs.Layout.Grid
import PlotPage.Proofs.Workspace

/-!
# What a step does to a page

`Page.run_step` says once, for every step, what becomes of the graphs, the current graph and the
layout of a document, and what the step answers then: it keeps all three, it appends a graph that
the layout accepts, it appends a graph that the layout refuses, it assigns a layout, or it works on
the layout from outside.  What the two parts of the program have to do with each other follows from
this by cases.

The other half of a page is what its lines are made of.  `Page.WellFormed.run` says that every step
keeps the workspace, the properties and the title well-formed, and `Page.WellFormed.runAll` says so
of every run.
-/

namespace PlotPage

namespace Page.Command

/-- The step appends a graph: a new one, or one that the caller holds. -/
def AddsGraph : Page.Command → Prop
  | .newGraph _ => True
  | .addGraph (.graph _) => True
  | _ => False

instance (c : Page.Command) : Decidable c.AddsGraph := by
  unfold AddsGraph
  split <;> infer_instance

/-- The step asks for another number of graphs or another layout. -/
def Sizes : Page.Command → Prop
  | .newGraph _ => True
  | .addGraph _ => True
  | .setLayout _ => True
  | _ => False

/-- The step changes the size of the layout, and does not go through the document for it. -/
def ResizesOutside : Page.Command → Prop
  | .layout (.resize _) => True
  | _ => False

theorem ne_resize {step : Layout.Command} (h : ¬ (Page.Command.layout step).ResizesOutside) :
    ∀ v, step ≠ .resize v := by
  rintro v rfl
  exact h trivial

/-- A plot in the hands of the caller was made by a constructor. -/
def Built : Page.Command → Prop
  | .addPlot plot _ => plot.Built
  | .graph _ step => step.Built
  | .workspace step => step.Built
  | _ => True

end Page.Command

namespace Document

/-- What a step does to the graphs, the current graph and the layout of a document, and what it
answers then. -/
inductive Step (d : Document) : Page.Command → Except Fault Value → Document → Prop where
  | kept {c : Page.Command} {r : Except Fault Value} {d' : Document} (adds : ¬ c.AddsGraph)
      (failed : c.Sizes → ∃ f, r = .error f) (graphs : d'.graphs = d.graphs)
      (current : d'.current = d.current) (layout : d'.layout = d.layout) : Step d c r d'
  | accepted {c : Page.Command} {d' : Document} {id : GraphId} {ns : List Notice}
      (adds : c.AddsGraph)
      (resized : d.layout.resize (.int (d.graphs.length + 1 : Nat)) = .ok (d'.layout, ns))
      (graphs : d'.graphs = d.graphs ++ [id]) (current : d'.current = d.graphs.length) :
      Step d c (.ok (.int d.graphs.length)) d'
  | refused {c : Page.Command} {d' : Document} {id : GraphId} {f : Fault} (adds : c.AddsGraph)
      (resized : d.layout.resize (.int (d.graphs.length + 1 : Nat)) = .error f)
      (graphs : d'.graphs = d.graphs ++ [id]) (current : d'.current = d.graphs.length)
      (layout : d'.layout = d.layout) : Step d c (.error f) d'
  | assigned {spec : Layout.Spec} {d' : Document} {l : Layout} {ns : List Notice}
      (built : spec.build = .ok l)
      (resized : l.resize (.int d.graphs.length) = .ok (d'.layout, ns))
      (graphs : d'.graphs = d.graphs) (current : d'.current = d.current) :
      Step d (.setLayout spec) (.ok .null) d'
  | outside {step : Layout.Command} {r : Except Fault Value} {d' : Document}
      (graphs : d'.graphs = d.graphs) (current : d'.current = d.current)
      (layout : d'.layout = (d.layout.apply step).state) : Step d (.layout step) r d'

/-- A step that does not touch the document, or leaves the three parts of it alone. -/
theorem Step.of_same {d d' : Document} {c : Page.Command} {r : Except Fault Value}
    (adds : ¬ c.AddsGraph) (sizes : ¬ c.Sizes) (graphs : d'.graphs = d.graphs)
    (current : d'.current = d.current) (layout : d'.layout = d.layout) : Step d c r d' :=
  .kept adds (fun h => absurd h sizes) graphs current layout

/-- A step takes no graph away and moves none; what it adds comes last. -/
theorem Step.graphs_grow {d d' : Document} {c : Page.Command} {r : Except Fault Value}
    (h : Step d c r d') : d.graphs <+: d'.graphs := by
  cases h with
  | kept _ _ graphs => rw [graphs]
  | accepted _ _ graphs => rw [graphs]; exact List.prefix_append _ _
  | refused _ _ graphs => rw [graphs]; exact List.prefix_append _ _
  | assigned _ _ graphs => rw [graphs]
  | outside graphs => rw [graphs]

end Document

namespace Page

/-- What becomes of a page when the layout accepts a further graph. -/
theorem appendGraph_of_accepted {p : Page} {l : Layout} {ns : List Notice} (id : GraphId)
    (h : p.document.layout.resize (.int (p.document.graphs.length + 1 : Nat)) = .ok (l, ns)) :
    (p.appendGraph id).result = .ok (.int p.document.graphs.length) ∧
      (p.appendGraph id).state = { p with document := { p.document with
        graphs := p.document.graphs ++ [id], current := p.document.graphs.length, layout := l } } := by
  have hlength : (p.document.graphs ++ [id]).length = p.document.graphs.length + 1 :=
    List.length_append
  unfold Page.appendGraph
  simp only [hlength, h]
  exact ⟨trivial, trivial⟩

theorem appendGraph_step (p : Page) {w : Workspace} (id : GraphId) {c : Page.Command}
    (hc : c.AddsGraph) :
    Document.Step p.document c (Page.appendGraph { p with workspace := w } id).result
      (Page.appendGraph { p with workspace := w } id).state.document := by
  have hlength : (p.document.graphs ++ [id]).length = p.document.graphs.length + 1 :=
    List.length_append
  unfold Page.appendGraph
  simp only [hlength]
  split
  · rename_i hr
    exact .accepted hc hr rfl rfl
  · rename_i hr
    exact .refused hc hr rfl rfl rfl

theorem ofEdit_step (p : Page) {c : Page.Command} (ha : ¬ c.AddsGraph) (hs : ¬ c.Sizes)
    {e : Except Fault (Value × Page)}
    (he : ∀ v q, e = .ok (v, q) → q.document.graphs = p.document.graphs ∧
      q.document.current = p.document.current ∧ q.document.layout = p.document.layout) :
    Document.Step p.document c (p.ofEdit e).result (p.ofEdit e).state.document := by
  cases e with
  | error f => exact .of_same ha hs rfl rfl rfl
  | ok a =>
    obtain ⟨hg, hc, hl⟩ := he a.1 a.2 rfl
    exact .of_same ha hs hg hc hl

theorem setTitle_eq_ok {p q : Page} {title : Value} (h : p.setTitle title = .ok q) :
    ∃ t, Document.checkTitle title = .ok t ∧
      q = { p with document := { p.document with title := t } } := by
  simp only [Page.setTitle, bind_eq_ok_iff, pure_eq_ok_iff] at h
  obtain ⟨t, ht, rfl⟩ := h
  exact ⟨t, ht, rfl⟩

/-- **What a step does to the graphs, the current graph and the layout.** -/
theorem run_step (p : Page) (c : Page.Command) :
    Document.Step p.document c (p.run c).result (p.run c).state.document := by
  cases c with
  | addPlot plot graph =>
    apply p.ofEdit_step id id
    intro v q hq
    simp only [Page.addPlot, bind_eq_ok_iff, pure_eq_ok_iff, Prod.mk.injEq] at hq
    obtain ⟨_, -, _, -, w, -, -, rfl⟩ := hq
    exact ⟨rfl, rfl, rfl⟩
  | newGraph is3d => exact p.appendGraph_step _ trivial
  | addGraph graph =>
    cases graph with
    | graph id => exact p.appendGraph_step (w := p.workspace) id trivial
    | value v => exact .kept not_false (fun _ => ⟨_, rfl⟩) rfl rfl rfl
    | axis id => exact .kept not_false (fun _ => ⟨_, rfl⟩) rfl rfl rfl
    | plot q => exact .kept not_false (fun _ => ⟨_, rfl⟩) rfl rfl rfl
  | graph index step =>
    rw [Page.run]
    split <;> exact .of_same not_false not_false rfl rfl rfl
  | axis name graph step =>
    rw [Page.run]
    split <;> exact .of_same not_false not_false rfl rfl rfl
  | setTitle title =>
    apply p.ofEdit_step id id
    intro v q hq
    simp only [bind_eq_ok_iff, pure_eq_ok_iff, Prod.mk.injEq] at hq
    obtain ⟨_, hq, -, rfl⟩ := hq
    obtain ⟨t, -, rfl⟩ := setTitle_eq_ok hq
    exact ⟨rfl, rfl, rfl⟩
  | title assigned =>
    cases assigned with
    | none => exact .of_same not_false not_false rfl rfl rfl
    | some title =>
      apply p.ofEdit_step id id
      intro v q hq
      simp only [bind_eq_ok_iff, pure_eq_ok_iff, Prod.mk.injEq] at hq
      obtain ⟨_, hq, -, rfl⟩ := hq
      obtain ⟨t, -, rfl⟩ := setTitle_eq_ok hq
      exact ⟨rfl, rfl, rfl⟩
  | set key value =>
    apply p.ofEdit_step id id
    intro v q hq
    simp only [bind_eq_ok_iff, pure_eq_ok_iff, Prod.mk.injEq] at hq
    obtain ⟨_, -, -, rfl⟩ := hq
    exact ⟨rfl, rfl, rfl⟩
  | unset key =>
    apply p.ofEdit_step id id
    intro v q hq
    simp only [bind_eq_ok_iff, pure_eq_ok_iff, Prod.mk.injEq] at hq
    obtain ⟨_, -, -, rfl⟩ := hq
    exact ⟨rfl, rfl, rfl⟩
  | properties step =>
    apply p.ofEdit_step id id
    intro v q hq
    simp only [bind_eq_ok_iff, pure_eq_ok_iff, Prod.mk.injEq] at hq
    obtain ⟨_, -, -, rfl⟩ := hq
    exact ⟨rfl, rfl, rfl⟩
  | setLayout spec =>
    rw [Page.run]
    split
    · rename_i d ns hd
      simp only [Document.withLayout, bind_eq_ok_iff, pure_eq_ok_iff, Prod.mk.injEq] at hd
      obtain ⟨l, hl, ⟨l', ns'⟩, hr, rfl, -⟩ := hd
      exact .assigned hl hr rfl rfl
    · exact .kept not_false (fun _ => ⟨_, rfl⟩) rfl rfl rfl
  | layout step => exact .outside rfl rfl rfl
  | compile terminal =>
    rw [Page.run]
    split <;> exact .of_same not_false not_false rfl rfl rfl
  | addPreInit command => exact .of_same not_false not_false rfl rfl rfl
  | addPostInit command => exact .of_same not_false not_false rfl rfl rfl
  | hooks => exact .of_same not_false not_false rfl rfl rfl
  | plots => exact .of_same not_false not_false rfl rfl rfl
  | describe => exact .of_same not_false not_false rfl rfl rfl
  | workspace step => exact .of_same not_false not_false rfl rfl rfl

/-! ### What the lines of a page are made of -/

/-- The parts of a page from which its lines are made. -/
structure WellFormed (p : Page) : Prop where
  workspace : p.workspace.WellFormed
  properties : p.document.properties.WellFormed
  title_single : Line.isSingle p.document.title = true

theorem isSingle_of_checkTitle {v : Value} {t : String} (h : Document.checkTitle v = .ok t) :
    Line.isSingle t = true := by
  simp only [Document.checkTitle, bind_eq_ok_iff, Line.check_eq_ok_iff, exists_const,
    pure_eq_ok_iff] at h
  obtain ⟨s, -, hs, -, -, rfl⟩ := h
  exact hs

namespace WellFormed

variable {p : Page} (h : p.WellFormed)

include h

theorem withWorkspace {w : Workspace} (hw : w.WellFormed) :
    WellFormed { p with workspace := w } := ⟨hw, h.properties, h.title_single⟩

theorem withProperties {q : Properties} (hq : q.WellFormed) : (p.withProperties q).WellFormed :=
  ⟨h.workspace, hq, h.title_single⟩

theorem setTitle {title : Value} {q : Page} (hq : p.setTitle title = .ok q) : q.WellFormed := by
  obtain ⟨t, ht, rfl⟩ := setTitle_eq_ok hq
  exact ⟨h.workspace, h.properties, isSingle_of_checkTitle ht⟩

theorem ofEdit {e : Except Fault (Value × Page)} (he : ∀ v q, e = .ok (v, q) → q.WellFormed) :
    (p.ofEdit e).state.WellFormed := by
  cases e with
  | error f => exact h
  | ok a => exact he a.1 a.2 rfl

theorem appendGraph (id : GraphId) : (p.appendGraph id).state.WellFormed := by
  unfold Page.appendGraph
  dsimp only
  split <;> exact ⟨h.workspace, h.properties, h.title_single⟩

/-- Every step keeps a page well-formed, also when it fails. -/
theorem run {c : Page.Command} (hb : c.Built) : (p.run c).state.WellFormed := by
  cases c with
  | addPlot plot graph =>
    apply h.ofEdit
    intro v q hq
    simp only [Page.addPlot, bind_eq_ok_iff, pure_eq_ok_iff, Prod.mk.injEq] at hq
    obtain ⟨o, ho, _, -, w, hw, -, rfl⟩ := hq
    exact h.withWorkspace (h.workspace.addPlot (hb.build ho) hw)
  | newGraph is3d => exact (h.withWorkspace (h.workspace.addGraph is3d)).appendGraph _
  | addGraph graph =>
    cases graph with
    | graph id => exact h.appendGraph id
    | value v => exact h
    | axis id => exact h
    | plot q => exact h
  | graph index step =>
    rw [Page.run]
    split
    · exact h.withWorkspace (h.workspace.runGraph _ hb)
    · exact h
  | axis name graph step =>
    rw [Page.run]
    split
    · exact h.withWorkspace (h.workspace.runGraph _ trivial)
    · exact h
  | setTitle title =>
    apply h.ofEdit
    intro v q hq
    simp only [bind_eq_ok_iff, pure_eq_ok_iff, Prod.mk.injEq] at hq
    obtain ⟨_, hq, -, rfl⟩ := hq
    exact h.setTitle hq
  | title assigned =>
    cases assigned with
    | none => exact h
    | some title =>
      apply h.ofEdit
      intro v q hq
      simp only [bind_eq_ok_iff, pure_eq_ok_iff, Prod.mk.injEq] at hq
      obtain ⟨_, hq, -, rfl⟩ := hq
      exact h.setTitle hq
  | set key value =>
    apply h.ofEdit
    intro v q hq
    simp only [bind_eq_ok_iff, pure_eq_ok_iff, Prod.mk.injEq] at hq
    obtain ⟨_, hs, -, rfl⟩ := hq
    exact h.withProperties (h.properties.set hs)
  | unset key =>
    apply h.ofEdit
    intro v q hq
    simp only [bind_eq_ok_iff, pure_eq_ok_iff, Prod.mk.injEq] at hq
    obtain ⟨_, hs, -, rfl⟩ := hq
    exact h.withProperties (h.properties.unset hs)
  | properties step =>
    apply h.ofEdit
    intro v q hq
    simp only [bind_eq_ok_iff, pure_eq_ok_iff, Prod.mk.injEq, Prod.exists] at hq
    obtain ⟨_, _, hs, -, rfl⟩ := hq
    exact h.withProperties (h.properties.run hs)
  | setLayout spec =>
    rw [Page.run]
    split
    · rename_i d ns hd
      simp only [Document.withLayout, bind_eq_ok_iff, pure_eq_ok_iff, Prod.mk.injEq] at hd
      obtain ⟨l, -, ⟨l', ns'⟩, -, rfl, -⟩ := hd
      exact ⟨h.workspace, h.properties, h.title_single⟩
    · exact h
  | compile terminal =>
    rw [Page.run]
    split <;> exact h
  | addPreInit command => exact ⟨h.workspace, h.properties, h.title_single⟩
  | addPostInit command => exact ⟨h.workspace, h.properties, h.title_single⟩
  | layout step => exact ⟨h.workspace, h.properties, h.title_single⟩
  | hooks => exact h
  | plots => exact h
  | describe => exact h
  | workspace step => exact h.withWorkspace (h.workspace.run hb)

end WellFormed

/-- Every run keeps a page well-formed, whichever of its steps fail. -/
theorem WellFormed.runAll {p : Page} (h : p.WellFormed) {cs : List Page.Command}
    (hb : ∀ c ∈ cs, c.Built) : (p.runAll cs).1.WellFormed := by
  induction cs generalizing p with
  | nil => exact h
  | cons c cs ih =>
    exact ih (h.run (hb c List.mem_cons_self)) fun d hd => hb d (List.mem_cons_of_mem c hd)

/-- A new page has one graph, which is the current one, and a layout that was asked for the size of
one graph. -/
theorem new_eq_ok {spec : Option Layout.Spec} {p : Page} {ns : List Notice}
    (h : Page.new spec = .ok (p, ns)) : p.workspace = ⟨[], [.empty false]⟩ ∧
      ∃ l, p.document = { Document.ofGraph 0 with layout := l } ∧
        ((spec = none ∧ l = .grid .single) ∨
          ∃ s l' ns', spec = some s ∧ s.build = .ok l' ∧ l'.resize (.int 1) = .ok (l, ns')) := by
  cases spec with
  | none =>
    obtain ⟨rfl, -⟩ := Prod.mk.inj (Except.ok.inj h)
    exact ⟨rfl, _, rfl, Or.inl ⟨rfl, rfl⟩⟩
  | some s =>
    simp only [Page.new, Document.withLayout, bind_eq_ok_iff, pure_eq_ok_iff] at h
    obtain ⟨l', hl', ⟨d, ns'⟩, ⟨⟨l, ns''⟩, hr, hd⟩, hp⟩ := h
    obtain ⟨rfl, rfl⟩ := Prod.mk.inj hd
    obtain ⟨rfl, -⟩ := Prod.mk.inj hp
    exact ⟨rfl, l, rfl, Or.inr ⟨s, l', _, rfl, hl', hr⟩⟩

theorem wellFormed_new {spec : Option Layout.Spec} {p : Page} {ns : List Notice}
    (h : Page.new spec = .ok (p, ns)) : p.WellFormed := by
  obtain ⟨hw, l, hd, -⟩ := new_eq_ok h
  constructor
  · rw [hw]
    exact Workspace.wellFormed_empty.addGraph false
  · rw [hd]
    exact Properties.wellFormed_empty
  · rw [hd]
    rfl

/-! ### Runs -/

theorem runAll_append (p : Page) (cs ds : List Page.Command) :
    (p.runAll (cs ++ ds)).1 = ((p.runAll cs).1.runAll ds).1 := by
  induction cs generalizing p with
  | nil => rfl
  | cons c cs ih => exact ih (p.run c).state

theorem runAll_graphs_grow (p : Page) (cs : List Page.Command) :
    p.document.graphs <+: (p.runAll cs).1.document.graphs := by
  induction cs generalizing p with
  | nil => exact List.prefix_rfl
  | cons c cs ih => exact (p.run_step c).graphs_grow.trans (ih (p.run c).state)

/-- A page that was new has a graph after every run. -/
theorem graphs_ne_nil {spec : Option Layout.Spec} {p : Page} {ns : List Notice}
    (h : Page.new spec = .ok (p, ns)) (cs : List Page.Command) :
    (p.runAll cs).1.document.graphs ≠ [] := by
  obtain ⟨-, l, hd, -⟩ := new_eq_ok h
  obtain ⟨later, hlater⟩ := p.runAll_graphs_grow cs
  rw [← hlater, hd]
  exact List.cons_ne_nil _ _

end Page

end PlotPage
