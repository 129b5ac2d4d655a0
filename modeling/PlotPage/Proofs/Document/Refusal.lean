import Mathlib.Data.List.Induction
import PlotPage.Proofs.Document.Script
import PlotPage.Proofs.Document.Steps

/-!
# Layouts that refuse a graph

A layout may refuse to be sized for another graph.  The page has then appended the graph already, and
nothing takes it back: the graphs and the layout disagree from there on, and the page does not compile
any more (`Page.compile_of_refused`).  Refusal is the only way in which this happens.  An addition
that fails for another reason, because what was given is no graph, changes nothing
(`Page.unchanged_iff_not_refuses`); and for layouts that take the size they accept, the capacity of
the layout and the number of graphs agree after every step of a run exactly when no step of the run
was refused (`Page.agree_iff_not_refuses`).
-/

namespace PlotPage

/-- A layout that is asked for takes every size that it accepts. -/
def Layout.Spec.Faithful (s : Layout.Spec) : Prop := ∀ l, s.build = .ok l → l.Faithful

/-- A layout that the step assigns takes every size that it accepts. -/
def Page.Command.AssignsFaithful : Page.Command → Prop
  | .setLayout spec => spec.Faithful
  | _ => True

/-- The step is a call that adds a graph, whatever it is given. -/
def Page.Command.IsAddition : Page.Command → Prop
  | .newGraph _ => True
  | .addGraph _ => True
  | _ => False

namespace Document

/-- The layout is sized for the graphs of the document. -/
def Agrees (d : Document) : Prop := d.layout.capacity = d.graphs.length

def RefusesGraph (d : Document) : Prop :=
  ∃ f, d.layout.resize (.int (d.graphs.length + 1 : Nat)) = .error f

theorem faithful_apply {l : Layout} (h : l.Faithful) (step : Layout.Command) :
    (l.apply step).state.Faithful := by
  cases step with
  | resize v =>
    rw [Layout.apply]
    split
    · rename_i hr
      exact h.resize hr
    · exact h
  | preferColumns b =>
    cases l with
    | grid g => exact trivial
    | custom c => exact h
  | tile index => exact h
  | tiles => exact h
  | tileLines index => exact h
  | describe => exact h

theorem faithful_step {d d' : Document} {c : Page.Command} {r : Except Fault Value}
    (hs : Step d c r d') (h : d.layout.Faithful) (hc : c.AssignsFaithful) : d'.layout.Faithful := by
  cases hs with
  | kept _ _ _ _ layout => rw [layout]; exact h
  | accepted _ resized => exact h.resize resized
  | refused _ _ _ _ layout => rw [layout]; exact h
  | assigned built resized => exact (hc _ built).resize resized
  | outside _ _ layout => rw [layout]; exact faithful_apply h _

/-- **What a step does to the agreement.**  A document whose layout is sized for its graphs stays so
exactly when the step is not a refused addition. -/
theorem agrees_step_iff {d d' : Document} {c : Page.Command} {r : Except Fault Value}
    (hs : Step d c r d') (hf : d.layout.Faithful) (hc : c.AssignsFaithful)
    (hout : ¬ c.ResizesOutside) (h : d.Agrees) :
    d'.Agrees ↔ ¬ (c.AddsGraph ∧ d.RefusesGraph) := by
  cases hs with
  | kept adds _ graphs _ layout =>
    have hd' : d'.Agrees := by
      rw [Agrees, graphs, layout]
      exact h
    exact iff_of_true hd' fun hr => adds hr.1
  | accepted adds resized graphs =>
    have hd' : d'.Agrees := by
      rw [Agrees, hf.capacity_resize resized, graphs, List.length_append, List.length_singleton]
    refine iff_of_true hd' ?_
    rintro ⟨-, f, hr⟩
    rw [resized] at hr
    exact absurd hr (by simp)
  | refused adds resized graphs _ layout =>
    have hd' : ¬ d'.Agrees := by
      intro hd'
      rw [Agrees, layout, graphs, List.length_append, List.length_singleton] at hd'
      have hd : d.layout.capacity = d.graphs.length := h
      omega
    exact iff_of_false hd' fun hn => hn ⟨adds, _, resized⟩
  | assigned built resized graphs =>
    have hd' : d'.Agrees := by
      rw [Agrees, (hc _ built).capacity_resize resized, graphs]
    exact iff_of_true hd' fun hr => hr.1
  | @outside step _ _ graphs _ layout =>
    have hstep := Page.Command.ne_resize hout
    have hcapacity : d'.layout.capacity = d.layout.capacity := by
      rcases Layout.apply_of_ne_resize (l := d.layout) hstep with hsame | ⟨g, b, hg, hturned⟩
      · rw [layout, hsame]
      · rw [layout, hturned, hg]
        rfl
    have hd' : d'.Agrees := by
      rw [Agrees, hcapacity, graphs]
      exact h
    exact iff_of_true hd' fun hr => hr.1

end Document

namespace Page

/-- The step adds a graph and the layout refuses it. -/
def Refuses (p : Page) (c : Page.Command) : Prop := c.AddsGraph ∧ p.document.RefusesGraph

/-- The graphs, the current graph, the layout and the scripts of a page are those of another. -/
structure Unchanged (p q : Page) : Prop where
  graphs : q.document.graphs = p.document.graphs
  current : q.document.current = p.document.current
  layout : q.document.layout = p.document.layout
  compile : ∀ t, (q.compile t).1 = (p.compile t).1

/-- **An addition that fails changes nothing, except when the layout refuses the graph.** -/
theorem unchanged_iff_not_refuses {p : Page} {c : Page.Command} {f : Fault} (hc : c.IsAddition)
    (hf : (p.run c).result = .error f) : p.Unchanged (p.run c).state ↔ ¬ p.Refuses c := by
  by_cases hadds : c.AddsGraph
  · have hstep := p.run_step c
    rw [hf] at hstep
    cases hstep with
    | kept adds => exact absurd hadds adds
    | outside => exact absurd hc not_false
    | refused _ resized graphs =>
      have hchanged : ¬ p.Unchanged (p.run c).state := by
        intro h
        have hlength := congrArg List.length (graphs.symm.trans h.graphs)
        rw [List.length_append, List.length_singleton] at hlength
        omega
      exact iff_of_false hchanged fun hn => hn ⟨hadds, _, resized⟩
  · have hsame : (p.run c).state = p := by
      cases c with
      | addGraph graph =>
        cases graph with
        | graph id => exact absurd trivial hadds
        | value v => rfl
        | axis id => rfl
        | plot q => rfl
      | newGraph is3d => exact absurd trivial hadds
      | _ => exact absurd hc not_false
    rw [hsame]
    exact iff_of_true ⟨rfl, rfl, rfl, fun _ => rfl⟩ fun hr => hadds hr.1

/-- What a refused addition leaves: one graph too many, which is the current one, and a page that
does not compile for any terminal. -/
theorem compile_of_refused {p : Page} {c : Page.Command} (h : p.Refuses c)
    (hne : p.document.graphs ≠ []) (hagrees : p.document.Agrees) :
    (∃ id, (p.run c).state.document.graphs = p.document.graphs ++ [id]) ∧
      (p.run c).state.document.current = p.document.graphs.length ∧
      (p.run c).state.document.layout = p.document.layout ∧
      ∀ t, ∃ f, ((p.run c).state.compile t).1 = .error f := by
  obtain ⟨hadds, f, hresized⟩ := h
  have hstep := p.run_step c
  revert hstep
  generalize (p.run c).result = r
  intro hstep
  cases hstep with
  | kept adds => exact absurd hadds adds
  | outside => exact absurd hadds not_false
  | assigned => exact absurd hadds not_false
  | accepted _ resized =>
    rw [hresized] at resized
    exact absurd resized (by simp)
  | refused _ resized graphs current layout =>
    refine ⟨⟨_, graphs⟩, current, layout, ?_⟩
    intro t
    have hpos := List.length_pos_iff.mpr hne
    have hlength : (p.run c).state.document.graphs.length = p.document.graphs.length + 1 := by
      rw [graphs, List.length_append, List.length_singleton]
    have hcapacity : (p.run c).state.document.layout.capacity ≠
        (p.run c).state.document.graphs.length := by
      have hp : p.document.layout.capacity = p.document.graphs.length := hagrees
      rw [layout, hlength]
      omega
    obtain ⟨g, hg⟩ := Document.plotLines_of_capacity_ne (w := (p.run c).state.workspace)
      (Document.ne_singleton_of_length (by omega)) hcapacity
    exact ⟨g, Document.compile_of_plotLines_error hg⟩

theorem agrees_new {spec : Option Layout.Spec} (hspec : ∀ s, spec = some s → s.Faithful) {p : Page}
    {ns : List Notice} (h : Page.new spec = .ok (p, ns)) :
    p.document.layout.Faithful ∧ p.document.Agrees := by
  obtain ⟨-, l, hd, hl⟩ := new_eq_ok h
  rw [hd]
  rcases hl with ⟨-, rfl⟩ | ⟨s, l', ns', hs, hbuilt, hr⟩
  · exact ⟨trivial, rfl⟩
  · have hl' := hspec s hs l' hbuilt
    exact ⟨hl'.resize hr, hl'.capacity_resize hr⟩

theorem faithful_runAll {p : Page} (h : p.document.layout.Faithful) {cs : List Page.Command}
    (hcs : ∀ c ∈ cs, c.AssignsFaithful) : (p.runAll cs).1.document.layout.Faithful := by
  induction cs generalizing p with
  | nil => exact h
  | cons c cs ih =>
    have hstep := Document.faithful_step (p.run_step c) h (hcs c List.mem_cons_self)
    exact ih hstep fun d hd => hcs d (List.mem_cons_of_mem c hd)

theorem runAll_snoc (p : Page) (cs : List Page.Command) (c : Page.Command) :
    (p.runAll (cs ++ [c])).1 = ((p.runAll cs).1.run c).state := p.runAll_append cs [c]

/-- The layout and the graphs agree throughout a run exactly when no addition of the run was
refused. -/
theorem agree_iff_not_refuses {p : Page} (hf : p.document.layout.Faithful) (h : p.document.Agrees)
    {cs : List Page.Command} (hcs : ∀ c ∈ cs, c.AssignsFaithful ∧ ¬ c.ResizesOutside) :
    (∀ ds, ds <+: cs → (p.runAll ds).1.document.Agrees) ↔
      ∀ ds c, ds ++ [c] <+: cs → ¬ (p.runAll ds).1.Refuses c := by
  have hstep : ∀ ds c, ds ++ [c] <+: cs → (p.runAll ds).1.document.Agrees →
      ((p.runAll (ds ++ [c])).1.document.Agrees ↔ ¬ (p.runAll ds).1.Refuses c) := by
    intro ds c hds hagrees
    have hmem : ∀ d ∈ ds, d ∈ cs := fun d hd => hds.subset (List.mem_append_left [c] hd)
    have hc := hcs c (hds.subset (List.mem_append_right ds List.mem_cons_self))
    have hfaithful := faithful_runAll hf fun d hd => (hcs d (hmem d hd)).1
    rw [runAll_snoc]
    exact Document.agrees_step_iff ((p.runAll ds).1.run_step c) hfaithful hc.1 hc.2 hagrees
  constructor
  · intro hall ds c hds
    have hbefore := hall ds ((List.prefix_append ds [c]).trans hds)
    exact (hstep ds c hds hbefore).mp (hall _ hds)
  · intro hnone ds
    induction ds using List.reverseRecOn with
    | nil => intro _; exact h
    | append_singleton ds c ih =>
      intro hds
      have hbefore := ih ((List.prefix_append ds [c]).trans hds)
      exact (hstep ds c hds hbefore).mpr (hnone ds c hds)

/-- **Additions and refusals.**  An addition that fails leaves the graphs, the current graph, the
layout and every script as they were exactly when it was not refused by the layout.  When every
layout takes the sizes that it accepts and nobody sizes it from outside, the layout is sized for the
graphs after every step exactly when no addition was refused; and the first one that is refused stays
on the page, which does not compile from there on. -/
theorem additions_fail_cleanly_iff {spec : Option Layout.Spec}
    (hspec : ∀ s, spec = some s → s.Faithful) {p : Page} {ns : List Notice}
    (hnew : Page.new spec = .ok (p, ns)) {cs : List Page.Command}
    (hcs : ∀ c ∈ cs, c.AssignsFaithful ∧ ¬ c.ResizesOutside) :
    (∀ (q : Page) (c : Page.Command) (f : Fault), c.IsAddition → (q.run c).result = .error f →
      (q.Unchanged (q.run c).state ↔ ¬ q.Refuses c)) ∧
    ((∀ ds, ds <+: cs → (p.runAll ds).1.document.Agrees) ↔
      ∀ ds c, ds ++ [c] <+: cs → ¬ (p.runAll ds).1.Refuses c) ∧
    ((∀ ds, ds <+: cs → (p.runAll ds).1.document.Agrees) → ∀ c, (p.runAll cs).1.Refuses c →
      let q := ((p.runAll cs).1.run c).state
      (∃ id, q.document.graphs = (p.runAll cs).1.document.graphs ++ [id]) ∧
        q.document.current = (p.runAll cs).1.document.graphs.length ∧
        q.document.layout = (p.runAll cs).1.document.layout ∧
        ∀ t, ∃ f, (q.compile t).1 = .error f) := by
  obtain ⟨hfaithful, hagrees⟩ := agrees_new hspec hnew
  refine ⟨?_, agree_iff_not_refuses hfaithful hagrees hcs, ?_⟩
  · intro q c f hc hf
    exact unchanged_iff_not_refuses hc hf
  · intro hall c hrefused
    exact compile_of_refused hrefused (graphs_ne_nil hnew cs) (hall cs List.prefix_rfl)

/-- A stack that holds one graph takes every size that it accepts. -/
theorem faithful_limited (limit : Int) : (Layout.Spec.limited limit).Faithful := by
  intro l hl
  obtain rfl := Except.ok.inj hl
  intro sizes n _
  rfl

/-- The stack of one graph refuses the second one, and the page keeps it all the same: what compiled
before does not compile any more. -/
theorem refused_graph_stays : ∃ p ns, Page.new (some (.limited 1)) = .ok (p, ns) ∧
    (Layout.Spec.limited 1).Faithful ∧
    (p.run (.newGraph false)).result = .error (.outside .layoutRefuses) ∧
    p.document.graphs = [0] ∧ (p.run (.newGraph false)).state.document.graphs = [0, 1] ∧
    p.document.current = 0 ∧ (p.run (.newGraph false)).state.document.current = 1 ∧
    (p.compile .standard).1 = .ok "quit\n" ∧
    ((p.run (.newGraph false)).state.compile .standard).1 = .error (.layoutMismatch "1" "2") ∧
    ¬ p.Unchanged (p.run (.newGraph false)).state ∧
    p.document.Agrees ∧ ¬ (p.run (.newGraph false)).state.document.Agrees := by
  let custom : Layout.Custom := Layout.Custom.stack fun n => decide (1 < n)
  let p : Page := ⟨⟨[], [.empty false]⟩,
    { Document.ofGraph 0 with layout := .custom { custom with sizes := [.int 1] } }⟩
  have hnew : Page.new (some (.limited 1)) = .ok (p, []) := rfl
  have hgraphs : (p.run (.newGraph false)).state.document.graphs = [0, 1] := rfl
  have hcapacity : (p.run (.newGraph false)).state.document.layout.capacity = 1 := rfl
  have hscript := toOption_eq_some_iff.mp
    (by decide +kernel : (p.compile .standard).1.toOption = some "quit\n")
  have hbroken : ((p.run (.newGraph false)).state.compile .standard).1 =
      .error (.layoutMismatch "1" "2") := by
    have hone := toOption_eq_some_iff.mp
      (by decide +kernel : (Value.int 1).plain.toOption = some "1")
    have hlength : (p.run (.newGraph false)).state.document.graphs.length = 2 := by rw [hgraphs]; rfl
    have hmismatch : (p.run (.newGraph false)).state.document.layout.capacity ≠
        (p.run (.newGraph false)).state.document.graphs.length := by
      rw [hcapacity, hlength]
      decide
    apply Document.compile_of_plotLines_error
    rw [Document.plotLines_of_mismatch (Document.ne_singleton_of_length (by omega)) hmismatch,
      hcapacity, hlength, hone]
    rfl
  refine ⟨p, [], hnew, faithful_limited 1, rfl, rfl, hgraphs, rfl, rfl, hscript, hbroken, ?_, rfl, ?_⟩
  · intro h
    exact absurd h.graphs (by rw [hgraphs]; decide)
  · intro h
    rw [Document.Agrees, hcapacity, hgraphs] at h
    exact absurd h (by decide)

/-- A stack of two graphs accepts the second graph and refuses the third. -/
theorem additions_fail_cleanly_iff_two_graphs :
    ∃ p ns, Page.new (some (.limited 2)) = .ok (p, ns) ∧
      let cs : List Page.Command := [.newGraph false, .addGraph (.value .null)]
      ((∀ ds, ds <+: cs → (p.runAll ds).1.document.Agrees) ↔
        ∀ ds c, ds ++ [c] <+: cs → ¬ (p.runAll ds).1.Refuses c) ∧
      (p.runAll cs).1.Unchanged ((p.runAll cs).1.run (.addGraph (.value .null))).state ∧
      ¬ (p.runAll cs).1.Unchanged ((p.runAll cs).1.run (.newGraph true)).state := by
  let custom : Layout.Custom := Layout.Custom.stack fun n => decide (2 < n)
  let p : Page := ⟨⟨[], [.empty false]⟩,
    { Document.ofGraph 0 with layout := .custom { custom with sizes := [.int 1] } }⟩
  have hnew : Page.new (some (.limited 2)) = .ok (p, []) := rfl
  refine ⟨p, [], hnew, ?_⟩
  intro cs
  have hcs : ∀ c ∈ cs, c.AssignsFaithful ∧ ¬ c.ResizesOutside := by
    intro c hc
    simp only [cs, List.mem_cons, List.not_mem_nil, or_false] at hc
    rcases hc with rfl | rfl <;> exact ⟨trivial, not_false⟩
  have hspec : ∀ s, some (Layout.Spec.limited 2) = some s → s.Faithful := by
    rintro s ⟨⟩
    exact faithful_limited 2
  obtain ⟨hunchanged, hagree, -⟩ := additions_fail_cleanly_iff hspec hnew hcs
  refine ⟨hagree, ?_, ?_⟩
  · exact (hunchanged _ (.addGraph (.value .null)) _ trivial rfl).mpr fun h => h.1
  · intro h
    exact (hunchanged _ (.newGraph true) _ trivial rfl).mp h ⟨trivial, _, rfl⟩

end Page

end PlotPage
