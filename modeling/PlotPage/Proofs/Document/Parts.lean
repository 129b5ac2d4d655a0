import PlotPage.Proofs.Document.Script
import PlotPage.Proofs.Graph.Sheet

/-!
# The parts of a page

A page has parts that are edited apart from each other: the commands before and after the settings,
the properties, the title, and each graph with its axes.  An edit reads and changes its own part
alone: what it answers and what it leaves there depend on what stands in the part (`actsOn`), and
the other parts stay as they are (`Edits.editsOnly`).

The axes are what makes this less than obvious: they lie in one workspace for all graphs, and where
a new axis is placed there depends on all edits before it.  What a graph is, apart from the places
of its axes, is its sheet.
-/

namespace PlotPage

/-- A part of a page.  A position that no graph has is no part of it, but it can be asked for. -/
inductive Part where
  | preInit
  | postInit
  | properties
  | title
  | graph (id : GraphId)
  | nowhere
  deriving DecidableEq

/-- What can stand in a part. -/
def Part.Content : Part → Type
  | .preInit => List Value
  | .postInit => List Value
  | .properties => Properties
  | .title => String
  | .graph _ => Sheet
  | .nowhere => Unit

namespace Page

variable {o : Holding} {p q r : Page} {c : Page.Command} {π ρ : Part}

/-- The part that a selected graph is. -/
def partOf : Except Fault GraphId → Part
  | .ok id => .graph id
  | .error _ => .nowhere

/-- The part at a given position; the current graph is at none. -/
def partAt (p : Page) : Value → Option Part
  | .null => none
  | index => some (partOf (p.document.graphAt index))

/-- The part that a step edits, if it edits a single one. -/
def part? (o : Holding) (p : Page) : Page.Command → Option Part
  | .addPlot _ index => p.partAt index
  | .axis _ index _ => p.partAt index
  | .graph index _ => some (((p.graphId? index).map Part.graph).getD .nowhere)
  | .workspace (.onGraph id _) => if id ∈ p.document.graphs then some (.graph id) else none
  | .workspace (.onAxis k _) =>
    if k < o.size ∧ o.owner k ∈ p.document.graphs then some (.graph (o.owner k)) else none
  | .setTitle _ => some .title
  | .title _ => some .title
  | .set _ _ => some .properties
  | .unset _ => some .properties
  | .properties _ => some .properties
  | .addPreInit _ => some .preInit
  | .addPostInit _ => some .postInit
  | _ => none

/-- A step stores only axes that belong to its graph. -/
def Stores (o : Holding) (p : Page) : Page.Command → Prop
  | .graph index step => ∀ id, p.graphId? index = some id → o.Stores id step
  | .workspace (.onGraph id step) => o.Stores id step
  | _ => True

/-- A step that edits a single part, and brings no axis into a second graph. -/
def Edits (o : Holding) (p : Page) (c : Page.Command) : Prop :=
  (∃ π, p.part? o c = some π) ∧ p.Stores o c

/-- The graphs of a page share no axis: each axis that is there belongs to one graph. -/
structure Separate (o : Holding) (p : Page) : Prop where
  size : o.size = p.workspace.axes.length
  graphs : ∀ id ∈ p.document.graphs, id < p.workspace.graphs.length
  owned : ∀ id ∈ p.document.graphs, ∀ e ∈ (p.workspace.graph id).axes,
    e.2 < o.size ∧ o.owner e.2 = id

theorem Separate.holds (h : p.Separate o) : o.Holds p.document.graphs p.workspace where
  size := Nat.le_of_eq h.size
  graphs := h.graphs
  owned id hid e he _ := (h.owned id hid e he).2
  placed id hid e he := h.size ▸ (h.owned id hid e he).1
  once id hid := by
    refine List.Pairwise.imp_of_mem (fun he _ _ hle => ?_)
      (List.pairwise_of_forall fun _ _ => trivial)
    exact absurd (h.owned id hid _ he).1 (Nat.not_lt.mpr hle)
  apart id hid id' hid' hne e he e' he' hee := by
    have howner := (h.owned id hid e he).2
    rw [hee, (h.owned id' hid' e' he').2] at howner
    exact hne howner.symm

/-- What edits leave alone: which graphs there are, and the layout. -/
structure SameOutline (p q : Page) : Prop where
  graphs : p.document.graphs = q.document.graphs
  current : p.document.current = q.document.current
  layout : p.document.layout = q.document.layout

theorem SameOutline.refl (p : Page) : SameOutline p p := ⟨rfl, rfl, rfl⟩

theorem SameOutline.symm (h : SameOutline p q) : SameOutline q p :=
  ⟨h.graphs.symm, h.current.symm, h.layout.symm⟩

theorem SameOutline.trans (h : SameOutline p q) (h' : SameOutline q r) : SameOutline p r :=
  ⟨h.graphs.trans h'.graphs, h.current.trans h'.current, h.layout.trans h'.layout⟩

/-- A page has all parts but the graphs of other pages. -/
def Has (p : Page) : Part → Prop
  | .graph id => id ∈ p.document.graphs
  | _ => True

/-- What a page has in a part. -/
def content (o : Holding) (p : Page) : (π : Part) → π.Content
  | .preInit => p.document.preInit
  | .postInit => p.document.postInit
  | .properties => p.document.properties
  | .title => p.document.title
  | .graph id => o.sheet p.workspace id
  | .nowhere => ()

/-! ### Which part a step edits -/

theorem graphAt_congr (h : p.document.graphs = q.document.graphs) {index : Value}
    (hindex : index ≠ .null) : p.document.graphAt index = q.document.graphAt index := by
  obtain ⟨w, ⟨graphs, current, title, pre, post, properties, layout⟩⟩ := p
  obtain ⟨w', ⟨graphs', current', title', pre', post', properties', layout'⟩⟩ := q
  obtain rfl : graphs = graphs' := h
  cases index with
  | null => exact absurd rfl hindex
  | _ => rfl

theorem graphId?_congr (h : p.document.graphs = q.document.graphs) (index : Int) :
    p.graphId? index = q.graphId? index := by
  simp only [graphId?, h]

theorem partAt_eq_some_iff {index : Value} : p.partAt index = some π ↔
    index ≠ .null ∧ partOf (p.document.graphAt index) = π := by
  cases index <;> simp [partAt]

theorem partAt_congr (h : p.document.graphs = q.document.graphs) (index : Value) :
    p.partAt index = q.partAt index := by
  refine Option.ext fun π => ?_
  rw [partAt_eq_some_iff, partAt_eq_some_iff]
  exact and_congr_right fun hindex => by rw [graphAt_congr h hindex]

/-- Which part a step edits depends on the graphs of the page alone. -/
theorem part?_congr (h : p.document.graphs = q.document.graphs) (c : Page.Command) :
    p.part? o c = q.part? o c := by
  cases c with
  | addPlot plot index => exact partAt_congr h index
  | axis name index step => exact partAt_congr h index
  | graph index step => simp only [part?, graphId?_congr h index]
  | workspace step =>
    cases step with
    | onGraph id step => simp only [part?, h]
    | onAxis k step => simp only [part?, h]
    | _ => rfl
  | _ => rfl

theorem edits_congr (h : p.document.graphs = q.document.graphs) (hc : p.Edits o c) :
    q.Edits o c := by
  obtain ⟨⟨π, hπ⟩, hstores⟩ := hc
  refine ⟨⟨π, (part?_congr h c).symm.trans hπ⟩, ?_⟩
  cases c with
  | graph index step => exact fun id hid => hstores id ((graphId?_congr h index).trans hid)
  | workspace step =>
    cases step with
    | onGraph id step => exact hstores
    | _ => exact trivial
  | _ => exact trivial

theorem mem_of_graphAt {d : Document} {index : Value} {id : GraphId} (hindex : index ≠ .null)
    (h : d.graphAt index = .ok id) : id ∈ d.graphs := by
  have hget : ∀ i < d.graphs.length, d.graphs.getD i 0 ∈ d.graphs := by
    intro i hi
    rw [List.getD_eq_getElem?_getD, List.getElem?_eq_getElem hi, Option.getD_some]
    exact List.getElem_mem hi
  unfold Document.graphAt at h
  split at h
  · exact absurd rfl hindex
  · split at h
    · cases h
    · next s hs =>
      split at h
      · next hrange =>
        cases s with
        | bool b =>
          obtain rfl := Except.ok.inj h
          exact hget _ (of_decide_eq_true hrange)
        | int i =>
          obtain rfl := Except.ok.inj h
          have hi : 0 ≤ i ∧ i < d.graphs.length := by
            simpa [Document.graphAt.inRange] using hrange
          exact hget _ (by omega)
        | real x => cases h
      · simp only [bind_eq_ok_iff] at h
        obtain ⟨_, _, h⟩ := h
        exact absurd h throw_ne_ok

theorem mem_of_graphId? {index : Int} {id : GraphId} (h : p.graphId? index = some id) :
    id ∈ p.document.graphs := by
  simp only [graphId?] at h
  generalize (if index < 0 then index + (p.document.graphs.length : Int) else index) = i at h
  by_cases hi : 0 ≤ i
  · rw [if_pos hi] at h
    exact List.mem_of_getElem? h
  · rw [if_neg hi] at h
    cases h

/-! ### One edit -/

/-- A page has been changed in one part only. -/
structure EditsOnly (o : Holding) (π : Part) (p p' : Page) : Prop where
  outline : SameOutline p' p
  others : ∀ ρ, p.Has ρ → ρ ≠ π → p'.content o ρ = p.content o ρ
  holds : o.Holds p'.document.graphs p'.workspace

theorem EditsOnly.refl (h : o.Holds p.document.graphs p.workspace) : EditsOnly o π p p :=
  ⟨.refl p, fun _ _ _ => rfl, h⟩

/-- A plot that is added at a position is added to the graph there; the answer is the position. -/
theorem run_addPlot {plot : Plot.Argument} {index : Value} {id : GraphId} (hindex : index ≠ .null)
    (hat : p.document.graphAt index = .ok id) :
    (p.run (.addPlot plot index)).result =
        (p.workspace.runGraph id (.addPlot plot)).result.map (fun _ => index) ∧
      (p.run (.addPlot plot index)).state =
        { p with workspace := (p.workspace.runGraph id (.addPlot plot)).state } := by
  simp only [run, addPlot, Workspace.runGraph]
  cases plot.build with
  | error f => exact ⟨rfl, rfl⟩
  | ok operand =>
    simp only [ok_bind, hat]
    cases p.workspace.addPlot id operand with
    | error f => exact ⟨rfl, rfl⟩
    | ok w =>
      cases index with
      | null => exact absurd rfl hindex
      | _ => exact ⟨rfl, rfl⟩

theorem map_answer (r : Except Fault Value) : r.map (fun v => v) = r := by
  cases r <;> rfl

theorem isGraph_of_workspace {step : Workspace.Command} (h : p.part? o (.workspace step) = some π) :
    ∃ id, π = .graph id := by
  cases step with
  | onGraph id step => exact ⟨id, (Option.some.inj (Option.ite_none_right_eq_some.mp h).2).symm⟩
  | onAxis k step => exact ⟨_, (Option.some.inj (Option.ite_none_right_eq_some.mp h).2).symm⟩
  | _ => cases h

theorem graphAt_of_partOf {d : Document} {index : Value} {id : GraphId}
    (h : partOf (d.graphAt index) = .graph id) : d.graphAt index = .ok id := by
  cases hat : d.graphAt index with
  | error f =>
    rw [hat] at h
    cases h
  | ok id' =>
    rw [hat] at h
    rw [Part.graph.inj h]

theorem graphId?_of_part? {index : Int} {step : Graph.Command} {id : GraphId}
    (h : p.part? o (.graph index step) = some (.graph id)) : p.graphId? index = some id := by
  cases hg : p.graphId? index with
  | none => simp [part?, hg] at h
  | some id' => simpa [part?, hg] using h

/-- Only the graphs of the page are edited. -/
theorem mem_of_part? {id : GraphId} (h : p.part? o c = some (.graph id)) :
    id ∈ p.document.graphs := by
  cases c with
  | addPlot plot index =>
    obtain ⟨hindex, hid⟩ := partAt_eq_some_iff.mp h
    exact mem_of_graphAt hindex (graphAt_of_partOf hid)
  | axis name index step =>
    obtain ⟨hindex, hid⟩ := partAt_eq_some_iff.mp h
    exact mem_of_graphAt hindex (graphAt_of_partOf hid)
  | graph index step => exact mem_of_graphId? (graphId?_of_part? h)
  | workspace step =>
    cases step with
    | onGraph id' step =>
      obtain ⟨hid, h⟩ := Option.ite_none_right_eq_some.mp h
      exact Part.graph.inj (Option.some.inj h) ▸ hid
    | onAxis k step =>
      obtain ⟨⟨-, hid⟩, h⟩ := Option.ite_none_right_eq_some.mp h
      exact Part.graph.inj (Option.some.inj h) ▸ hid
    | _ => cases h
  | _ => cases h

theorem has_of_part? (h : p.part? o c = some π) : p.Has π := by
  cases π with
  | graph id => exact mem_of_part? h
  | _ => trivial

/-- A step at a position that no graph has fails, and changes nothing. -/
theorem exists_fault (hpart : p.part? o c = some .nowhere) : ∃ f, ∀ q : Page,
    p.document.graphs = q.document.graphs → (q.run c).result = .error f ∧ (q.run c).state = q := by
  have hat : ∀ {index : Value}, partOf (p.document.graphAt index) = .nowhere →
      ∃ f, p.document.graphAt index = .error f := by
    intro index h
    cases hat : p.document.graphAt index with
    | error f => exact ⟨f, rfl⟩
    | ok id' =>
      rw [hat] at h
      cases h
  cases c with
  | addPlot plot index =>
    obtain ⟨hindex, hnone⟩ := partAt_eq_some_iff.mp hpart
    obtain ⟨f, hf⟩ := hat hnone
    cases hbuild : plot.build with
    | error g =>
      refine ⟨g, fun q _ => ?_⟩
      simp only [run, addPlot, hbuild]
      exact ⟨rfl, rfl⟩
    | ok operand =>
      refine ⟨f, fun q hq => ?_⟩
      simp only [run, addPlot, hbuild, ok_bind, (graphAt_congr hq hindex).symm.trans hf]
      exact ⟨rfl, rfl⟩
  | axis name index step =>
    obtain ⟨hindex, hnone⟩ := partAt_eq_some_iff.mp hpart
    obtain ⟨f, hf⟩ := hat hnone
    refine ⟨f, fun q hq => ?_⟩
    simp only [run, (graphAt_congr hq hindex).symm.trans hf]
    exact ⟨trivial, trivial⟩
  | graph index step =>
    have hnone : p.graphId? index = none := by
      cases hg : p.graphId? index with
      | none => rfl
      | some id' => simp [part?, hg] at hpart
    refine ⟨.outside .noSuchGraph, fun q hq => ?_⟩
    simp only [run, (graphId?_congr hq index).symm.trans hnone]
    exact ⟨trivial, trivial⟩
  | workspace step =>
    obtain ⟨id, hid⟩ := isGraph_of_workspace hpart
    cases hid
  | _ => cases hpart

/-- A step acts on a part by a function of what the page has in the part, and on nothing else. -/
def ActsOn (o : Holding) (p : Page) (π : Part) (c : Page.Command) : Prop :=
  ∃ e : π.Content → Except Fault Value × π.Content, ∀ q : Page,
    p.document.graphs = q.document.graphs → o.Holds q.document.graphs q.workspace →
      (q.run c).result = (e (q.content o π)).1 ∧
      (q.run c).state.content o π = (e (q.content o π)).2 ∧ EditsOnly o π q (q.run c).state

/-- A step that is a step on the sheet of a graph acts on the graph. -/
theorem actsOn_sheet {id : GraphId} (e : Sheet → Except Fault Value × Sheet)
    (he : ∀ q : Page, p.document.graphs = q.document.graphs →
      o.Holds q.document.graphs q.workspace → ∃ w,
        (q.run c).result = (e (o.sheet q.workspace id)).1 ∧
        (q.run c).state = { q with workspace := w } ∧
        o.Advances q.document.graphs id q.workspace w (e (o.sheet q.workspace id)).2) :
    ActsOn o p (.graph id) c := by
  refine ⟨e, fun q hq hholds => ?_⟩
  obtain ⟨w, hresult, hstate, hadvances⟩ := he q hq hholds
  rw [hresult, hstate]
  refine ⟨rfl, hadvances.sheet, ⟨rfl, rfl, rfl⟩, fun ρ hρ hne => ?_, hadvances.holds⟩
  cases ρ with
  | graph x => exact hadvances.others x hρ fun hx => hne (hx ▸ rfl)
  | _ => rfl

theorem actsOn_runGraph {id : GraphId} (step : Graph.Command) (hid : id ∈ p.document.graphs)
    (hstores : o.Stores id step) (answer : Value → Value)
    (hrun : ∀ q : Page, p.document.graphs = q.document.graphs →
      (q.run c).result = (q.workspace.runGraph id step).result.map answer ∧
      (q.run c).state = { q with workspace := (q.workspace.runGraph id step).state }) :
    ActsOn o p (.graph id) c := by
  refine actsOn_sheet (fun s => ((s.run step).1.map answer, (s.run step).2)) fun q hq hholds => ?_
  obtain ⟨hresult, hstate⟩ := hrun q hq
  obtain ⟨hsheet, hadvances⟩ := Holding.runGraph_advances hholds (hq ▸ hid) hstores
  exact ⟨_, by rw [hresult, hsheet], hstate, hadvances⟩

theorem actsOn_graph (hstores : p.Stores o c) {id : GraphId}
    (hpart : p.part? o c = some (.graph id)) : ActsOn o p (.graph id) c := by
  have hid := mem_of_part? hpart
  cases c with
  | addPlot plot index =>
    obtain ⟨hindex, hat⟩ := partAt_eq_some_iff.mp hpart
    refine actsOn_runGraph (.addPlot plot) hid trivial (fun _ => index) fun q hq => ?_
    exact run_addPlot hindex ((graphAt_congr hq hindex).symm.trans (graphAt_of_partOf hat))
  | axis name index step =>
    obtain ⟨hindex, hat⟩ := partAt_eq_some_iff.mp hpart
    refine actsOn_runGraph (.axis name step) hid trivial (fun v => v) fun q hq => ?_
    simp only [run, (graphAt_congr hq hindex).symm.trans (graphAt_of_partOf hat), map_answer]
    exact ⟨rfl, rfl⟩
  | graph index step =>
    have hat := graphId?_of_part? hpart
    refine actsOn_runGraph step hid (hstores id hat) (fun v => v) fun q hq => ?_
    simp only [run, (graphId?_congr hq index).symm.trans hat, map_answer]
    exact ⟨rfl, rfl⟩
  | workspace step =>
    cases step with
    | onGraph id' step =>
      obtain ⟨-, hpart⟩ := Option.ite_none_right_eq_some.mp hpart
      obtain rfl := Part.graph.inj (Option.some.inj hpart)
      refine actsOn_runGraph step hid hstores (fun v => v) fun q _ => ?_
      rw [map_answer]
      exact ⟨rfl, rfl⟩
    | onAxis k step =>
      obtain ⟨⟨hsize, -⟩, hpart⟩ := Option.ite_none_right_eq_some.mp hpart
      obtain rfl := Part.graph.inj (Option.some.inj hpart)
      refine actsOn_sheet (fun s => s.runHeld k step) fun q _ hholds => ?_
      obtain ⟨hresult, hadvances⟩ := Holding.runAxis_advances hholds hsize rfl step
      exact ⟨_, hresult, rfl, hadvances⟩
    | _ => cases hpart
  | _ => cases hpart

theorem actsOn_nowhere (hpart : p.part? o c = some .nowhere) : ActsOn o p .nowhere c := by
  obtain ⟨f, hf⟩ := exists_fault hpart
  refine ⟨fun _ => (.error f, ()), fun q hq hholds => ?_⟩
  obtain ⟨hresult, hstate⟩ := hf q hq
  rw [hresult, hstate]
  exact ⟨rfl, rfl, .refl hholds⟩

/-- A page with something else in a part that is no graph. -/
def withContent (p : Page) : (π : Part) → π.Content → Page
  | .preInit, preInit => { p with document := { p.document with preInit } }
  | .postInit, postInit => { p with document := { p.document with postInit } }
  | .properties, q => p.withProperties q
  | .title, title => { p with document := { p.document with title } }
  | .graph _, _ => p
  | .nowhere, _ => p

theorem content_withContent (hπ : ∀ id, π ≠ .graph id) (x : π.Content) :
    (p.withContent π x).content o π = x := by
  cases π with
  | graph id => exact absurd rfl (hπ id)
  | _ => rfl

theorem editsOnly_withContent (h : o.Holds p.document.graphs p.workspace) (x : π.Content) :
    EditsOnly o π p (p.withContent π x) := by
  cases π with
  | graph id => exact .refl h
  | nowhere => exact .refl h
  | _ =>
    refine ⟨⟨rfl, rfl, rfl⟩, fun ρ _ hne => ?_, h⟩
    cases ρ <;> first | rfl | exact absurd rfl hne

/-- A step that only puts something else in a part that is no graph. -/
theorem actsOn_withContent (hπ : ∀ id, π ≠ .graph id)
    (e : π.Content → Except Fault Value × π.Content)
    (he : ∀ q : Page, (q.run c).result = (e (q.content o π)).1 ∧
      (q.run c).state = q.withContent π (e (q.content o π)).2) : ActsOn o p π c := by
  refine ⟨e, fun q _ hholds => ?_⟩
  obtain ⟨hresult, hstate⟩ := he q
  rw [hresult, hstate]
  exact ⟨rfl, content_withContent hπ _, editsOnly_withContent hholds _⟩

/-- The edit of a part that is tried first, and not made if it fails. -/
def attempt {α : Type} (x : α) (e : Except Fault (Value × α)) : Except Fault Value × α :=
  match e with
  | .ok (answer, y) => (.ok answer, y)
  | .error f => (.error f, x)

theorem actsOn_ofEdit (hπ : ∀ id, π ≠ .graph id)
    (e : π.Content → Except Fault (Value × π.Content))
    (hrun : ∀ q : Page, q.run c =
      q.ofEdit ((e (q.content o π)).map fun a => (a.1, q.withContent π a.2))) :
    ActsOn o p π c := by
  refine actsOn_withContent hπ (fun x => attempt x (e x)) fun q => ?_
  rw [hrun q]
  cases e (q.content o π) with
  | ok a => exact ⟨rfl, rfl⟩
  | error f =>
    refine ⟨rfl, ?_⟩
    cases π <;> rfl

theorem isGraph_of_partAt {index : Value} (h : p.partAt index = some π) :
    π = .nowhere ∨ ∃ id, π = .graph id := by
  obtain ⟨-, rfl⟩ := partAt_eq_some_iff.mp h
  cases p.document.graphAt index with
  | ok id => exact Or.inr ⟨id, rfl⟩
  | error f => exact Or.inl rfl

/-- **Every edit acts on its own part alone.** -/
theorem actsOn (hpart : p.part? o c = some π) (hstores : p.Stores o c) : ActsOn o p π c := by
  by_cases hgraph : π = .nowhere ∨ ∃ id, π = .graph id
  · rcases hgraph with rfl | ⟨id, rfl⟩
    · exact actsOn_nowhere hpart
    · exact actsOn_graph hstores hpart
  have hπ : ∀ id, π ≠ .graph id := fun id h => hgraph (Or.inr ⟨id, h⟩)
  cases c with
  | addPlot plot index => exact absurd (isGraph_of_partAt hpart) hgraph
  | axis name index step => exact absurd (isGraph_of_partAt hpart) hgraph
  | graph index step =>
    obtain rfl := Option.some.inj hpart
    cases hid : p.graphId? index with
    | none => exact absurd (Or.inl (by rw [hid]; rfl)) hgraph
    | some id => exact absurd (Or.inr ⟨id, by rw [hid]; rfl⟩) hgraph
  | workspace step => exact absurd (Or.inr (isGraph_of_workspace hpart)) hgraph
  | setTitle title =>
    obtain rfl := Option.some.inj hpart
    refine actsOn_ofEdit hπ (fun _ => (Document.checkTitle title).map fun t => (.null, t))
      fun q => ?_
    simp only [run, setTitle]
    cases Document.checkTitle title <;> rfl
  | title assigned =>
    obtain rfl := Option.some.inj hpart
    cases assigned with
    | none => exact actsOn_withContent hπ (fun s => (.ok (.text s), s)) fun q => ⟨rfl, rfl⟩
    | some title =>
      refine actsOn_ofEdit hπ
        (fun _ => (Document.checkTitle title).map fun t => (.text t, t)) fun q => ?_
      simp only [run, setTitle]
      cases Document.checkTitle title <;> rfl
  | set key value =>
    obtain rfl := Option.some.inj hpart
    refine actsOn_ofEdit hπ
      (fun x => (Properties.set x key value).map fun y => (.null, y)) fun q => ?_
    simp only [run]
    show _ = q.ofEdit (((q.document.properties.set key value).map _).map _)
    cases q.document.properties.set key value <;> rfl
  | unset key =>
    obtain rfl := Option.some.inj hpart
    refine actsOn_ofEdit hπ (fun x => (Properties.unset x key).map fun y => (.null, y)) fun q => ?_
    simp only [run]
    show _ = q.ofEdit (((q.document.properties.unset key).map _).map _)
    cases q.document.properties.unset key <;> rfl
  | properties step =>
    obtain rfl := Option.some.inj hpart
    refine actsOn_ofEdit hπ (fun x => Properties.run x step) fun q => ?_
    simp only [run]
    show _ = q.ofEdit ((q.document.properties.run step).map _)
    cases q.document.properties.run step <;> rfl
  | addPreInit command =>
    obtain rfl := Option.some.inj hpart
    let e : List Value → Except Fault Value × List Value := fun l => (.ok .null, l ++ [command])
    exact actsOn_withContent hπ e fun q => ⟨rfl, rfl⟩
  | addPostInit command =>
    obtain rfl := Option.some.inj hpart
    let e : List Value → Except Fault Value × List Value := fun l => (.ok .null, l ++ [command])
    exact actsOn_withContent hπ e fun q => ⟨rfl, rfl⟩
  | _ => cases hpart

/-- An edit changes the page in one part only. -/
theorem Edits.editsOnly (hc : p.Edits o c) (h : o.Holds p.document.graphs p.workspace) :
    ∃ π, p.part? o c = some π ∧ EditsOnly o π p (p.run c).state := by
  obtain ⟨⟨π, hπ⟩, hstores⟩ := hc
  obtain ⟨e, he⟩ := actsOn hπ hstores
  exact ⟨π, hπ, (he p rfl h).2.2⟩

end Page

end PlotPage
