import PlotPage.Document.Desk
import PlotPage.Proofs.Document.Capacity
import PlotPage.Proofs.Layout.Tiling
import PlotPage.Proofs.Number.Range

/-!
# When a page compiles

Compiling fails for three reasons only: the layout is sized for another number of graphs
(`Document.Diverges`), a title or a style that is no text cannot be written
(`Workspace.CanWrite`), or a command of the caller is no text.  They are found in this order, and
once the first is excluded nothing goes wrong with a grid any more, provided that the number of
graphs has a double: the sides of the grid are divisors of that number, so they have doubles too
(`Document.exists_plotLines_grid`).

All this rests on what is true of a grid in use, however it came to be as it is.  Documents that
work side by side may hold the same grid and size it for each other, and anybody who has it in hand
may size it for no document at all.  Its sides stay positive and their product stays its capacity
(`Desk.Sound.run`), which is all that is needed (`Desk.compile_fails_iff`).
-/

namespace PlotPage

/-- The value is a text. -/
def Value.IsText (v : Value) : Prop := ∃ s, v = .text s

/-- The title and the style of the plot are texts, if it has them. -/
def Plot.HasTextLabels (p : Plot) : Prop :=
  ∀ l, p.title = some l ∨ p.style = some l → l.value.IsText

theorem Plot.HasTextLabels.isWritable {p : Plot} (h : p.HasTextLabels) : p.isWritable = true := by
  have hlabel : ∀ {label : Option Label}, (∀ l, label = some l → l.value.IsText) →
      label.all Label.isWritable = true := by
    intro label hl
    cases label with
    | none => rfl
    | some l =>
      obtain ⟨s, hs⟩ := hl l rfl
      show l.isWritable = true
      rw [Label.isWritable, hs]
      rfl
  exact Bool.and_eq_true_iff.mpr
    ⟨hlabel fun l hl => h l (Or.inl hl), hlabel fun l hl => h l (Or.inr hl)⟩

/-- Texts can always be written. -/
theorem Workspace.canWrite_of_texts {w : Workspace} {ids : List GraphId}
    (h : ∀ id ∈ ids, ∀ p ∈ (w.graph id).plots, p.HasTextLabels) : w.CanWrite ids :=
  fun id hid => List.all_eq_true.mpr fun p hp => (h id hid p hp).isWritable

-- a list with a long integer is taken for a title, and cannot be written
example : (Plot.checkTitle (.list [.int (10 ^ 4300)])).toOption.isSome = true ∧
    Label.isWritable ⟨.list [.int (10 ^ 4300)]⟩ = false := by
  decide +kernel

/-! ### Layouts in use -/

namespace Layout

/-- A layout that can be in use: nothing is known of one that the caller brings along. -/
def Sound : Layout → Prop
  | .grid g => g.Sound
  | .custom _ => True

theorem sound_of_build {spec : Spec} {l : Layout} (h : spec.build = .ok l) : l.Sound := by
  cases spec with
  | grid rows columns prefersColumns =>
    simp only [Spec.build, bind_eq_ok_iff, pure_eq_ok_iff] at h
    obtain ⟨g, hg, rfl⟩ := h
    exact Grid.sound_of_ofSides hg
  | custom c =>
    obtain rfl := Except.ok.inj h
    trivial
  | other value => exact absurd h (by simp [Spec.build])

theorem sound_of_resize {l l' : Layout} {v : Value} {ns : List Notice}
    (h : l.resize v = .ok (l', ns)) : l'.Sound := by
  cases l with
  | grid g =>
    obtain ⟨n, hn, -, rfl⟩ := resize_grid h
    exact Grid.sound_resize g hn
  | custom c =>
    simp only [resize, bind_eq_ok_iff, pure_eq_ok_iff, Prod.mk.injEq] at h
    obtain ⟨-, -, rfl, -⟩ := h
    trivial

theorem Sound.apply {l : Layout} (h : l.Sound) (c : Command) : (l.apply c).state.Sound := by
  cases l with
  | grid g =>
    obtain ⟨g', hg', hsound⟩ := Grid.Sound.apply h c
    rw [hg']
    exact hsound
  | custom k =>
    cases c with
    | resize v =>
      rw [Layout.apply]
      split
      · rename_i hr
        exact sound_of_resize hr
      · exact h
    | _ => exact h

end Layout

namespace Document

/-- A step of a document leaves it with a layout that can be in use. -/
theorem Step.sound {d d' : Document} {c : Page.Command} {r : Except Fault Value}
    (hs : Step d c r d') (h : d.layout.Sound) : d'.layout.Sound := by
  cases hs with
  | kept _ _ _ _ layout => rw [layout]; exact h
  | accepted _ resized => exact Layout.sound_of_resize resized
  | refused _ _ _ _ layout => rw [layout]; exact h
  | assigned _ resized => exact Layout.sound_of_resize resized
  | outside _ _ layout => rw [layout]; exact h.apply _

theorem Step.graphs_ne_nil {d d' : Document} {c : Page.Command} {r : Except Fault Value}
    (hs : Step d c r d') (h : d.graphs ≠ []) : d'.graphs ≠ [] := by
  obtain ⟨later, hlater⟩ := hs.graphs_grow
  rw [← hlater]
  exact List.append_ne_nil_of_left_ne_nil h later

/-! ### The lines of the graphs -/

/-- Several graphs, and a layout that is sized for another number of them. -/
def Diverges (d : Document) : Prop := 2 ≤ d.graphs.length ∧ d.layout.capacity ≠ d.graphs.length

instance (d : Document) : Decidable d.Diverges := inferInstanceAs (Decidable (_ ∧ _))

/-- How a document refuses a layout that is sized for another number of graphs.  Both numbers are
named, and the capacity may be too long to be written. -/
def mismatch (capacity : Int) (count : Nat) : Fault :=
  if Decimal.size capacity.natAbs ≤ 4300 then .layoutMismatch (toString capacity) (toString count)
  else .outside .longInteger

theorem kind_mismatch_eq_script_iff {capacity : Int} {count : Nat} :
    (mismatch capacity count).kind = .script ↔ Decimal.size capacity.natAbs ≤ 4300 := by
  rw [mismatch]
  split_ifs with h
  · exact iff_of_true rfl h
  · exact iff_of_false (by decide) h

theorem plotLines_of_diverges (w : Workspace) {d : Document} (h : d.Diverges) :
    (plotLines w d).1 = .error (mismatch d.layout.capacity d.graphs.length) := by
  have hone : d.graphs.length ≠ 1 := by
    have htwo := h.1
    omega
  rw [plotLines_of_mismatch (ne_singleton_of_length hone) h.2, Value.plain_int, mismatch]
  split_ifs <;> rfl

/-- **A grid of the right number always has its tiles.**  Its sides are at most the number of
graphs, so they have doubles if that number has one.  What is left is whether the graphs can be
written. -/
theorem exists_plotLines_grid (w : Workspace) {d : Document} {g : Grid} (hne : d.graphs ≠ [])
    (hlayout : d.layout = .grid g) (hsound : g.Sound)
    (hcount : (Double.ofInt d.graphs.length).isFinite = true) (h : ¬ d.Diverges) :
    ∃ plots, (plotLines w d).1 =
      if w.CanWrite d.graphs then .ok plots else .error (.outside .longInteger) := by
  by_cases hone : d.graphs.length = 1
  · obtain ⟨id, hid⟩ := List.length_eq_one_iff.mp hone
    refine ⟨w.graphLines id, ?_⟩
    rw [plotLines_single hid, Graph.written]
    simp only [Workspace.CanWrite, hid, List.forall_mem_singleton]
  · have hpos := List.length_pos_iff.mpr hne
    have htwo : 2 ≤ d.graphs.length := by omega
    have hcapacity : g.capacity = d.graphs.length := by
      have hcast : d.layout.capacity = d.graphs.length := not_not.mp fun hc => h ⟨htwo, hc⟩
      rw [hlayout] at hcast
      exact Int.ofNat.inj hcast
    have hmul : g.rows * g.columns = d.graphs.length := hsound.full.trans hcapacity
    have hdrawable : g.Drawable := by
      constructor
      · exact Double.isFinite_ofInt_of_le (hmul ▸ Nat.le_mul_of_pos_right _ hsound.columns) hcount
      · exact Double.isFinite_ofInt_of_le (hmul ▸ Nat.le_mul_of_pos_left _ hsound.rows) hcount
    refine ⟨d.header :: (blocks w (gridPairs g) d.graphs ++ ["unset multiplot"]), ?_⟩
    rw [plotLines_grid w hlayout ⟨hsound.full, hcapacity⟩ htwo, if_pos hdrawable]

/-! ### The commands of the caller -/

/-- The commands before and after the settings. -/
def hooks (d : Document) : List Value := d.preInit ++ d.postInit

theorem exists_texts_iff {vs : List Value} :
    (∃ ss : List String, vs = ss.map .text) ↔ ∀ v ∈ vs, v.IsText := by
  have hrange : vs ∈ Set.range (List.map Value.text) ↔ ∀ v ∈ vs, v ∈ Set.range Value.text := by
    rw [Set.range_list_map]
    rfl
  simp only [Set.mem_range, eq_comm] at hrange
  exact hrange

/-- Once the lines of the graphs can be made, only the commands of the caller matter. -/
theorem exists_script_iff {w : Workspace} {d : Document} {plots : List String}
    (h : (plotLines w d).1 = .ok plots) (t : Terminal) :
    (∃ script, (compile w d t).1 = .ok script) ↔ ∀ v ∈ d.hooks, v.IsText := by
  simp only [compile_eq_ok_iff, hooks, List.forall_mem_append, ← exists_texts_iff]
  constructor
  · rintro ⟨script, pre, post, -, hpre, hpost, -, -⟩
    exact ⟨⟨pre, hpre⟩, post, hpost⟩
  · rintro ⟨⟨pre, hpre⟩, post, hpost⟩
    exact ⟨_, pre, post, plots, hpre, hpost, h, rfl⟩

theorem compile_eq_notText {w : Workspace} {d : Document} {plots : List String}
    (h : (plotLines w d).1 = .ok plots) {t : Terminal} {f : Fault}
    (hf : (compile w d t).1 = .error f) : f = .outside .notText := by
  rcases compile_eq_error hf with hplots | htext
  · rw [h] at hplots
    exact absurd hplots (by simp)
  · exact htext

theorem exists_type_fault_iff {w : Workspace} {d : Document} {plots : List String}
    (h : (plotLines w d).1 = .ok plots) (t : Terminal) :
    (∃ f, (compile w d t).1 = .error f ∧ f.kind = .type) ↔ ∃ v ∈ d.hooks, ¬ v.IsText := by
  have hok := exists_script_iff h t
  constructor
  · rintro ⟨f, hf, -⟩
    by_contra hall
    push Not at hall
    obtain ⟨script, hscript⟩ := hok.mpr hall
    exact absurd (hf.symm.trans hscript) (by simp)
  · rintro ⟨v, hv, hno⟩
    cases hr : (compile w d t).1 with
    | ok script => exact absurd (hok.mp ⟨script, hr⟩ v hv) hno
    | error f =>
      obtain rfl := compile_eq_notText h hr
      exact ⟨_, rfl, rfl⟩

/-- A document whose layout diverges does not compile, and its commands are not even looked at. -/
theorem compile_of_diverges (w : Workspace) {d : Document} (h : d.Diverges) (t : Terminal) :
    (compile w d t).1 = .error (mismatch d.layout.capacity d.graphs.length) :=
  compile_of_plotLines_error (plotLines_of_diverges w h)

/-- A document with a graph that cannot be written does not compile either. -/
theorem compile_of_not_canWrite {w : Workspace} {d : Document} {plots : List String}
    (h : (plotLines w d).1 =
      if w.CanWrite d.graphs then .ok plots else .error (.outside .longInteger))
    (hw : ¬ w.CanWrite d.graphs) (t : Terminal) :
    (compile w d t).1 = .error (.outside .longInteger) := by
  rw [if_neg hw] at h
  exact compile_of_plotLines_error h

theorem exists_script_fault_iff {w : Workspace} {d : Document}
    (h : ¬ d.Diverges → ∃ plots, (plotLines w d).1 =
      if w.CanWrite d.graphs then .ok plots else .error (.outside .longInteger)) (t : Terminal) :
    (∃ f, (compile w d t).1 = .error f ∧ f.kind = .script) ↔
      d.Diverges ∧ Decimal.size d.layout.capacity.natAbs ≤ 4300 := by
  by_cases hd : d.Diverges
  · rw [compile_of_diverges w hd t]
    constructor
    · rintro ⟨f, hf, hkind⟩
      obtain rfl := Except.error.inj hf
      exact ⟨hd, kind_mismatch_eq_script_iff.mp hkind⟩
    · rintro ⟨-, hsize⟩
      exact ⟨_, rfl, kind_mismatch_eq_script_iff.mpr hsize⟩
  · obtain ⟨plots, hplots⟩ := h hd
    refine iff_of_false ?_ fun hboth => hd hboth.1
    rintro ⟨f, hf, hkind⟩
    by_cases hw : w.CanWrite d.graphs
    · rw [if_pos hw] at hplots
      obtain rfl := compile_eq_notText hplots hf
      exact absurd hkind (by decide)
    · rw [compile_of_not_canWrite hplots hw t] at hf
      obtain rfl := Except.error.inj hf
      exact absurd hkind (by decide)

/-- **A single graph needs neither layout nor title.** -/
theorem compile_single (w : Workspace) {d : Document} (h : d.graphs.length = 1) (l : Layout)
    (title : String) (t : Terminal) :
    compile w { d with layout := l, title := title } t = compile w d t := by
  obtain ⟨graphs, current, title', pre, post, properties, l'⟩ := d
  obtain ⟨id, rfl⟩ := List.length_eq_one_iff.mp h
  rfl

end Document

/-! ### Desks in use -/

namespace Desk

/-- The layouts can be in use, and no document is without a graph. -/
structure Sound (d : Desk) : Prop where
  layouts : ∀ l ∈ d.layouts, l.Sound
  graphs : ∀ e ∈ d.entries, e.document.graphs ≠ []

theorem sound_empty : empty.Sound :=
  ⟨fun _ h => absurd h List.not_mem_nil, fun _ h => absurd h List.not_mem_nil⟩

theorem Sound.layoutAt {d : Desk} (h : d.Sound) (id : LayoutId) : (d.layoutAt id).Sound := by
  rw [Desk.layoutAt, List.getD_eq_getElem?_getD]
  cases hid : d.layouts[id]? with
  | none => exact ⟨le_rfl, le_rfl, rfl⟩
  | some l => exact h.layouts l (List.mem_of_getElem? hid)

section Steps

variable {d : Desk} (h : d.Sound)

include h

theorem Sound.addLayout {l : Layout} (hl : l.Sound) : (d.addLayout l).Sound := by
  refine ⟨?_, h.graphs⟩
  intro l' hl'
  rcases List.mem_append.mp hl' with hmem | hnew
  · exact h.layouts l' hmem
  · rw [List.mem_singleton.mp hnew]
    exact hl

theorem Sound.setLayout (id : LayoutId) {l : Layout} (hl : l.Sound) :
    Sound { d with layouts := d.layouts.set id l } := by
  refine ⟨?_, h.graphs⟩
  intro l' hl'
  rcases List.mem_or_eq_of_mem_set hl' with hmem | rfl
  · exact h.layouts l' hmem
  · exact hl

theorem Sound.setEntry (position : Nat) {e : Entry} (he : e.document.graphs ≠ []) :
    Sound { d with entries := d.entries.set position e } := by
  refine ⟨h.layouts, ?_⟩
  intro e' he'
  rcases List.mem_or_eq_of_mem_set he' with hmem | rfl
  · exact h.graphs e' hmem
  · exact he

theorem Sound.addDocument (layout : LayoutId) : (d.addDocument layout).Sound := by
  refine ⟨h.layouts, ?_⟩
  intro e he
  rcases List.mem_append.mp he with hmem | hnew
  · exact h.graphs e hmem
  · rw [List.mem_singleton.mp hnew]
    exact List.cons_ne_nil _ _

/-- Whoever gives its document a layout that is there already sizes it for everybody. -/
theorem Sound.hold {id : LayoutId} {count : Nat} {d' : Desk} {ns : List Notice}
    (hd : d.hold id count = .ok (d', ns)) : d'.Sound := by
  rw [Desk.hold] at hd
  split at hd
  · exact absurd hd (by simp)
  · simp only [bind_eq_ok_iff, pure_eq_ok_iff, Prod.mk.injEq, Prod.exists] at hd
    obtain ⟨l', ns', hr, rfl, -⟩ := hd
    exact h.setLayout id (Layout.sound_of_resize hr)

theorem Sound.runDocument (position : Nat) {e : Entry} (he : e ∈ d.entries) (step : Page.Command) :
    (d.runDocument position e step).state.Sound := by
  have hs := (d.page e).run_step step
  have hlayout : ((d.page e).run step).state.document.layout.Sound := hs.sound (h.layoutAt e.layout)
  have hgraphs : ((d.page e).run step).state.document.graphs ≠ [] :=
    hs.graphs_ne_nil (h.graphs e he)
  rw [Desk.runDocument]
  dsimp only
  split
  · have hnew := (h.addLayout hlayout).setEntry position
      (e := ⟨{ ((d.page e).run step).state.document with layout := e.document.layout },
        d.layouts.length⟩) hgraphs
    exact ⟨hnew.layouts, hnew.graphs⟩
  · have hsame := (h.setLayout e.layout hlayout).setEntry position
      (e := ⟨{ ((d.page e).run step).state.document with layout := e.document.layout }, e.layout⟩)
      hgraphs
    exact ⟨hsame.layouts, hsame.graphs⟩

theorem Sound.ofEdit {e : Except Fault (Desk × List Notice)}
    (he : ∀ d' ns, e = .ok (d', ns) → d'.Sound) : (d.ofEdit e).state.Sound := by
  cases e with
  | error f => exact h
  | ok a => exact he a.1 a.2 rfl

/-- **Every step keeps the layouts in use sound**, also when it fails. -/
theorem Sound.run (c : Command) : (d.run c).state.Sound := by
  cases c with
  | newLayout spec =>
    apply h.ofEdit
    intro d' ns hd
    simp only [bind_eq_ok_iff, pure_eq_ok_iff, Prod.mk.injEq] at hd
    obtain ⟨l, hl, rfl, -⟩ := hd
    exact h.addLayout (Layout.sound_of_build hl)
  | newDocument layout =>
    cases layout with
    | none => exact (h.addLayout (l := .grid .single) ⟨le_rfl, le_rfl, rfl⟩).addDocument _
    | some layout =>
      apply h.ofEdit
      intro d' ns hd
      simp only [bind_eq_ok_iff, pure_eq_ok_iff, Prod.mk.injEq, Prod.exists] at hd
      obtain ⟨held, ns', hheld, rfl, -⟩ := hd
      exact (h.hold hheld).addDocument layout
  | document position step =>
    rw [Desk.run]
    split
    · rename_i e he
      exact h.runDocument position (List.mem_of_getElem? he) step
    · exact h
  | assign position layout =>
    rw [Desk.run]
    split
    · rename_i e he
      apply h.ofEdit
      intro d' ns hd
      simp only [bind_eq_ok_iff, pure_eq_ok_iff, Prod.mk.injEq, Prod.exists] at hd
      obtain ⟨held, ns', hheld, rfl, -⟩ := hd
      exact (h.hold hheld).setEntry position (h.graphs e (List.mem_of_getElem? he))
    · exact h
  | layout id step =>
    rw [Desk.run]
    split
    · rename_i l hl
      exact h.setLayout id ((h.layouts l (List.mem_of_getElem? hl)).apply step)
    · exact h

theorem Sound.runAll (cs : List Command) : (d.runAll cs).Sound := by
  induction cs generalizing d with
  | nil => exact h
  | cons c cs ih =>
    rw [Desk.runAll, List.foldl_cons]
    exact ih (h.run c)

end Steps

/-- **When compiling fails.**  Take any document after any run, whatever else was done to its grid.
If the grid is sized for another number of graphs and there are several, compiling fails on account
of that, and it is a fault of the script as long as the capacity can be written out, as every
capacity with a double can.  If not, compiling fails exactly when a command of the caller is no
text.  Titles and styles can be written if they are texts; where one is a list with an integer of
too many digits, compiling fails before the commands are looked at.  With a single graph the script
depends neither on the layout nor on the title. -/
theorem compile_fails_iff {cs : List Command} {e : Entry} (he : e ∈ (empty.runAll cs).entries)
    {g : Grid} (hg : (empty.runAll cs).layoutAt e.layout = .grid g)
    (hcount : (Double.ofInt e.document.graphs.length).isFinite = true) (t : Terminal) :
    let p := (empty.runAll cs).page e
    ((∃ f, (p.compile t).1 = .error f ∧ f.kind = .script) ↔
      p.document.Diverges ∧ Decimal.size g.capacity ≤ 4300) ∧
    ((Double.ofInt g.capacity).isFinite = true →
      ((∃ f, (p.compile t).1 = .error f ∧ f.kind = .script) ↔ p.document.Diverges)) ∧
    (p.document.Diverges →
      (p.compile t).1 = .error (Document.mismatch g.capacity p.document.graphs.length)) ∧
    (¬ p.document.Diverges → p.workspace.CanWrite p.document.graphs →
      ((∃ f, (p.compile t).1 = .error f ∧ f.kind = .type) ↔ ∃ v ∈ p.document.hooks, ¬ v.IsText) ∧
      ((∀ v ∈ p.document.hooks, v.IsText) → ∃ script, (p.compile t).1 = .ok script)) ∧
    (¬ p.document.Diverges → ¬ p.workspace.CanWrite p.document.graphs →
      (p.compile t).1 = .error (.outside .longInteger)) ∧
    ((∀ id ∈ p.document.graphs, ∀ plot ∈ (p.workspace.graph id).plots, plot.HasTextLabels) →
      p.workspace.CanWrite p.document.graphs) ∧
    (p.document.graphs.length = 1 → ∀ l title,
      Page.compile { p with document := { p.document with layout := l, title := title } } t =
        p.compile t) := by
  intro p
  have hsound := sound_empty.runAll cs
  have hlayout : p.document.layout = .grid g := hg
  have hcapacity : p.document.layout.capacity = g.capacity := by rw [hlayout]; rfl
  have hgrid : g.Sound := by
    have hl := hsound.layoutAt e.layout
    rw [hg] at hl
    exact hl
  have hplots : ¬ p.document.Diverges → ∃ plots, (Document.plotLines p.workspace p.document).1 =
      if p.workspace.CanWrite p.document.graphs then .ok plots
      else .error (.outside .longInteger) :=
    Document.exists_plotLines_grid p.workspace (d := p.document) (hsound.graphs e he) hlayout hgrid
      hcount
  have hscript := Document.exists_script_fault_iff hplots t
  rw [hcapacity, Int.natAbs_natCast] at hscript
  refine ⟨hscript, ?_, ?_, ?_, ?_, Workspace.canWrite_of_texts, ?_⟩
  · intro hfinite
    have hsize : Decimal.size g.capacity ≤ 4300 :=
      (Decimal.size_le_of_isFinite hfinite).trans (by decide)
    exact hscript.trans (and_iff_left hsize)
  · intro hdiverges
    rw [← hcapacity]
    exact Document.compile_of_diverges p.workspace hdiverges t
  · intro hdiverges hwrites
    obtain ⟨plots, hp⟩ := hplots hdiverges
    rw [if_pos hwrites] at hp
    exact ⟨Document.exists_type_fault_iff hp t, (Document.exists_script_iff hp t).mpr⟩
  · intro hdiverges hunwritable
    obtain ⟨plots, hp⟩ := hplots hdiverges
    exact Document.compile_of_not_canWrite hp hunwritable t
  · intro hone l title
    exact Document.compile_single p.workspace hone l title t

/-- Two documents with a grid in common: the second one sizes it for its three graphs, so that the
first one with its two graphs does not compile any more. -/
theorem compile_fails_iff_common_grid :
    let d := empty.runAll [.newLayout (.grid (.int 1) (.int 1) true), .newDocument (some 0),
      .newDocument (some 0), .document 0 (.newGraph false), .document 1 (.newGraph false),
      .document 1 (.newGraph true)]
    ∃ e₀ e₁, d.entries = [e₀, e₁] ∧ d.layoutAt e₀.layout = .grid ⟨1, 3, 3, true⟩ ∧
      d.layoutAt e₁.layout = .grid ⟨1, 3, 3, true⟩ ∧
      ∀ t, ((d.page e₀).compile t).1 = .error (.layoutMismatch "3" "2") ∧
        ∃ script, ((d.page e₁).compile t).1 = .ok script := by
  intro d
  have hthree : Grid.resize ⟨1, 2, 2, true⟩ 3 = ⟨1, 3, 3, true⟩ := by decide +kernel
  obtain ⟨e₀, e₁, hentries, hgraphs₀, hgraphs₁, hpre, hpost, hlayout₀, hlayout₁⟩ :
      ∃ e₀ e₁, d.entries = [e₀, e₁] ∧ e₀.document.graphs.length = 2 ∧
        e₁.document.graphs = [1, 3, 4] ∧ e₁.document.preInit = [] ∧ e₁.document.postInit = [] ∧
        e₀.layout = 0 ∧ e₁.layout = 0 :=
    ⟨_, _, rfl, rfl, rfl, rfl, rfl, rfl, rfl⟩
  have hgrid : d.layoutAt 0 = .grid ⟨1, 3, 3, true⟩ := by
    rw [← hthree]
    rfl
  have hat₀ : d.layoutAt e₀.layout = .grid ⟨1, 3, 3, true⟩ := by rw [hlayout₀, hgrid]
  have hat₁ : d.layoutAt e₁.layout = .grid ⟨1, 3, 3, true⟩ := by rw [hlayout₁, hgrid]
  have hmem₀ : e₀ ∈ d.entries := by rw [hentries]; exact List.mem_cons_self
  have hmem₁ : e₁ ∈ d.entries := by
    rw [hentries]
    exact List.mem_cons_of_mem _ List.mem_cons_self
  refine ⟨e₀, e₁, hentries, hat₀, hat₁, ?_⟩
  intro t
  have hfinite₀ : (Double.ofInt e₀.document.graphs.length).isFinite = true := by
    rw [hgraphs₀]
    decide +kernel
  have hfinite₁ : (Double.ofInt e₁.document.graphs.length).isFinite = true := by
    rw [hgraphs₁]
    decide +kernel
  obtain ⟨-, -, hdiverges, -⟩ := compile_fails_iff hmem₀ hat₀ hfinite₀ t
  obtain ⟨-, -, -, hcompiles, -, htexts, -⟩ := compile_fails_iff hmem₁ hat₁ hfinite₁ t
  have hcapacity : ∀ e, d.layoutAt e.layout = .grid ⟨1, 3, 3, true⟩ →
      (d.page e).document.layout.capacity = 3 := by
    intro e he
    show (d.layoutAt e.layout).capacity = 3
    rw [he]
    rfl
  constructor
  · have hcount : (d.page e₀).document.graphs.length = 2 := hgraphs₀
    have h := hdiverges ⟨hcount.ge, by rw [hcapacity e₀ hat₀, hcount]; decide⟩
    rw [hcount] at h
    exact h.trans (congrArg Except.error (by decide +kernel))
  · have hcount : (d.page e₁).document.graphs.length = 3 := congrArg List.length hgraphs₁
    refine (hcompiles (fun h => h.2 ?_) (htexts ?_)).2 ?_
    · rw [hcapacity e₁ hat₁, hcount]
      rfl
    · have hids : ∀ id ∈ e₁.document.graphs, (d.workspace.graph id).plots = [] := by
        rw [hgraphs₁]
        simp only [List.forall_mem_cons]
        exact ⟨rfl, rfl, rfl, fun _ hid => absurd hid List.not_mem_nil⟩
      intro id hid plot hplot
      have hnone : plot ∈ (d.workspace.graph id).plots := hplot
      rw [hids id hid] at hnone
      exact absurd hnone List.not_mem_nil
    · have hhooks : (d.page e₁).document.hooks = [] := by
        show e₁.document.preInit ++ e₁.document.postInit = []
        rw [hpre, hpost]
        rfl
      rw [hhooks]
      exact fun v hv => absurd hv List.not_mem_nil

end Desk

end PlotPage
