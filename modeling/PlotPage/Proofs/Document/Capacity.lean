import PlotPage.Proofs.Document.Script
import PlotPage.Proofs.Document.Steps

/-!
# Documents whose layout is a grid

A document and its layout are two things that change apart from each other: a graph that is added is
a change of the document, and the layout has to follow.  A grid follows every time
(`Synchronised.step`), since it refuses no number of graphs and has exactly as many tiles as it is
asked for.  So a page with a grid always compiles with one tile for each graph, unless a command of
the caller is no text or the sides of the grid have no double (`Document.compile_grid_eq_error`).

Somebody who has the grid in hand can size it for another number.  The next change of the document
that asks for a size undoes this (`Document.Step.resized`).
-/

namespace PlotPage

namespace Document

/-- A grid has as many tiles as it is sized for, and one for each of `n` graphs. -/
structure Fits (g : Grid) (n : Nat) : Prop where
  tiles : g.rows * g.columns = g.capacity
  capacity : g.capacity = n

/-- The current graph is the last one, and a layout that is a grid has one tile for each graph. -/
structure Synchronised (d : Document) : Prop where
  nonempty : d.graphs ≠ []
  current : d.current = d.graphs.length - 1
  grid : ∀ g, d.layout = .grid g → Fits g d.graphs.length

theorem Fits.size {g : Grid} {n : Nat} (h : Fits g n) : g.size = n := h.tiles.trans h.capacity

/-- A layout that has become a grid by being asked for a size has exactly that size. -/
theorem fits_of_resize {l l' : Layout} {n : Nat} {ns : List Notice}
    (hr : l.resize (.int n) = .ok (l', ns)) {g : Grid} (hg : l' = .grid g) : Fits g n := by
  cases l with
  | grid g' =>
    obtain ⟨m, hm, hn, rfl⟩ := Layout.resize_grid hr
    obtain rfl := Layout.grid.inj hg
    refine ⟨Grid.full_resize g' hm, ?_⟩
    have hcast : (n : Int) = m := Value.int.inj hn
    rw [Grid.capacity_resize]
    omega
  | custom c =>
    subst hg
    simp only [Layout.resize, bind_eq_ok_iff, pure_eq_ok_iff, Prod.mk.injEq, reduceCtorEq,
      false_and, and_false, exists_false] at hr

/-- A grid does not refuse a further graph. -/
theorem not_refused_of_grid {g : Grid} {n : Nat} {f : Fault} :
    Layout.resize (.grid g) (.int (n + 1 : Nat)) ≠ .error f :=
  Layout.resize_grid_ne_error (Nat.succ_pos n)

/-- Every step keeps a document and its grid together, whether it succeeds or fails, unless it sizes
the layout from outside. -/
theorem Synchronised.step {d d' : Document} (h : d.Synchronised) {c : Page.Command}
    {r : Except Fault Value} (hs : Step d c r d') (hc : ¬ c.ResizesOutside) : d'.Synchronised := by
  cases hs with
  | kept _ _ graphs current layout =>
    refine ⟨?_, ?_, ?_⟩
    · rw [graphs]; exact h.nonempty
    · rw [graphs, current]; exact h.current
    · rw [graphs, layout]; exact h.grid
  | accepted _ resized graphs current =>
    have hlength : d'.graphs.length = d.graphs.length + 1 := by
      rw [graphs, List.length_append, List.length_singleton]
    refine ⟨?_, ?_, ?_⟩
    · rw [graphs]; exact List.append_ne_nil_of_right_ne_nil _ (List.cons_ne_nil _ _)
    · rw [hlength, current]; rfl
    · intro g hg
      rw [hlength]
      exact fits_of_resize resized hg
  | refused _ resized graphs current layout =>
    refine ⟨?_, ?_, ?_⟩
    · rw [graphs]; exact List.append_ne_nil_of_right_ne_nil _ (List.cons_ne_nil _ _)
    · rw [graphs, current, List.length_append, List.length_singleton]; rfl
    · intro g hg
      rw [layout] at hg
      rw [hg] at resized
      exact absurd resized not_refused_of_grid
  | assigned _ resized graphs current =>
    refine ⟨?_, ?_, ?_⟩
    · rw [graphs]; exact h.nonempty
    · rw [graphs, current]; exact h.current
    · intro g hg
      rw [graphs]
      exact fits_of_resize resized hg
  | @outside step _ _ graphs current layout =>
    refine ⟨?_, ?_, ?_⟩
    · rw [graphs]; exact h.nonempty
    · rw [graphs, current]; exact h.current
    · intro g hg
      have hstep := Page.Command.ne_resize hc
      rw [graphs]
      -- a grid whose preference has been turned keeps its tiles until it is sized again
      rcases Layout.apply_of_ne_resize (l := d.layout) hstep with hsame | ⟨g', b, hg', hturned⟩
      · rw [layout, hsame] at hg
        exact h.grid g hg
      · rw [layout, hturned] at hg
        obtain rfl := Layout.grid.inj hg
        exact ⟨(h.grid g' hg').tiles, (h.grid g' hg').capacity⟩

/-- A step that asks for a size and succeeds leaves a grid with one tile for each graph, whatever
was done to the layout before. -/
theorem Step.resized {d d' : Document} {c : Page.Command} {v : Value} (hs : Step d c (.ok v) d')
    (hc : c.Sizes) {g : Grid} (hg : d'.layout = .grid g) : Fits g d'.graphs.length := by
  cases hs with
  | kept _ failed =>
    obtain ⟨f, hf⟩ := failed hc
    exact absurd hf (by simp)
  | accepted _ resized graphs =>
    rw [graphs, List.length_append, List.length_singleton]
    exact fits_of_resize resized hg
  | assigned _ resized graphs =>
    rw [graphs]
    exact fits_of_resize resized hg
  | outside => exact absurd hc not_false

/-! ### The lines of a grid -/

/-- The lines that place the graphs of a grid, in the order of the graphs. -/
def gridPairs (g : Grid) : List (List String) :=
  (List.range g.size).map (Grid.placeLines g.rows g.columns)

theorem length_gridPairs (g : Grid) : (gridPairs g).length = g.size := by
  rw [gridPairs, List.length_map, List.length_range]

theorem tilePairs_gridPairs {g : Grid} (hg : g.Drawable) : TilePairs (.grid g) 0 (gridPairs g) := by
  intro i hi
  have hsize : i < g.size := by
    rw [← length_gridPairs g]
    exact hi
  rw [Nat.zero_add, Layout.tileLines_grid hsize, if_pos hg]
  simp [gridPairs]

/-- The lines of the graphs of a grid that has a tile for each. -/
theorem tiledLines_grid (w : Workspace) {g : Grid} {ids : List GraphId} (hne : ids ≠ [])
    (hlength : ids.length = g.size) : (tiledLines w (.grid g) 0 ids).1 =
      if g.Drawable then
        if w.CanWrite ids then .ok (blocks w (gridPairs g) ids) else .error (.outside .longInteger)
      else .error (.outside .tooLarge) := by
  by_cases hg : g.Drawable
  · rw [if_pos hg]
    by_cases hw : w.CanWrite ids
    · rw [if_pos hw, tiledLines_eq_ok_iff]
      refine ⟨hw, gridPairs g, ?_, tilePairs_gridPairs hg, rfl⟩
      rw [length_gridPairs, hlength]
    · rw [if_neg hw]
      cases hr : (tiledLines w (.grid g) 0 ids).1 with
      | ok lines => exact absurd (tiledLines_eq_ok_iff.mp hr).1 hw
      | error f =>
        rcases tiledLines_error_cases hr with ⟨i, hi, hf⟩ | ⟨-, rfl⟩
        · rw [Nat.zero_add, Layout.tileLines_grid (by omega), if_pos hg] at hf
          exact absurd hf (by simp)
        · rfl
  · -- the tile of the first graph fails before any graph is written
    obtain ⟨id, rest, rfl⟩ := List.exists_cons_of_ne_nil hne
    have hsize : 0 < g.size := by
      rw [← hlength]
      exact Nat.zero_lt_succ _
    have htile : (Layout.grid g).tileLines (.int (0 : Nat)) = .error (.outside .tooLarge) := by
      rw [Layout.tileLines_grid hsize, if_neg hg]
    rw [if_neg hg, tiledLines, htile]

/-- The lines of several graphs in a grid of their number. -/
theorem plotLines_grid (w : Workspace) {d : Document} {g : Grid} (hlayout : d.layout = .grid g)
    (hfits : Fits g d.graphs.length) (htwo : 2 ≤ d.graphs.length) :
    (plotLines w d).1 =
      if g.Drawable then
        if w.CanWrite d.graphs then
          .ok (d.header :: (blocks w (gridPairs g) d.graphs ++ ["unset multiplot"]))
        else .error (.outside .longInteger)
      else .error (.outside .tooLarge) := by
  have hc : d.layout.capacity = d.graphs.length := by
    rw [hlayout, ← hfits.capacity]
    rfl
  have hne : d.graphs ≠ [] := List.ne_nil_of_length_pos (by omega)
  rw [plotLines_of_capacity_eq (ne_singleton_of_length (by omega)) hc, hlayout,
    tiledLines_grid w hne hfits.size.symm]
  split
  · split <;> rfl
  · rfl

/-- What can still keep the page of a grid from being compiled. -/
theorem compile_grid_eq_error {w : Workspace} {d : Document} (h : d.Synchronised) {g : Grid}
    (hlayout : d.layout = .grid g) {t : Terminal} {f : Fault} (hf : (compile w d t).1 = .error f) :
    f = .outside .notText ∨ f = .outside .longInteger ∧ ¬ w.CanWrite d.graphs ∨
      f = .outside .tooLarge ∧ ¬ g.Drawable := by
  rcases compile_eq_error hf with hplots | htext
  · right
    by_cases hone : d.graphs.length = 1
    · obtain ⟨id, hid⟩ := List.length_eq_one_iff.mp hone
      rw [plotLines_single hid] at hplots
      obtain ⟨hno, rfl⟩ := Graph.written_eq_error_iff.mp hplots
      refine Or.inl ⟨rfl, fun hw => ?_⟩
      exact absurd (hno.symm.trans (hw id (hid ▸ List.mem_singleton_self id))) (by simp)
    · have hpos := List.length_pos_iff.mpr h.nonempty
      rw [plotLines_grid w hlayout (h.grid g hlayout) (by omega)] at hplots
      by_cases hg : g.Drawable
      · rw [if_pos hg] at hplots
        by_cases hw : w.CanWrite d.graphs
        · rw [if_pos hw] at hplots
          exact absurd hplots (by simp)
        · rw [if_neg hw] at hplots
          exact Or.inl ⟨(Except.error.inj hplots).symm, hw⟩
      · rw [if_neg hg] at hplots
        exact Or.inr ⟨(Except.error.inj hplots).symm, hg⟩
  · exact Or.inl htext

end Document

namespace Page

/-- The script of several graphs in a grid: the pair of lines of the tile `i` stands directly before
the lines of the graph `i`, in the order of the graphs. -/
def PlacedIn (p : Page) (g : Grid) (t : Terminal) (script : String) : Prop :=
  ∃ pre post : List String, p.document.preInit = pre.map .text ∧
    p.document.postInit = post.map .text ∧
    ∃ pairs : List (List String), pairs.length = p.document.graphs.length ∧
      (∀ i (hi : i < pairs.length), ∃ m, g.tile (.int i) = .ok m ∧ m.lines = .ok pairs[i]) ∧
      script = Document.joinLines (pre ++ (p.document.properties.lines ++ t.lines) ++ post ++
        (p.document.header :: (Document.blocks p.workspace pairs p.document.graphs ++
          ["unset multiplot"]) ++ ["quit"]))

theorem placedIn_of_compile {p : Page} (h : p.document.Synchronised) {g : Grid}
    (hlayout : p.document.layout = .grid g) (htwo : 2 ≤ p.document.graphs.length) {t : Terminal}
    {script : String} (hscript : (p.compile t).1 = .ok script) : p.PlacedIn g t script := by
  have hfits := h.grid g hlayout
  obtain ⟨pre, post, plots, hpre, hpost, hplots, rfl⟩ := Document.compile_eq_ok_iff.mp hscript
  rw [Document.plotLines_grid p.workspace hlayout hfits htwo] at hplots
  by_cases hg : g.Drawable
  · rw [if_pos hg] at hplots
    split at hplots
    swap
    · exact absurd hplots (by simp)
    obtain rfl := Except.ok.inj hplots
    refine ⟨pre, post, hpre, hpost, Document.gridPairs g, ?_, ?_, rfl⟩
    · rw [Document.length_gridPairs, hfits.size]
    · intro i hi
      have hlines := Document.tilePairs_gridPairs hg i hi
      rw [Nat.zero_add, Layout.tileLines, bind_eq_ok_iff] at hlines
      exact hlines
  · rw [if_neg hg] at hplots
    exact absurd hplots (by simp)

theorem synchronised_new {spec : Option Layout.Spec} {p : Page} {ns : List Notice}
    (h : Page.new spec = .ok (p, ns)) : p.document.Synchronised := by
  obtain ⟨-, l, hd, hl⟩ := new_eq_ok h
  rw [hd]
  refine ⟨List.cons_ne_nil _ _, rfl, ?_⟩
  rintro g rfl
  rcases hl with ⟨-, hg⟩ | ⟨s, l', ns', -, -, hr⟩
  · obtain rfl := Layout.grid.inj hg
    exact ⟨rfl, rfl⟩
  · have hone : l'.resize (.int (1 : Nat)) = .ok (.grid g, ns') := hr
    exact Document.fits_of_resize hone rfl

theorem synchronised_runAll {p : Page} (h : p.document.Synchronised) {cs : List Page.Command}
    (hcs : ∀ c ∈ cs, ¬ c.ResizesOutside) : (p.runAll cs).1.document.Synchronised := by
  induction cs generalizing p with
  | nil => exact h
  | cons c cs ih =>
    have hstep := h.step (p.run_step c) (hcs c List.mem_cons_self)
    exact ih hstep fun d hd => hcs d (List.mem_cons_of_mem c hd)

/-- **A document and its grid stay together.**  After every run that does not size the layout from
outside, the graphs of the page are the first ones of every later page, the current graph is the last
one, and a layout that is a grid has one tile for each graph.  Compiling then never finds fault with
the layout, and places each graph in its tile.  Once a grid has been sized or turned from outside, the
next step that asks for a size and succeeds gives it one tile for each graph again. -/
theorem grid_follows {spec : Option Layout.Spec} {p : Page} {ns : List Notice}
    (hnew : Page.new spec = .ok (p, ns)) {cs : List Page.Command}
    (hcs : ∀ c ∈ cs, ¬ c.ResizesOutside) :
    let q := (p.runAll cs).1
    q.document.graphs ≠ [] ∧
    (∀ ds, q.document.graphs <+: (q.runAll ds).1.document.graphs) ∧
    q.document.current = q.document.graphs.length - 1 ∧
    (∀ g, q.document.layout = .grid g →
      Document.Fits g q.document.graphs.length ∧
      (∀ t f, (q.compile t).1 = .error f → f.kind ≠ .script ∧ f.kind ≠ .layout) ∧
      ∀ t script, 2 ≤ q.document.graphs.length → (q.compile t).1 = .ok script →
        q.PlacedIn g t script) ∧
    ∀ ds c v, c.Sizes → ((q.runAll ds).1.run c).result = .ok v →
      ∀ g, ((q.runAll ds).1.run c).state.document.layout = .grid g →
        Document.Fits g ((q.runAll ds).1.run c).state.document.graphs.length := by
  intro q
  have hq : q.document.Synchronised := synchronised_runAll (synchronised_new hnew) hcs
  refine ⟨hq.nonempty, q.runAll_graphs_grow, hq.current, ?_, ?_⟩
  · intro g hg
    refine ⟨hq.grid g hg, ?_, ?_⟩
    · intro t f hf
      rcases Document.compile_grid_eq_error hq hg hf with rfl | ⟨rfl, -⟩ | ⟨rfl, -⟩ <;> decide
    · intro t script htwo hscript
      exact placedIn_of_compile hq hg htwo hscript
  · intro ds c v hc hv g hg
    have hstep := (q.runAll ds).1.run_step c
    rw [hv] at hstep
    exact hstep.resized hc hg

/-- A grid of five rows that is given to a new page: it takes the size of one graph, follows two
further graphs past a step that fails, and is turned and sized by hand before the last one. -/
theorem grid_follows_three_graphs :
    ∃ p ns, Page.new (some (.grid (.int 5) (.int 1) true)) = .ok (p, ns) ∧
      let q := (p.runAll [.newGraph false, .addGraph (.value .null), .newGraph true]).1
      let r := (q.runAll [.layout (.preferColumns false), .layout (.resize (.int 7))]).1
      q.document.layout = .grid ⟨1, 3, 3, true⟩ ∧ Document.Fits ⟨1, 3, 3, true⟩ 3 ∧
      (∀ t f, (q.compile t).1 = .error f → f.kind ≠ .script ∧ f.kind ≠ .layout) ∧
      r.document.layout = .grid ⟨7, 1, 7, false⟩ ∧
      (r.run (.newGraph false)).state.document.layout = .grid ⟨2, 2, 4, false⟩ ∧
      Document.Fits ⟨2, 2, 4, false⟩ 4 := by
  have hnew : Page.new (some (.grid (.int 5) (.int 1) true)) =
      .ok (⟨⟨[], [.empty false]⟩, .ofGraph 0⟩, [⟨.debug, Grid.source,
        "Grid resized for 1 graphs: 5x1 -> 1x1"⟩]) := rfl
  refine ⟨_, _, hnew, ?_⟩
  intro q r
  have hcs : ∀ c ∈ [Page.Command.newGraph false, .addGraph (.value .null), .newGraph true],
      ¬ c.ResizesOutside := by
    simp [Page.Command.ResizesOutside]
  obtain ⟨-, -, -, hgrid, hafter⟩ := grid_follows hnew hcs
  have hthree : Grid.resize ⟨5, 1, 5, true⟩ 3 = ⟨1, 3, 3, true⟩ := by decide +kernel
  have hlayout : q.document.layout = .grid ⟨1, 3, 3, true⟩ := by
    rw [← hthree]
    rfl
  have hseven : Grid.resize ⟨1, 3, 3, false⟩ 7 = ⟨7, 1, 7, false⟩ := by decide +kernel
  have hresized : r.document.layout = .grid ⟨7, 1, 7, false⟩ := by
    rw [← hseven]
    rfl
  have hfour : Grid.resize ⟨1, 3, 3, false⟩ 4 = ⟨2, 2, 4, false⟩ := by decide +kernel
  have hlast : (r.run (.newGraph false)).state.document.layout = .grid ⟨2, 2, 4, false⟩ := by
    rw [← hfour]
    rfl
  obtain ⟨hfits, hfaults, -⟩ := hgrid _ hlayout
  exact ⟨hlayout, hfits, hfaults, hresized, hlast, hafter _ (.newGraph false) (.int 3) trivial rfl _ hlast⟩

end Page

end PlotPage
