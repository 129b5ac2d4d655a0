import Mathlib.Data.List.GetD
import PlotPage.Proofs.Description.Graph
import PlotPage.Proofs.Document.Capacity

/-!
# The script of a description

A description is turned into a script in two ways: a page is built from it and compiled, or the script
is written down directly (`Render.script`).  Both give the same (`compile_build`).

The page is followed while it grows.  After each entry of `graphs` it shows the fragments of the
entries so far (`Shows`): one graph for each, in order, which gives these lines, and a grid of their
number.  A new graph adds an empty fragment (`newGraph_shows`), and filling it turns this fragment into
the one of its entry and leaves the others alone (`fillPageGraph_shows`).
-/

namespace PlotPage.Description

open Render Workspace

/-- The grid of a page with `n` graphs. -/
def gridOf (prefersColumns : Bool) (n : Nat) : Grid :=
  Grid.resize { Grid.single with prefersColumns := prefersColumns } n

theorem gridOf_one (prefersColumns : Bool) :
    gridOf prefersColumns 1 = { Grid.single with prefersColumns := prefersColumns } := by
  cases prefersColumns <;> decide +kernel

/-- A page shows fragments: it has a graph for each of them, which gives its lines with axes that
are placed in the workspace, and its grid has their number. -/
structure Shows (prefersColumns : Bool) (p : Page) (fs : List (List String)) : Prop where
  graphs : p.document.graphs = List.range fs.length
  count : p.workspace.graphs.length = fs.length
  layout : p.document.layout = .grid (gridOf prefersColumns fs.length)
  draws : ∀ i < fs.length, p.workspace.Draws i (fs.getD i [])

/-- The title, the commands and the properties of a document stay as they were. -/
structure SameSettings (d d' : Document) : Prop where
  title : d'.title = d.title
  preInit : d'.preInit = d.preInit
  postInit : d'.postInit = d.postInit
  properties : d'.properties = d.properties

theorem SameSettings.refl (d : Document) : SameSettings d d := ⟨rfl, rfl, rfl, rfl⟩

theorem SameSettings.trans {d d' d'' : Document} (h : SameSettings d d')
    (h' : SameSettings d' d'') : SameSettings d d'' :=
  ⟨h'.title.trans h.title, h'.preInit.trans h.preInit, h'.postInit.trans h.postInit,
    h'.properties.trans h.properties⟩

variable {b : Bool} {p p' : Page} {fs : List (List String)}

theorem length_snoc (f : List String) : (fs ++ [f]).length = fs.length + 1 := List.length_append

/-- What draws several fragments and one more draws them all. -/
theorem draws_snoc {w : Workspace} {f : List String} (hold : ∀ i < fs.length, w.Draws i (fs.getD i []))
    (hlast : w.Draws fs.length f) : ∀ i < (fs ++ [f]).length, w.Draws i ((fs ++ [f]).getD i []) := by
  intro i hi
  rw [length_snoc] at hi
  by_cases hlt : i < fs.length
  · rw [List.getD_append _ _ _ _ hlt]
    exact hold i hlt
  · obtain rfl : i = fs.length := by omega
    rw [List.getD_append_right _ _ _ _ le_rfl, Nat.sub_self]
    exact hlast

/-- A new graph shows an empty fragment. -/
theorem newGraph_shows (h : Shows b p fs) :
    (∃ v, (p.newGraph false).result = .ok v) ∧ Shows b (p.newGraph false).state (fs ++ [[]]) ∧
      SameSettings p.document (p.newGraph false).state.document ∧
      (p.newGraph false).state.workspace.graph fs.length = .empty false := by
  have hlength : p.document.graphs.length = fs.length := by
    rw [h.graphs, List.length_range]
  have hresize : p.document.layout.resize (.int (p.document.graphs.length + 1 : Nat)) =
      .ok (.grid (gridOf b (fs.length + 1)), (gridOf b fs.length).resizeNotices (fs.length + 1)) := by
    rw [h.layout, hlength]
    exact Layout.resize_grid_natCast _ (Nat.succ_pos _)
  obtain ⟨hresult, hstate⟩ := Page.appendGraph_of_accepted
    (p := { p with workspace := (p.workspace.addGraph (.empty false)).2 })
    p.workspace.graphs.length hresize
  have hstate' : (p.newGraph false).state = _ := hstate
  have hnew : (p.workspace.addGraph (.empty false)).2.graph fs.length = .empty false := by
    rw [← h.count]
    exact graph_addGraph_self p.workspace (.empty false)
  rw [hstate']
  refine ⟨⟨_, hresult⟩, ⟨?_, ?_, ?_, draws_snoc ?_ ?_⟩, ⟨rfl, rfl, rfl, rfl⟩, hnew⟩
  · rw [length_snoc, List.range_succ]
    show p.document.graphs ++ [p.workspace.graphs.length] = _
    rw [h.graphs, h.count]
  · rw [length_snoc, ← h.count]
    exact List.length_append
  · rw [length_snoc]
  · intro i hi
    exact (h.draws i hi).addGraph (h.count ▸ hi) _
  · exact .of_empty hnew

/-- Filling the last graph turns its empty fragment into the one of its entry. -/
theorem fillPageGraph_shows {index : Nat} {v : Value} (hs : Shows b p (fs ++ [[]])) {c : Bool}
    (hempty : p.workspace.graph fs.length = .empty c)
    (h : fillPageGraph p fs.length index v = .ok p') :
    Shows b p' (fs ++ [fragment v]) ∧ SameSettings p.document p'.document := by
  simp only [fillPageGraph, bind_eq_ok_iff, pure_eq_ok_iff] at h
  obtain ⟨w, hw, rfl⟩ := h
  have hid : fs.length < p.workspace.graphs.length := by
    rw [hs.count, length_snoc]
    exact Nat.lt_succ_self _
  obtain ⟨hframe, hgrows, hdraws⟩ := fillGraph_filled hw hid hempty
  refine ⟨⟨?_, ?_, ?_, draws_snoc ?_ hdraws⟩, .refl _⟩
  · rw [length_snoc, ← length_snoc []]
    exact hs.graphs
  · rw [length_snoc, ← length_snoc [], ← hs.count]
    exact hframe.count
  · rw [length_snoc, ← length_snoc []]
    exact hs.layout
  · intro i hi
    have hdrawn := hs.draws i (by rw [length_snoc]; omega)
    rw [List.getD_append _ _ _ _ hi] at hdrawn
    exact hframe.keeps hgrows (Nat.ne_of_lt hi) hdrawn

/-- The grid takes every graph, so each entry is filled into the graph that is added for it. -/
theorem addGraphs_cons (hs : Shows b p fs) (index : Nat) (v : Value) (rest : List Value) :
    (addGraphs p index (v :: rest)).1 =
      fillPageGraph (p.newGraph false).state fs.length index v >>= fun q =>
        (addGraphs q (index + 1) rest).1 := by
  obtain ⟨⟨answer, hanswer⟩, hshows, -, -⟩ := newGraph_shows hs
  have hlast : (p.newGraph false).state.document.graphs.getLastD 0 = fs.length := by
    rw [hshows.graphs, List.length_append, List.length_singleton, List.range_succ,
      List.getLastD_concat]
  simp only [addGraphs, hanswer, hlast]
  cases fillPageGraph (p.newGraph false).state fs.length index v with
  | error f => rfl
  | ok q => rfl

/-- The first entry is filled into the graph that is there already. -/
theorem fillGraphs_cons (hs : Shows b p [[]]) (v : Value) (rest : List Value) :
    (fillGraphs p (v :: rest)).1 =
      fillPageGraph p 0 0 v >>= fun q => (addGraphs q 1 rest).1 := by
  have hfirst : p.document.graphs.headD 0 = 0 := by
    rw [hs.graphs]
    rfl
  simp only [fillGraphs, hfirst]
  cases fillPageGraph p 0 0 v with
  | error f => rfl
  | ok q => rfl

theorem addGraphs_shows {index : Nat} {vs : List Value} (hs : Shows b p fs)
    (h : (addGraphs p index vs).1 = .ok p') :
    Shows b p' (fs ++ vs.map fragment) ∧ SameSettings p.document p'.document := by
  induction vs generalizing index p fs with
  | nil =>
    obtain rfl := Except.ok.inj h
    rw [List.map_nil, List.append_nil]
    exact ⟨hs, .refl _⟩
  | cons v rest ih =>
    rw [addGraphs_cons hs, bind_eq_ok_iff] at h
    obtain ⟨q, hfill, h⟩ := h
    obtain ⟨-, hshows, hsame, hempty⟩ := newGraph_shows hs
    obtain ⟨hshows', hsame'⟩ := fillPageGraph_shows hshows hempty hfill
    obtain ⟨hrest, hsame''⟩ := ih hshows' h
    rw [List.append_assoc] at hrest
    exact ⟨hrest, (hsame.trans hsame').trans hsame''⟩

theorem fillGraphs_shows {fields : List (Value × Value)} (hs : Shows b p [[]]) {c : Bool}
    (hempty : p.workspace.graph 0 = .empty c)
    (h : (fillGraphs p (items (fieldOrNull fields "graphs"))).1 = .ok p') :
    Shows b p' (fragments fields) ∧ SameSettings p.document p'.document := by
  rw [fragments]
  cases hitems : items (fieldOrNull fields "graphs") with
  | nil =>
    rw [hitems] at h
    obtain rfl := Except.ok.inj h
    exact ⟨hs, .refl _⟩
  | cons v rest =>
    rw [hitems, fillGraphs_cons hs, bind_eq_ok_iff] at h
    obtain ⟨q, hfill, h⟩ := h
    have hfirst : Shows b p ([] ++ [[]]) := hs
    obtain ⟨hshows, hsame⟩ := fillPageGraph_shows hfirst hempty hfill
    obtain ⟨hrest, hsame'⟩ := addGraphs_shows hshows h
    exact ⟨hrest, hsame.trans hsame'⟩

/-! ### What comes before and after the plots -/

theorem setProperties_entries {q q' : Properties} {es : List (Value × Value)}
    (h : setProperties q es = .ok q') : q'.entries =
      (es.map fun e => (str e.1, Render.optional e.2)).foldl
        (fun acc x => Entries.update "" x.1 (fun _ => x.2) acc) q.entries := by
  induction es generalizing q with
  | nil =>
    obtain rfl := Except.ok.inj h
    rfl
  | cons e rest ih =>
    simp only [setProperties, bind_eq_ok_iff, Properties.set_eq_ok_iff, Value.text.injEq] at h
    obtain ⟨key, hkey, value, hvalue, _, ⟨k, w, rfl, -, -, hw, -, rfl⟩, hrest⟩ := h
    obtain rfl : value = w := Except.ok.inj hw
    rw [ih hrest, List.map_cons, List.foldl_cons, str_of_plain hkey,
      optional_of_plainOrEmpty hvalue, ← Properties.insertEntry_eq_update]
    rfl

theorem foldl_last (values : List String) (start : String) :
    values.foldl (fun _ value => value) start = values.getLastD start := by
  induction values generalizing start with
  | nil => rfl
  | cons value rest ih => rw [List.foldl_cons, ih, List.getLastD_cons]

/-- Properties set one after the other give one line for each key. -/
theorem setProperties_lines {q : Properties} {es : List (Value × Value)}
    (h : setProperties .empty es = .ok q) : q.lines = setLines es := by
  have hentries : q.entries = Entries.gather "" (fun _ _ value => value)
      (es.map fun e => (str e.1, Render.optional e.2)) := setProperties_entries h
  rw [Properties.lines, hentries, Entries.gather_eq, setLines, List.map_map]
  apply List.map_congr_left
  intro g _
  rw [Function.comp, foldl_last]

theorem commands_eq {v : Value} {cs : List Value} (h : commands v = .ok cs) :
    cs = ((items v).map str).map .text := by
  simp only [commands, bind_eq_ok_iff] at h
  obtain ⟨vs, hvs, hcs⟩ := h
  rw [← items_of_itemsOf hvs, List.map_map]
  refine eq_map_of_mapM ?_ hcs
  intro c text hc
  simp only [bind_eq_ok_iff, pure_eq_ok_iff] at hc
  obtain ⟨s, hs, rfl⟩ := hc
  rw [Function.comp, str_of_plain hs]

/-- The title, the commands and the properties that a description gives to a document. -/
structure Settled (fields : List (Value × Value)) (d : Document) : Prop where
  title : d.title = Render.optional (fieldOrNull fields "title")
  preInit : d.preInit = ((items (fieldOrNull fields "pre_init")).map str).map .text
  postInit : d.postInit = ((items (fieldOrNull fields "post_init")).map str).map .text
  properties : d.properties.lines = setLines (entries (fieldOrNull fields "set"))

theorem Settled.of_same {fields : List (Value × Value)} {d d' : Document} (h : Settled fields d)
    (hs : SameSettings d d') : Settled fields d' where
  title := hs.title.trans h.title
  preInit := hs.preInit.trans h.preInit
  postInit := hs.postInit.trans h.postInit
  properties := by rw [hs.properties]; exact h.properties

theorem fillPage_settled {fields : List (Value × Value)}
    (hempty : p.document.properties = .empty) (hs : Shows b p fs)
    (h : fillPage p fields = .ok p') :
    Settled fields p'.document ∧ Shows b p' fs ∧ p'.workspace = p.workspace := by
  simp only [fillPage, bind_eq_ok_iff, pure_eq_ok_iff] at h
  obtain ⟨q, hq, es, hes, properties, hset, pre, hpre, post, hpost, rfl⟩ := h
  obtain ⟨title, htitle, rfl⟩ := Page.setTitle_eq_ok hq
  simp only [Document.checkTitle, bind_eq_ok_iff, pure_eq_ok_iff] at htitle
  obtain ⟨s, hs', _, -, _, -, rfl⟩ := htitle
  obtain rfl := entries_of_entriesOf hes
  rw [show ({ p with document := { p.document with title := s } } : Page).document.properties =
    .empty from hempty] at hset
  refine ⟨⟨?_, commands_eq hpre, commands_eq hpost, setProperties_lines hset⟩, ?_, rfl⟩
  · exact (optional_of_plainOrEmpty hs').symm
  · exact ⟨hs.graphs, hs.count, hs.layout, hs.draws⟩

theorem blankPage_shows (b : Bool) :
    Shows b (blankPage b) [[]] ∧ (blankPage b).workspace.graph 0 = .empty false ∧
      (blankPage b).document.properties = .empty := by
  refine ⟨⟨rfl, rfl, ?_, ?_⟩, rfl, rfl⟩
  · show Layout.grid _ = .grid (gridOf b 1)
    rw [gridOf_one]
  · intro i hi
    obtain rfl : i = 0 := Nat.lt_one_iff.mp hi
    exact .of_empty rfl

/-- The page of a description is filled, and then its graphs are. -/
theorem fillGraphs_of_build {fields : List (Value × Value)} {mark : Option Nat} {ns : List Notice}
    (h : build (.map fields mark) b = (.ok p, ns)) :
    ∃ q, fillPage (blankPage b) fields = .ok q ∧
      itemsOf (fieldOrNull fields "graphs") = .ok (items (fieldOrNull fields "graphs")) ∧
      (fillGraphs q (items (fieldOrNull fields "graphs"))).1 = .ok p := by
  have hbuild : (buildEntries fields b).1 = .ok p := by
    rw [build] at h
    cases hentries : buildEntries fields b with
    | mk r notices =>
      rw [hentries] at h
      cases r with
      | error f => exact absurd (congrArg Prod.fst h) (by simp)
      | ok q => exact congrArg Prod.fst h
  rw [buildEntries] at hbuild
  cases hfill : fillPage (blankPage b) fields with
  | error f =>
    rw [hfill] at hbuild
    exact absurd hbuild (by simp)
  | ok q =>
    rw [hfill] at hbuild
    cases hitems : itemsOf (fieldOrNull fields "graphs") with
    | error f =>
      simp only [hitems] at hbuild
      exact absurd hbuild (by simp)
    | ok vs =>
      simp only [hitems] at hbuild
      obtain rfl := items_of_itemsOf hitems
      exact ⟨q, rfl, rfl, hbuild⟩

/-- **What is built shows its description.** -/
theorem build_shows {fields : List (Value × Value)} {mark : Option Nat} {ns : List Notice}
    (h : build (.map fields mark) b = (.ok p, ns)) :
    Settled fields p.document ∧ Shows b p (fragments fields) := by
  obtain ⟨hblank, hgraph, hproperties⟩ := blankPage_shows b
  obtain ⟨q, hfill, -, hgraphs⟩ := fillGraphs_of_build h
  obtain ⟨hsettled, hshows, hworkspace⟩ := fillPage_settled hproperties hblank hfill
  rw [← hworkspace] at hgraph
  obtain ⟨hshows', hsame⟩ := fillGraphs_shows hshows hgraph hgraphs
  exact ⟨hsettled.of_same hsame, hshows'⟩

/-! ### The script -/

theorem length_fragments (fields : List (Value × Value)) :
    (fragments fields).length = max 1 (items (fieldOrNull fields "graphs")).length := by
  rw [fragments]
  cases items (fieldOrNull fields "graphs") with
  | nil => rfl
  | cons v rest =>
    rw [List.length_map, List.length_cons]
    omega

theorem drawable_gridOf {n k : Nat} (hpos : 1 ≤ n) (hk : k ≤ 1000) (hn : n ≤ 2 ^ k) :
    (gridOf b n).Drawable := by
  have hmul := Grid.full_resize { Grid.single with prefersColumns := b } hpos
  have hrows : (gridOf b n).rows ≤ n := Nat.le_of_dvd hpos (Dvd.intro _ hmul)
  have hcolumns : (gridOf b n).columns ≤ n := Nat.le_of_dvd hpos (Dvd.intro_left _ hmul)
  exact ⟨Double.isFinite_ofInt hk (hrows.trans hn), Double.isFinite_ofInt hk (hcolumns.trans hn)⟩

theorem drawable_fragments {fields : List (Value × Value)} {k : Nat} (hk : k ≤ 1000)
    (hn : (items (fieldOrNull fields "graphs")).length ≤ 2 ^ k) :
    (gridOf b (fragments fields).length).Drawable := by
  rw [length_fragments]
  exact drawable_gridOf (le_max_left _ _) hk (max_le Nat.one_le_two_pow hn)

theorem blocks_range (w : Workspace) (g : Grid) {fs : List (List String)}
    (hsize : g.size = fs.length) (hdraws : ∀ i < fs.length, w.Draws i (fs.getD i [])) :
    Document.blocks w (Document.gridPairs g) (List.range fs.length) =
      (List.range fs.length).flatMap fun i =>
        Grid.placeLines g.rows g.columns i ++ fs.getD i [] := by
  have hzip : (Document.gridPairs g).zip (List.range fs.length) =
      (List.range fs.length).map fun i => (Grid.placeLines g.rows g.columns i, i) := by
    rw [Document.gridPairs, hsize]
    exact (congrArg _ (List.map_id _).symm).trans List.zip_map'
  rw [Document.blocks, hzip, List.flatMap_map]
  apply List.flatMap_congr
  intro i hi
  rw [(hdraws i (List.mem_range.mp hi)).lines]

/-- The lines of the graphs of a page are those of the fragments that it shows. -/
theorem plotLines_of_shows (h : Shows b p fs) (hne : fs ≠ []) :
    (Document.plotLines p.workspace p.document).1 =
      if (gridOf b fs.length).Drawable then
        .ok (Render.plotLines p.document.title (Grid.shape fs.length b) fs)
      else .error (.outside .tooLarge) := by
  have hlength : p.document.graphs.length = fs.length := by
    rw [h.graphs, List.length_range]
  have hpos : 1 ≤ fs.length := List.length_pos_iff.mpr hne
  have hsize : (gridOf b fs.length).size = fs.length := Grid.full_resize _ hpos
  by_cases hone : fs.length = 1
  · -- a single graph stands alone
    obtain ⟨f, rfl⟩ := List.length_eq_one_iff.mp hone
    have hg : (gridOf b [f].length).Drawable :=
      drawable_gridOf le_rfl (Nat.zero_le 1000) (Nat.pow_zero 2).ge
    have hdrawn := h.draws 0 Nat.one_pos
    rw [if_pos hg, Document.plotLines_single h.graphs, Graph.written_eq_ok_iff]
    exact ⟨hdrawn.writable, hdrawn.lines⟩
  · have hfits : Document.Fits (gridOf b fs.length) p.document.graphs.length := by
      rw [hlength]
      exact ⟨Grid.full_resize _ hpos, rfl⟩
    have hwrites : p.workspace.CanWrite (List.range fs.length) :=
      fun i hi => (h.draws i (List.mem_range.mp hi)).writable
    rw [Document.plotLines_grid p.workspace h.layout hfits (by omega), h.graphs, if_pos hwrites,
      blocks_range p.workspace _ hsize h.draws]
    congr 2
    rw [Render.plotLines]
    · rfl
    · rintro f rfl
      exact hone rfl

/-- **The script of a description is the one written out directly.**  Only so many graphs that a
side of their grid has no double keep it from being compiled. -/
theorem compile_build {fields : List (Value × Value)} {mark : Option Nat} {ns : List Notice}
    (h : build (.map fields mark) b = (.ok p, ns)) (t : Terminal) :
    (p.compile t).1 =
      (if (gridOf b (fragments fields).length).Drawable then .ok (Render.script fields b t)
        else .error (.outside .tooLarge)) ∧
    ((items (fieldOrNull fields "graphs")).length ≤ 2 ^ 1000 →
      (p.compile t).1 = .ok (Render.script fields b t)) := by
  obtain ⟨hsettled, hshows⟩ := build_shows h
  have hcount := length_fragments fields
  have hne : fragments fields ≠ [] := List.ne_nil_of_length_pos (by omega)
  have hplots := plotLines_of_shows hshows hne
  have hscript : (p.compile t).1 = if (gridOf b (fragments fields).length).Drawable then
      .ok (Render.script fields b t) else .error (.outside .tooLarge) := by
    by_cases hg : (gridOf b (fragments fields).length).Drawable
    · rw [if_pos hg] at hplots ⊢
      refine Document.compile_eq_ok_iff.mpr
        ⟨_, _, _, hsettled.preInit, hsettled.postInit, hplots, ?_⟩
      rw [Render.script, hsettled.title, hsettled.properties]
      simp only [List.append_assoc]
    · rw [if_neg hg] at hplots ⊢
      exact Document.compile_of_plotLines_error hplots
  refine ⟨hscript, fun hn => ?_⟩
  rw [hscript, if_pos (drawable_fragments le_rfl hn)]

/-- Two graphs, of which the second has an axis under a number and under its text. -/
theorem compile_build_two_graphs :
    let fields : List (Value × Value) :=
      [(.text "title", .text "Run"),
       (.text "set", .map [(.int 1, .text "a"), (.text "grid", .null), (.text "1", .text "b")]),
       (.text "pre_init", .list [.text "reset", .int 5]),
       (.text "graphs", .list
        [.map [(.text "plots", .list [.map [(.text "function", .text "sin(x)")]])],
         .map [(.text "splot", .bool true),
          (.text "axes", .map
           [(.int 1, .map [(.text "label", .text "q"), (.text "log", .bool true)]),
            (.text "y", .map [(.text "tics", .int 2)]),
            (.text "1", .map [(.text "log", .bool false), (.text "label", .text "r")])]),
          (.text "plots", .list [.map [(.text "data", .list [.int 1, .bool true])]])]])]
    ∃ p ns, build (.map fields) true = (.ok p, ns) ∧
      (p.compile ⟨"png", ""⟩).1 = .ok (Render.script fields true ⟨"png", ""⟩) ∧
      Render.script fields true ⟨"png", ""⟩ = Document.joinLines
        ["reset", "5", "set 1 b", "set grid", "set term png", "set multiplot title \"Run\"",
          "set origin 0.0,0.0", "set size 0.5,1.0", "plot sin(x)",
          "set origin 0.5,0.0", "set size 0.5,1.0", "set 1label \"r\"", "set ytics 2", "splot '-'",
          "1.0", "1.0", "e", "unset multiplot", "quit"] := by
  intro fields
  have hok : (build (.map fields) true).1.toBool = true := by decide +kernel
  cases hbuild : build (.map fields) true with
  | mk r ns =>
    rw [hbuild] at hok
    cases r with
    | error f => exact absurd hok (by simp [Except.toBool])
    | ok p =>
      have hcount : (items (fieldOrNull fields "graphs")).length = 2 := by decide +kernel
      have hpow : ∀ k : Nat, k ≠ 0 → 2 ≤ 2 ^ k := fun k hk => Nat.le_self_pow hk 2
      have hfew := hcount.trans_le (hpow 1000 (by decide))
      refine ⟨p, ns, rfl, (compile_build hbuild _).2 hfew, ?_⟩
      decide +kernel

end PlotPage.Description
