import Mathlib.Data.List.Perm.Subperm
import PlotPage.Proofs.Axis.Keys
import PlotPage.Proofs.Description.Schema

/-!
# Axis settings of a description

Names of axes that are written alike are one axis, and all entries under them work on its settings.
What each name results in can be written down by itself (`settled`), and a page that is built from a
description has these settings in its graphs (`build_settled`).  No setting of one axis overwrites a
setting of another: the keys of all axes of a graph are distinct, four at most for each name.

An entry is read field by field, and each setter is called at most once, so the order of its fields
does not matter (`axisSettings_reordered`).
-/

namespace PlotPage.Description

open Render Workspace
open Axis (Setter isWord)

/-! ### The settings of one name -/

variable {name : String} {fields : List (Value × Value)}

theorem key_of_mem_changes {c : String × Option String} (h : c ∈ changes name fields) :
    ∃ s : Setter, c.1 = s.key name := by
  simp only [changes, List.mem_append, Option.mem_toList, Option.map_eq_some_iff] at h
  rcases h with ((⟨_, -, rfl⟩ | ⟨_, -, rfl⟩) | ⟨_, -, rfl⟩) | ⟨_, -, rfl⟩
  · exact ⟨.label, rfl⟩
  · exact ⟨.range, rfl⟩
  · exact ⟨.logScale, rfl⟩
  · exact ⟨.tics, rfl⟩

/-- Settings under distinct keys, each of them the key of a setter. -/
structure Keyed (name : String) (es : List (String × String)) : Prop where
  nodup : (es.map Prod.fst).Nodup
  setter : ∀ e ∈ es, ∃ s : Setter, e.1 = s.key name

theorem Keyed.change {es : List (String × String)} (h : Keyed name es)
    {c : String × Option String} {s : Setter} (hc : c.1 = s.key name) :
    Keyed name (change es c) := by
  unfold Render.change
  split
  · rename_i value _
    have hkeys := Entries.keys_update "" c.1 (fun _ => value) es
    refine ⟨?_, fun e he => ?_⟩
    · rw [hkeys]
      split
      · exact h.nodup
      · rename_i hnew
        exact List.nodup_append_comm.mp (List.nodup_cons.mpr ⟨hnew, h.nodup⟩)
    · have hmem := List.mem_map_of_mem (f := Prod.fst) he
      rw [hkeys] at hmem
      have hor : e.1 ∈ es.map Prod.fst ∨ e.1 = c.1 := by
        split at hmem
        · exact Or.inl hmem
        · simpa only [List.mem_append, List.mem_singleton] using hmem
      rcases hor with hold | hnew
      · obtain ⟨f, hf, hfe⟩ := List.mem_map.mp hold
        rw [← hfe]
        exact h.setter f hf
      · exact ⟨s, hnew.trans hc⟩
  · exact ⟨h.nodup.sublist (List.filter_sublist.map Prod.fst),
      fun e he => h.setter e (List.mem_filter.mp he).1⟩

theorem keyed_settings (name : String) (fs : List (List (Value × Value))) :
    Keyed name (settings name fs) := by
  have hfold : ∀ (cs : List (String × Option String)) (es : List (String × String)),
      (∀ c ∈ cs, ∃ s : Setter, c.1 = s.key name) → Keyed name es →
        Keyed name (cs.foldl Render.change es) := by
    intro cs
    induction cs with
    | nil => exact fun es _ h => h
    | cons c cs ih =>
      intro es hcs h
      obtain ⟨s, hs⟩ := hcs c List.mem_cons_self
      exact ih _ (fun d hd => hcs d (List.mem_cons_of_mem c hd)) (h.change hs)
  refine hfold _ [] (fun c hc => ?_) ⟨List.nodup_nil, fun e he => absurd he List.not_mem_nil⟩
  obtain ⟨fields, -, hc⟩ := List.mem_flatMap.mp hc
  exact key_of_mem_changes hc

/-- There are no more keys than setters. -/
theorem Keyed.length_le {es : List (String × String)} (h : Keyed name es) : es.length ≤ 4 := by
  have hsub : es.map Prod.fst ⊆ Setter.all.map (Setter.key name) := by
    intro k hk
    obtain ⟨e, he, rfl⟩ := List.mem_map.mp hk
    obtain ⟨s, hs⟩ := h.setter e he
    exact List.mem_map.mpr ⟨s, s.mem_all, hs.symm⟩
  have hle := (h.nodup.subperm hsub).length_le
  rwa [List.length_map, List.length_map] at hle

/-! ### The settings of one graph -/

/-- The entries of the axes of a graph, under the names as they are written. -/
def axisEntries (graph : Value) : List (String × List (Value × Value)) :=
  (entries (fieldOrNull (entries graph) "axes")).map fun e => (str e.1, entries e.2)

/-- Each name once, with the settings that its entries result in. -/
def settled (graph : Value) : List (String × List (String × String)) :=
  (Entries.grouped (axisEntries graph)).map fun g => (g.1, settings g.1 g.2)

theorem names_settled (graph : Value) :
    (settled graph).map Prod.fst = ((axisEntries graph).map Prod.fst).eraseDups := by
  rw [settled, Entries.grouped, List.map_map, List.map_map]
  exact List.map_id _

theorem mem_settled {graph : Value} {g : String × List (String × String)} :
    g ∈ settled graph ↔ g.1 ∈ (axisEntries graph).map Prod.fst ∧
      g.2 = settings g.1 (Entries.under g.1 (axisEntries graph)) := by
  simp only [settled, Entries.grouped, List.map_map, List.mem_map, Function.comp,
    List.mem_eraseDups]
  constructor
  · rintro ⟨n, hn, rfl⟩
    exact ⟨hn, rfl⟩
  · rintro ⟨hn, hsettings⟩
    exact ⟨g.1, hn, by rw [← hsettings]⟩

/-- The keys of all axes of a graph are distinct. -/
theorem nodup_keys_settled {graph : Value}
    (hwords : ∀ n ∈ (axisEntries graph).map Prod.fst, isWord n = true) :
    ((settled graph).flatMap fun g => g.2.map Prod.fst).Nodup := by
  have hkeyed : ∀ g ∈ settled graph, Keyed g.1 g.2 := by
    intro g hg
    rw [(mem_settled.mp hg).2]
    exact keyed_settings g.1 _
  have hnames : ((settled graph).map Prod.fst).Nodup := by
    rw [names_settled]
    exact Entries.nodup_eraseDups _
  refine List.nodup_flatMap.mpr ⟨fun g hg => (hkeyed g hg).nodup, ?_⟩
  refine (List.pairwise_map.mp hnames).imp_of_mem fun {g g'} hg hg' hne => ?_
  intro k hk hk'
  obtain ⟨e, he, rfl⟩ := List.mem_map.mp hk
  obtain ⟨e', he', heq⟩ := List.mem_map.mp hk'
  obtain ⟨s, hs⟩ := (hkeyed g hg).setter e he
  obtain ⟨s', hs'⟩ := (hkeyed g' hg').setter e' he'
  rw [hs, hs'] at heq
  exact hne ((Setter.key_eq_iff (hwords _ (mem_settled.mp hg').1)
    (hwords _ (mem_settled.mp hg).1)).mp heq).2.symm

/-! ### Filling the graphs of a page -/

variable {b c : Bool} {p p' : Page} {fs : List (List String)} {vs : List Value} {v : Value}

/-- A graph has the settings of its entry, under words. -/
structure HasAxes (w : Workspace) (id : GraphId) (graph : Value) : Prop where
  settings : w.settingsOf id = settled graph
  words : ∀ n ∈ (axisEntries graph).map Prod.fst, isWord n = true

/-- What was gathered under each name is what the name results in. -/
theorem gathered_eq_settled (graph : Value) : gathered (axisEntries graph) [] = settled graph := by
  have hgather : gathered (axisEntries graph) [] = Entries.gather []
      (fun name s fields => (changes name fields).foldl Render.change s) (axisEntries graph) := rfl
  rw [hgather, Entries.gather_eq, settled]
  refine List.map_congr_left fun g _ => ?_
  rw [settings, List.foldl_flatMap]

theorem settled_of_fillGraph {w w' : Workspace} {id : GraphId} {index : Nat}
    (h : fillGraph w id index v = .ok w') (hid : id < w.graphs.length)
    (hempty : w.graph id = .empty c) : HasAxes w' id v := by
  unfold fillGraph at h
  split at h
  · rename_i fields mark
    simp only [bind_eq_ok_iff, hempty] at h
    obtain ⟨is3d, -, es, hes, w₁, hw₁, vs, -, h⟩ := h
    obtain rfl := entries_of_entriesOf hes
    have hgraph : (w.setGraph id { Graph.empty c with is3d := is3d }).graph id = .empty is3d :=
      graph_setGraph_self hid
    have hstart : (w.setGraph id { Graph.empty c with is3d := is3d }).settingsOf id = [] := by
      rw [settingsOf, hgraph]
      rfl
    have hnamed : Named (w.setGraph id { Graph.empty c with is3d := is3d }) id := by
      rw [Named, hgraph]
      exact fun e he => absurd he List.not_mem_nil
    obtain ⟨hreaxed, hsettings⟩ := fillAxes_reaxed hw₁ (owns_setGraph hid rfl)
    obtain ⟨ps, -, haxes, -, hgraph'⟩ :=
      fillPlots_written w.axes.length h hreaxed.owns.placed
    refine ⟨?_, fun n hn => ?_⟩
    · have hplots : w'.settingsOf id = w₁.settingsOf id := by
        simp only [settingsOf, hgraph', Workspace.axis, haxes]
      rw [hplots, hsettings, hstart]
      exact gathered_eq_settled (.map fields mark)
    · obtain ⟨e, he, rfl⟩ := List.mem_map.mp hn
      obtain ⟨f, hf, rfl⟩ := List.mem_map.mp he
      obtain ⟨⟨text, htext, hword, -⟩, -⟩ := axes_of_fillAxes hnamed hw₁ f hf
      show isWord (str f.1) = true
      rw [str_of_plain htext]
      exact hword
  · exact absurd h (by simp)

/-- The axes of a graph keep their settings while another graph is worked on. -/
theorem HasAxes.keeps {w w' : Workspace} {id x : GraphId} (h : HasAxes w x v)
    (hframe : Frame w.axes.length id w w') (hx : x ≠ id)
    (hplaced : ∀ e ∈ (w.graph x).axes, e.2 < w.axes.length) : HasAxes w' x v := by
  refine ⟨?_, h.words⟩
  rw [← h.settings, settingsOf, settingsOf, hframe.graphs x hx]
  refine List.map_congr_left fun e he => ?_
  rw [hframe.axes e.2 (hplaced e he)]

theorem HasAxes.addGraph {w : Workspace} {id : GraphId} (h : HasAxes w id v)
    (hid : id < w.graphs.length) (g : Graph) : HasAxes (w.addGraph g).2 id v := by
  refine ⟨?_, h.words⟩
  rw [← h.settings, settingsOf, settingsOf, graph_addGraph_of_lt hid]
  rfl

/-- The first graphs of a page have the settings of the entries so far. -/
def AllSettled (p : Page) (vs : List Value) : Prop :=
  ∀ i, (h : i < vs.length) → HasAxes p.workspace i vs[i]

theorem workspace_newGraph (p : Page) :
    (p.newGraph false).state.workspace = (p.workspace.addGraph (.empty false)).2 := by
  unfold Page.newGraph Page.appendGraph
  dsimp only
  split <;> rfl

theorem allSettled_newGraph (hs : Shows b p fs) (hlength : fs.length = vs.length)
    (h : AllSettled p vs) : AllSettled (p.newGraph false).state vs := by
  intro i hi
  rw [workspace_newGraph]
  exact (h i hi).addGraph (by rw [hs.count, hlength]; exact hi) _

/-- The last graph is filled, and those before it keep their settings. -/
theorem allSettled_fillPageGraph {index : Nat} (hs : Shows b p (fs ++ [[]]))
    (hlength : fs.length = vs.length) (hempty : p.workspace.graph fs.length = .empty c)
    (h : AllSettled p vs) (hfill : fillPageGraph p fs.length index v = .ok p') :
    AllSettled p' (vs ++ [v]) := by
  simp only [fillPageGraph, bind_eq_ok_iff, pure_eq_ok_iff] at hfill
  obtain ⟨w, hw, rfl⟩ := hfill
  have hid : fs.length < p.workspace.graphs.length := by
    rw [hs.count, length_snoc]
    exact Nat.lt_succ_self _
  intro i hi
  rw [List.length_append, List.length_singleton] at hi
  by_cases hlt : i < vs.length
  · have hne : i ≠ fs.length := by omega
    rw [List.getElem_append_left hlt]
    refine (h i hlt).keeps (fillGraph_filled hw hid hempty).1 hne ?_
    exact (hs.draws i (by rw [length_snoc]; omega)).placed
  · obtain rfl : i = vs.length := by omega
    have hlast := settled_of_fillGraph hw hid hempty
    rw [hlength] at hlast
    rw [List.getElem_concat_length rfl]
    exact hlast

theorem allSettled_addGraphs {index : Nat} {rest : List Value} (hs : Shows b p fs)
    (hlength : fs.length = vs.length) (h : AllSettled p vs)
    (hadd : (addGraphs p index rest).1 = .ok p') : AllSettled p' (vs ++ rest) := by
  induction rest generalizing index p fs vs with
  | nil =>
    obtain rfl := Except.ok.inj hadd
    rw [List.append_nil]
    exact h
  | cons v rest ih =>
    rw [addGraphs_cons hs, bind_eq_ok_iff] at hadd
    obtain ⟨q, hfill, hadd⟩ := hadd
    obtain ⟨-, hshows, -, hempty⟩ := newGraph_shows hs
    obtain ⟨hshows', -⟩ := fillPageGraph_shows hshows hempty hfill
    have hnew := allSettled_newGraph hs hlength h
    have hlast := allSettled_fillPageGraph hshows hlength hempty hnew hfill
    rw [List.append_cons]
    exact ih hshows' (by rw [length_snoc, hlength, List.length_append]; rfl) hlast hadd

/-- What the graphs of an accepted description have as settings. -/
theorem build_allSettled {fields : List (Value × Value)} {mark : Option Nat} {ns : List Notice}
    (h : build (.map fields mark) b = (.ok p, ns)) :
    AllSettled p (items (fieldOrNull fields "graphs")) ∧
      (items (fieldOrNull fields "graphs") = [] → p.workspace.settingsOf 0 = []) := by
  obtain ⟨hblank, hgraph, hproperties⟩ := blankPage_shows b
  obtain ⟨q, hfill, -, hgraphs⟩ := fillGraphs_of_build h
  obtain ⟨-, hshows, hworkspace⟩ := fillPage_settled hproperties hblank hfill
  rw [← hworkspace] at hgraph
  cases hitems : items (fieldOrNull fields "graphs") with
  | nil =>
    rw [hitems] at hgraphs
    obtain rfl := Except.ok.inj hgraphs
    refine ⟨fun i hi => absurd hi (Nat.not_lt_zero i), fun _ => ?_⟩
    rw [settingsOf, hgraph]
    rfl
  | cons v rest =>
    rw [hitems, fillGraphs_cons hshows, bind_eq_ok_iff] at hgraphs
    obtain ⟨q', hfirst, hadd⟩ := hgraphs
    have hstart : Shows b q ([] ++ [[]]) := hshows
    have hnone : AllSettled q [] := fun i hi => absurd hi (Nat.not_lt_zero i)
    obtain ⟨hshows', -⟩ := fillPageGraph_shows hstart hgraph hfirst
    have hone := allSettled_fillPageGraph hstart rfl hgraph hnone hfirst
    exact ⟨allSettled_addGraphs hshows' rfl hone hadd, fun hnil => absurd hnil (by simp)⟩

/-! ### The order of fields -/

/-- Two mappings have the same entries in a different order. -/
structure Reordered (fields fields' : List (Value × Value)) : Prop where
  perm : fields.Perm fields'
  distinct : fields.Pairwise fun e f => Value.same e.1 f.1 = false
  distinct' : fields'.Pairwise fun e f => Value.same e.1 f.1 = false

/-- A field holds the value of the one entry under its name. -/
theorem field_eq_some_iff (h : fields.Pairwise fun e f => Value.same e.1 f.1 = false) {v : Value} :
    Value.field fields name = some v ↔ (.text name, v) ∈ fields := by
  induction fields with
  | nil => simp [Value.field_nil]
  | cons e rest ih =>
    obtain ⟨he, hrest⟩ := List.pairwise_cons.mp h
    obtain ⟨key, value⟩ := e
    by_cases hkey : key = .text name
    · subst hkey
      have hnone : (.text name, v) ∉ rest := fun hmem =>
        absurd (Value.same_text.mpr rfl) (Bool.eq_false_iff.mp (he _ hmem))
      rw [Value.field_cons_self, List.mem_cons]
      simp [hnone, eq_comm]
    · rw [Value.field_cons_of_ne hkey, ih hrest, List.mem_cons]
      simp [Ne.symm hkey]

theorem Reordered.field {fields' : List (Value × Value)} (h : Reordered fields fields')
    (name : String) : Value.field fields name = Value.field fields' name := by
  refine Option.ext fun v => ?_
  rw [field_eq_some_iff h.distinct, field_eq_some_iff h.distinct', h.perm.mem_iff]

/-- An entry does the same to an axis in any order of its fields, and it is refused for the same
fault. -/
theorem axisSettings_reordered {fields' : List (Value × Value)} (h : Reordered fields fields')
    (place : String) (a : Axis) : axisSettings place a fields = axisSettings place a fields' := by
  simp only [axisSettings, withField, h.field]

theorem settings_reordered {es es' : List (List (Value × Value))}
    (h : List.Forall₂ Reordered es es') (name : String) : settings name es = settings name es' := by
  have hchanges : es.map (changes name) = es'.map (changes name) := by
    induction h with
    | nil => rfl
    | cons hfields _ ih =>
      rw [List.map_cons, List.map_cons, ih]
      simp only [changes, hfields.field]
  rw [settings, settings, List.flatMap_def, List.flatMap_def, hchanges]

/-! ### The settings of a description -/

/-- The entry of a graph of a page; a page without entries has one graph all the same. -/
def graphEntry (v : Value) (id : GraphId) : Value :=
  (items (fieldOrNull (entries v) "graphs")).getD id .null

/-- The settings of the axes of a graph do not get into each other's way. -/
structure Apart (w : Workspace) (id : GraphId) (graph : Value) : Prop where
  lines : w.graphLines id =
    ((w.settingsOf id).flatMap fun g => g.2.map Properties.line) ++ (w.graph id).drawingLines
  /-- Names that are written alike are one axis. -/
  names : (w.settingsOf id).map Prod.fst = ((axisEntries graph).map Prod.fst).eraseDups
  keys : ((w.settingsOf id).flatMap fun g => g.2.map Prod.fst).Nodup
  setter : ∀ g ∈ w.settingsOf id, ∀ e ∈ g.2, ∃ s : Setter, e.1 = s.key g.1
  few : ∀ g ∈ w.settingsOf id, g.2.length ≤ 4
  /-- What a name results in depends on the entries under this name. -/
  own : ∀ g ∈ w.settingsOf id, g.2 = settings g.1 (Entries.under g.1 (axisEntries graph))

theorem HasAxes.apart {w : Workspace} {id : GraphId} {graph : Value} (h : HasAxes w id graph) :
    Apart w id graph := by
  have hown : ∀ g ∈ w.settingsOf id,
      g.2 = Render.settings g.1 (Entries.under g.1 (axisEntries graph)) := by
    rw [h.settings]
    exact fun g hg => (mem_settled.mp hg).2
  have hkeyed : ∀ g ∈ w.settingsOf id, Keyed g.1 g.2 := by
    intro g hg
    rw [hown g hg]
    exact keyed_settings g.1 _
  refine ⟨?_, ?_, ?_, fun g hg => (hkeyed g hg).setter, fun g hg => (hkeyed g hg).length_le, hown⟩
  · rw [graphLines, settingsOf, List.flatMap_map]
    rfl
  · rw [h.settings, names_settled]
  · rw [h.settings]
    exact nodup_keys_settled h.words

theorem hasAxes_of_build {ns : List Notice} (h : build v b = (.ok p, ns)) {id : GraphId}
    (hid : id ∈ p.document.graphs) : HasAxes p.workspace id (graphEntry v id) := by
  cases v with
  | map fields mark =>
    obtain ⟨-, hshows⟩ := build_shows h
    obtain ⟨hall, hnone⟩ := build_allSettled h
    rw [hshows.graphs, List.mem_range, length_fragments] at hid
    by_cases hlt : id < (items (fieldOrNull fields "graphs")).length
    · rw [graphEntry, entries, List.getD_eq_getElem _ _ hlt]
      exact hall id hlt
    · -- there are no entries, and one graph without axes
      have hlength : (items (fieldOrNull fields "graphs")).length = 0 := by
        have hle := Nat.le_of_not_lt hlt
        omega
      rw [hlength] at hid
      obtain rfl : id = 0 := Nat.lt_one_iff.mp hid
      have hnil := List.length_eq_zero_iff.mp hlength
      rw [graphEntry, entries, hnil]
      exact ⟨hnone hnil, fun n hn => absurd hn List.not_mem_nil⟩
  | _ => exact absurd (congrArg Prod.fst h) (by simp [build])

theorem under_ne_nil {graph : Value} :
    Entries.under name (axisEntries graph) ≠ [] ↔ name ∈ (axisEntries graph).map Prod.fst := by
  constructor
  · intro h
    by_contra hmem
    exact h (Entries.under_eq_nil hmem)
  · intro h hnil
    obtain ⟨e, he, rfl⟩ := List.mem_map.mp h
    rw [Entries.under, List.map_eq_nil_iff, List.filter_eq_nil_iff] at hnil
    exact hnil e he (decide_eq_true rfl)

/-- A name results in the same settings wherever its entries are the same, up to the order of their
fields. -/
theorem mem_settled_reordered {graph graph' : Value}
    (h : List.Forall₂ Reordered (Entries.under name (axisEntries graph))
      (Entries.under name (axisEntries graph'))) (es : List (String × String)) :
    (name, es) ∈ settled graph ↔ (name, es) ∈ settled graph' := by
  have hempty : Entries.under name (axisEntries graph) = [] ↔
      Entries.under name (axisEntries graph') = [] := by
    rw [← List.length_eq_zero_iff, ← List.length_eq_zero_iff, h.length_eq]
  rw [mem_settled, mem_settled, settings_reordered h name, ← under_ne_nil, ← under_ne_nil,
    Ne, Ne, hempty]

/-- **Axis settings never overwrite each other.**  Keys are the same for the same setter of the same
name only, so all axes of a graph have distinct keys, four at most for each name.  What a name
results in does not depend on the entries of other names, nor on the order of fields. -/
theorem axis_settings_apart {ns : List Notice} (h : build v b = (.ok p, ns)) :
    (∀ key key' a a', Axis.ofName key = .ok a → Axis.ofName key' = .ok a' →
      ∀ s s' : Setter, s.key a.name = s'.key a'.name ↔ s = s' ∧ a.name = a'.name) ∧
    (∀ (a a' : Axis) c answer s, a.run c = .ok (answer, a') → c.setter? = some s →
      (∃ value, a'.properties = a.properties.insert (s.key a.name) value) ∨
        a'.properties = a.properties.erase (s.key a.name)) ∧
    (∀ id ∈ p.document.graphs, Apart p.workspace id (graphEntry v id)) ∧
    (∀ v' b' p' ns', build v' b' = (.ok p', ns') →
      ∀ id ∈ p.document.graphs, ∀ id' ∈ p'.document.graphs, ∀ name,
      List.Forall₂ Reordered (Entries.under name (axisEntries (graphEntry v id)))
        (Entries.under name (axisEntries (graphEntry v' id'))) →
      ∀ es, (name, es) ∈ p.workspace.settingsOf id ↔ (name, es) ∈ p'.workspace.settingsOf id') ∧
    (∀ fields fields', Reordered fields fields' → ∀ place a,
      axisSettings place a fields = axisSettings place a fields') := by
  refine ⟨fun key key' a a' ha ha' s s' => ?_, fun a a' c answer s => Axis.written_of_run,
    fun id hid => (hasAxes_of_build h hid).apart, ?_, fun fields fields' => axisSettings_reordered⟩
  · exact Setter.key_eq_iff (Axis.wellFormed_of_ofName ha).1.name_word
      (Axis.wellFormed_of_ofName ha').1.name_word
  · intro v' b' p' ns' h' id hid id' hid' name hsame es
    rw [(hasAxes_of_build h hid).settings, (hasAxes_of_build h' hid').settings]
    exact mem_settled_reordered hsame es

/-- Names that end in a suffix, and a number and its text that are one name. -/
theorem axis_settings_apart_merged :
    let v : Value := .map
      [(.text "graphs", .list [.map
        [(.text "axes", .map
          [(.int 1, .map [(.text "log", .bool true), (.text "label", .text "q")]),
           (.text "y", .map [(.text "tics", .int 2), (.text "range", .list [.int 0, .null])]),
           (.text "ytics", .map [(.text "tics", .text "")]),
           (.text "1", .map [(.text "log", .bool false), (.text "label", .text "r")])])]])]
    ∃ p ns, build v true = (.ok p, ns) ∧
      (∀ id ∈ p.document.graphs, Apart p.workspace id (graphEntry v id)) ∧
      settled (graphEntry v 0) = [("1", [("1label", "\"r\"")]),
        ("y", [("yrange", "[0.0:]"), ("ytics", "2")]), ("ytics", [("yticstics", "")])] := by
  intro v
  have hok : (build v true).1.toBool = true := by decide +kernel
  cases hbuild : build v true with
  | mk r ns =>
    rw [hbuild] at hok
    cases r with
    | error f => exact absurd hok (by simp [Except.toBool])
    | ok p => exact ⟨p, ns, rfl, (axis_settings_apart hbuild).2.2.1, by decide +kernel⟩

end PlotPage.Description
