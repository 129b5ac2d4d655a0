import Mathlib.Data.List.Basic
import PlotPage.Document.Command
import PlotPage.Proofs.Result

/-!
# The lines of a script

Compiling a page succeeds exactly when its commands are texts and the lines of its graphs can be
made (`Document.compile_eq_ok_iff`).  The lines of several graphs are made exactly when the layout
is sized for them and has a tile for each, and all of them can be written
(`Document.tiledLines_eq_ok_iff`), and then the pair of lines of the tile `i` stands directly before
the lines of the graph `i`.
-/

namespace PlotPage

/-- The graphs at these places can be written. -/
def Workspace.CanWrite (w : Workspace) (ids : List GraphId) : Prop :=
  ∀ id ∈ ids, (w.graph id).isWritable = true

instance (w : Workspace) (ids : List GraphId) : Decidable (w.CanWrite ids) :=
  inferInstanceAs (Decidable (∀ id ∈ ids, _))

namespace Document

/-- The lines of tiled graphs: before the lines of each graph stand those of its tile. -/
def blocks (w : Workspace) (pairs : List (List String)) (ids : List GraphId) : List String :=
  (pairs.zip ids).flatMap fun b => b.1 ++ w.graphLines b.2

theorem blocks_cons (w : Workspace) (pair : List String) (pairs : List (List String))
    (id : GraphId) (ids : List GraphId) :
    blocks w (pair :: pairs) (id :: ids) = pair ++ w.graphLines id ++ blocks w pairs ids := rfl

/-- The pairs of lines that a layout gives to `n` graphs from a position on. -/
def TilePairs (l : Layout) (start : Nat) (pairs : List (List String)) : Prop :=
  ∀ i (h : i < pairs.length), l.tileLines (.int (start + i : Nat)) = .ok pairs[i]

theorem tilePairs_cons {l : Layout} {start : Nat} {pair : List String}
    {pairs : List (List String)} : TilePairs l start (pair :: pairs) ↔
      l.tileLines (.int start) = .ok pair ∧ TilePairs l (start + 1) pairs := by
  constructor
  · intro h
    refine ⟨h 0 (Nat.zero_lt_succ _), fun i hi => ?_⟩
    rw [Nat.add_right_comm]
    exact h (i + 1) (Nat.succ_lt_succ hi)
  · rintro ⟨hpair, hrest⟩ i hi
    cases i with
    | zero => exact hpair
    | succ i =>
      have hi' : i < pairs.length := Nat.lt_of_succ_lt_succ hi
      have htile := hrest i hi'
      rw [Nat.add_right_comm] at htile
      exact htile

theorem tiledLines_eq_ok_iff {w : Workspace} {l : Layout} {start : Nat} {ids : List GraphId}
    {lines : List String} : (tiledLines w l start ids).1 = .ok lines ↔
      w.CanWrite ids ∧ ∃ pairs, pairs.length = ids.length ∧ TilePairs l start pairs ∧
        lines = blocks w pairs ids := by
  induction ids generalizing start lines with
  | nil =>
    constructor
    · intro h
      obtain rfl := Except.ok.inj h
      exact ⟨fun _ hid => absurd hid List.not_mem_nil, [], rfl,
        fun i hi => absurd hi (Nat.not_lt_zero i), rfl⟩
    · rintro ⟨-, pairs, hlen, -, rfl⟩
      obtain rfl := List.eq_nil_of_length_eq_zero hlen
      rfl
  | cons id rest ih =>
    rw [tiledLines, Workspace.CanWrite, List.forall_mem_cons]
    cases htile : l.tileLines (.int start) with
    | error f =>
      constructor
      · intro h; exact absurd h (by simp)
      · rintro ⟨-, pairs, hlen, hpairs, -⟩
        obtain ⟨pair, pairs', rfl⟩ := List.exists_cons_of_length_eq_add_one hlen
        rw [tilePairs_cons, htile] at hpairs
        exact absurd hpairs.1 (by simp)
    | ok tile =>
      cases hown : (w.graph id).written (w.graphLines id) with
      | error f =>
        obtain ⟨hno, -⟩ := Graph.written_eq_error_iff.mp hown
        refine iff_of_false (by simp) ?_
        rintro ⟨⟨hyes, -⟩, -⟩
        exact absurd (hno.symm.trans hyes) (by simp)
      | ok own =>
        obtain ⟨hwrites, rfl⟩ := Graph.written_eq_ok_iff.mp hown
        simp only [map_eq_ok_iff]
        constructor
        · rintro ⟨ls, hls, rfl⟩
          obtain ⟨hrest, pairs, hlen, hpairs, rfl⟩ := ih.mp hls
          exact ⟨⟨hwrites, hrest⟩, tile :: pairs, by simp [hlen],
            tilePairs_cons.mpr ⟨htile, hpairs⟩, rfl⟩
        · rintro ⟨⟨-, hrest⟩, pairs, hlen, hpairs, rfl⟩
          obtain ⟨pair, pairs', rfl⟩ := List.exists_cons_of_length_eq_add_one hlen
          rw [tilePairs_cons, htile] at hpairs
          obtain rfl := Except.ok.inj hpairs.1
          refine ⟨_, ih.mpr ⟨hrest, pairs', Nat.succ.inj hlen, hpairs.2, rfl⟩, rfl⟩

/-- When the lines of tiled graphs cannot be made, the tile of one of them cannot, or one of them
cannot be written. -/
theorem tiledLines_error_cases {w : Workspace} {l : Layout} {start : Nat} {ids : List GraphId}
    {f : Fault} (h : (tiledLines w l start ids).1 = .error f) :
    (∃ i < ids.length, l.tileLines (.int (start + i : Nat)) = .error f) ∨
      ¬w.CanWrite ids ∧ f = .outside .longInteger := by
  induction ids generalizing start with
  | nil => exact absurd h (by simp [tiledLines])
  | cons id rest ih =>
    rw [tiledLines] at h
    rw [Workspace.CanWrite, List.forall_mem_cons]
    cases htile : l.tileLines (.int start) with
    | error g =>
      rw [htile] at h
      obtain rfl := Except.error.inj h
      exact Or.inl ⟨0, Nat.zero_lt_succ _, htile⟩
    | ok tile =>
      rw [htile] at h
      cases hown : (w.graph id).written (w.graphLines id) with
      | error g =>
        rw [hown] at h
        obtain rfl := Except.error.inj h
        obtain ⟨hno, hf⟩ := Graph.written_eq_error_iff.mp hown
        exact Or.inr ⟨fun hboth => absurd (hno.symm.trans hboth.1) (by simp), hf⟩
      | ok own =>
        rw [hown] at h
        simp only [map_eq_error_iff] at h
        rcases ih h with ⟨i, hi, hf⟩ | ⟨hno, hf⟩
        · refine Or.inl ⟨i + 1, Nat.succ_lt_succ hi, ?_⟩
          rw [Nat.add_right_comm] at hf
          exact hf
        · exact Or.inr ⟨fun hboth => hno hboth.2, hf⟩

/-! ### Plot lines -/

theorem plotLines_single {w : Workspace} {d : Document} {id : GraphId} (h : d.graphs = [id]) :
    (plotLines w d).1 = (w.graph id).written (w.graphLines id) := by
  unfold plotLines
  rw [h]

theorem plotLines_of_capacity_eq {w : Workspace} {d : Document} (h : ∀ id, d.graphs ≠ [id])
    (hc : d.layout.capacity = d.graphs.length) : (plotLines w d).1 =
      (tiledLines w d.layout 0 d.graphs).1.map fun ls => d.header :: (ls ++ ["unset multiplot"]) := by
  unfold plotLines
  split
  · rename_i id hid
    exact absurd hid (h id)
  · rw [if_pos hc]

theorem plotLines_of_mismatch {w : Workspace} {d : Document} (h : ∀ id, d.graphs ≠ [id])
    (hc : d.layout.capacity ≠ d.graphs.length) : (plotLines w d).1 =
      (do throw (.layoutMismatch (← (Value.int d.layout.capacity).plain)
        (toString d.graphs.length))) := by
  unfold plotLines
  split
  · rename_i id hid
    exact absurd hid (h id)
  · rw [if_neg hc]

theorem plotLines_of_capacity_ne {w : Workspace} {d : Document} (h : ∀ id, d.graphs ≠ [id])
    (hc : d.layout.capacity ≠ d.graphs.length) : ∃ f, (plotLines w d).1 = .error f := by
  rw [plotLines_of_mismatch h hc]
  cases (Value.int d.layout.capacity).plain with
  | error f => exact ⟨f, rfl⟩
  | ok t => exact ⟨_, rfl⟩

theorem ne_singleton_of_length {ids : List GraphId} (h : ids.length ≠ 1) : ∀ id, ids ≠ [id] := by
  rintro id rfl
  exact h rfl

/-! ### Compiling -/

theorem mapM_lineText_eq_ok_iff {vs : List Value} {ls : List String} :
    vs.mapM lineText = .ok ls ↔ vs = ls.map .text := by
  have hline : ∀ {v : Value} {s : String}, lineText v = .ok s ↔ v = .text s := by
    intro v s
    unfold lineText
    split
    · simp
    · rename_i hv
      constructor
      · intro h; exact absurd h (by simp)
      · rintro rfl; exact absurd rfl (hv s)
  induction vs generalizing ls with
  | nil => cases ls <;> simp
  | cons v vs ih =>
    rw [List.mapM_cons]
    simp only [bind_eq_ok_iff, pure_eq_ok_iff, hline, ih]
    constructor
    · rintro ⟨s, rfl, rest, rfl, rfl⟩; rfl
    · intro h
      obtain ⟨s, rest, rfl, rfl, rfl⟩ := List.map_eq_cons_iff.mp h.symm
      exact ⟨s, rfl, rest, rfl, rfl⟩

/-- **The script of a document.**  There is one exactly when the commands are texts and the lines of
the graphs can be made. -/
theorem compile_eq_ok_iff {w : Workspace} {d : Document} {t : Terminal} {script : String} :
    (compile w d t).1 = .ok script ↔
      ∃ pre post plots : List String, d.preInit = pre.map .text ∧ d.postInit = post.map .text ∧
        (plotLines w d).1 = .ok plots ∧
        script = joinLines (pre ++ (d.properties.lines ++ t.lines) ++ post ++ (plots ++ ["quit"])) := by
  unfold compile
  cases hp : plotLines w d with
  | mk r ns =>
    cases r with
    | error f => simp
    | ok plots =>
      simp only [map_eq_ok_iff, mapM_lineText_eq_ok_iff, scriptLines]
      constructor
      · rintro ⟨ls, hls, rfl⟩
        obtain ⟨abc, q, rfl, habc, hq⟩ := List.map_eq_append_iff.mp hls.symm
        obtain ⟨ab, post, rfl, hab, hpost⟩ := List.map_eq_append_iff.mp habc
        obtain ⟨pre, set, rfl, hpre, hset⟩ := List.map_eq_append_iff.mp hab
        have htext : Function.Injective Value.text := fun _ _ h => Value.text.inj h
        obtain rfl := htext.list_map hset
        obtain rfl := htext.list_map hq
        exact ⟨pre, post, plots, hpre.symm, hpost.symm, rfl, rfl⟩
      · rintro ⟨pre, post, plots', hpre, hpost, hplots', rfl⟩
        obtain rfl := Except.ok.inj hplots'
        exact ⟨_, by rw [hpre, hpost]; simp only [List.map_append], rfl⟩

theorem compile_of_plotLines_error {w : Workspace} {d : Document} {t : Terminal} {f : Fault}
    (h : (plotLines w d).1 = .error f) : (compile w d t).1 = .error f := by
  unfold compile
  cases hp : plotLines w d with
  | mk r ns =>
    rw [hp] at h
    obtain rfl : r = .error f := h
    rfl

/-- What keeps a document from being compiled: the lines of its graphs, or a command that is no
text. -/
theorem compile_eq_error {w : Workspace} {d : Document} {t : Terminal} {f : Fault}
    (h : (compile w d t).1 = .error f) :
    (plotLines w d).1 = .error f ∨ f = .outside .notText := by
  unfold compile at h
  cases hp : plotLines w d with
  | mk r ns =>
    cases r with
    | error g =>
      rw [hp] at h
      exact Or.inl (congrArg Except.error (Except.error.inj h))
    | ok plots =>
      right
      rw [hp] at h
      simp only [map_eq_error_iff] at h
      generalize d.scriptLines t plots = vs at h
      induction vs with
      | nil => exact absurd h (by simp)
      | cons v vs ih =>
        rw [List.mapM_cons] at h
        simp only [bind_eq_error_iff, pure_ne_error, and_false, exists_false, or_false] at h
        rcases h with hv | ⟨s, -, hvs⟩
        · unfold lineText at hv
          split at hv
          · exact absurd hv (by simp)
          · exact (Except.error.inj hv).symm
        · exact ih hvs

end Document

end PlotPage
