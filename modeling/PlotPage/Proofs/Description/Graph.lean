import PlotPage.Proofs.Description.Settings
import PlotPage.Proofs.Workspace

/-!
# Filling a graph

A graph of a description is filled in a workspace: axes are created one by one as names come up, their
settings are changed in place, and plots are appended.  In the end the lines of the graph are those
that `Render.fragment` gives for its entry (`fillGraph_filled`).

Two things carry the proof.  While a graph is filled its axes are its own (`Owns`): they were made
since the filling began, each stands under its name, and no two names share one.  And whatever is
older than the filling stays as it was (`Frame`), so the other graphs keep their lines.
-/

namespace PlotPage

open Description.Render (change changes str entries)

namespace Workspace

/-- The settings of the axes of a graph, under the names of the axes. -/
def settingsOf (w : Workspace) (id : GraphId) : List (String × List (String × String)) :=
  (w.graph id).axes.map fun e => (e.1, (w.axis e.2).properties.entries)

/-- The axes of a graph are its own: made after the first `base` axes, each under its name. -/
structure Owns (base : AxisId) (id : GraphId) (w : Workspace) : Prop where
  placed : id < w.graphs.length
  base_le : base ≤ w.axes.length
  names : ((w.graph id).axes.map Prod.fst).Nodup
  places : ((w.graph id).axes.map Prod.snd).Nodup
  own : ∀ e ∈ (w.graph id).axes, base ≤ e.2 ∧ e.2 < w.axes.length ∧ (w.axis e.2).name = e.1

/-- The first `base` axes and the other graphs stay as they were. -/
structure Frame (base : AxisId) (id : GraphId) (w w' : Workspace) : Prop where
  axes : ∀ a < base, w'.axis a = w.axis a
  graphs : ∀ x ≠ id, w'.graph x = w.graph x
  count : w'.graphs.length = w.graphs.length

theorem Frame.refl (base : AxisId) (id : GraphId) (w : Workspace) : Frame base id w w :=
  ⟨fun _ _ => rfl, fun _ _ => rfl, rfl⟩

theorem Frame.trans {base : AxisId} {id : GraphId} {w w' w'' : Workspace} (h : Frame base id w w')
    (h' : Frame base id w' w'') : Frame base id w w'' where
  axes a ha := (h'.axes a ha).trans (h.axes a ha)
  graphs x hx := (h'.graphs x hx).trans (h.graphs x hx)
  count := h'.count.trans h.count

/-- A graph gives these lines, its axes are placed in the workspace, and its plots can be
written. -/
structure Draws (w : Workspace) (id : GraphId) (lines : List String) : Prop where
  lines : w.graphLines id = lines
  placed : ∀ e ∈ (w.graph id).axes, e.2 < w.axes.length
  writable : (w.graph id).isWritable = true

theorem Draws.of_empty {w : Workspace} {id : GraphId} {is3d : Bool} (h : w.graph id = .empty is3d) :
    w.Draws id [] := by
  refine ⟨?_, ?_, ?_⟩
  · rw [graphLines, h]
    rfl
  · rw [h]
    exact fun e he => absurd he List.not_mem_nil
  · rw [h]
    rfl

theorem Draws.addGraph {w : Workspace} {id : GraphId} {lines : List String} (h : w.Draws id lines)
    (hid : id < w.graphs.length) (g : Graph) : (w.addGraph g).2.Draws id lines := by
  have hgraph : (w.addGraph g).2.graph id = w.graph id := graph_addGraph_of_lt hid
  refine ⟨?_, ?_, ?_⟩
  · rw [← h.lines, graphLines, graphLines, hgraph]
    rfl
  · rw [hgraph]
    exact h.placed
  · rw [hgraph]
    exact h.writable

/-- A graph draws the same after a change of another one. -/
theorem Frame.keeps {id x : GraphId} {w w' : Workspace} {lines : List String}
    (h : Frame w.axes.length id w w') (hgrows : w.axes.length ≤ w'.axes.length) (hx : x ≠ id)
    (hd : w.Draws x lines) : w'.Draws x lines := by
  have hgraph := h.graphs x hx
  refine ⟨?_, ?_, ?_⟩
  · rw [← hd.lines, graphLines, graphLines, hgraph]
    congr 1
    apply List.flatMap_congr
    intro e he
    rw [h.axes e.2 (hd.placed e he)]
  · rw [hgraph]
    intro e he
    exact lt_of_lt_of_le (hd.placed e he) hgrows
  · rw [hgraph]
    exact hd.writable

/-- The axes of a graph have been worked on: it draws as before, and its axes are still its own. -/
structure Reaxed (base : AxisId) (id : GraphId) (w w' : Workspace) : Prop where
  frame : Frame base id w w'
  owns : Owns base id w'
  is3d : (w'.graph id).is3d = (w.graph id).is3d
  plots : (w'.graph id).plots = (w.graph id).plots

theorem Reaxed.trans {base : AxisId} {id : GraphId} {w w' w'' : Workspace}
    (h : Reaxed base id w w') (h' : Reaxed base id w' w'') : Reaxed base id w w'' where
  frame := h.frame.trans h'.frame
  owns := h'.owns
  is3d := h'.is3d.trans h.is3d
  plots := h'.plots.trans h.plots

variable {base : AxisId} {id : GraphId} {w w' : Workspace}

theorem insertAxis_of_not_mem {name : String} {a : AxisId} {axes : List (String × AxisId)}
    (h : name ∉ axes.map Prod.fst) : Graph.insertAxis name a axes = axes ++ [(name, a)] := by
  rw [Graph.insertAxis_eq_update]
  exact Entries.update_of_not_mem h

theorem axisId?_eq_some {g : Graph} {name : String} {a : AxisId} (h : g.axisId? name = some a) :
    (name, a) ∈ g.axes := by
  rw [Graph.axisId?, Option.map_eq_some_iff] at h
  obtain ⟨e, he, rfl⟩ := h
  have hname : e.1 = name := by simpa using List.find?_some he
  rw [← hname]
  exact List.mem_of_find?_eq_some he

theorem axisId?_eq_none {g : Graph} {name : String} (h : g.axisId? name = none) :
    name ∉ g.axes.map Prod.fst := by
  rw [Graph.axisId?, Option.map_eq_none_iff, List.find?_eq_none] at h
  intro hmem
  obtain ⟨e, he, hname⟩ := List.mem_map.mp hmem
  exact h e he (by simpa using hname)

/-- A new axis is one of the graph's own, and stands under its name without settings. -/
theorem Owns.create (ho : Owns base id w) {name : String} {axis : Axis}
    (hfresh : name ∉ (w.graph id).axes.map Prod.fst) (hname : axis.name = name)
    (hempty : axis.properties = .empty) {g : Graph} (his3d : g.is3d = (w.graph id).is3d)
    (hplots : g.plots = (w.graph id).plots)
    (haxes : g.axes = (w.graph id).axes ++ [(name, w.axes.length)]) :
    Reaxed base id w ((w.addAxis axis).2.setGraph id g) ∧
      ((w.addAxis axis).2.setGraph id g).graph id = g ∧
      ((w.addAxis axis).2.setGraph id g).settingsOf id = w.settingsOf id ++ [(name, [])] := by
  have hgraph : ((w.addAxis axis).2.setGraph id g).graph id = g := graph_setGraph_self ho.placed
  have hold : ∀ x < w.axes.length, ((w.addAxis axis).2.setGraph id g).axis x = w.axis x :=
    fun x hx => axis_addAxis_of_lt hx
  have hnew : ((w.addAxis axis).2.setGraph id g).axis w.axes.length = axis :=
    axis_addAxis_self w axis
  have hlength : ((w.addAxis axis).2.setGraph id g).axes.length = w.axes.length + 1 :=
    List.length_append
  have hcount : ((w.addAxis axis).2.setGraph id g).graphs.length = w.graphs.length :=
    List.length_set
  have hplaces : w.axes.length ∉ (w.graph id).axes.map Prod.snd := by
    intro hmem
    obtain ⟨e, he, heq⟩ := List.mem_map.mp hmem
    exact absurd heq (Nat.ne_of_lt (ho.own e he).2.1)
  refine ⟨⟨⟨?_, ?_, hcount⟩, ⟨?_, ?_, ?_, ?_, ?_⟩, ?_, ?_⟩, hgraph, ?_⟩
  · intro a ha
    exact hold a (lt_of_lt_of_le ha ho.base_le)
  · intro x hx
    exact graph_setGraph_of_ne hx
  · rw [hcount]
    exact ho.placed
  · rw [hlength]
    exact ho.base_le.trans (Nat.le_succ _)
  · rw [hgraph, haxes, List.map_append]
    exact List.nodup_append_comm.mp (List.nodup_cons.mpr ⟨hfresh, ho.names⟩)
  · rw [hgraph, haxes, List.map_append]
    exact List.nodup_append_comm.mp (List.nodup_cons.mpr ⟨hplaces, ho.places⟩)
  · rw [hgraph, haxes, hlength]
    intro e he
    rcases List.mem_append.mp he with he | he
    · obtain ⟨hge, hlt, hown⟩ := ho.own e he
      rw [hold e.2 hlt]
      exact ⟨hge, hlt.trans (Nat.lt_succ_self _), hown⟩
    · rw [List.mem_singleton.mp he]
      refine ⟨ho.base_le, Nat.lt_succ_self _, ?_⟩
      rw [hnew, hname]
  · rw [hgraph, his3d]
  · rw [hgraph, hplots]
  · rw [settingsOf, hgraph, haxes, List.map_append, List.map_singleton, hnew, hempty]
    congr 1
    apply List.map_congr_left
    intro e he
    rw [hold e.2 (ho.own e he).2.1]

/-- The axis under a name: it is there afterwards, and what is done to its settings is the same
whether it was there before or not. -/
theorem Owns.getAxis (ho : Owns base id w) {name : String} {a : AxisId}
    (h : w.getAxis id (.text name) = .ok (a, w')) : Reaxed base id w w' ∧
      (name, a) ∈ (w'.graph id).axes ∧ ∀ act, Entries.update [] name act (w'.settingsOf id) =
        Entries.update [] name act (w.settingsOf id) := by
  simp only [Workspace.getAxis, Properties.lookupKey?, bind_eq_ok_iff] at h
  obtain ⟨key, hkey, h⟩ := h
  obtain rfl := Except.ok.inj hkey
  rw [Option.bind_some] at h
  cases ha : (w.graph id).axisId? name with
  | some b =>
    rw [ha] at h
    obtain ⟨rfl, rfl⟩ := Prod.mk.inj (Except.ok.inj h)
    exact ⟨⟨.refl base id w, ho, rfl, rfl⟩, axisId?_eq_some ha, fun _ => rfl⟩
  | none =>
    rw [ha] at h
    simp only [bind_eq_ok_iff] at h
    obtain ⟨axis, haxis, h⟩ := h
    obtain ⟨rfl, rfl⟩ := Prod.mk.inj (Except.ok.inj h)
    obtain ⟨-, hname, hempty⟩ := Axis.wellFormed_of_ofName haxis
    have hfresh := axisId?_eq_none ha
    obtain rfl : name = axis.name := Value.text.inj hname
    obtain ⟨hcreated, hgraph, hsettings⟩ := ho.create (g := { w.graph id with
      axes := Graph.insertAxis axis.name w.axes.length (w.graph id).axes }) hfresh rfl hempty rfl rfl
      (insertAxis_of_not_mem hfresh)
    refine ⟨hcreated, ?_, ?_⟩
    · have hmem : (axis.name, w.axes.length) ∈ (((w.addAxis axis).2.setGraph id { w.graph id with
          axes := Graph.insertAxis axis.name w.axes.length (w.graph id).axes }).graph id).axes := by
        rw [hgraph]
        show _ ∈ Graph.insertAxis axis.name w.axes.length (w.graph id).axes
        rw [insertAxis_of_not_mem hfresh]
        exact List.mem_append_right _ List.mem_cons_self
      exact hmem
    · intro act
      have hkeys : axis.name ∉ (w.settingsOf id).map Prod.fst := by
        rw [settingsOf, List.map_map]
        exact hfresh
      exact (congrArg _ hsettings).trans (Entries.update_snoc_start hkeys)

/-- Changing an axis of a graph changes the settings under its name. -/
theorem Owns.setAxis (ho : Owns base id w) {name : String} {a : AxisId}
    (hmem : (name, a) ∈ (w.graph id).axes) {b : Axis} {cs : List (String × Option String)}
    (hb : Description.Changed (w.axis a) b cs) : Reaxed base id w (w.setAxis a b) ∧
      (w.setAxis a b).settingsOf id =
        Entries.update [] name (fun s => cs.foldl change s) (w.settingsOf id) := by
  obtain ⟨hge, hlt, hname⟩ := ho.own _ hmem
  have hself : (w.setAxis a b).axis a = b := axis_setAxis_self hlt
  have hother : ∀ x ≠ a, (w.setAxis a b).axis x = w.axis x := fun x hx => axis_setAxis_of_ne hx
  have hlength : (w.setAxis a b).axes.length = w.axes.length := List.length_set
  refine ⟨⟨⟨?_, fun _ _ => rfl, rfl⟩, ⟨ho.placed, ?_, ho.names, ho.places, ?_⟩, rfl, rfl⟩, ?_⟩
  · intro x hx
    exact hother x (Nat.ne_of_lt (lt_of_lt_of_le hx hge))
  · rw [hlength]
    exact ho.base_le
  · intro e he
    obtain ⟨hge', hlt', hname'⟩ := ho.own e he
    rw [hlength]
    refine ⟨hge', hlt', ?_⟩
    by_cases hx : e.2 = a
    · rw [hx, hself, hb.name, ← hx]
      exact hname'
    · rw [hother e.2 hx]
      exact hname'
  · refine Eq.trans ?_ (Entries.update_map Prod.fst
      (fun e : String × AxisId => (w.axis e.2).properties.entries) ho.names hmem rfl).symm
    apply List.map_congr_left
    intro e he
    by_cases hx : e.2 = a
    · have hpair : e = (name, a) := List.inj_on_of_nodup_map ho.places he hmem hx
      rw [hx, hself, hb.entries, if_pos (by rw [hpair])]
    · have hkey : e.1 ≠ name := by
        intro hkey
        have hpair : e = (name, a) := List.inj_on_of_nodup_map ho.names he hmem hkey
        exact hx (by rw [hpair])
      rw [hother e.2 hx, if_neg hkey]

end Workspace

namespace Description

open Render Workspace

variable {base : AxisId} {id : GraphId}

/-- What the entries of the axes do to the settings of a graph. -/
def gathered (axes : List (String × List (Value × Value)))
    (start : List (String × List (String × String))) : List (String × List (String × String)) :=
  axes.foldl (fun es x => Entries.update [] x.1 (fun s => (changes x.1 x.2).foldl change s) es) start

theorem fillAxes_reaxed {place : String} {es : List (Value × Value)} {w w' : Workspace}
    (h : fillAxes place w id es = .ok w') (ho : Owns base id w) : Reaxed base id w w' ∧
      w'.settingsOf id = gathered (es.map fun e => (str e.1, entries e.2)) (w.settingsOf id) := by
  induction es generalizing w with
  | nil =>
    obtain rfl := Except.ok.inj h
    exact ⟨⟨.refl base id w, ho, rfl, rfl⟩, rfl⟩
  | cons e rest ih =>
    obtain ⟨key, v⟩ := e
    cases v with
    | map fields mark =>
      simp only [fillAxes, bind_eq_ok_iff] at h
      obtain ⟨name, hname, ⟨a, w₁⟩, hw₁, axis, haxis, h⟩ := h
      obtain ⟨hreaxed, hmem, hsettings⟩ := ho.getAxis hw₁
      have hchanged := axisSettings_changed haxis
      rw [(hreaxed.owns.own _ hmem).2.2] at hchanged
      obtain ⟨hset, hsettings'⟩ := hreaxed.owns.setAxis hmem hchanged
      obtain ⟨hrest, hrest'⟩ := ih h hset.owns
      refine ⟨(hreaxed.trans hset).trans hrest, ?_⟩
      rw [hrest', hsettings', hsettings, List.map_cons, str_of_plain hname]
      rfl
    | _ => exact absurd h (by simp [fillAxes])

/-- The lines of the axes of a graph that has been filled. -/
theorem axisLines_eq {w : Workspace} {es : List (Value × Value)}
    (h : w.settingsOf id = gathered (es.map fun e => (str e.1, entries e.2)) []) :
    (w.graph id).axes.flatMap (fun e => (w.axis e.2).lines) = axisLines es := by
  have hgather : w.settingsOf id = Entries.gather []
      (fun name s fields => (changes name fields).foldl change s)
      (es.map fun e => (str e.1, entries e.2)) := h
  have hlines : (w.graph id).axes.flatMap (fun e => (w.axis e.2).lines) =
      (w.settingsOf id).flatMap fun g => g.2.map Properties.line := by
    rw [settingsOf, List.flatMap_map]
    rfl
  rw [hlines, hgather, Entries.gather_eq, List.flatMap_map, axisLines]
  apply List.flatMap_congr
  intro g _
  rw [settings, List.foldl_flatMap]

/-- Adding plots changes nothing but the plots of the graph. -/
theorem fillPlots_written (base : AxisId) {place : String} {vs : List Value} {index : Nat} {w w' : Workspace}
    (h : fillPlots place w id index vs = .ok w') (hid : id < w.graphs.length) :
    ∃ ps, List.Forall₂ Written vs ps ∧ w'.axes = w.axes ∧ Frame base id w w' ∧
      w'.graph id = { w.graph id with plots := (w.graph id).plots ++ ps } := by
  induction vs generalizing index w with
  | nil =>
    obtain rfl := Except.ok.inj h
    refine ⟨[], .nil, rfl, .refl base id w, ?_⟩
    rw [List.append_nil]
  | cons v rest ih =>
    simp only [fillPlots, bind_eq_ok_iff] at h
    obtain ⟨p, hp, w₁, hw₁, h⟩ := h
    obtain rfl := Except.ok.inj hw₁
    have hid' : id < (w.setGraph id { w.graph id with
        plots := (w.graph id).plots ++ [p] }).graphs.length := by
      rw [setGraph, List.length_set]
      exact hid
    obtain ⟨ps, hps, haxes, hframe, hgraph⟩ := ih h hid'
    refine ⟨p :: ps, .cons (plot_written hp) hps, haxes, ?_, ?_⟩
    · refine ⟨hframe.axes, ?_, ?_⟩
      · intro x hx
        rw [hframe.graphs x hx]
        exact graph_setGraph_of_ne hx
      · rw [hframe.count]
        exact List.length_set
    · rw [hgraph, graph_setGraph_self hid, List.append_assoc]
      rfl

/-- The clauses and the inline data of plots, entry by entry. -/
theorem forall₂_written {vs : List Value} {ps : List Plot} (h : List.Forall₂ Written vs ps) :
    ps.map Plot.definition = vs.map clause ∧ ps.flatMap Plot.dataLines = vs.flatMap inlineData ∧
      ps.isEmpty = vs.isEmpty ∧ ps.all Plot.isWritable = true := by
  induction h with
  | nil => exact ⟨rfl, rfl, rfl, rfl⟩
  | cons hw _ ih =>
    obtain ⟨hclauses, hdata, -, hwritable⟩ := ih
    refine ⟨?_, ?_, rfl, ?_⟩
    · rw [List.map_cons, List.map_cons, hclauses, hw.definition]
    · rw [List.flatMap_cons, List.flatMap_cons, hdata, hw.dataLines]
    · rw [List.all_cons, hw.writable, hwritable, Bool.and_self]

/-- The command and the inline data of plots that were added in order. -/
theorem drawingLines_eq {g : Graph} {vs : List Value} (h : List.Forall₂ Written vs g.plots) :
    g.drawingLines = drawing g.is3d vs := by
  obtain ⟨hclauses, hdata, hempty, -⟩ := forall₂_written h
  rw [Graph.drawingLines, Graph.plotCommand?, Graph.dataLines, hclauses, hdata, hempty, drawing]
  cases vs.isEmpty <;> rfl

theorem isTrue_of_truthValue {place name : String} {fields : List (Value × Value)} {b : Bool}
    (h : truthValue place ((Value.field fields name).getD (.bool false)) = .ok b) :
    isTrue (fieldOrNull fields name) = b := by
  have hvalue := truthValue_eq_ok h
  rw [fieldOrNull]
  cases hfield : Value.field fields name with
  | none =>
    rw [hfield] at hvalue
    exact Value.bool.inj hvalue
  | some v =>
    rw [hfield] at hvalue
    have hv : v = .bool b := hvalue
    rw [hv]
    rfl

/-- A graph that is put back without axes owns what will be made for it. -/
theorem owns_setGraph {w : Workspace} (hid : id < w.graphs.length) {g : Graph} (hg : g.axes = []) :
    Owns w.axes.length id (w.setGraph id g) := by
  have hcount : (w.setGraph id g).graphs.length = w.graphs.length := List.length_set
  have haxes : ((w.setGraph id g).graph id).axes = [] := by
    rw [graph_setGraph_self hid]
    exact hg
  refine ⟨?_, le_rfl, ?_, ?_, ?_⟩
  · rw [hcount]
    exact hid
  · rw [haxes]
    exact List.nodup_nil
  · rw [haxes]
    exact List.nodup_nil
  · rw [haxes]
    exact fun e he => absurd he List.not_mem_nil

/-- The lines of a graph whose axes and plots have been filled. -/
theorem draws_of_written {w w' : Workspace} {is3d : Bool} {es : List (Value × Value)}
    {vs : List Value} {ps : List Plot} (ho : Owns base id w)
    (hsettings : w.settingsOf id = gathered (es.map fun e => (str e.1, entries e.2)) [])
    (hps : List.Forall₂ Written vs ps) (haxes : w'.axes = w.axes)
    (hgraph : w'.graph id = { w.graph id with is3d := is3d, plots := ps }) :
    w'.Draws id (axisLines es ++ drawing is3d vs) := by
  have haxis : ∀ a, w'.axis a = w.axis a := by
    intro a
    rw [Workspace.axis, Workspace.axis, haxes]
  refine ⟨?_, ?_, ?_⟩
  · rw [graphLines, hgraph, drawingLines_eq hps, ← axisLines_eq hsettings]
    simp only [haxis]
  · rw [hgraph, haxes]
    exact fun e he => (ho.own e he).2.1
  · rw [hgraph]
    exact (forall₂_written hps).2.2.2

/-- **Filling a graph.**  A graph that was empty has the lines of its entry; the other graphs and
the axes that were there before stay as they were. -/
theorem fillGraph_filled {w w' : Workspace} {index : Nat} {v : Value}
    (h : fillGraph w id index v = .ok w') (hid : id < w.graphs.length) {b : Bool}
    (hempty : w.graph id = .empty b) : Frame w.axes.length id w w' ∧
      w.axes.length ≤ w'.axes.length ∧ w'.Draws id (fragment v) := by
  unfold fillGraph at h
  split at h
  · rename_i fields mark
    simp only [bind_eq_ok_iff, hempty] at h
    obtain ⟨is3d, his3d, es, hes, w₁, hw₁, vs, hvs, h⟩ := h
    obtain rfl := entries_of_entriesOf hes
    obtain rfl := items_of_itemsOf hvs
    -- the graph is still empty, and draws as the entry says
    have hgraph : (w.setGraph id { Graph.empty b with is3d := is3d }).graph id = .empty is3d :=
      graph_setGraph_self hid
    have hframe : Frame w.axes.length id w (w.setGraph id { Graph.empty b with is3d := is3d }) :=
      ⟨fun _ _ => rfl, fun x hx => graph_setGraph_of_ne hx, List.length_set⟩
    have hstart : (w.setGraph id { Graph.empty b with is3d := is3d }).settingsOf id = [] := by
      rw [settingsOf, hgraph]
      rfl
    -- its axes are filled, and then its plots
    obtain ⟨hreaxed, hsettings⟩ := fillAxes_reaxed hw₁ (owns_setGraph hid rfl)
    obtain ⟨ps, hps, haxes, hframe', hgraph'⟩ :=
      fillPlots_written w.axes.length h hreaxed.owns.placed
    rw [hstart] at hsettings
    have hfilled : w'.graph id =
        { w₁.graph id with is3d := isTrue (fieldOrNull fields "splot"), plots := ps } := by
      have hsplot : (w₁.graph id).is3d = is3d := by
        rw [hreaxed.is3d, hgraph]
        rfl
      have hplots : (w₁.graph id).plots = [] := by
        rw [hreaxed.plots, hgraph]
        rfl
      rw [hgraph', hplots, isTrue_of_truthValue his3d, ← hsplot, List.nil_append]
    refine ⟨(hframe.trans hreaxed.frame).trans hframe', ?_, ?_⟩
    · rw [haxes]
      exact hreaxed.owns.base_le
    · exact draws_of_written hreaxed.owns hsettings hps haxes hfilled
  · exact absurd h (by simp)

end Description

end PlotPage
