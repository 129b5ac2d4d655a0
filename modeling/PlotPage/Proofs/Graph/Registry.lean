import Mathlib.Data.List.GetD
import PlotPage.Graph.Command
import PlotPage.Proofs.Axis.Keys
import PlotPage.Proofs.Description.Graph
import PlotPage.Proofs.Graph.Sheet

/-!
# Graphs and the axes they store

Axes are shared by reference: one axis may stand in several graphs, be stored again, or be replaced
where it stood.  Whoever holds what, and whether the calls succeed or fail, every graph keeps a proper
registry (`Registered`): its names are distinct, and each axis stands under its own name.  Names are
only ever added at the end, so they keep the order in which they first appeared.

A setting belongs to an axis and not to a graph.  The lines of a graph are therefore read as
settings with the axes they come from (`shownSettings`), which tells two axes apart that have the
same setting.  A property that is set through any holder of an axis is then found once in each graph
that stores this very axis, and in no other graph (`Shows`).
-/

namespace PlotPage

/-- The axis in the hands of the caller that a step stores. -/
def Graph.Command.storedAxis? : Graph.Command → Option AxisId
  | .storeAxis _ (.axis a) => some a
  | _ => none

/-- A step is made on axes and graphs that are there. -/
def Workspace.Command.Held (w : Workspace) : Workspace.Command → Prop
  | .createAxis _ => True
  | .createGraph _ => True
  | .onAxis a _ => a < w.axes.length
  | .onGraph id step => id < w.graphs.length ∧ ∀ a ∈ step.storedAxis?, a < w.axes.length

instance (w : Workspace) : DecidablePred (Workspace.Command.Held w)
  | .createAxis _ => .isTrue trivial
  | .createGraph _ => .isTrue trivial
  | .onAxis a _ => inferInstanceAs (Decidable (a < w.axes.length))
  | .onGraph id step => inferInstanceAs
    (Decidable (id < w.graphs.length ∧ ∀ a ∈ step.storedAxis?, a < w.axes.length))

/-- A step on an axis is accepted, and sets a property. -/
def Axis.Command.Sets (step : Axis.Command) (a : Axis) (key value : String) : Prop :=
  ∃ answer b, a.run step = .ok (answer, b) ∧ b.properties = a.properties.insert key value

/-- Steps that set a property if they are accepted. -/
def Axis.Command.IsSetter : Axis.Command → Prop
  | .properties step => ∃ key value, step = .set key value
  | .setLabel _ => True
  | .setBoundaries _ _ => True
  | .setLogScale enabled => enabled = true
  | .setTics _ => True
  | _ => False

/-- Every setter that is accepted sets a property. -/
theorem Axis.Command.sets_of_run {a b : Axis} {step : Axis.Command} {answer : Value}
    (h : a.run step = .ok (answer, b)) (hstep : step.IsSetter) :
    ∃ key value, step.Sets a key value := by
  rcases Axis.run_cases h with ⟨_, p, rfl, hrun, rfl⟩ | ⟨s, given, -, hset⟩ | ⟨rfl, -⟩ | ⟨hreads, -⟩
  · obtain ⟨k, v, rfl⟩ := hstep
    simp only [Properties.run, bind_eq_ok_iff, pure_eq_ok_iff, Prod.mk.injEq] at hrun
    obtain ⟨_, hp, -, rfl⟩ := hrun
    obtain ⟨key, value, -, -, -, -, -, hq⟩ := Properties.set_eq_ok_iff.mp hp
    exact ⟨key, value, answer, _, h, hq.symm⟩
  · obtain ⟨value, rfl⟩ := Axis.set_eq_ok hset
    exact ⟨_, value, answer, _, h, rfl⟩
  · exact absurd hstep Bool.false_ne_true
  · rcases hreads with rfl | rfl
    · exact hstep.elim
    · exact hstep.elim

theorem Axis.WellFormed.name_chars {b : Axis} (h : b.WellFormed) :
    b.name ≠ "" ∧ ∀ c ∈ b.name.toList, c ≠ ' ' ∧ c ≠ '\n' ∧ c ≠ '\r' := by
  have hword := h.name_word
  have hsingle := h.name_single
  simp only [Axis.isWord, Line.isSingle, Bool.and_eq_true, decide_eq_true_eq,
    List.all_eq_true] at hword hsingle
  exact ⟨hword.1, fun c hc => ⟨hword.2 c hc, hsingle c hc⟩⟩

namespace Workspace

/-- The workspace after several steps; some of them may fail. -/
def runAll (w : Workspace) (cs : List Command) : Workspace :=
  cs.foldl (fun w c => (w.run c).state) w

/-- Each of several steps is made on axes and graphs that are there by then. -/
def HeldAll (w : Workspace) : List Command → Prop
  | [] => True
  | c :: cs => c.Held w ∧ HeldAll (w.run c).state cs

instance decidableHeldAll : ∀ (w : Workspace) (cs : List Command), Decidable (w.HeldAll cs)
  | _, [] => .isTrue trivial
  | w, c :: cs =>
    have := decidableHeldAll (w.run c).state cs
    inferInstanceAs (Decidable (c.Held w ∧ HeldAll (w.run c).state cs))

def names (w : Workspace) (id : GraphId) : List String := (w.graph id).axes.map Prod.fst

def Stores (w : Workspace) (id : GraphId) (a : AxisId) : Prop :=
  ∃ name, (name, a) ∈ (w.graph id).axes

/-- The settings that a graph shows, each with the axis it comes from. -/
def shownSettings (w : Workspace) (id : GraphId) : List (AxisId × String × String) :=
  (w.graph id).axes.flatMap fun e => (w.axis e.2).properties.entries.map fun p => (e.2, p)

/-- Distinct names in every graph, and axes that are there and stand under their own names. -/
structure Registered (w : Workspace) : Prop where
  axes : ∀ a ∈ w.axes, a.WellFormed
  names : ∀ id, (w.names id).Nodup
  own : ∀ id, ∀ e ∈ (w.graph id).axes, e.2 < w.axes.length ∧ (w.axis e.2).name = e.1

/-- Names keep their places, and new ones come last. -/
def KeepsNames (w w' : Workspace) : Prop := ∀ id, w.names id <+: w'.names id

/-- A step on an axis is made through a holder of it: by a caller, or through a graph that is asked
for it.  The workspace is the one in which the step is made, since the graph may create the axis. -/
inductive Through (w : Workspace) (a : AxisId) (step : Axis.Command) :
    Command → Workspace → Prop where
  | caller (h : a < w.axes.length) : Through w a step (.onAxis a step) w
  | graph {id : GraphId} {name : Value} {w₁ : Workspace} (hid : id < w.graphs.length)
      (h : w.getAxis id name = .ok (a, w₁)) : Through w a step (.onGraph id (.axis name step)) w₁

/-- A property of an axis shows once in each graph that stores the axis and in no other graph, and
all other settings are as before. -/
structure Shows (w w' : Workspace) (a : AxisId) (key value : String) : Prop where
  once : ∀ id, w'.Stores id a →
    (w'.shownSettings id).filter (fun s => s.1 = a ∧ s.2.1 = key) = [(a, key, value)]
  nowhere : ∀ id, ¬ w'.Stores id a →
    w'.graphLines id = w.graphLines id ∧ ∀ s ∈ w'.shownSettings id, s.1 ≠ a
  rest : ∀ id, (w'.shownSettings id).filter (fun s => ¬ (s.1 = a ∧ s.2.1 = key)) =
    (w.shownSettings id).filter fun s => ¬ (s.1 = a ∧ s.2.1 = key)

variable {w w' w₁ : Workspace} {id x : GraphId} {a : AxisId}

/-! ### Names of axes -/

/-- An axis that is stored takes the place of the one that stood under its name. -/
theorem insertAxis_of_mem {name : String} {axes : List (String × AxisId)}
    (hnodup : (axes.map Prod.fst).Nodup) (h : name ∈ axes.map Prod.fst) :
    Graph.insertAxis name a axes = axes.map fun e => (e.1, if e.1 = name then a else e.2) := by
  obtain ⟨e, he, hname⟩ := List.mem_map.mp h
  have hmap : Entries.update a name (fun _ => a) (axes.map fun e => (e.1, e.2)) = _ :=
    Entries.update_map Prod.fst Prod.snd hnodup he hname
  rw [Graph.insertAxis_eq_update]
  simpa using hmap

theorem names_insertAxis (name : String) (a : AxisId) (axes : List (String × AxisId)) :
    (Graph.insertAxis name a axes).map Prod.fst =
      if name ∈ axes.map Prod.fst then axes.map Prod.fst else axes.map Prod.fst ++ [name] := by
  rw [Graph.insertAxis_eq_update]
  exact Entries.keys_update a name (fun _ => a) axes

/-- Under distinct names, an axis is found under its name. -/
theorem axisId?_of_mem {g : Graph} {name : String} (hnodup : (g.axes.map Prod.fst).Nodup)
    (h : (name, a) ∈ g.axes) : g.axisId? name = some a := by
  cases hfound : g.axisId? name with
  | none => exact absurd (List.mem_map_of_mem h) (axisId?_eq_none hfound)
  | some b =>
    have heq := List.inj_on_of_nodup_map hnodup (axisId?_eq_some hfound) h rfl
    rw [(Prod.mk.inj heq).2]

/-- The axis that a graph was asked for stood there, or has just been created without settings. -/
theorem getAxis_cases {name : Value} (h : w.getAxis id name = .ok (a, w₁)) :
    (∃ k, name = .text k ∧ (w.graph id).axisId? k = some a ∧ w₁ = w) ∨
    ∃ axis, Axis.ofName name = .ok axis ∧ axis.name ∉ w.names id ∧ a = w.axes.length ∧
      w₁ = (w.addAxis axis).2.setGraph id
        { w.graph id with axes := (w.graph id).axes ++ [(axis.name, a)] } := by
  simp only [getAxis, bind_eq_ok_iff] at h
  obtain ⟨key, hkey, h⟩ := h
  split at h
  · rename_i b hb
    obtain ⟨rfl, rfl⟩ := Prod.mk.inj (Except.ok.inj h)
    obtain ⟨k, rfl, hk⟩ := Option.bind_eq_some_iff.mp hb
    unfold Properties.lookupKey? at hkey
    split at hkey
    · cases hkey
      exact Or.inl ⟨k, rfl, hk, rfl⟩
    · split at hkey <;> cases hkey
  · rename_i hnone
    simp only [bind_eq_ok_iff] at h
    obtain ⟨axis, haxis, h⟩ := h
    obtain ⟨-, hname, -⟩ := Axis.wellFormed_of_ofName haxis
    rw [hname, Properties.lookupKey?] at hkey
    cases hkey
    have hnew : axis.name ∉ w.names id := axisId?_eq_none hnone
    obtain ⟨rfl, rfl⟩ := Prod.mk.inj (Except.ok.inj h)
    refine Or.inr ⟨axis, haxis, hnew, rfl, ?_⟩
    show (w.addAxis axis).2.setGraph id
      { w.graph id with axes := Graph.insertAxis axis.name w.axes.length (w.graph id).axes } = _
    rw [insertAxis_of_not_mem hnew]
    rfl

/-- A new graph has no axes, and so it has those that stood at its place before. -/
theorem axes_addGraph_empty (w : Workspace) (is3d : Bool) (id : GraphId) :
    ((w.addGraph (.empty is3d)).2.graph id).axes = (w.graph id).axes := by
  rcases Nat.lt_or_ge id w.graphs.length with hid | hid
  · rw [graph_addGraph_of_lt hid]
  · have hold : w.graph id = default := by
      rw [Workspace.graph, List.getD_eq_default _ _ hid]
    rw [hold]
    rcases Nat.eq_or_lt_of_le hid with rfl | hlt
    · rw [graph_addGraph_self]
      rfl
    · have hlength : (w.addGraph (.empty is3d)).2.graphs.length ≤ id := by
        show (w.graphs ++ [_]).length ≤ id
        rw [List.length_append]
        exact hlt
      rw [Workspace.graph, List.getD_eq_default _ _ hlength]

/-! ### Steps keep the registry -/

theorem KeepsNames.refl (w : Workspace) : KeepsNames w w := fun _ => List.prefix_refl _

theorem KeepsNames.trans {w'' : Workspace} (h : KeepsNames w w') (h' : KeepsNames w' w'') :
    KeepsNames w w'' := fun id => (h id).trans (h' id)

theorem registered_empty : Registered empty where
  axes _ h := absurd h List.not_mem_nil
  names _ := List.nodup_nil
  own _ _ h := absurd h List.not_mem_nil

namespace Registered

theorem axis (h : Registered w) (ha : a < w.axes.length) : (w.axis a).WellFormed := by
  rw [Workspace.axis, List.getD_eq_getElem?_getD, List.getElem?_eq_getElem ha]
  exact h.axes _ (List.getElem_mem ha)

theorem addAxis (h : Registered w) {b : Axis} (hb : b.WellFormed) :
    Registered (w.addAxis b).2 ∧ KeepsNames w (w.addAxis b).2 := by
  refine ⟨⟨fun c hc => ?_, h.names, fun id e he => ?_⟩, KeepsNames.refl w⟩
  · rcases List.mem_append.mp hc with hc | hc
    · exact h.axes c hc
    · rw [List.mem_singleton.mp hc]
      exact hb
  · obtain ⟨hlt, hname⟩ := h.own id e he
    refine ⟨?_, (congrArg Axis.name (axis_addAxis_of_lt hlt)).trans hname⟩
    show e.2 < (w.axes ++ [b]).length
    rw [List.length_append]
    exact Nat.lt_add_right 1 hlt

theorem setAxis (h : Registered w) {b : Axis} (hb : b.WellFormed)
    (hname : b.name = (w.axis a).name) :
    Registered (w.setAxis a b) ∧ KeepsNames w (w.setAxis a b) := by
  refine ⟨⟨fun c hc => ?_, h.names, fun id e he => ?_⟩, KeepsNames.refl w⟩
  · rcases List.mem_or_eq_of_mem_set hc with hc | rfl
    · exact h.axes c hc
    · exact hb
  · obtain ⟨hlt, hown⟩ := h.own id e he
    have hlength : (w.axes.set a b).length = w.axes.length := List.length_set
    refine ⟨hlength.symm ▸ hlt, ?_⟩
    by_cases hea : e.2 = a
    · subst hea
      rw [axis_setAxis_self hlt, hname, hown]
    · rw [axis_setAxis_of_ne hea, hown]

theorem addGraph (h : Registered w) (is3d : Bool) :
    Registered (w.addGraph (.empty is3d)).2 ∧ KeepsNames w (w.addGraph (.empty is3d)).2 := by
  have haxes := axes_addGraph_empty w is3d
  refine ⟨⟨h.axes, fun id => ?_, fun id => ?_⟩, fun id => ?_⟩
  · rw [Workspace.names, haxes]
    exact h.names id
  · rw [haxes]
    exact h.own id
  · have hsame : (w.addGraph (.empty is3d)).2.names id = w.names id := by
      rw [Workspace.names, Workspace.names, haxes]
    exact hsame ▸ List.prefix_refl _

/-- A graph may be replaced by one with a registry of its own that goes on from the old one. -/
theorem setGraph (h : Registered w) {g : Graph} (hnames : (g.axes.map Prod.fst).Nodup)
    (hown : ∀ e ∈ g.axes, e.2 < w.axes.length ∧ (w.axis e.2).name = e.1)
    (hkeeps : w.names id <+: g.axes.map Prod.fst) :
    Registered (w.setGraph id g) ∧ KeepsNames w (w.setGraph id g) := by
  refine ⟨⟨h.axes, fun x => ?_, fun x => ?_⟩, fun x => ?_⟩
  · rcases graph_setGraph_cases w id g x with hx | ⟨rfl, hx⟩
    · rw [Workspace.names, hx]
      exact h.names x
    · rw [Workspace.names, hx]
      exact hnames
  · rcases graph_setGraph_cases w id g x with hx | ⟨rfl, hx⟩
    · rw [hx]
      exact h.own x
    · rw [hx]
      exact hown
  · rcases graph_setGraph_cases w id g x with hx | ⟨rfl, hx⟩
    · have hsame : (w.setGraph id g).names x = w.names x := by
        rw [Workspace.names, Workspace.names, hx]
      exact hsame ▸ List.prefix_refl _
    · show w.names x <+: ((w.setGraph x g).graph x).axes.map Prod.fst
      rw [hx]
      exact hkeeps

/-- Everything about a graph but its axes may change freely. -/
theorem replace (h : Registered w) {g : Graph} (hg : g.axes = (w.graph id).axes) :
    Registered (w.setGraph id g) ∧ KeepsNames w (w.setGraph id g) := by
  refine h.setGraph ?_ ?_ ?_
  · rw [hg]
    exact h.names id
  · rw [hg]
    exact h.own id
  · have hsame : g.axes.map Prod.fst = w.names id := congrArg (List.map Prod.fst) hg
    exact hsame ▸ List.prefix_refl _

theorem insertAxis (h : Registered w) (id : GraphId) (ha : a < w.axes.length) :
    Registered (w.setGraph id { w.graph id with
        axes := Graph.insertAxis (w.axis a).name a (w.graph id).axes }) ∧
      KeepsNames w (w.setGraph id { w.graph id with
        axes := Graph.insertAxis (w.axis a).name a (w.graph id).axes }) := by
  have hnames := names_insertAxis (w.axis a).name a (w.graph id).axes
  refine h.setGraph ?_ ?_ ?_
  · rw [hnames]
    split
    · exact h.names id
    · rename_i hm
      exact List.nodup_append.mpr ⟨h.names id, List.nodup_singleton _, by
        rintro n hn _ hn' rfl
        exact hm (List.mem_singleton.mp hn' ▸ hn)⟩
  · intro e he
    rcases Holding.mem_insertAxis he with rfl | he
    · exact ⟨ha, rfl⟩
    · exact h.own id e he
  · rw [hnames]
    split
    · exact List.prefix_refl _
    · exact List.prefix_append _ _

theorem getAxis (h : Registered w) {name : Value} (hw : w.getAxis id name = .ok (a, w₁)) :
    Registered w₁ ∧ KeepsNames w w₁ := by
  rcases getAxis_cases hw with ⟨_, -, -, rfl⟩ | ⟨axis, haxis, hnew, rfl, rfl⟩
  · exact ⟨h, KeepsNames.refl _⟩
  · obtain ⟨hadded, hkeeps⟩ := h.addAxis (Axis.wellFormed_of_ofName haxis).1
    have hlt : w.axes.length < (w.addAxis axis).2.axes.length := by
      show _ < (w.axes ++ [axis]).length
      rw [List.length_append]
      exact Nat.lt_succ_self _
    have hself := axis_addAxis_self w axis
    have hinsert : Graph.insertAxis ((w.addAxis axis).2.axis w.axes.length).name w.axes.length
        ((w.addAxis axis).2.graph id).axes = (w.graph id).axes ++ [(axis.name, w.axes.length)] := by
      rw [hself]
      exact insertAxis_of_not_mem hnew
    have hstored := hadded.insertAxis id hlt
    rw [hinsert] at hstored
    exact ⟨hstored.1, hkeeps.trans hstored.2⟩

theorem placed_of_getAxis (h : Registered w) {name : Value}
    (hw : w.getAxis id name = .ok (a, w₁)) : a < w₁.axes.length := by
  rcases getAxis_cases hw with ⟨_, -, hfound, rfl⟩ | ⟨axis, -, -, rfl, rfl⟩
  · exact (h.own id _ (axisId?_eq_some hfound)).1
  · show _ < (w.axes ++ [axis]).length
    rw [List.length_append]
    exact Nat.lt_succ_self _

theorem runAxis (h : Registered w) (ha : a < w.axes.length) (step : Axis.Command) :
    Registered (w.runAxis a step).state ∧ KeepsNames w (w.runAxis a step).state := by
  unfold Workspace.runAxis
  split
  · rename_i hrun
    exact h.setAxis ((h.axis ha).run hrun) (Axis.name_of_run hrun)
  · exact ⟨h, KeepsNames.refl w⟩

theorem ofEdit (h : Registered w) {e : Except Fault Workspace}
    (he : ∀ w', e = .ok w' → Registered w' ∧ KeepsNames w w') :
    Registered (w.ofEdit e).state ∧ KeepsNames w (w.ofEdit e).state := by
  cases e with
  | error f => exact ⟨h, KeepsNames.refl w⟩
  | ok w' => exact he w' rfl

theorem storeAxis (h : Registered w) {name : Value} {o : Operand}
    (ho : ∀ a, o = .axis a → a < w.axes.length) (hw : w.storeAxis id name o = .ok w') :
    Registered w' ∧ KeepsNames w w' := by
  simp only [Workspace.storeAxis, bind_eq_ok_iff] at hw
  obtain ⟨a, ha, hw⟩ := hw
  split at hw
  · obtain rfl := Except.ok.inj hw
    cases o with
    | axis b => obtain rfl := Except.ok.inj ha; exact h.insertAxis _ (ho b rfl)
    | value v => cases ha
    | graph g => cases ha
    | plot p => cases ha
  · exact absurd hw (by simp)

/-- A step on a graph keeps the registry, also when it fails. -/
theorem runGraph (h : Registered w) {step : Graph.Command}
    (hstep : ∀ a ∈ step.storedAxis?, a < w.axes.length) :
    Registered (w.runGraph id step).state ∧ KeepsNames w (w.runGraph id step).state := by
  have same : Registered w ∧ KeepsNames w w := ⟨h, KeepsNames.refl w⟩
  cases step with
  | addPlot plot =>
    refine h.ofEdit fun w' hw => ?_
    simp only [bind_eq_ok_iff, Workspace.addPlot, pure_eq_ok_iff] at hw
    obtain ⟨_, -, _, -, rfl⟩ := hw
    exact h.replace rfl
  | getAxis name =>
    rw [Workspace.runGraph]
    split
    · rename_i hw; exact h.getAxis hw
    · exact same
  | axis name step =>
    rw [Workspace.runGraph]
    split
    · rename_i a w₁ hw
      obtain ⟨h₁, hkeeps⟩ := h.getAxis hw
      obtain ⟨h₂, hkeeps'⟩ := h₁.runAxis (a := a) (h.placed_of_getAxis hw) step
      exact ⟨h₂, hkeeps.trans hkeeps'⟩
    · exact same
  | storeAxis name o =>
    refine h.ofEdit fun w' hw => h.storeAxis ?_ hw
    rintro a rfl
    exact hstep a rfl
  | setIs3d is3d => exact h.replace rfl
  | plotCommand => exact same
  | lines => exact same
  | axisNames => exact same
  | size => exact same
  | describe => exact same

/-- **Every step keeps the registry**, also when it fails. -/
theorem run (h : Registered w) {c : Command} (hc : c.Held w) :
    Registered (w.run c).state ∧ KeepsNames w (w.run c).state := by
  cases c with
  | createAxis name =>
    refine h.ofEdit fun w' hw => ?_
    simp only [bind_eq_ok_iff, pure_eq_ok_iff] at hw
    obtain ⟨b, hb, rfl⟩ := hw
    exact h.addAxis (Axis.wellFormed_of_ofName hb).1
  | createGraph is3d => exact h.addGraph is3d
  | onAxis a step => exact h.runAxis hc step
  | onGraph id step => exact h.runGraph hc.2

end Registered

theorem Registered.runAll (h : Registered w) {cs : List Command} (hcs : w.HeldAll cs) :
    Registered (w.runAll cs) ∧ KeepsNames w (w.runAll cs) := by
  induction cs generalizing w with
  | nil => exact ⟨h, KeepsNames.refl w⟩
  | cons c cs ih =>
    obtain ⟨hstep, hkeeps⟩ := h.run hcs.1
    obtain ⟨hreg, hkeeps'⟩ := ih hstep hcs.2
    exact ⟨hreg, hkeeps.trans hkeeps'⟩

/-! ### What a graph shows -/

theorem graphLines_eq (w : Workspace) (id : GraphId) :
    w.graphLines id =
      (w.shownSettings id).map (fun s => Properties.line s.2) ++ (w.graph id).drawingLines := by
  rw [graphLines, shownSettings, List.map_flatMap]
  congr 1
  refine List.flatMap_congr fun e _ => ?_
  rw [List.map_map]
  rfl

/-- An axis that a graph creates has no settings yet, so that it does not show. -/
theorem shownSettings_of_getAxis (h : Registered w) {name : Value}
    (hw : w.getAxis id name = .ok (a, w₁)) (x : GraphId) :
    w₁.shownSettings x = w.shownSettings x ∧
      (w₁.graph x).drawingLines = (w.graph x).drawingLines := by
  rcases getAxis_cases hw with ⟨_, -, -, rfl⟩ | ⟨axis, haxis, -, rfl, rfl⟩
  · exact ⟨rfl, rfl⟩
  · obtain ⟨-, -, hempty⟩ := Axis.wellFormed_of_ofName haxis
    have hold : ((w.graph x).axes.flatMap fun e =>
        ((w.addAxis axis).2.axis e.2).properties.entries.map fun p => (e.2, p)) =
          w.shownSettings x := by
      refine List.flatMap_congr fun e he => ?_
      rw [axis_addAxis_of_lt (h.own x e he).1]
    rcases graph_setGraph_cases (w.addAxis axis).2 id
      { w.graph id with axes := (w.graph id).axes ++ [(axis.name, w.axes.length)] } x with
      hx | ⟨rfl, hx⟩
    · refine ⟨?_, ?_⟩
      · rw [shownSettings, hx]
        exact hold
      · rw [hx]
        rfl
    · refine ⟨?_, ?_⟩
      · rw [shownSettings, hx, List.flatMap_append]
        have hnew : ([(axis.name, w.axes.length)].flatMap fun e =>
            ((w.addAxis axis).2.axis e.2).properties.entries.map fun p => (e.2, p)) = [] := by
          rw [List.flatMap_singleton, axis_addAxis_self, hempty]
          rfl
        exact (congrArg₂ (· ++ ·) hold hnew).trans (List.append_nil _)
      · rw [hx]
        rfl

/-- An axis stands in a graph once at most: elsewhere it would have another name. -/
theorem Registered.exists_split (h : Registered w) (hs : w.Stores id a) :
    ∃ name before after, (w.graph id).axes = before ++ (name, a) :: after ∧
      ∀ e ∈ before ++ after, e.2 ≠ a := by
  obtain ⟨name, hmem⟩ := hs
  obtain ⟨before, after, hsplit⟩ := List.append_of_mem hmem
  refine ⟨name, before, after, hsplit, fun e he hea => ?_⟩
  have hnodup := h.names id
  rw [Workspace.names, hsplit, List.map_append, List.map_cons, List.nodup_middle,
    List.nodup_cons, ← List.map_append] at hnodup
  have hstored : e ∈ (w.graph id).axes := by
    rw [hsplit]
    simp only [List.mem_append, List.mem_cons] at he ⊢
    tauto
  have hname : e.1 = name := by
    rw [← (h.own id e hstored).2, hea, (h.own id _ hmem).2]
  exact hnodup.1 (List.mem_map.mpr ⟨e, he, hname⟩)

/-- The settings of a graph that come from an axis are those of the axis, once. -/
theorem Registered.shownSettings_of_stores (h : Registered w) (hs : w.Stores id a) :
    (w.shownSettings id).filter (fun s => s.1 = a) =
      (w.axis a).properties.entries.map fun p => (a, p) := by
  obtain ⟨name, before, after, hsplit, hother⟩ := h.exists_split hs
  have hnone : ∀ es : List (String × AxisId), (∀ e ∈ es, e.2 ≠ a) →
      (es.flatMap fun e => (w.axis e.2).properties.entries.map fun p => (e.2, p)).filter
        (fun s => s.1 = a) = [] := by
    intro es hes
    refine List.filter_eq_nil_iff.mpr fun s hs => ?_
    obtain ⟨e, he, hs⟩ := List.mem_flatMap.mp hs
    obtain ⟨p, -, rfl⟩ := List.mem_map.mp hs
    simpa using hes e he
  rw [shownSettings, hsplit, List.flatMap_append, List.flatMap_cons, List.filter_append,
    List.filter_append, hnone before fun e he => hother e (List.mem_append_left _ he),
    hnone after fun e he => hother e (List.mem_append_right _ he), List.nil_append,
    List.append_nil]
  refine List.filter_eq_self.mpr fun s hs => ?_
  obtain ⟨p, -, rfl⟩ := List.mem_map.mp hs
  exact decide_eq_true rfl

theorem filter_insertEntry_self {key value : String} {es : List (String × String)}
    (h : (es.map Prod.fst).Nodup) :
    (Properties.insertEntry key value es).filter (fun e => e.1 = key) = [(key, value)] := by
  induction es with
  | nil => simp [Properties.insertEntry]
  | cons e rest ih =>
    rw [List.map_cons, List.nodup_cons] at h
    rw [Properties.insertEntry]
    by_cases he : e.1 = key
    · have hrest : rest.filter (fun f => f.1 = key) = [] := by
        refine List.filter_eq_nil_iff.mpr fun f hf hkey => ?_
        exact h.1 (List.mem_map.mpr ⟨f, hf, (of_decide_eq_true hkey).trans he.symm⟩)
      rw [if_pos he, List.filter_cons, if_pos (decide_eq_true rfl), hrest]
    · rw [if_neg he, List.filter_cons_of_neg (by simpa using he), ih h.2]

theorem filter_insertEntry_ne {key value : String} {es : List (String × String)} :
    (Properties.insertEntry key value es).filter (fun e => e.1 ≠ key) =
      es.filter fun e => e.1 ≠ key := by
  induction es with
  | nil => simp [Properties.insertEntry]
  | cons e rest ih =>
    rw [Properties.insertEntry]
    by_cases he : e.1 = key
    · rw [if_pos he, List.filter_cons_of_neg (by simp), List.filter_cons_of_neg (by simpa using he)]
    · rw [if_neg he, List.filter_cons_of_pos (by simpa using he),
        List.filter_cons_of_pos (by simpa using he), ih]

/-- A property of an axis that is set shows where the axis stands, and nowhere else. -/
theorem Registered.shows_setAxis (h : Registered w) (ha : a < w.axes.length) {b : Axis}
    {key value : String} (hb : b.WellFormed) (hname : b.name = (w.axis a).name)
    (hset : b.properties = (w.axis a).properties.insert key value) :
    Shows w (w.setAxis a b) a key value := by
  have hself : (w.setAxis a b).axis a = b := axis_setAxis_self ha
  have hother : ∀ c, c ≠ a → (w.setAxis a b).axis c = w.axis c := fun c hc => axis_setAxis_of_ne hc
  have hreg : Registered (w.setAxis a b) := (h.setAxis hb hname).1
  refine ⟨fun id hid => ?_, fun id hid => ?_, fun id => ?_⟩
  · have hboth : (fun s : AxisId × String × String => decide (s.1 = a ∧ s.2.1 = key)) =
        fun s => decide (s.2.1 = key) && decide (s.1 = a) := by
      funext s
      rw [Bool.and_comm, Bool.decide_and]
    rw [hboth, ← List.filter_filter, hreg.shownSettings_of_stores hid, hself, hset, List.filter_map]
    exact congrArg (List.map _) (filter_insertEntry_self (h.axis ha).properties.nodup)
  · have hne : ∀ e ∈ (w.graph id).axes, e.2 ≠ a := fun e he hea => hid ⟨e.1, hea ▸ he⟩
    have hsame : (w.setAxis a b).shownSettings id = w.shownSettings id :=
      List.flatMap_congr fun e he => by rw [hother e.2 (hne e he)]
    refine ⟨by rw [graphLines_eq, graphLines_eq, hsame]; rfl, fun s hs => ?_⟩
    obtain ⟨e, he, hs⟩ := List.mem_flatMap.mp hs
    obtain ⟨p, -, rfl⟩ := List.mem_map.mp hs
    exact hne e he
  · rw [shownSettings, shownSettings, List.filter_flatMap, List.filter_flatMap]
    refine List.flatMap_congr fun e _ => ?_
    by_cases hea : e.2 = a
    · rw [hea, hself, hset, List.filter_map, List.filter_map]
      have hkey : (fun s : AxisId × String × String => decide (¬(s.1 = a ∧ s.2.1 = key))) ∘
          (fun p => (a, p)) = fun p => decide (p.1 ≠ key) := by
        funext p
        simp
      rw [hkey]
      exact congrArg (List.map _) filter_insertEntry_ne
    · rw [hother e.2 hea]

/-- The same through any holder of the axis. -/
theorem Registered.shows_of_sets (h : Registered w) {step : Axis.Command} {c : Command}
    (hc : w.Through a step c w₁) {key value : String} (hs : step.Sets (w₁.axis a) key value) :
    Shows w (w.run c).state a key value := by
  obtain ⟨answer, b, hrun, hset⟩ := hs
  cases hc with
  | caller ha =>
    have hstate : (w.run (.onAxis a step)).state = w.setAxis a b := by
      rw [Workspace.run, Workspace.runAxis, hrun]
    rw [hstate]
    exact h.shows_setAxis ha ((h.axis ha).run hrun) (Axis.name_of_run hrun) hset
  | @graph id name _ hid hget =>
    have hstate : (w.run (.onGraph id (.axis name step))).state = w₁.setAxis a b := by
      rw [Workspace.run, Workspace.runGraph, hget]
      dsimp only
      rw [Workspace.runAxis, hrun]
    have h₁ := (h.getAxis hget).1
    have ha := h.placed_of_getAxis hget
    have hshows := h₁.shows_setAxis ha ((h₁.axis ha).run hrun) (Axis.name_of_run hrun) hset
    have hsame := shownSettings_of_getAxis h hget
    rw [hstate]
    refine ⟨hshows.once, fun x hx => ⟨?_, (hshows.nowhere x hx).2⟩, fun x => ?_⟩
    · rw [(hshows.nowhere x hx).1, graphLines_eq, graphLines_eq, (hsame x).1, (hsame x).2]
    · rw [hshows.rest x, (hsame x).1]

/-! ### The registry -/

/-- What holds of the axes of all graphs at any time. -/
structure Registry (w : Workspace) : Prop where
  distinct : ∀ id, (w.names id).Nodup
  /-- An axis stands under its own name, which is a word. -/
  own : ∀ id, ∀ e ∈ (w.graph id).axes, e.2 < w.axes.length ∧ (w.axis e.2).name = e.1 ∧
    e.1 ≠ "" ∧ ∀ c ∈ e.1.toList, c ≠ ' ' ∧ c ≠ '\n' ∧ c ≠ '\r'
  /-- Whatever happens next, the names keep their order, and new ones come last. -/
  order : ∀ cs, w.HeldAll cs → KeepsNames w (w.runAll cs)
  /-- An axis that is stored takes the place of the one under its name. -/
  replaces : ∀ id name a w', id < w.graphs.length → w.storeAxis id name (.axis a) = .ok w' →
    (w'.graph id).axes =
      if (w.axis a).name ∈ w.names id then
        (w.graph id).axes.map fun e => (e.1, if e.1 = (w.axis a).name then a else e.2)
      else (w.graph id).axes ++ [((w.axis a).name, a)]
  /-- A graph that is asked for an axis gives the one that it stores. -/
  stored : ∀ id name a, (name, a) ∈ (w.graph id).axes → w.getAxis id (.text name) = .ok (a, w)
  /-- An axis that a graph gives is stored in it. -/
  given : ∀ id name a w₁, id < w.graphs.length → w.getAxis id name = .ok (a, w₁) →
    name = .text (w₁.axis a).name ∧ ((w₁.axis a).name, a) ∈ (w₁.graph id).axes
  /-- To ask for an axis does not show. -/
  quiet : ∀ id name x, (w.run (.onGraph id (.getAxis name))).state.graphLines x = w.graphLines x
  /-- Each setting gives one line. -/
  lines : ∀ id, w.graphLines id =
    (w.shownSettings id).map (fun s => Properties.line s.2) ++ (w.graph id).drawingLines
  /-- What is set through one holder of an axis shows wherever the axis stands. -/
  shows : ∀ a step c w₁ key value, w.Through a step c w₁ → step.Sets (w₁.axis a) key value →
    Shows w (w.run c).state a key value

theorem storeAxis_eq {name : Value} (h : Registered w) (hid : id < w.graphs.length)
    (hw : w.storeAxis id name (.axis a) = .ok w') :
    (w'.graph id).axes =
      if (w.axis a).name ∈ w.names id then
        (w.graph id).axes.map fun e => (e.1, if e.1 = (w.axis a).name then a else e.2)
      else (w.graph id).axes ++ [((w.axis a).name, a)] := by
  simp only [storeAxis, bind_eq_ok_iff] at hw
  obtain ⟨_, hrfl, hw⟩ := hw
  obtain rfl := Except.ok.inj hrfl
  split at hw
  · obtain rfl := Except.ok.inj hw
    rw [graph_setGraph_self hid]
    split
    · rename_i hmem
      exact insertAxis_of_mem (h.names id) hmem
    · rename_i hmem
      exact insertAxis_of_not_mem hmem
  · exact absurd hw (by simp)

theorem getAxis_of_mem {name : String} (h : Registered w) (hmem : (name, a) ∈ (w.graph id).axes) :
    w.getAxis id (.text name) = .ok (a, w) := by
  rw [getAxis, Properties.lookupKey?, ok_bind, Option.bind_some,
    axisId?_of_mem (h.names id) hmem]
  rfl

theorem mem_of_getAxis {name : Value} (h : Registered w) (hid : id < w.graphs.length)
    (hw : w.getAxis id name = .ok (a, w₁)) :
    name = .text (w₁.axis a).name ∧ ((w₁.axis a).name, a) ∈ (w₁.graph id).axes := by
  rcases getAxis_cases hw with ⟨k, rfl, hfound, rfl⟩ | ⟨axis, haxis, -, rfl, rfl⟩
  · have hmem := axisId?_eq_some hfound
    rw [(h.own id _ hmem).2]
    exact ⟨rfl, hmem⟩
  · obtain ⟨-, hname, -⟩ := Axis.wellFormed_of_ofName haxis
    have hself : ((w.addAxis axis).2.setGraph id
        { w.graph id with axes := (w.graph id).axes ++ [(axis.name, w.axes.length)] }).axis
          w.axes.length = axis := axis_addAxis_self w axis
    rw [hself, graph_setGraph_self (w := (w.addAxis axis).2) hid]
    exact ⟨hname, List.mem_append_right _ List.mem_cons_self⟩

theorem graphLines_getAxis (h : Registered w) (name : Value) (x : GraphId) :
    (w.run (.onGraph id (.getAxis name))).state.graphLines x = w.graphLines x := by
  rw [run, runGraph]
  split
  · rename_i hget
    obtain ⟨hsettings, hdrawing⟩ := shownSettings_of_getAxis h hget x
    rw [graphLines_eq, graphLines_eq, hsettings, hdrawing]
  · rfl

/-- **The axes of graphs stay in order**, whatever is done with them. -/
theorem registry_runAll (cs : List Command) (h : empty.HeldAll cs) :
    Registry (empty.runAll cs) := by
  have hreg := (registered_empty.runAll h).1
  exact {
    distinct := hreg.names
    own := fun id e he => by
      obtain ⟨hlt, hname⟩ := hreg.own id e he
      have hchars := (hreg.axis hlt).name_chars
      rw [hname] at hchars
      exact ⟨hlt, hname, hchars⟩
    order := fun cs' h' => (hreg.runAll h').2
    replaces := fun id name a w' hid hw => storeAxis_eq hreg hid hw
    stored := fun id name a hmem => getAxis_of_mem hreg hmem
    given := fun id name a w₁ hid hw => mem_of_getAxis hreg hid hw
    quiet := fun id name x => graphLines_getAxis hreg name x
    lines := graphLines_eq _
    shows := fun a step c w₁ key value hc hs => hreg.shows_of_sets hc hs }

/-- One axis that is stored in two graphs, and replaced in one of them. -/
theorem registry_shared_axis :
    let cs : List Command := [.createGraph false, .createGraph true, .createAxis (.text "x"),
      .onGraph 0 (.storeAxis (.text "x") (.axis 0)), .onGraph 1 (.storeAxis (.text "x") (.axis 0)),
      .createAxis (.text "x"), .onGraph 1 (.storeAxis (.text "x") (.axis 1)),
      .onGraph 1 (.storeAxis (.text "y") (.axis 0))]
    empty.HeldAll cs ∧ Registry (empty.runAll cs) := by
  intro cs
  have h : empty.HeldAll cs := by decide +kernel
  exact ⟨h, registry_runAll cs h⟩

end Workspace

end PlotPage
