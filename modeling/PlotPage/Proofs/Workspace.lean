import PlotPage.Proofs.Entries
import PlotPage.Proofs.Plot
import PlotPage.Proofs.Properties

/-!
# Well-formed workspaces

In a workspace every axis is well-formed and every plot of a graph was constructed.  A step on an
axis or on a graph keeps this, whether it succeeds or fails and whoever shares the axis: the steps
go through `setAxis`, `setGraph`, `addAxis` and `addGraph`, and the invariant says nothing about who
refers to whom.  The only thing asked of a step is that a plot in the hands of the caller was made
by a constructor, since there is no other way to get one.
-/

namespace PlotPage

theorem Graph.insertAxis_eq_update (name : String) (a : AxisId) (axes : List (String × AxisId)) :
    Graph.insertAxis name a axes = Entries.update a name (fun _ => a) axes := by
  induction axes with
  | nil => rfl
  | cons e rest ih => rw [Graph.insertAxis, Entries.update, ih]

/-- A plot in the hands of a caller was made by a constructor. -/
def Operand.Built : Operand → Prop
  | .plot p => p.Constructed
  | _ => True

/-- The same for an argument; what is only asked for is still to be made. -/
def Plot.Argument.Built : Plot.Argument → Prop
  | .spec _ => True
  | .held o => o.Built

/-- The same for a step on a graph. -/
def Graph.Command.Built : Graph.Command → Prop
  | .addPlot plot => plot.Built
  | _ => True

/-- The same for a step in a workspace. -/
def Workspace.Command.Built : Workspace.Command → Prop
  | .onGraph _ step => step.Built
  | _ => True

theorem Plot.Argument.Built.build {a : Plot.Argument} (h : a.Built) {o : Operand}
    (ho : a.build = .ok o) : o.Built := by
  cases a with
  | held o' => obtain rfl := Except.ok.inj ho; exact h
  | spec s =>
    cases o with
    | plot p => exact Plot.constructed_of_build ho
    | value v => exact trivial
    | axis id => exact trivial
    | graph id => exact trivial

namespace Workspace

/-! ### Places -/

@[simp] theorem graph_setGraph_self {w : Workspace} {id : GraphId} {g : Graph}
    (h : id < w.graphs.length) : (w.setGraph id g).graph id = g := by
  rw [Workspace.graph, Workspace.setGraph, List.getD_eq_getElem?_getD, List.getElem?_set_self h]
  rfl

theorem graph_setGraph_of_ne {w : Workspace} {id x : GraphId} {g : Graph} (h : x ≠ id) :
    (w.setGraph id g).graph x = w.graph x := by
  rw [Workspace.graph, Workspace.setGraph, List.getD_eq_getElem?_getD,
    List.getElem?_set_ne fun he => h he.symm]
  rfl

theorem graph_setGraph_cases (w : Workspace) (id : GraphId) (g : Graph) (x : GraphId) :
    (w.setGraph id g).graph x = w.graph x ∨ x = id ∧ (w.setGraph id g).graph x = g := by
  by_cases hx : x = id
  · subst hx
    by_cases hlt : x < w.graphs.length
    · exact Or.inr ⟨rfl, graph_setGraph_self hlt⟩
    · left
      rw [setGraph, List.set_eq_of_length_le (Nat.le_of_not_lt hlt)]
  · exact Or.inl (graph_setGraph_of_ne hx)

theorem axis_setAxis_self {w : Workspace} {id : AxisId} {a : Axis} (h : id < w.axes.length) :
    (w.setAxis id a).axis id = a := by
  rw [Workspace.axis, Workspace.setAxis, List.getD_eq_getElem?_getD, List.getElem?_set_self h]
  rfl

theorem axis_setAxis_of_ne {w : Workspace} {id x : AxisId} {a : Axis} (h : x ≠ id) :
    (w.setAxis id a).axis x = w.axis x := by
  rw [Workspace.axis, Workspace.setAxis, List.getD_eq_getElem?_getD,
    List.getElem?_set_ne fun he => h he.symm]
  rfl

theorem axis_addAxis_of_lt {w : Workspace} {id : AxisId} {a : Axis} (h : id < w.axes.length) :
    (w.addAxis a).2.axis id = w.axis id := by
  rw [Workspace.axis, Workspace.addAxis, List.getD_eq_getElem?_getD, List.getElem?_append_left h]
  rfl

theorem axis_addAxis_self (w : Workspace) (a : Axis) : (w.addAxis a).2.axis w.axes.length = a := by
  rw [Workspace.axis, Workspace.addAxis, List.getD_eq_getElem?_getD, List.getElem?_concat_length]
  rfl

theorem graph_addGraph_of_lt {w : Workspace} {id : GraphId} {g : Graph} (h : id < w.graphs.length) :
    (w.addGraph g).2.graph id = w.graph id := by
  rw [Workspace.graph, Workspace.addGraph, List.getD_eq_getElem?_getD, List.getElem?_append_left h]
  rfl

theorem graph_addGraph_self (w : Workspace) (g : Graph) :
    (w.addGraph g).2.graph w.graphs.length = g := by
  rw [Workspace.graph, Workspace.addGraph, List.getD_eq_getElem?_getD, List.getElem?_concat_length]
  rfl

/-! ### Well-formed workspaces -/

/-- Well-formed axes, and graphs with constructed plots. -/
structure WellFormed (w : Workspace) : Prop where
  axes : ∀ a ∈ w.axes, a.WellFormed
  plots : ∀ g ∈ w.graphs, ∀ p ∈ g.plots, p.Constructed

theorem wellFormed_empty : empty.WellFormed where
  axes _ h := absurd h List.not_mem_nil
  plots _ h := absurd h List.not_mem_nil

namespace WellFormed

variable {w : Workspace} (h : w.WellFormed)

include h

theorem axis (id : AxisId) : (w.axis id).WellFormed := by
  rw [Workspace.axis, List.getD_eq_getElem?_getD]
  cases ha : w.axes[id]? with
  | none => exact Axis.wellFormed_default
  | some a => exact h.axes a (List.mem_of_getElem? ha)

theorem graph (id : GraphId) : ∀ p ∈ (w.graph id).plots, p.Constructed := by
  rw [Workspace.graph, List.getD_eq_getElem?_getD]
  cases hg : w.graphs[id]? with
  | none => exact fun p hp => absurd hp List.not_mem_nil
  | some g => exact h.plots g (List.mem_of_getElem? hg)

theorem setAxis (id : AxisId) {a : Axis} (ha : a.WellFormed) : (w.setAxis id a).WellFormed where
  axes b hb := by
    rcases List.mem_or_eq_of_mem_set hb with hb | rfl
    · exact h.axes b hb
    · exact ha
  plots := h.plots

theorem addAxis {a : Axis} (ha : a.WellFormed) : (w.addAxis a).2.WellFormed where
  axes b hb := by
    rcases List.mem_append.mp hb with hb | hb
    · exact h.axes b hb
    · rw [List.mem_singleton.mp hb]; exact ha
  plots := h.plots

theorem setGraph (id : GraphId) {g : Graph} (hg : ∀ p ∈ g.plots, p.Constructed) :
    (w.setGraph id g).WellFormed where
  axes := h.axes
  plots f hf := by
    rcases List.mem_or_eq_of_mem_set hf with hf | rfl
    · exact h.plots f hf
    · exact hg

theorem addGraph (is3d : Bool) : (w.addGraph (.empty is3d)).2.WellFormed where
  axes := h.axes
  plots f hf := by
    rcases List.mem_append.mp hf with hf | hf
    · exact h.plots f hf
    · rw [List.mem_singleton.mp hf]
      exact fun p hp => absurd hp List.not_mem_nil

theorem getAxis {id : GraphId} {name : Value} {a : AxisId} {w' : Workspace}
    (hw : w.getAxis id name = .ok (a, w')) : w'.WellFormed := by
  simp only [Workspace.getAxis, bind_eq_ok_iff] at hw
  obtain ⟨key, -, hw⟩ := hw
  split at hw
  · obtain ⟨-, rfl⟩ := Prod.mk.inj (Except.ok.inj hw)
    exact h
  · simp only [bind_eq_ok_iff] at hw
    obtain ⟨axis, haxis, hw⟩ := hw
    obtain ⟨-, rfl⟩ := Prod.mk.inj (Except.ok.inj hw)
    have hadded := h.addAxis (Axis.wellFormed_of_ofName haxis).1
    exact hadded.setGraph id (hadded.graph id)

theorem runAxis (id : AxisId) (step : Axis.Command) : (w.runAxis id step).state.WellFormed := by
  unfold Workspace.runAxis
  split
  · rename_i ha
    exact h.setAxis id ((h.axis id).run ha)
  · exact h

theorem addPlot {id : GraphId} {o : Operand} (ho : o.Built) {w' : Workspace}
    (hw : w.addPlot id o = .ok w') : w'.WellFormed := by
  cases o with
  | plot p =>
    obtain rfl := Except.ok.inj hw
    refine h.setGraph id ?_
    intro q hq
    rcases List.mem_append.mp hq with hq | hq
    · exact h.graph id q hq
    · rw [List.mem_singleton.mp hq]; exact ho
  | value v => exact absurd hw (by simp [Workspace.addPlot, Operand.plot?])
  | axis a => exact absurd hw (by simp [Workspace.addPlot, Operand.plot?])
  | graph g => exact absurd hw (by simp [Workspace.addPlot, Operand.plot?])

theorem storeAxis {id : GraphId} {name : Value} {axis : Operand} {w' : Workspace}
    (hw : w.storeAxis id name axis = .ok w') : w'.WellFormed := by
  simp only [Workspace.storeAxis, bind_eq_ok_iff] at hw
  obtain ⟨a, -, hw⟩ := hw
  split at hw
  · obtain rfl := Except.ok.inj hw
    exact h.setGraph id (h.graph id)
  · exact absurd hw (by simp)

theorem ofEdit {e : Except Fault Workspace} (he : ∀ w', e = .ok w' → w'.WellFormed) :
    (w.ofEdit e).state.WellFormed := by
  cases e with
  | error f => exact h
  | ok w' => exact he w' rfl

/-- A step on a graph keeps a workspace well-formed, also when it fails. -/
theorem runGraph (id : GraphId) {step : Graph.Command} (hb : step.Built) :
    (w.runGraph id step).state.WellFormed := by
  cases step with
  | addPlot plot =>
    apply h.ofEdit
    intro w' hw
    simp only [bind_eq_ok_iff] at hw
    obtain ⟨o, ho, hw⟩ := hw
    exact h.addPlot (hb.build ho) hw
  | getAxis name =>
    rw [Workspace.runGraph]
    split
    · rename_i hw; exact h.getAxis hw
    · exact h
  | axis name step =>
    rw [Workspace.runGraph]
    split
    · rename_i hw; exact (h.getAxis hw).runAxis _ step
    · exact h
  | storeAxis name axis => exact h.ofEdit fun w' hw => h.storeAxis hw
  | setIs3d is3d => exact h.setGraph id (h.graph id)
  | plotCommand => exact h
  | lines => exact h
  | axisNames => exact h
  | size => exact h
  | describe => exact h

/-- A step in a workspace keeps it well-formed, also when it fails. -/
theorem run {step : Workspace.Command} (hb : step.Built) : (w.run step).state.WellFormed := by
  cases step with
  | createAxis name =>
    apply h.ofEdit
    intro w' hw
    simp only [bind_eq_ok_iff, pure_eq_ok_iff] at hw
    obtain ⟨a, ha, rfl⟩ := hw
    exact h.addAxis (Axis.wellFormed_of_ofName ha).1
  | createGraph is3d => exact h.addGraph is3d
  | onAxis id step => exact h.runAxis id step
  | onGraph id step => exact h.runGraph id hb

end WellFormed

end Workspace

end PlotPage
