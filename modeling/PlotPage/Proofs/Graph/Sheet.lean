import PlotPage.Proofs.Entries
import PlotPage.Proofs.Workspace

/-!
# Graphs that share no axis

Graphs refer to their axes, and so a change of one graph may show in another.  Where no axis stands
in two graphs this cannot happen: a graph is then as good as a `Sheet`, which has its axes inside
it.  What a step on a graph answers and what it leaves can be read off the sheet alone
(`runGraph_advances`), and the sheets of all other graphs stay as they are.

An axis that was there from the beginning may be in the hands of a caller, who can store it again
after it has been replaced.  A `Holding` says which graph each of these axes belongs to, and a sheet
keeps them by their places.  An axis that a graph has made is known to nobody else.
-/

namespace PlotPage

/-- An axis as a sheet refers to it: one that a caller may hold, or one that the graph has made. -/
inductive AxisRef where
  | held (id : AxisId)
  | made (a : Axis)

/-- A graph with its axes inside it, and the axes that may be stored in it. -/
structure Sheet where
  is3d : Bool
  plots : List Plot
  axes : List (String × AxisRef)
  held : AxisId → Axis

namespace Sheet

def content (s : Sheet) : AxisRef → Axis
  | .held id => s.held id
  | .made a => a

/-- The same plots without axes. -/
def plain (s : Sheet) : Graph := ⟨s.is3d, s.plots, []⟩

def ref? (s : Sheet) (name : String) : Option AxisRef :=
  (s.axes.find? fun e => e.1 = name).map Prod.snd

def store (name : String) (r : AxisRef) (axes : List (String × AxisRef)) :
    List (String × AxisRef) :=
  Entries.update r name (fun _ => r) axes

/-- The axis under a name, created on first use, and the name under which it stands. -/
def getAxis (s : Sheet) (name : Value) : Except Fault (String × AxisRef × Sheet) := do
  let key ← Properties.lookupKey? name
  match key.bind fun k => (s.ref? k).map fun r => (k, r) with
  | some (k, r) => return (k, r, s)
  | none =>
    let axis ← Axis.ofName name
    return (axis.name, .made axis, { s with axes := store axis.name (.made axis) s.axes })

/-- Changes an axis that a caller may hold. -/
def setHeld (s : Sheet) (id : AxisId) (a : Axis) : Sheet :=
  { s with held := fun x => if x = id then a else s.held x }

/-- Changes the axis that stands under a name. -/
def change (s : Sheet) (name : String) (r : AxisRef) (a : Axis) : Sheet :=
  match r with
  | .held id => s.setHeld id a
  | .made _ => { s with axes := store name (.made a) s.axes }

def lines (s : Sheet) : List String :=
  s.axes.flatMap (fun e => (s.content e.2).lines) ++ s.plain.drawingLines

def describe (s : Sheet) : String :=
  let names := ", ".intercalate (s.axes.map fun e => Text.quote e.1)
  let is3d := if s.is3d then "True" else "False"
  s!"Graph(plots={s.plots.length}, axes=[{names}], is_3d={is3d})"

def ofEdit (s : Sheet) (e : Except Fault Sheet) : Except Fault Value × Sheet :=
  match e with
  | .ok s => (.ok .null, s)
  | .error f => (.error f, s)

def addPlot (s : Sheet) (plot : Operand) : Except Fault Sheet := do
  let p ← plot.plot?
  return { s with plots := s.plots ++ [p] }

def storeAxis (s : Sheet) (name : Value) (axis : Operand) : Except Fault Sheet := do
  let id ← axis.axis?
  let own := (s.held id).name
  if name.same (.text own) then return { s with axes := store own (.held id) s.axes }
  else throw (.axisMisplaced (Text.quote own) (← name.shown))

/-- What a step on a graph answers, and what it leaves. -/
def run (s : Sheet) : Graph.Command → Except Fault Value × Sheet
  | .addPlot plot => s.ofEdit do s.addPlot (← plot.build)
  | .getAxis name =>
    match s.getAxis name with
    | .ok (_, r, s) => (.ok (Workspace.textList (s.content r).lines), s)
    | .error f => (.error f, s)
  | .axis name step =>
    match s.getAxis name with
    | .ok (k, r, s) =>
      match (s.content r).run step with
      | .ok (answer, a) => (.ok answer, s.change k r a)
      | .error f => (.error f, s)
    | .error f => (.error f, s)
  | .storeAxis name axis => s.ofEdit (s.storeAxis name axis)
  | .setIs3d is3d => (.ok .null, { s with is3d := is3d })
  | .plotCommand => (s.plain.written ((s.plain.plotCommand?.map .text).getD .null), s)
  | .lines => (s.plain.written (Workspace.textList s.lines), s)
  | .axisNames => (.ok (Workspace.textList (s.axes.map Prod.fst)), s)
  | .size => (.ok (.int s.plots.length), s)
  | .describe => (.ok (.text s.describe), s)

/-- What a step on an axis in the hands of a caller answers, and what it leaves. -/
def runHeld (s : Sheet) (id : AxisId) (step : Axis.Command) : Except Fault Value × Sheet :=
  match (s.held id).run step with
  | .ok (answer, a) => (.ok answer, s.setHeld id a)
  | .error f => (.error f, s)

end Sheet

/-- The graph that each of the first axes belongs to. -/
structure Holding where
  size : Nat
  owner : AxisId → GraphId

namespace Holding

variable (o : Holding)

def ref (w : Workspace) (id : AxisId) : AxisRef :=
  if id < o.size then .held id else .made (w.axis id)

/-- A graph of a workspace as a sheet. -/
def sheet (w : Workspace) (id : GraphId) : Sheet where
  is3d := (w.graph id).is3d
  plots := (w.graph id).plots
  axes := (w.graph id).axes.map fun e => (e.1, o.ref w e.2)
  held k := if k < o.size ∧ o.owner k = id then w.axis k else default

/-- The graphs share no axis, and each of the first axes stands in its own graph or in none. -/
structure Holds (ids : List GraphId) (w : Workspace) : Prop where
  size : o.size ≤ w.axes.length
  graphs : ∀ id ∈ ids, id < w.graphs.length
  owned : ∀ id ∈ ids, ∀ e ∈ (w.graph id).axes, e.2 < o.size → o.owner e.2 = id
  placed : ∀ id ∈ ids, ∀ e ∈ (w.graph id).axes, e.2 < w.axes.length
  /-- An axis that a graph has made stands in it once. -/
  once : ∀ id ∈ ids, (w.graph id).axes.Pairwise fun e e' => o.size ≤ e.2 → e.2 ≠ e'.2
  apart : ∀ id ∈ ids, ∀ id' ∈ ids, id ≠ id' →
    ∀ e ∈ (w.graph id).axes, ∀ e' ∈ (w.graph id').axes, e.2 ≠ e'.2

/-- A step stores only axes that belong to the graph. -/
def Stores (id : GraphId) : Graph.Command → Prop
  | .storeAxis _ (.axis k) => k < o.size ∧ o.owner k = id
  | _ => True

/-- A step on a graph leads to a sheet, leaves the sheets of the others, and no axis is shared. -/
structure Advances (ids : List GraphId) (id : GraphId) (w w' : Workspace) (s : Sheet) : Prop where
  sheet : o.sheet w' id = s
  others : ∀ x ∈ ids, x ≠ id → o.sheet w' x = o.sheet w x
  holds : o.Holds ids w'

variable {o} {ids : List GraphId} {id : GraphId} {w w' w'' : Workspace} {s s' : Sheet}

theorem Advances.trans (h : o.Advances ids id w w' s) (h' : o.Advances ids id w' w'' s') :
    o.Advances ids id w w'' s' where
  sheet := h'.sheet
  others x hx hne := (h'.others x hx hne).trans (h.others x hx hne)
  holds := h'.holds

theorem Advances.refl (h : o.Holds ids w) : o.Advances ids id w w (o.sheet w id) :=
  ⟨rfl, fun _ _ _ => rfl, h⟩

/-! ### What a sheet shows -/

theorem content_ref {k : AxisId} (hk : k < o.size → o.owner k = id) :
    (o.sheet w id).content (o.ref w k) = w.axis k := by
  unfold ref
  by_cases hsize : k < o.size
  · rw [if_pos hsize]
    exact if_pos ⟨hsize, hk hsize⟩
  · rw [if_neg hsize]
    rfl

theorem held_eq {k : AxisId} (hsize : k < o.size) (howner : o.owner k = id) :
    (o.sheet w id).held k = w.axis k := if_pos ⟨hsize, howner⟩

theorem ref?_sheet (name : String) :
    (o.sheet w id).ref? name = ((w.graph id).axisId? name).map (o.ref w) := by
  rw [Sheet.ref?, sheet, Graph.axisId?, List.find?_map, Option.map_map, Option.map_map]
  rfl

/-- The lines of a graph are those of its sheet. -/
theorem lines_sheet (h : o.Holds ids w) (hid : id ∈ ids) :
    (o.sheet w id).lines = w.graphLines id := by
  rw [Sheet.lines, Workspace.graphLines]
  congr 1
  show ((w.graph id).axes.map _).flatMap _ = _
  rw [List.flatMap_map]
  apply List.flatMap_congr
  intro e he
  rw [content_ref (h.owned id hid e he)]

theorem describe_sheet : (o.sheet w id).describe = w.describeGraph id := by
  have hnames : ((o.sheet w id).axes.map fun e => Text.quote e.1) =
      (w.graph id).axes.map fun e => Text.quote e.1 := by
    show ((w.graph id).axes.map _).map _ = _
    rw [List.map_map]
    rfl
  unfold Sheet.describe Workspace.describeGraph
  rw [hnames]
  rfl

theorem map_insertAxis {β : Type} (f : AxisId → β) (name : String) (k : AxisId)
    (axes : List (String × AxisId)) :
    (Graph.insertAxis name k axes).map (fun e => (e.1, f e.2)) =
      Entries.update (f k) name (fun _ => f k) (axes.map fun e => (e.1, f e.2)) := by
  induction axes with
  | nil => rfl
  | cons e rest ih =>
    by_cases he : e.1 = name
    · simp [Graph.insertAxis, Entries.update, he]
    · simp [Graph.insertAxis, Entries.update, he, ih]

theorem mem_insertAxis {name : String} {k : AxisId} {axes : List (String × AxisId)}
    {e : String × AxisId} (h : e ∈ Graph.insertAxis name k axes) : e = (name, k) ∨ e ∈ axes := by
  rw [Graph.insertAxis_eq_update] at h
  exact Entries.mem_update h

theorem pairwise_insertAxis {n : Nat} {name : String} {k : AxisId} {axes : List (String × AxisId)}
    (h : axes.Pairwise fun e e' => n ≤ e.2 → e.2 ≠ e'.2)
    (hk : n ≤ k → ∀ e ∈ axes, e.2 ≠ k) :
    (Graph.insertAxis name k axes).Pairwise fun e e' => n ≤ e.2 → e.2 ≠ e'.2 := by
  induction axes with
  | nil => exact List.pairwise_singleton _ _
  | cons f rest ih =>
    obtain ⟨hf, hrest⟩ := List.pairwise_cons.mp h
    have hk' : n ≤ k → ∀ e ∈ rest, e.2 ≠ k := fun hn e he => hk hn e (List.mem_cons_of_mem f he)
    rw [Graph.insertAxis]
    split
    · refine List.pairwise_cons.mpr ⟨fun e he hn hke => ?_, hrest⟩
      exact hk' hn e he hke.symm
    · refine List.pairwise_cons.mpr ⟨fun e he hn hfe => ?_, ih hrest hk'⟩
      rcases mem_insertAxis he with rfl | he
      · have hfk : f.2 = k := hfe
        exact hk (hfk ▸ hn) f List.mem_cons_self hfk
      · exact hf e he hn hfe

/-! ### Changes of one graph -/

/-- A graph may be replaced by one whose axes are its own. -/
theorem Holds.setGraph (h : o.Holds ids w) {g : Graph}
    (howned : ∀ e ∈ g.axes, e.2 < o.size → o.owner e.2 = id)
    (hplaced : ∀ e ∈ g.axes, e.2 < w.axes.length)
    (honce : g.axes.Pairwise fun e e' => o.size ≤ e.2 → e.2 ≠ e'.2)
    (hapart : ∀ x ∈ ids, x ≠ id → ∀ e ∈ g.axes, ∀ e' ∈ (w.graph x).axes, e.2 ≠ e'.2)
    (hid : id ∈ ids) : o.Holds ids (w.setGraph id g) := by
  have hself : (w.setGraph id g).graph id = g := Workspace.graph_setGraph_self (h.graphs id hid)
  have hother : ∀ x, x ≠ id → (w.setGraph id g).graph x = w.graph x :=
    fun x hx => Workspace.graph_setGraph_of_ne hx
  refine ⟨h.size, fun x hx => ?_, fun x hx => ?_, fun x hx => ?_, fun x hx => ?_,
    fun x hx y hy hxy => ?_⟩
  · show x < (w.graphs.set id g).length
    rw [List.length_set]
    exact h.graphs x hx
  · by_cases hxid : x = id
    · rw [hxid, hself]
      exact howned
    · rw [hother x hxid]
      exact h.owned x hx
  · by_cases hxid : x = id
    · rw [hxid, hself]
      exact hplaced
    · rw [hother x hxid]
      exact h.placed x hx
  · by_cases hxid : x = id
    · rw [hxid, hself]
      exact honce
    · rw [hother x hxid]
      exact h.once x hx
  · by_cases hxid : x = id
    · have hyid : y ≠ id := fun hy' => hxy (hxid.trans hy'.symm)
      rw [hxid, hself, hother y hyid]
      exact hapart y hy hyid
    · rw [hother x hxid]
      by_cases hyid : y = id
      · rw [hyid, hself]
        intro e he e' he' hee
        exact hapart x hx hxid e' he' e he hee.symm
      · rw [hother y hyid]
        exact h.apart x hx y hy hxy

theorem sheet_setGraph_of_ne {g : Graph} {x : GraphId} (hx : x ≠ id) :
    o.sheet (w.setGraph id g) x = o.sheet w x := by
  unfold sheet
  rw [Workspace.graph_setGraph_of_ne hx]
  rfl

theorem sheet_setGraph_self (h : o.Holds ids w) (hid : id ∈ ids) (g : Graph) :
    o.sheet (w.setGraph id g) id =
      ⟨g.is3d, g.plots, g.axes.map fun e => (e.1, o.ref w e.2), (o.sheet w id).held⟩ := by
  unfold sheet
  rw [Workspace.graph_setGraph_self (h.graphs id hid)]
  rfl

/-- Plots and the kind of plot can be changed. -/
theorem Holds.replace (h : o.Holds ids w) (hid : id ∈ ids) {g : Graph}
    (haxes : g.axes = (w.graph id).axes) :
    o.Advances ids id w (w.setGraph id g)
      { o.sheet w id with is3d := g.is3d, plots := g.plots } where
  sheet := by
    rw [sheet_setGraph_self h hid, haxes]
    rfl
  others x _ hne := sheet_setGraph_of_ne hne
  holds := by
    refine h.setGraph ?_ ?_ ?_ ?_ hid
    · rw [haxes]
      exact h.owned id hid
    · rw [haxes]
      exact h.placed id hid
    · rw [haxes]
      exact h.once id hid
    · intro x hx hne
      rw [haxes]
      exact h.apart id hid x hx (Ne.symm hne)

/-- An axis that no other graph can have may be stored under a name. -/
theorem Holds.insert (h : o.Holds ids w) (hid : id ∈ ids) (name : String) {k : AxisId}
    (hplaced : k < w.axes.length) (howned : k < o.size → o.owner k = id)
    (hfresh : o.size ≤ k → ∀ x ∈ ids, ∀ e ∈ (w.graph x).axes, e.2 ≠ k) :
    o.Advances ids id w
      (w.setGraph id { w.graph id with axes := Graph.insertAxis name k (w.graph id).axes })
      { o.sheet w id with axes := Sheet.store name (o.ref w k) (o.sheet w id).axes } where
  sheet := by
    rw [sheet_setGraph_self h hid, map_insertAxis]
    rfl
  others x _ hne := sheet_setGraph_of_ne hne
  holds := by
    refine h.setGraph ?_ ?_ ?_ ?_ hid
    · intro e he hsize
      rcases mem_insertAxis he with rfl | he
      · exact howned hsize
      · exact h.owned id hid e he hsize
    · intro e he
      rcases mem_insertAxis he with rfl | he
      · exact hplaced
      · exact h.placed id hid e he
    · exact pairwise_insertAxis (h.once id hid) fun hsize e he => hfresh hsize id hid e he
    · intro x hx hne e he e' he' hee
      rcases mem_insertAxis he with rfl | he
      · by_cases hsize : k < o.size
        · have howner : o.owner e'.2 = x := h.owned x hx e' he' (hee ▸ hsize)
          rw [← hee, howned hsize] at howner
          exact hne howner.symm
        · exact hfresh (Nat.le_of_not_lt hsize) x hx e' he' hee.symm
      · exact h.apart id hid x hx (Ne.symm hne) e he e' he' hee

/-- A new axis changes no sheet. -/
theorem Holds.addAxis (h : o.Holds ids w) (a : Axis) :
    o.Holds ids (w.addAxis a).2 ∧ ∀ x ∈ ids, o.sheet (w.addAxis a).2 x = o.sheet w x := by
  have hgraph : ∀ x, (w.addAxis a).2.graph x = w.graph x := fun _ => rfl
  have hlength : (w.addAxis a).2.axes.length = w.axes.length + 1 := List.length_append
  refine ⟨⟨?_, h.graphs, h.owned, ?_, h.once, h.apart⟩, fun x hx => ?_⟩
  · rw [hlength]
    exact Nat.le_succ_of_le h.size
  · intro x hx e he
    rw [hlength]
    exact Nat.lt_succ_of_lt (h.placed x hx e he)
  · unfold sheet
    rw [hgraph]
    congr 1
    · apply List.map_congr_left
      intro e he
      rw [ref, ref, Workspace.axis_addAxis_of_lt (h.placed x hx e he)]
    · funext k
      by_cases hk : k < o.size ∧ o.owner k = x
      · rw [if_pos hk, if_pos hk, Workspace.axis_addAxis_of_lt (Nat.lt_of_lt_of_le hk.1 h.size)]
      · rw [if_neg hk, if_neg hk]

/-- An axis that a graph does not have may be changed behind its back. -/
theorem sheet_setAxis_of_ne {x : GraphId} {k : AxisId} (hheld : k < o.size → o.owner k ≠ x)
    (hfree : ∀ e ∈ (w.graph x).axes, e.2 ≠ k) (a : Axis) :
    o.sheet (w.setAxis k a) x = o.sheet w x := by
  have hgraph : (w.setAxis k a).graph x = w.graph x := rfl
  unfold sheet
  rw [hgraph]
  congr 1
  · apply List.map_congr_left
    intro e he
    rw [ref, ref, Workspace.axis_setAxis_of_ne (hfree e he)]
  · funext y
    by_cases hy : y < o.size ∧ o.owner y = x
    · have hyk : y ≠ k := by
        rintro rfl
        exact hheld hy.1 hy.2
      rw [if_pos hy, if_pos hy, Workspace.axis_setAxis_of_ne hyk]
    · rw [if_neg hy, if_neg hy]

/-- Changing an axis moves none. -/
theorem Holds.setAxis (h : o.Holds ids w) (k : AxisId) (a : Axis) :
    o.Holds ids (w.setAxis k a) := by
  have hlength : (w.setAxis k a).axes.length = w.axes.length := List.length_set
  refine ⟨?_, h.graphs, h.owned, ?_, h.once, h.apart⟩
  · rw [hlength]
    exact h.size
  · rw [hlength]
    exact h.placed

/-- An axis that a caller may hold can be changed, whether it stands in its graph or not. -/
theorem Holds.setHeld (h : o.Holds ids w) {k : AxisId} (hsize : k < o.size)
    (howner : o.owner k = id) (a : Axis) :
    o.Advances ids id w (w.setAxis k a) ((o.sheet w id).setHeld k a) where
  sheet := by
    have hgraph : (w.setAxis k a).graph id = w.graph id := rfl
    have hrefs : ∀ x, o.ref (w.setAxis k a) x = o.ref w x := by
      intro x
      by_cases hx : x = k
      · rw [hx, ref, ref, if_pos hsize, if_pos hsize]
      · rw [ref, ref, Workspace.axis_setAxis_of_ne hx]
    unfold sheet Sheet.setHeld
    simp only [hgraph, hrefs]
    congr 1
    funext x
    by_cases hx : x = k
    · rw [if_pos hx, hx, if_pos ⟨hsize, howner⟩,
        Workspace.axis_setAxis_self (Nat.lt_of_lt_of_le hsize h.size)]
    · rw [if_neg hx, Workspace.axis_setAxis_of_ne hx]
  others x hx hne := by
    refine sheet_setAxis_of_ne (fun _ hx' => hne (hx'.symm.trans howner)) (fun e he hek => ?_) a
    have howner' : o.owner e.2 = x := h.owned x hx e he (hek ▸ hsize)
    rw [hek, howner] at howner'
    exact hne howner'.symm
  holds := h.setAxis k a

/-- The first entry of a name changes, and no other entry refers to the same axis. -/
theorem map_change (f f' : AxisId → AxisRef) {k : AxisId} {name : String}
    {axes : List (String × AxisId)} (hfind : (axes.find? fun e => e.1 = name).map Prod.snd = some k)
    (honce : axes.Pairwise fun e e' => o.size ≤ e.2 → e.2 ≠ e'.2) (hk : o.size ≤ k)
    (hf : ∀ x, x ≠ k → f' x = f x) :
    axes.map (fun e => (e.1, f' e.2)) =
      Sheet.store name (f' k) (axes.map fun e => (e.1, f e.2)) := by
  induction axes with
  | nil => cases hfind
  | cons e rest ih =>
    obtain ⟨he, hrest⟩ := List.pairwise_cons.mp honce
    by_cases hname : e.1 = name
    · have hek : e.2 = k := by simpa [hname] using hfind
      have htail : rest.map (fun e => (e.1, f' e.2)) = rest.map fun e => (e.1, f e.2) := by
        apply List.map_congr_left
        intro e' he'
        rw [hf e'.2 fun hk' => he e' he' (hek ▸ hk) (hek.trans hk'.symm)]
      simp [Sheet.store, Entries.update, hname, hek, htail]
    · have hfind' : (rest.find? fun e => e.1 = name).map Prod.snd = some k := by
        simpa [hname] using hfind
      have hek : e.2 ≠ k := by
        intro hek
        obtain ⟨e', he', hsnd⟩ := Option.map_eq_some_iff.mp hfind'
        exact he e' (List.mem_of_find?_eq_some he') (hek ▸ hk) (hek.trans hsnd.symm)
      have htail := ih hfind' hrest
      simp only [List.map_cons, Sheet.store, Entries.update, if_neg hname, hf e.2 hek]
      rw [htail, Sheet.store]

/-- An axis that a graph has made can be changed under its name. -/
theorem Holds.setMade (h : o.Holds ids w) (hid : id ∈ ids) {name : String} {k : AxisId}
    (hk : (w.graph id).axisId? name = some k) (hsize : o.size ≤ k) (a : Axis) :
    o.Advances ids id w (w.setAxis k a)
      { o.sheet w id with axes := Sheet.store name (.made a) (o.sheet w id).axes } := by
  obtain ⟨e, he, hek⟩ := Option.map_eq_some_iff.mp hk
  have hmem : e ∈ (w.graph id).axes := List.mem_of_find?_eq_some he
  have hnot : ¬k < o.size := Nat.not_lt.mpr hsize
  have hother : ∀ x, x ≠ k → (w.setAxis k a).axis x = w.axis x :=
    fun x hx => Workspace.axis_setAxis_of_ne hx
  have hself : o.ref (w.setAxis k a) k = .made a := by
    rw [ref, if_neg hnot, Workspace.axis_setAxis_self (hek ▸ h.placed id hid e hmem)]
  refine ⟨?_, fun x hx hne => ?_, h.setAxis k a⟩
  · have hgraph : (w.setAxis k a).graph id = w.graph id := rfl
    have haxes := map_change (o.ref w) (o.ref (w.setAxis k a)) hk (h.once id hid) hsize
      fun x hx => by rw [ref, ref, hother x hx]
    rw [hself] at haxes
    unfold sheet
    simp only [hgraph, haxes]
    congr 1
    funext x
    by_cases hx : x < o.size ∧ o.owner x = id
    · rw [if_pos hx, if_pos hx, hother x fun hxk => hnot (hxk ▸ hx.1)]
    · rw [if_neg hx, if_neg hx]
  · refine sheet_setAxis_of_ne (fun hlt => absurd hlt hnot) (fun e' he' hek' => ?_) a
    exact h.apart id hid x hx (Ne.symm hne) e hmem e' he' (hek.trans hek'.symm)

/-- An axis of a graph may be changed. -/
theorem Holds.change (h : o.Holds ids w) (hid : id ∈ ids) {name : String} {k : AxisId}
    (hk : (w.graph id).axisId? name = some k) (a : Axis) :
    o.Advances ids id w (w.setAxis k a) ((o.sheet w id).change name (o.ref w k) a) := by
  by_cases hsize : k < o.size
  · obtain ⟨e, he, hek⟩ := Option.map_eq_some_iff.mp hk
    have howner := h.owned id hid e (List.mem_of_find?_eq_some he) (hek.symm ▸ hsize)
    have href : o.ref w k = .held k := if_pos hsize
    rw [href]
    exact h.setHeld hsize (hek ▸ howner) a
  · have href : o.ref w k = .made (w.axis k) := if_neg hsize
    rw [href]
    exact h.setMade hid hk (Nat.le_of_not_lt hsize) a

/-! ### Steps on a graph -/

theorem axisId?_insertAxis (name : String) (k : AxisId) (axes : List (String × AxisId)) :
    ((Graph.insertAxis name k axes).find? fun e => e.1 = name).map Prod.snd = some k := by
  induction axes with
  | nil => simp [Graph.insertAxis]
  | cons e rest ih =>
    by_cases he : e.1 = name
    · simp [Graph.insertAxis, he]
    · simp [Graph.insertAxis, he, ih]

/-- The sheet has the axis that stands under a name. -/
theorem Advances.content (h : o.Advances ids id w w' s) (hid : id ∈ ids) {name : String}
    {k : AxisId} (hk : (w'.graph id).axisId? name = some k) :
    s.content (o.ref w' k) = w'.axis k := by
  rw [← h.sheet]
  refine content_ref fun hsize => ?_
  obtain ⟨e, he, rfl⟩ := Option.map_eq_some_iff.mp hk
  exact h.holds.owned id hid e (List.mem_of_find?_eq_some he) hsize

/-- A name that the graph has no axis for has none in the sheet. -/
theorem ref_eq_none {key : Option String} (h : key.bind (w.graph id).axisId? = none) :
    (key.bind fun k => ((o.sheet w id).ref? k).map fun r => (k, r)) = none := by
  cases key with
  | none => rfl
  | some k =>
    have hk : (w.graph id).axisId? k = none := h
    rw [Option.bind_some, ref?_sheet, hk]
    rfl

/-- An axis that has been got stands under the name that its sheet says. -/
theorem getAxis_advances (h : o.Holds ids w) (hid : id ∈ ids) {name : Value} {a : AxisId}
    (hw : w.getAxis id name = .ok (a, w')) : ∃ key s,
      (o.sheet w id).getAxis name = .ok (key, o.ref w' a, s) ∧ o.Advances ids id w w' s ∧
        (w'.graph id).axisId? key = some a := by
  simp only [Workspace.getAxis, bind_eq_ok_iff] at hw
  obtain ⟨key, hkey, hw⟩ := hw
  cases hbind : key.bind (w.graph id).axisId? with
  | some b =>
    simp only [hbind, pure_eq_ok_iff, Prod.mk.injEq] at hw
    obtain ⟨rfl, rfl⟩ := hw
    obtain ⟨k, rfl, hk⟩ := Option.bind_eq_some_iff.mp hbind
    refine ⟨k, o.sheet w id, ?_, .refl h, hk⟩
    simp only [Sheet.getAxis, hkey, ok_bind, Option.bind_some, ref?_sheet, hk, Option.map_some]
    rfl
  | none =>
    simp only [hbind, bind_eq_ok_iff, pure_eq_ok_iff, Prod.mk.injEq] at hw
    obtain ⟨axis, haxis, rfl, rfl⟩ := hw
    obtain ⟨hadded, hsheets⟩ := h.addAxis axis
    have hlength : (w.addAxis axis).2.axes.length = w.axes.length + 1 := List.length_append
    have hplaced : w.axes.length < (w.addAxis axis).2.axes.length := by omega
    have hsize : ¬w.axes.length < o.size := Nat.not_lt.mpr h.size
    have hinsert := hadded.insert hid axis.name hplaced (fun hlt => absurd hlt hsize)
      fun _ x hx e he => Nat.ne_of_lt (h.placed x hx e he)
    have hnew : o.ref (w.addAxis axis).2 w.axes.length = .made axis := by
      rw [ref, if_neg hsize, Workspace.axis_addAxis_self]
    rw [hnew, hsheets id hid] at hinsert
    refine ⟨axis.name, _, ?_, ⟨hinsert.sheet, ?_, hinsert.holds⟩, ?_⟩
    · simp only [Sheet.getAxis, hkey, ok_bind, ref_eq_none hbind, haxis]
      rw [← hnew]
      rfl
    · exact fun x hx hne => (hinsert.others x hx hne).trans (hsheets x hx)
    · rw [Workspace.graph_setGraph_self (hadded.graphs id hid)]
      exact axisId?_insertAxis axis.name _ _

theorem getAxis_error {name : Value} {f : Fault} (hw : w.getAxis id name = .error f) :
    (o.sheet w id).getAxis name = .error f := by
  simp only [Workspace.getAxis, bind_eq_error_iff] at hw
  simp only [Sheet.getAxis, bind_eq_error_iff]
  rcases hw with hkey | ⟨key, hkey, hw⟩
  · exact Or.inl hkey
  · refine Or.inr ⟨key, hkey, ?_⟩
    cases hbind : key.bind (w.graph id).axisId? with
    | some b => simp only [hbind, pure_ne_error] at hw
    | none =>
      simp only [hbind, bind_eq_error_iff, pure_ne_error, and_false, exists_false, or_false] at hw
      simp only [ref_eq_none hbind, hw]
      rfl

/-- An edit of a graph that answers nothing. -/
theorem ofEdit_advances (h : o.Holds ids w) {e : Except Fault Workspace} {x : Except Fault Sheet}
    (hok : ∀ w', e = .ok w' → ∃ s, x = .ok s ∧ o.Advances ids id w w' s)
    (herror : ∀ f, e = .error f → x = .error f) :
    (w.ofEdit e).result = ((o.sheet w id).ofEdit x).1 ∧
      o.Advances ids id w (w.ofEdit e).state ((o.sheet w id).ofEdit x).2 := by
  cases e with
  | error f =>
    rw [herror f rfl]
    exact ⟨rfl, .refl h⟩
  | ok w' =>
    obtain ⟨s, hs, hadvances⟩ := hok w' rfl
    rw [hs]
    exact ⟨rfl, hadvances⟩

theorem addPlot_advances (h : o.Holds ids w) (hid : id ∈ ids) (plot : Plot.Argument) :
    (w.runGraph id (.addPlot plot)).result = ((o.sheet w id).run (.addPlot plot)).1 ∧
      o.Advances ids id w (w.runGraph id (.addPlot plot)).state
        ((o.sheet w id).run (.addPlot plot)).2 := by
  rw [Workspace.runGraph, Sheet.run]
  apply ofEdit_advances h
  · intro w' hw
    simp only [Workspace.addPlot, bind_eq_ok_iff, pure_eq_ok_iff] at hw
    obtain ⟨operand, hoperand, p, hp, rfl⟩ := hw
    exact ⟨_, by rw [hoperand, ok_bind, Sheet.addPlot, hp]; rfl, h.replace hid rfl⟩
  · intro f hf
    simp only [Workspace.addPlot, bind_eq_error_iff, pure_ne_error, and_false, exists_false,
      or_false] at hf
    simp only [Sheet.addPlot, bind_eq_error_iff, pure_ne_error, and_false, exists_false, or_false]
    exact hf

theorem storeAxis_advances (h : o.Holds ids w) (hid : id ∈ ids) (name : Value) (axis : Operand)
    (hstores : o.Stores id (.storeAxis name axis)) :
    (w.runGraph id (.storeAxis name axis)).result = ((o.sheet w id).run (.storeAxis name axis)).1 ∧
      o.Advances ids id w (w.runGraph id (.storeAxis name axis)).state
        ((o.sheet w id).run (.storeAxis name axis)).2 := by
  rw [Workspace.runGraph, Sheet.run]
  cases axis with
  | axis k =>
    obtain ⟨hsize, howner⟩ : k < o.size ∧ o.owner k = id := hstores
    have hheld : (o.sheet w id).held k = w.axis k := held_eq hsize howner
    have href : o.ref w k = .held k := if_pos hsize
    have hinsert := h.insert hid (w.axis k).name (Nat.lt_of_lt_of_le hsize h.size)
      (fun _ => howner) fun hle => absurd hsize (Nat.not_lt.mpr hle)
    rw [href] at hinsert
    have hgot : Operand.axis? (.axis k) = .ok k := rfl
    apply ofEdit_advances h
    · intro w' hw
      simp only [Workspace.storeAxis, hgot, ok_bind] at hw
      split at hw
      · next hsame =>
        obtain rfl := pure_eq_ok_iff.mp hw
        refine ⟨_, ?_, hinsert⟩
        simp only [Sheet.storeAxis, hgot, ok_bind, hheld, if_pos hsame]
        rfl
      · exact absurd hw (by simp)
    · intro f hf
      simp only [Workspace.storeAxis, hgot, ok_bind] at hf
      simp only [Sheet.storeAxis, hgot, ok_bind, hheld]
      split at hf
      · exact absurd hf pure_ne_error
      · next hsame =>
        rw [if_neg hsame]
        cases hname : name.shown with
        | error g =>
          rw [hname] at hf
          exact congrArg Except.error (Except.error.inj hf)
        | ok text =>
          rw [hname] at hf
          exact congrArg Except.error (Except.error.inj hf)
  | value v =>
    refine ofEdit_advances h (fun w' hw => ?_) fun f hf => congrArg _ (Except.error.inj hf)
    cases hw
  | graph g =>
    refine ofEdit_advances h (fun w' hw => ?_) fun f hf => congrArg _ (Except.error.inj hf)
    cases hw
  | plot p =>
    refine ofEdit_advances h (fun w' hw => ?_) fun f hf => congrArg _ (Except.error.inj hf)
    cases hw

/-- **A step on a graph is a step on its sheet**, and leaves the sheets of the other graphs. -/
theorem runGraph_advances (h : o.Holds ids w) (hid : id ∈ ids) {step : Graph.Command}
    (hstores : o.Stores id step) :
    (w.runGraph id step).result = ((o.sheet w id).run step).1 ∧
      o.Advances ids id w (w.runGraph id step).state ((o.sheet w id).run step).2 := by
  cases step with
  | addPlot plot => exact addPlot_advances h hid plot
  | getAxis name =>
    rw [Workspace.runGraph, Sheet.run]
    cases hget : w.getAxis id name with
    | error f =>
      rw [getAxis_error hget]
      exact ⟨rfl, .refl h⟩
    | ok found =>
      obtain ⟨a, w'⟩ := found
      obtain ⟨key, s, hs, hadvances, hkey⟩ := getAxis_advances h hid hget
      simp only [hs, hadvances.content hid hkey]
      exact ⟨trivial, hadvances⟩
  | axis name step =>
    rw [Workspace.runGraph, Sheet.run]
    cases hget : w.getAxis id name with
    | error f =>
      rw [getAxis_error hget]
      exact ⟨rfl, .refl h⟩
    | ok found =>
      obtain ⟨a, w'⟩ := found
      obtain ⟨key, s, hs, hadvances, hkey⟩ := getAxis_advances h hid hget
      simp only [hs, hadvances.content hid hkey, Workspace.runAxis]
      cases (w'.axis a).run step with
      | error f => exact ⟨rfl, hadvances⟩
      | ok done =>
        have hset := hadvances.holds.change hid hkey done.2
        rw [hadvances.sheet] at hset
        exact ⟨rfl, hadvances.trans hset⟩
  | storeAxis name axis => exact storeAxis_advances h hid name axis hstores
  | setIs3d is3d => exact ⟨rfl, h.replace hid rfl⟩
  | plotCommand => exact ⟨rfl, .refl h⟩
  | lines =>
    refine ⟨?_, .refl h⟩
    rw [Workspace.runGraph, Sheet.run, lines_sheet h hid]
    rfl
  | axisNames =>
    refine ⟨?_, .refl h⟩
    rw [Workspace.runGraph, Sheet.run]
    show _ = Except.ok (Workspace.textList (((w.graph id).axes.map _).map Prod.fst))
    rw [List.map_map]
    rfl
  | size => exact ⟨rfl, .refl h⟩
  | describe =>
    refine ⟨?_, .refl h⟩
    rw [Workspace.runGraph, Sheet.run, describe_sheet]

/-- A step on an axis that a caller holds is a step on the sheet of its graph. -/
theorem runAxis_advances (h : o.Holds ids w) {k : AxisId} (hsize : k < o.size)
    (howner : o.owner k = id) (step : Axis.Command) :
    (w.runAxis k step).result = ((o.sheet w id).runHeld k step).1 ∧
      o.Advances ids id w (w.runAxis k step).state ((o.sheet w id).runHeld k step).2 := by
  simp only [Workspace.runAxis, Sheet.runHeld, held_eq hsize howner]
  cases (w.axis k).run step with
  | error f => exact ⟨rfl, .refl h⟩
  | ok done => exact ⟨rfl, h.setHeld hsize howner done.2⟩

end Holding

end PlotPage
