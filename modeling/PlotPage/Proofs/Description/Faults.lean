import PlotPage.Proofs.Description.Script
import PlotPage.Proofs.Misfit

/-!
# Faults of descriptions

A description that cannot be used is invalid: whatever is wrong in a title, a property, a command, an
expression, a label or a tick, the fault becomes one of the description.  One fault is not among
those: an integer that is too large for a double.  Integers become doubles at two places, the ends of
a range and the numbers of a table, and there the fault comes out as it is (`build_failsWith`).

The proofs go through the functions from the inside out, and say for each what its faults are.
-/

namespace PlotPage

/-- A fault that makes a description invalid. -/
def Fault.Invalidates (f : Fault) : Prop :=
  f.kind = .attribute ∨ f.kind = .type ∨ f.kind = .value ∨ f.kind = .settings

namespace Fault.Invalidates

variable {f : Fault}

theorem of_attribute (h : f.kind = .attribute) : f.Invalidates := Or.inl h

theorem of_type (h : f.kind = .type) : f.Invalidates := Or.inr (Or.inl h)

theorem of_value (h : f.kind = .value) : f.Invalidates := Or.inr (Or.inr (Or.inl h))

theorem of_settings (h : f.kind = .settings) : f.Invalidates := Or.inr (Or.inr (Or.inr h))

theorem of_misfit (h : f.Misfit) : f.Invalidates := Or.inr h

/-- Its name then says that the description is at fault. -/
theorem kind_nameFault (h : f.Invalidates) : (Description.nameFault f).kind = .settings := by
  unfold Description.nameFault
  split
  · rfl
  · rename_i hnot
    simp only [Bool.or_eq_true, decide_eq_true_eq, not_or] at hnot
    exact h.resolve_left hnot.1.1 |>.resolve_left hnot.1.2 |>.resolve_left hnot.2

end Fault.Invalidates

/-- A fault of a place: it makes a description invalid, or an integer at the place is too large. -/
def Fault.Arises (tooLarge : Prop) (f : Fault) : Prop :=
  f.Invalidates ∨ f = .outside .tooLarge ∧ tooLarge

/-- Once it has been named, it says that the description is at fault, or it is the same as before. -/
theorem Fault.Arises.nameFault {A : Prop} {f : Fault} (h : f.Arises A) :
    (Description.nameFault f).kind = .settings ∨
      Description.nameFault f = .outside .tooLarge ∧ A := by
  rcases h with h | ⟨rfl, h⟩
  · exact Or.inl h.kind_nameFault
  · exact Or.inr ⟨rfl, h⟩

theorem Fault.Arises.mono {A B : Prop} {f : Fault} (h : f.Arises A) (hAB : A → B) : f.Arises B :=
  h.imp_right fun h => ⟨h.1, hAB h.2⟩

variable {α : Type}

/-- Faults that make a description invalid are among the faults of any place. -/
theorem FailsWith.arises {x : Except Fault α} (h : FailsWith Fault.Invalidates x) {A : Prop} :
    FailsWith (Fault.Arises A) x := h.mono fun _ hf => Or.inl hf

/-- What is too large at a place is too large at a wider one. -/
theorem FailsWith.widen {x : Except Fault α} {A B : Prop} (h : FailsWith (Fault.Arises A) x)
    (hAB : A → B) : FailsWith (Fault.Arises B) x := h.mono fun _ hf => hf.mono hAB

/-! ### Texts and lines -/

open Fault.Invalidates

namespace Value

theorem plain_failsWith (v : Value) : FailsWith Fault.Invalidates v.plain :=
  v.plain_misfit.mono fun _ => of_misfit

theorem shown_failsWith (v : Value) : FailsWith Fault.Invalidates v.shown :=
  v.shown_misfit.mono fun _ => of_misfit

theorem plainOrEmpty_failsWith (v : Value) : FailsWith Fault.Invalidates v.plainOrEmpty :=
  v.plainOrEmpty_misfit.mono fun _ => of_misfit

theorem toDouble_failsWith (v : Value) : FailsWith (Fault.Arises v.TooLarge) v.toDouble :=
  v.toDouble_unfit.mono fun _ => Or.imp_left of_misfit

theorem holds_failsWith (c : Char) (v : Value) : FailsWith Fault.Invalidates (v.holds c) := by
  cases v with
  | text s => exact .ok _
  | list items mark => exact .ok _
  | tuple items mark => exact .ok _
  | set items => exact .ok _
  | map entries mark => exact .ok _
  | _ => exact .error (of_type rfl)

end Value

namespace Line

theorem check_failsWith (what text : String) : FailsWith Fault.Invalidates (check what text) := by
  unfold check
  split
  · exact .ok _
  · exact .error (of_value rfl)

theorem refuse_failsWith {c : Char} {fault : String → Fault} (h : ∀ s, (fault s).Invalidates)
    (v : Value) : FailsWith Fault.Invalidates (refuse c fault v) := by
  refine (v.holds_failsWith c).bind fun b _ => ?_
  cases b with
  | true => exact v.shown_failsWith.bind fun s _ => .throw (h s)
  | false => exact .pure ()

theorem checkValue_failsWith (what : String) (v : Value) :
    FailsWith Fault.Invalidates (checkValue what v) :=
  (refuse_failsWith (fun _ => of_value rfl) v).bind fun _ _ =>
    refuse_failsWith (fun _ => of_value rfl) v

theorem checkUnquoted_failsWith (what : String) (v : Value) :
    FailsWith Fault.Invalidates (checkUnquoted what v) :=
  refuse_failsWith (fun _ => of_value rfl) v

end Line

/-! ### Properties and axes -/

theorem Properties.set_failsWith (p : Properties) (key value : Value) :
    FailsWith Fault.Invalidates (p.set key value) := by
  have hkey : FailsWith Fault.Invalidates (Properties.key key) := by
    unfold Properties.key
    split
    · split
      · exact .error (of_value rfl)
      · exact .ok _
    · exact key.shown_failsWith.bind fun s _ => .throw (of_value rfl)
  exact hkey.bind fun k _ => (Line.check_failsWith _ _).bind fun _ _ =>
    value.plainOrEmpty_failsWith.bind fun t _ => (Line.check_failsWith _ _).bind fun _ _ => .pure _

namespace Axis

theorem ofName_failsWith (name : Value) : FailsWith Fault.Invalidates (ofName name) := by
  unfold ofName
  split
  · split
    · exact (Line.check_failsWith _ _).bind fun _ _ => .pure _
    · exact .error (of_value rfl)
  · exact name.shown_failsWith.bind fun s _ => .throw (of_value rfl)

theorem set_failsWith (a : Axis) (key : String) (value : Value) :
    FailsWith Fault.Invalidates (a.set key value) :=
  (a.properties.set_failsWith _ value).bind fun _ _ => .pure _

theorem setLabel_failsWith (a : Axis) (text : Value) :
    FailsWith Fault.Invalidates (a.setLabel text) :=
  (Line.checkUnquoted_failsWith _ text).bind fun _ _ =>
    text.plain_failsWith.bind fun _ _ => a.set_failsWith _ _

theorem setLogScale_failsWith (a : Axis) (enabled : Bool) :
    FailsWith Fault.Invalidates (a.setLogScale enabled) := by
  unfold setLogScale
  split
  · exact a.set_failsWith _ _
  · exact .ok _

/-- Once the ends of a range are doubles, nothing is too large any more. -/
theorem setBoundaries_failsWith (a : Axis) {low high : Value}
    (hlow : ∃ s, boundText low = .ok s) (hhigh : ∃ s, boundText high = .ok s) :
    FailsWith Fault.Invalidates (a.setBoundaries low high) := by
  obtain ⟨s, hs⟩ := hlow
  obtain ⟨t, ht⟩ := hhigh
  rw [setBoundaries, hs, ht]
  exact a.set_failsWith _ _

end Axis

/-! ### Plots -/

namespace Plot

theorem checkTitle_failsWith (v : Value) : FailsWith Fault.Invalidates (checkTitle v) := by
  unfold checkTitle
  split
  · exact .ok _
  · exact (Line.checkValue_failsWith _ v).bind fun _ _ =>
      (Line.checkUnquoted_failsWith _ v).bind fun _ _ => .pure _

theorem checkStyle_failsWith (v : Value) : FailsWith Fault.Invalidates (checkStyle v) := by
  unfold checkStyle
  split
  · exact .ok _
  · exact (Line.checkValue_failsWith _ v).bind fun _ _ => .pure _

theorem checkExpression_failsWith (v : Value) : FailsWith Fault.Invalidates (checkExpression v) := by
  unfold checkExpression
  split
  · split
    · exact .error (of_value rfl)
    · exact (Line.check_failsWith _ _).bind fun _ _ => .pure _
  · split
    · exact .error (of_attribute rfl)
    · exact .error (of_value rfl)

theorem ofFunction_failsWith (expression title style : Value) :
    FailsWith Fault.Invalidates (ofFunction expression title style) :=
  (checkExpression_failsWith expression).bind fun _ _ => (checkTitle_failsWith title).bind fun _ _ =>
    (checkStyle_failsWith style).bind fun _ _ => .pure _

end Plot

namespace Table

/-- A table holds a number that is too large. -/
def TooLarge (v : Value) : Prop := ∃ x ∈ leaves v, x.TooLarge

theorem leafDouble_failsWith (v : Value) : FailsWith (Fault.Arises v.TooLarge) (leafDouble v) := by
  unfold leafDouble
  split
  · exact .ok _
  · exact v.toDouble_failsWith

theorem numbers_failsWith (v : Value) : FailsWith (Fault.Arises (TooLarge v)) (numbers v) := by
  unfold numbers
  split
  · exact .error (Or.inl (of_value rfl))
  · split
    · exact .error (Or.inl (of_value rfl))
    · refine FailsWith.bind (.mapM fun x hx => ?_) fun _ _ => .pure _
      exact (leafDouble_failsWith x).widen fun htoo => ⟨x, hx, htoo⟩

theorem ofValue_failsWith (v : Value) : FailsWith (Fault.Arises (TooLarge v)) (ofValue v) := by
  have hread : FailsWith (Fault.Arises (TooLarge v)) ((numbers v).mapError nameFault) := by
    refine (numbers_failsWith v).mapError fun f hf => ?_
    unfold nameFault
    split
    · exact Or.inl (of_value rfl)
    · exact hf
  have hsize : ∀ s, FailsWith Fault.Invalidates (dimensions s) := by
    intro s
    unfold dimensions
    split
    · exact .ok _
    · exact .ok _
    · exact .error (of_value rfl)
  refine hread.bind fun read _ => (hsize read.1).arises.bind fun size _ => ?_
  split
  · exact .throw (Or.inl (of_value rfl))
  · exact .pure _

end Table

theorem Plot.ofTable_failsWith (data title style : Value) :
    FailsWith (Fault.Arises (Table.TooLarge data)) (ofTable data title style) :=
  (Table.ofValue_failsWith data).bind fun _ _ => (checkTitle_failsWith title).arises.bind fun _ _ =>
    (checkStyle_failsWith style).arises.bind fun _ _ => .pure _

theorem Workspace.getAxis_failsWith (w : Workspace) (id : GraphId) (name : String) :
    FailsWith Fault.Invalidates (w.getAxis id (.text name)) := by
  refine FailsWith.bind (.ok _) fun key _ => ?_
  split
  · exact .pure _
  · exact (Axis.ofName_failsWith _).bind fun _ _ => .pure _

/-! ### Fields -/

namespace Description

open Render

theorem entriesOf_failsWith (v : Value) : FailsWith Fault.Invalidates (entriesOf v) := by
  unfold entriesOf
  split
  · split
    · exact .ok _
    · exact .error (of_attribute rfl)
  · exact .ok _

theorem itemsOf_failsWith (v : Value) : FailsWith Fault.Invalidates (itemsOf v) := by
  unfold itemsOf
  split
  · cases v with
    | list items mark => exact .ok _
    | tuple items mark => exact .ok _
    | set items => exact .ok _
    | text s => exact .ok _
    | bytes bs => exact .ok _
    | map entries mark => exact .ok _
    | _ => exact .error (of_type rfl)
  · exact .ok _

theorem truthValue_failsWith (name : String) (v : Value) :
    FailsWith Fault.Invalidates (truthValue name v) :=
  (truthValue_misfit name v).mono fun _ => of_misfit

theorem optionalText_failsWith (v : Value) : FailsWith Fault.Invalidates (optionalText v) := by
  unfold optionalText
  split
  · exact .ok _
  · exact v.plain_failsWith.bind fun _ _ => .pure _

/-! ### Entries of axes -/

/-- An end of a range is an integer that is too large. -/
def RangeTooLarge (v : Value) : Prop := ∃ x ∈ items v, x.TooLarge

theorem bound_failsWith (v : Value) : FailsWith (Fault.Arises v.TooLarge) (bound v) := by
  unfold bound
  split
  · exact .ok _
  · exact v.toDouble_failsWith.bind fun _ _ => .pure _

theorem exists_boundText {v b : Value} (h : bound v = .ok b) : ∃ s, Axis.boundText b = .ok s := by
  cases v with
  | null =>
    obtain rfl := Except.ok.inj h
    exact ⟨_, rfl⟩
  | _ =>
    simp only [bound, bind_eq_ok_iff, pure_eq_ok_iff] at h
    obtain ⟨d, -, rfl⟩ := h
    exact ⟨_, rfl⟩

/-- A pair of ends, each of which may be too large. -/
theorem bounds_failsWith {v low high : Value} (h : items v = [low, high]) :
    FailsWith (Fault.Arises (RangeTooLarge v))
      (do return (← bound low, ← bound high) : Except Fault (Value × Value)) := by
  have hmem : ∀ x, x = low ∨ x = high → x ∈ items v := by
    intro x hx
    rw [h]
    simpa using hx
  refine FailsWith.bind ?_ fun _ _ => FailsWith.bind ?_ fun _ _ => .pure _
  · exact (bound_failsWith low).widen fun ht => ⟨low, hmem low (Or.inl rfl), ht⟩
  · exact (bound_failsWith high).widen fun ht => ⟨high, hmem high (Or.inr rfl), ht⟩

theorem range_failsWith (place : String) (v : Value) :
    FailsWith (Fault.Arises (RangeTooLarge v)) (range place v) := by
  unfold range
  split
  · exact bounds_failsWith rfl
  · exact bounds_failsWith rfl
  · exact v.shown_failsWith.arises.bind fun _ _ => .throw (Or.inl (of_settings rfl))

/-- Both ends that a range gives can be written. -/
theorem exists_boundText_of_range {place : String} {v : Value} {ends : Value × Value}
    (h : range place v = .ok ends) :
    (∃ s, Axis.boundText ends.1 = .ok s) ∧ ∃ s, Axis.boundText ends.2 = .ok s := by
  unfold range at h
  split at h
  · simp only [bind_eq_ok_iff, pure_eq_ok_iff] at h
    obtain ⟨l, hl, r, hr, rfl⟩ := h
    exact ⟨exists_boundText hl, exists_boundText hr⟩
  · simp only [bind_eq_ok_iff, pure_eq_ok_iff] at h
    obtain ⟨l, hl, r, hr, rfl⟩ := h
    exact ⟨exists_boundText hl, exists_boundText hr⟩
  · exact absurd h (by simp)

theorem boundaries_failsWith (place : String) (a : Axis) (v : Value) :
    FailsWith (Fault.Arises (RangeTooLarge v)) (boundaries place a v) := by
  refine (range_failsWith _ v).bind fun ends hends => ?_
  obtain ⟨hlow, hhigh⟩ := exists_boundText_of_range hends
  exact (a.setBoundaries_failsWith hlow hhigh).arises

theorem withField_failsWith {P : Fault → Prop} {fields : List (Value × Value)} {name : String}
    {act : Axis → Value → Except Fault Axis} {a : Axis}
    (h : ∀ v, Value.field fields name = some v → FailsWith P (act a v)) :
    FailsWith P (withField fields name act a) := by
  unfold withField
  split
  · rename_i v hv
    exact h v hv
  · exact .ok _

/-- The range among the fields of an entry has an end that is too large. -/
def AxisTooLarge (entry : Value × Value) : Prop :=
  ∃ v, Value.field (entries entry.2) "range" = some v ∧ RangeTooLarge v

theorem axisSettings_failsWith (place : String) (a : Axis) (name : Value)
    (fields : List (Value × Value)) (mark : Option Nat) :
    FailsWith (Fault.Arises (AxisTooLarge (name, .map fields mark)))
      (axisSettings place a fields) := by
  refine FailsWith.bind ?_ fun a _ => FailsWith.bind ?_ fun a _ => FailsWith.bind ?_ fun a _ => ?_
  · exact withField_failsWith fun v _ =>
      (v.plain_failsWith.bind fun _ _ => Axis.setLabel_failsWith _ _).arises
  · exact withField_failsWith fun v hv =>
      (boundaries_failsWith place a v).widen fun ht => ⟨v, hv, ht⟩
  · exact withField_failsWith fun v _ =>
      ((truthValue_failsWith _ v).bind fun _ _ => a.setLogScale_failsWith _).arises
  · exact withField_failsWith fun v _ =>
      (v.plain_failsWith.bind fun _ _ => a.set_failsWith _ _).arises

theorem fillAxes_failsWith (place : String) (w : Workspace) (id : GraphId)
    (es : List (Value × Value)) :
    FailsWith (Fault.Arises (∃ e ∈ es, AxisTooLarge e)) (fillAxes place w id es) := by
  induction es generalizing w with
  | nil => exact .ok w
  | cons e rest ih =>
    obtain ⟨name, v⟩ := e
    have hrest : ∀ w', FailsWith (Fault.Arises (∃ e ∈ (name, v) :: rest, AxisTooLarge e))
        (fillAxes place w' id rest) := fun w' => (ih w').widen List.exists_mem_cons_of_exists
    unfold fillAxes
    cases v with
    | map fields mark =>
      refine name.plain_failsWith.arises.bind fun key _ =>
        (w.getAxis_failsWith id key).arises.bind fun r _ => FailsWith.bind ?_ fun _ _ => hrest _
      exact (axisSettings_failsWith _ _ name fields mark).widen (List.exists_mem_cons_of _)
    | _ => exact name.plain_failsWith.arises.bind fun _ _ => .throw (Or.inl (of_settings rfl))

/-! ### Entries of plots -/

/-- The table of an entry holds a number that is too large. -/
def PlotTooLarge (entry : Value) : Prop :=
  ∃ v, Value.field (entries entry) "data" = some v ∧ Table.TooLarge v

theorem plot_failsWith (place : String) (v : Value) :
    FailsWith (Fault.Arises (PlotTooLarge v)) (plot place v) := by
  unfold plot
  split
  · rename_i fields mark
    split
    · rename_i expression _ _
      exact (expression.plain_failsWith.bind fun _ _ => (optionalText_failsWith _).bind fun _ _ =>
        (optionalText_failsWith _).bind fun _ _ => Plot.ofFunction_failsWith _ _ _).arises
    · rename_i data _ hdata
      refine (optionalText_failsWith _).arises.bind fun _ _ =>
        (optionalText_failsWith _).arises.bind fun _ _ => ?_
      exact (Plot.ofTable_failsWith data _ _).widen fun ht => ⟨data, hdata, ht⟩
    · exact .throw (Or.inl (of_settings rfl))
  · exact v.shown_failsWith.arises.bind fun _ _ => .throw (Or.inl (of_settings rfl))

theorem fillPlots_failsWith (place : String) (w : Workspace) (id : GraphId) (index : Nat)
    (vs : List Value) :
    FailsWith (Fault.Arises (∃ v ∈ vs, PlotTooLarge v)) (fillPlots place w id index vs) := by
  induction vs generalizing w index with
  | nil => exact .ok w
  | cons v rest ih =>
    rw [fillPlots]
    refine FailsWith.bind ?_ fun p _ => FailsWith.bind (.ok _) fun w' _ => ?_
    · exact (plot_failsWith _ v).widen (List.exists_mem_cons_of _)
    · exact (ih w' _).widen List.exists_mem_cons_of_exists

/-! ### Graphs -/

/-- A range or a table of an entry of `graphs` holds an integer that is too large. -/
def GraphTooLarge (entry : Value) : Prop :=
  (∃ e ∈ entries (fieldOrNull (entries entry) "axes"), AxisTooLarge e) ∨
    ∃ v ∈ items (fieldOrNull (entries entry) "plots"), PlotTooLarge v

theorem fillGraph_failsWith (w : Workspace) (id : GraphId) (index : Nat) (v : Value) :
    FailsWith (Fault.Arises (GraphTooLarge v)) (fillGraph w id index v) := by
  unfold fillGraph
  cases v with
  | map fields mark =>
    refine (truthValue_failsWith _ _).arises.bind fun is3d _ =>
      (entriesOf_failsWith _).arises.bind fun es hes => FailsWith.bind ?_ fun w' _ =>
        (itemsOf_failsWith _).arises.bind fun vs hvs => ?_
    · obtain rfl := entries_of_entriesOf hes
      exact (fillAxes_failsWith _ _ id _).widen Or.inl
    · obtain rfl := items_of_itemsOf hvs
      exact (fillPlots_failsWith _ w' id 0 _).widen Or.inr
  | _ => exact (Value.shown_failsWith _).arises.bind fun _ _ => .throw (Or.inl (of_settings rfl))

theorem fillPageGraph_failsWith (p : Page) (id : GraphId) (index : Nat) (v : Value) :
    FailsWith (Fault.Arises (GraphTooLarge v)) (fillPageGraph p id index v) :=
  (fillGraph_failsWith p.workspace id index v).bind fun _ _ => .pure _

variable {b : Bool} {p : Page} {fs : List (List String)}

theorem addGraphs_failsWith {index : Nat} {vs : List Value} (hs : Shows b p fs) :
    FailsWith (Fault.Arises (∃ v ∈ vs, GraphTooLarge v)) (addGraphs p index vs).1 := by
  induction vs generalizing index p fs with
  | nil => exact .ok p
  | cons v rest ih =>
    obtain ⟨-, hshows, -, hempty⟩ := newGraph_shows hs
    rw [addGraphs_cons hs]
    refine FailsWith.bind ?_ fun q hfill => ?_
    · exact (fillPageGraph_failsWith _ _ index v).widen (List.exists_mem_cons_of _)
    · obtain ⟨hshows', -⟩ := fillPageGraph_shows hshows hempty hfill
      exact (ih hshows').widen List.exists_mem_cons_of_exists

theorem fillGraphs_failsWith {vs : List Value} (hs : Shows b p [[]]) {c : Bool}
    (hempty : p.workspace.graph 0 = .empty c) :
    FailsWith (Fault.Arises (∃ v ∈ vs, GraphTooLarge v)) (fillGraphs p vs).1 := by
  cases vs with
  | nil => exact .ok p
  | cons v rest =>
    rw [fillGraphs_cons hs]
    refine FailsWith.bind ?_ fun q hfill => ?_
    · exact (fillPageGraph_failsWith p 0 0 v).widen (List.exists_mem_cons_of _)
    · have hfirst : Shows b p ([] ++ [[]]) := hs
      obtain ⟨hshows, -⟩ := fillPageGraph_shows hfirst hempty hfill
      exact (addGraphs_failsWith hshows).widen List.exists_mem_cons_of_exists

theorem setProperties_failsWith (q : Properties) (es : List (Value × Value)) :
    FailsWith Fault.Invalidates (setProperties q es) := by
  induction es generalizing q with
  | nil => exact .ok q
  | cons e rest ih =>
    exact e.1.plain_failsWith.bind fun _ _ => e.2.plainOrEmpty_failsWith.bind fun _ _ =>
      (q.set_failsWith _ _).bind fun q' _ => ih q'

theorem commands_failsWith (v : Value) : FailsWith Fault.Invalidates (commands v) :=
  (itemsOf_failsWith v).bind fun _ _ => .mapM fun c _ => c.plain_failsWith.bind fun _ _ => .pure _

theorem fillPage_failsWith (p : Page) (fields : List (Value × Value)) :
    FailsWith Fault.Invalidates (fillPage p fields) := by
  have htitle : FailsWith Fault.Invalidates (p.setTitle (fieldOrNull fields "title")) :=
    ((Value.plainOrEmpty_failsWith _).bind fun _ _ => (Line.check_failsWith _ _).bind fun _ _ =>
      (Line.checkUnquoted_failsWith _ _).bind fun _ _ => .pure _).bind fun _ _ => .pure _
  exact htitle.bind fun _ _ => (entriesOf_failsWith _).bind fun _ _ =>
    (setProperties_failsWith _ _).bind fun _ _ => (commands_failsWith _).bind fun _ _ =>
      (commands_failsWith _).bind fun _ _ => .pure _

/-- A range or a table of a description holds an integer that is too large. -/
def TooLarge (v : Value) : Prop := ∃ g ∈ items (fieldOrNull (entries v) "graphs"), GraphTooLarge g

theorem buildEntries_failsWith (fields : List (Value × Value)) (mark : Option Nat) (b : Bool) :
    FailsWith (Fault.Arises (TooLarge (.map fields mark))) (buildEntries fields b).1 := by
  obtain ⟨hblank, hgraph, hproperties⟩ := blankPage_shows b
  unfold buildEntries
  cases hfill : fillPage (blankPage b) fields with
  | error f => exact .error (Or.inl (fillPage_failsWith _ _ f hfill))
  | ok p =>
    cases hitems : itemsOf (fieldOrNull fields "graphs") with
    | error f => exact .error (Or.inl (itemsOf_failsWith _ f hitems))
    | ok vs =>
      obtain rfl := items_of_itemsOf hitems
      obtain ⟨-, hshows, hworkspace⟩ := fillPage_settled hproperties hblank hfill
      rw [← hworkspace] at hgraph
      exact fillGraphs_failsWith hshows hgraph

theorem build_map (fields : List (Value × Value)) (mark : Option Nat) (b : Bool) :
    (build (.map fields mark) b).1 = (buildEntries fields b).1.mapError nameFault := by
  rw [build]
  rcases buildEntries fields b with ⟨_ | _, ns⟩
  · rfl
  · rfl

/-- **A description fails as invalid, or an integer in a range or a table is too large.** -/
theorem build_failsWith (v : Value) (b : Bool) :
    FailsWith (fun f => f.kind = .settings ∨ f = .outside .tooLarge ∧ TooLarge v) (build v b).1 := by
  cases v with
  | map fields mark =>
    rw [build_map]
    refine (buildEntries_failsWith fields mark b).mapError fun f hf => ?_
    rcases hf with hf | ⟨rfl, htoo⟩
    · exact Or.inl hf.kind_nameFault
    · exact Or.inr ⟨rfl, htoo⟩
  | _ => exact .error (Or.inl rfl)

/-- A range and a table with the integer 10^400: neither description becomes a page, and neither of
them is invalid. -/
theorem build_power_of_ten :
    (∃ f, (build (.map [(.text "graphs", .list [.map [(.text "axes", .map [(.text "x", .map
        [(.text "range", .list [.int ((10 ^ 200) ^ 2), .null])])])]])]) true).1 = .error f ∧
      f.kind ≠ .settings) ∧
    ∃ f, (build (.map [(.text "graphs", .list [.map [(.text "plots", .list [.map
        [(.text "data", .list [.int ((10 ^ 200) ^ 2)])]])]])]) true).1 = .error f ∧
      f.kind ≠ .settings := by
  have hrange := fault?_eq_some_iff.mp (by decide +kernel :
    fault? (build (.map [(.text "graphs", .list [.map [(.text "axes", .map [(.text "x", .map
      [(.text "range", .list [.int ((10 ^ 200) ^ 2), .null])])])]])]) true).1 =
        some (.outside .tooLarge))
  have htable := fault?_eq_some_iff.mp (by decide +kernel :
    fault? (build (.map [(.text "graphs", .list [.map [(.text "plots", .list [.map
      [(.text "data", .list [.int ((10 ^ 200) ^ 2)])]])]])]) true).1 = some (.outside .tooLarge))
  exact ⟨⟨_, hrange, by decide⟩, _, htable, by decide⟩

end Description

end PlotPage
