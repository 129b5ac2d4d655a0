import PlotPage.Proofs.Description.Faults
import PlotPage.Proofs.Value.Parts

/-!
# What an accepted description looks like

A description has a schema: which fields are mappings, lists or truth values, and what their entries
are.  Hardly any of it is checked as such.  A field that is missing or does not count as true is
left out, and any other is simply used, so a value of another kind is refused only where a later step
cannot do anything with it.

* `entriesOf` takes mappings alone.  `itemsOf` goes through texts, bytes, sets and mappings as well.
* The items of `graphs` and `plots` must be mappings themselves.  The letters of a text, the numbers
  of bytes, the members of a set and the keys of a mapping never are, so both fields are lists after
  all.
* Anything can be a command.  So `pre_init` and `post_init` may be whatever can be gone through, and
  this is the only way in which an accepted description can miss its schema (`schema_of_build`): a
  single text is taken apart into its letters (`text_becomes_commands`).
-/

namespace PlotPage

/-! ### Kinds of values -/

namespace Value

def IsMapping : Value → Prop
  | .map .. => True
  | _ => False

/-- A list, of either kind. -/
def IsSequence : Value → Prop
  | .list .. => True
  | .tuple .. => True
  | _ => False

/-- Whatever can be gone through item by item. -/
def IsIterable : Value → Prop
  | .list .. => True
  | .tuple .. => True
  | .set _ => True
  | .text _ => True
  | .bytes _ => True
  | .map .. => True
  | _ => False

def IsTruthValue : Value → Prop
  | .bool _ => True
  | _ => False

/-- A field that is not left out has a property. -/
def Given (P : Value → Prop) (v : Value) : Prop := v.isTruthy = true → P v

mutual
/-- Whether all keys of mappings and all members of sets in a value can be keys.  Only such values
can be made. -/
def hasKeys : Value → Bool
  | .list items _ => haveKeys items
  | .tuple items _ => haveKeys items
  | .set items => areKeys items
  | .map entries _ => entriesHaveKeys entries
  | _ => true

def haveKeys : List Value → Bool
  | [] => true
  | v :: vs => hasKeys v && haveKeys vs

def entriesHaveKeys : List (Value × Value) → Bool
  | [] => true
  | (k, v) :: es => isKey k && hasKeys v && entriesHaveKeys es
end

theorem isKey_of_areKeys {vs : List Value} (h : areKeys vs = true) : ∀ v ∈ vs, v.isKey = true := by
  induction vs with
  | nil => exact fun v hv => absurd hv List.not_mem_nil
  | cons w rest ih =>
    rw [areKeys, Bool.and_eq_true] at h
    rw [List.forall_mem_cons]
    exact ⟨h.1, ih h.2⟩

theorem hasKeys_of_haveKeys {vs : List Value} (h : haveKeys vs = true) :
    ∀ v ∈ vs, v.hasKeys = true := by
  induction vs with
  | nil => exact fun v hv => absurd hv List.not_mem_nil
  | cons w rest ih =>
    rw [haveKeys, Bool.and_eq_true] at h
    rw [List.forall_mem_cons]
    exact ⟨h.1, ih h.2⟩

theorem keys_of_entriesHaveKeys {es : List (Value × Value)} (h : entriesHaveKeys es = true) :
    ∀ e ∈ es, e.1.isKey = true ∧ e.2.hasKeys = true := by
  induction es with
  | nil => exact fun e he => absurd he List.not_mem_nil
  | cons e rest ih =>
    rw [entriesHaveKeys, Bool.and_eq_true, Bool.and_eq_true] at h
    rw [List.forall_mem_cons]
    exact ⟨h.1, ih h.2⟩

mutual
theorem hasKeys_of_isKey : ∀ {v : Value}, v.isKey = true → v.hasKeys = true
  | .tuple _ _, h => haveKeys_of_areKeys h
  | .null, _ => rfl
  | .bool _, _ => rfl
  | .int _, _ => rfl
  | .real _, _ => rfl
  | .text _, _ => rfl
  | .bytes _, _ => rfl
  | .date _, _ => rfl
  | .dateTime _, _ => rfl

theorem haveKeys_of_areKeys : ∀ {vs : List Value}, areKeys vs = true → haveKeys vs = true
  | [], _ => rfl
  | v :: vs, h => by
    rw [areKeys, Bool.and_eq_true] at h
    rw [haveKeys, hasKeys_of_isKey h.1, haveKeys_of_areKeys h.2, Bool.and_true]
end

/-- A mapping is no key. -/
theorem not_isMapping_of_isKey {v : Value} (h : v.isKey = true) : ¬v.IsMapping := by
  cases v with
  | map entries mark => cases h
  | _ => exact id

end Value

namespace Description

open Render Value

theorem hasKeys_fieldOrNull {v : Value} (h : v.hasKeys = true) (name : String) :
    (fieldOrNull (entries v) name).hasKeys = true := by
  rw [fieldOrNull, Value.field, Value.lookup]
  cases hfound : (entries v).find? fun e => same e.1 (.text name) with
  | none => rfl
  | some e =>
    have hmem := List.mem_of_find?_eq_some hfound
    cases v with
    | map es mark => exact (keys_of_entriesHaveKeys h e hmem).2
    | _ => exact absurd hmem List.not_mem_nil

theorem hasKeys_of_mem_items {v : Value} (h : v.hasKeys = true) :
    ∀ w ∈ items v, w.hasKeys = true := by
  cases v with
  | list vs mark => exact hasKeys_of_haveKeys h
  | tuple vs mark => exact hasKeys_of_haveKeys h
  | set vs => exact fun w hw => hasKeys_of_isKey (isKey_of_areKeys h w hw)
  | text s =>
    intro w hw
    obtain ⟨c, -, rfl⟩ := List.mem_map.mp hw
    rfl
  | bytes bs =>
    intro w hw
    obtain ⟨b, -, rfl⟩ := List.mem_map.mp hw
    rfl
  | map es mark =>
    intro w hw
    obtain ⟨e, he, rfl⟩ := List.mem_map.mp hw
    exact hasKeys_of_isKey (keys_of_entriesHaveKeys h e he).1
  | _ => exact fun w hw => absurd hw List.not_mem_nil

/-- What can be gone through and is not left out has items. -/
theorem items_ne_nil {v : Value} (h : v.IsIterable) (htrue : v.isTruthy = true) : items v ≠ [] := by
  cases v with
  | list vs mark => simpa [isTruthy, Render.items] using htrue
  | tuple vs mark => simpa [isTruthy, Render.items] using htrue
  | set vs => simpa [isTruthy, Render.items] using htrue
  | text s => simpa [isTruthy, Render.items] using htrue
  | bytes bs => simpa [isTruthy, Render.items] using htrue
  | map es mark => simpa [isTruthy, Render.items] using htrue
  | _ => exact h.elim

/-- Only a list has mappings among its items. -/
theorem not_isMapping_of_mem_items {v : Value} (h : v.hasKeys = true) (hlist : ¬v.IsSequence) :
    ∀ w ∈ items v, ¬w.IsMapping := by
  cases v with
  | list vs mark => exact absurd trivial hlist
  | tuple vs mark => exact absurd trivial hlist
  | set vs => exact fun w hw => not_isMapping_of_isKey (isKey_of_areKeys h w hw)
  | text s =>
    intro w hw
    obtain ⟨c, -, rfl⟩ := List.mem_map.mp hw
    exact id
  | bytes bs =>
    intro w hw
    obtain ⟨b, -, rfl⟩ := List.mem_map.mp hw
    exact id
  | map es mark =>
    intro w hw
    obtain ⟨e, he, rfl⟩ := List.mem_map.mp hw
    exact not_isMapping_of_isKey (keys_of_entriesHaveKeys h e he).1
  | _ => exact fun w hw => absurd hw List.not_mem_nil

theorem isSequence_of_items {v : Value} (h : v.hasKeys = true) (hiterable : Given IsIterable v)
    (hitems : ∀ w ∈ items v, w.IsMapping) : Given IsSequence v := by
  intro htrue
  refine Classical.byContradiction fun hlist => ?_
  obtain ⟨w, hw⟩ := List.exists_mem_of_ne_nil _ (items_ne_nil (hiterable htrue) htrue)
  exact not_isMapping_of_mem_items h hlist w hw (hitems w hw)

theorem given_of_entriesOf {v : Value} {es : List (Value × Value)} (h : entriesOf v = .ok es) :
    Given IsMapping v := by
  intro htrue
  unfold entriesOf at h
  rw [if_pos htrue] at h
  cases v with
  | map entries mark => trivial
  | _ => cases h

theorem given_of_itemsOf {v : Value} {vs : List Value} (h : itemsOf v = .ok vs) :
    Given IsIterable v := by
  intro htrue
  unfold itemsOf at h
  rw [if_pos htrue] at h
  cases v with
  | list items mark => trivial
  | tuple items mark => trivial
  | set items => trivial
  | text s => trivial
  | bytes bs => trivial
  | map entries mark => trivial
  | _ => cases h

/-! ### The schema -/

/-- A key that is written as the name of an axis. -/
def IsAxisName (key : Value) : Prop :=
  ∃ name, key.plain = .ok name ∧ Axis.isWord name = true ∧ Line.isSingle name = true

/-- The entry of an axis. -/
structure AxisShape (v : Value) : Prop where
  mapping : v.IsMapping
  range : ∀ r, Value.field (entries v) "range" = some r → r.IsSequence ∧ (items r).length = 2
  log : ∀ l, Value.field (entries v) "log" = some l → l.IsTruthValue

/-- The entry of a plot. -/
structure PlotShape (v : Value) : Prop where
  mapping : v.IsMapping
  source : (Value.field (entries v) "function").isSome ≠ (Value.field (entries v) "data").isSome

/-- The entry of a graph. -/
structure GraphShape (v : Value) : Prop where
  mapping : v.IsMapping
  splot : ∀ s, Value.field (entries v) "splot" = some s → s.IsTruthValue
  axes : Given IsMapping (fieldOrNull (entries v) "axes")
  axis : ∀ e ∈ entries (fieldOrNull (entries v) "axes"), IsAxisName e.1 ∧ AxisShape e.2
  plots : Given IsSequence (fieldOrNull (entries v) "plots")
  plot : ∀ p ∈ items (fieldOrNull (entries v) "plots"), PlotShape p

/-- A description whose two fields of commands are of the given kind. -/
structure PageShape (Commands : Value → Prop) (v : Value) : Prop where
  mapping : v.IsMapping
  set : Given IsMapping (fieldOrNull (entries v) "set")
  preInit : Given Commands (fieldOrNull (entries v) "pre_init")
  postInit : Given Commands (fieldOrNull (entries v) "post_init")
  graphs : Given IsSequence (fieldOrNull (entries v) "graphs")
  graph : ∀ g ∈ items (fieldOrNull (entries v) "graphs"), GraphShape g

/-- The documented schema: commands are lists. -/
def FollowsSchema (v : Value) : Prop := PageShape IsSequence v

/-! ### Axes -/

theorem isTruthValue_of_truthValue {name : String} {v : Value} {b : Bool}
    (h : truthValue name v = .ok b) : v.IsTruthValue := by
  rw [truthValue_eq_ok h]
  trivial

theorem shape_of_range {place : String} {v : Value} {ends : Value × Value}
    (h : range place v = .ok ends) : v.IsSequence ∧ (items v).length = 2 := by
  unfold range at h
  split at h
  · exact ⟨trivial, rfl⟩
  · exact ⟨trivial, rfl⟩
  · exact absurd h (by simp)

theorem axisShape_of_axisSettings {place : String} {a b : Axis} {fields : List (Value × Value)}
    {mark : Option Nat} (h : axisSettings place a fields = .ok b) :
    AxisShape (.map fields mark) := by
  simp only [axisSettings, bind_eq_ok_iff] at h
  obtain ⟨a₁, -, a₂, hrange, a₃, hlog, -⟩ := h
  refine ⟨trivial, fun r hr => ?_, fun l hl => ?_⟩
  · simp only [withField, show Value.field fields "range" = some r from hr, boundaries,
      bind_eq_ok_iff] at hrange
    obtain ⟨ends, hends, -⟩ := hrange
    exact shape_of_range hends
  · simp only [withField, show Value.field fields "log" = some l from hl, logScale,
      bind_eq_ok_iff] at hlog
    obtain ⟨c, hc, -⟩ := hlog
    exact isTruthValue_of_truthValue hc

/-- The axes of a graph stand under words. -/
def Named (w : Workspace) (id : GraphId) : Prop :=
  ∀ e ∈ (w.graph id).axes, Axis.isWord e.1 = true ∧ Line.isSingle e.1 = true

theorem named_getAxis {w w' : Workspace} {id : GraphId} {name : String} {a : AxisId}
    (hn : Named w id) (h : w.getAxis id (.text name) = .ok (a, w')) :
    Named w' id ∧ Axis.isWord name = true ∧ Line.isSingle name = true := by
  simp only [Workspace.getAxis, Properties.lookupKey?, bind_eq_ok_iff] at h
  obtain ⟨key, hkey, h⟩ := h
  obtain rfl := Except.ok.inj hkey
  rw [Option.bind_some] at h
  cases ha : (w.graph id).axisId? name with
  | some b =>
    rw [ha] at h
    obtain ⟨rfl, rfl⟩ := Prod.mk.inj (Except.ok.inj h)
    exact ⟨hn, hn _ (Workspace.axisId?_eq_some ha)⟩
  | none =>
    rw [ha] at h
    simp only [bind_eq_ok_iff] at h
    obtain ⟨axis, haxis, h⟩ := h
    obtain ⟨rfl, rfl⟩ := Prod.mk.inj (Except.ok.inj h)
    obtain ⟨hwell, hname, -⟩ := Axis.wellFormed_of_ofName haxis
    obtain rfl : name = axis.name := Value.text.inj hname
    have hword := And.intro hwell.name_word hwell.name_single
    refine ⟨fun e he => ?_, hword⟩
    rcases Workspace.graph_setGraph_cases (w.addAxis axis).2 id _ id with hsame | ⟨-, hnew⟩
    · rw [hsame] at he
      exact hn e he
    · rw [hnew] at he
      have hmem : e ∈ Graph.insertAxis axis.name w.axes.length (w.graph id).axes := he
      rw [Workspace.insertAxis_of_not_mem (Workspace.axisId?_eq_none ha), List.mem_append,
        List.mem_singleton] at hmem
      rcases hmem with hold | rfl
      · exact hn e hold
      · exact hword

theorem axes_of_fillAxes {place : String} {w w' : Workspace} {id : GraphId}
    {es : List (Value × Value)} (hn : Named w id) (h : fillAxes place w id es = .ok w') :
    ∀ e ∈ es, IsAxisName e.1 ∧ AxisShape e.2 := by
  induction es generalizing w with
  | nil => exact fun e he => absurd he List.not_mem_nil
  | cons e rest ih =>
    obtain ⟨key, v⟩ := e
    cases v with
    | map fields mark =>
      simp only [fillAxes, bind_eq_ok_iff] at h
      obtain ⟨name, hname, ⟨a, w₁⟩, hw₁, axis, haxis, h⟩ := h
      obtain ⟨hn₁, hword⟩ := named_getAxis hn hw₁
      rw [List.forall_mem_cons]
      exact ⟨⟨⟨name, hname, hword⟩, axisShape_of_axisSettings haxis⟩,
        ih (w := w₁.setAxis a axis) hn₁ h⟩
    | _ => exact absurd h (by simp [fillAxes])

/-! ### Plots -/

theorem plotShape_of_plot {place : String} {v : Value} {p : Plot} (h : plot place v = .ok p) :
    PlotShape v := by
  unfold plot at h
  split at h
  · next fields mark =>
    refine ⟨trivial, ?_⟩
    show (Value.field fields "function").isSome ≠ (Value.field fields "data").isSome
    split at h
    · next hfunction hdata =>
      rw [hfunction, hdata]
      exact Bool.false_ne_true.symm
    · next hfunction hdata =>
      rw [hfunction, hdata]
      exact Bool.false_ne_true
    · exact absurd h (by simp)
  · exact absurd h (by simp)

theorem plots_of_fillPlots {place : String} {w w' : Workspace} {id : GraphId} {index : Nat}
    {vs : List Value} (h : fillPlots place w id index vs = .ok w') : ∀ v ∈ vs, PlotShape v := by
  induction vs generalizing index w with
  | nil => exact fun v hv => absurd hv List.not_mem_nil
  | cons v rest ih =>
    simp only [fillPlots, bind_eq_ok_iff] at h
    obtain ⟨p, hp, w₁, -, h⟩ := h
    rw [List.forall_mem_cons]
    exact ⟨plotShape_of_plot hp, ih h⟩

/-! ### Graphs -/

theorem graphShape_of_fillGraph {w w' : Workspace} {id : GraphId} {index : Nat} {v : Value}
    (hkeys : v.hasKeys = true) {b : Bool} (hempty : w.graph id = .empty b)
    (h : fillGraph w id index v = .ok w') : GraphShape v := by
  unfold fillGraph at h
  split at h
  · next fields mark =>
    simp only [bind_eq_ok_iff] at h
    obtain ⟨is3d, his3d, es, hes, w₁, hw₁, vs, hvs, h⟩ := h
    have hstart : Named (w.setGraph id { w.graph id with is3d := is3d }) id := by
      intro e he
      rcases Workspace.graph_setGraph_cases w id { w.graph id with is3d := is3d } id with
        hsame | ⟨-, hnew⟩
      · rw [hsame, hempty] at he
        exact absurd he List.not_mem_nil
      · rw [hnew, hempty] at he
        exact absurd he List.not_mem_nil
    have haxes := axes_of_fillAxes hstart hw₁
    have hplots := plots_of_fillPlots h
    have hmapping := given_of_entriesOf hes
    have hiterable := given_of_itemsOf hvs
    obtain rfl := entries_of_entriesOf hes
    obtain rfl := items_of_itemsOf hvs
    refine ⟨trivial, fun s hs => ?_, hmapping, haxes, ?_, hplots⟩
    · rw [show Value.field fields "splot" = some s from hs] at his3d
      exact isTruthValue_of_truthValue his3d
    · exact isSequence_of_items (hasKeys_fieldOrNull hkeys "plots") hiterable
        fun p hp => (hplots p hp).mapping
  · exact absurd h (by simp)

theorem graphShape_of_fillPageGraph {p p' : Page} {id : GraphId} {index : Nat} {v : Value}
    (hkeys : v.hasKeys = true) {c : Bool} (hempty : p.workspace.graph id = .empty c)
    (h : fillPageGraph p id index v = .ok p') : GraphShape v := by
  rw [fillPageGraph, bind_eq_ok_iff] at h
  obtain ⟨w, hw, -⟩ := h
  exact graphShape_of_fillGraph hkeys hempty hw

variable {b : Bool} {p p' : Page} {vs : List Value}

theorem graphs_of_addGraphs {fs : List (List String)} {index : Nat}
    (hkeys : ∀ v ∈ vs, v.hasKeys = true) (hs : Shows b p fs)
    (h : (addGraphs p index vs).1 = .ok p') : ∀ v ∈ vs, GraphShape v := by
  induction vs generalizing index p fs with
  | nil => exact fun v hv => absurd hv List.not_mem_nil
  | cons v rest ih =>
    obtain ⟨hv, hrest⟩ := List.forall_mem_cons.mp hkeys
    rw [addGraphs_cons hs, bind_eq_ok_iff] at h
    obtain ⟨q, hfill, h⟩ := h
    obtain ⟨-, hshows, -, hempty⟩ := newGraph_shows hs
    obtain ⟨hshows', -⟩ := fillPageGraph_shows hshows hempty hfill
    rw [List.forall_mem_cons]
    exact ⟨graphShape_of_fillPageGraph hv hempty hfill, ih hrest hshows' h⟩

theorem graphs_of_fillGraphs {c : Bool} (hkeys : ∀ v ∈ vs, v.hasKeys = true)
    (hs : Shows b p [[]]) (hempty : p.workspace.graph 0 = .empty c)
    (h : (fillGraphs p vs).1 = .ok p') : ∀ v ∈ vs, GraphShape v := by
  cases vs with
  | nil => exact fun v hv => absurd hv List.not_mem_nil
  | cons v rest =>
    obtain ⟨hv, hrest⟩ := List.forall_mem_cons.mp hkeys
    rw [fillGraphs_cons hs, bind_eq_ok_iff] at h
    obtain ⟨q, hfill, h⟩ := h
    have hfirst : Shows b p ([] ++ [[]]) := hs
    obtain ⟨hshows, -⟩ := fillPageGraph_shows hfirst hempty hfill
    rw [List.forall_mem_cons]
    exact ⟨graphShape_of_fillPageGraph hv hempty hfill, graphs_of_addGraphs hrest hshows h⟩

/-! ### Descriptions -/

theorem given_of_commands {v : Value} {cs : List Value} (h : commands v = .ok cs) :
    Given IsIterable v := by
  rw [commands, bind_eq_ok_iff] at h
  obtain ⟨vs, hvs, -⟩ := h
  exact given_of_itemsOf hvs

theorem pageShape_of_build {fields : List (Value × Value)} {mark : Option Nat}
    {ns : List Notice} (hkeys : (Value.map fields mark).hasKeys = true)
    (h : build (.map fields mark) b = (.ok p, ns)) : PageShape IsIterable (.map fields mark) := by
  obtain ⟨hblank, hgraph, hproperties⟩ := blankPage_shows b
  obtain ⟨q, hfill, hitems, hgraphs⟩ := fillGraphs_of_build h
  obtain ⟨-, hshows, hworkspace⟩ := fillPage_settled hproperties hblank hfill
  rw [← hworkspace] at hgraph
  have hshapes := graphs_of_fillGraphs
    (hasKeys_of_mem_items (hasKeys_fieldOrNull hkeys "graphs")) hshows hgraph hgraphs
  simp only [fillPage, bind_eq_ok_iff] at hfill
  obtain ⟨_, -, es, hes, _, -, pre, hpre, post, hpost, -⟩ := hfill
  refine ⟨trivial, given_of_entriesOf hes, given_of_commands hpre, given_of_commands hpost, ?_,
    hshapes⟩
  exact isSequence_of_items (hasKeys_fieldOrNull hkeys "graphs") (given_of_itemsOf hitems)
    fun g hg => (hshapes g hg).mapping

/-- Commands can be other than lists, and nothing else can. -/
theorem PageShape.followsSchema_iff {v : Value} (h : PageShape IsIterable v) :
    FollowsSchema v ↔ Given IsSequence (fieldOrNull (entries v) "pre_init") ∧
      Given IsSequence (fieldOrNull (entries v) "post_init") :=
  ⟨fun hs => ⟨hs.preInit, hs.postInit⟩, fun hc => ⟨h.mapping, h.set, hc.1, hc.2, h.graphs, h.graph⟩⟩

/-- **What becomes a page has the shape of the schema, up to its commands.**  It has the whole shape
when the commands are lists, and each item of theirs is one command.  Every other shape is invalid,
unless an integer that is too large is met first. -/
theorem schema_of_build {v : Value} (hkeys : v.hasKeys = true) (b : Bool) :
    (∀ p ns, build v b = (.ok p, ns) →
      PageShape IsIterable v ∧
      (FollowsSchema v ↔ Given IsSequence (fieldOrNull (entries v) "pre_init") ∧
        Given IsSequence (fieldOrNull (entries v) "post_init")) ∧
      p.document.preInit = ((items (fieldOrNull (entries v) "pre_init")).map str).map .text ∧
      p.document.postInit = ((items (fieldOrNull (entries v) "post_init")).map str).map .text) ∧
    (¬PageShape IsIterable v → ∃ f, (build v b).1 = .error f ∧
      (f.kind = .settings ∨ f = .outside .tooLarge ∧ TooLarge v)) := by
  cases v with
  | map fields mark =>
    refine ⟨fun p ns h => ?_, fun hshape => ?_⟩
    · obtain ⟨hsettled, -⟩ := build_shows h
      have hpage := pageShape_of_build hkeys h
      exact ⟨hpage, hpage.followsSchema_iff, hsettled.preInit, hsettled.postInit⟩
    · cases hbuild : build (.map fields mark) b with
      | mk r ns =>
        cases r with
        | ok p => exact absurd (pageShape_of_build hkeys hbuild) hshape
        | error f =>
          have hfails : FailsWith (fun f => f.kind = .settings ∨
              f = .outside .tooLarge ∧ TooLarge (.map fields mark))
              (build (.map fields mark) b).1 := by
            rw [build_map]
            exact (buildEntries_failsWith fields mark b).mapError fun f hf => hf.nameFault
          exact ⟨f, rfl, hfails f (congrArg Prod.fst hbuild)⟩
  | _ =>
    refine ⟨fun p ns h => ?_, fun _ => ⟨_, rfl, Or.inl rfl⟩⟩
    exact absurd (congrArg Prod.fst h) (by simp [build])

/-- A description that becomes a page, and one whose graphs are a text. -/
theorem schema_of_build_two_commands :
    (∃ v p ns, build v true = (.ok p, ns) ∧ FollowsSchema v ∧
      p.document.preInit = [.text "reset", .text "5"]) ∧
    ∃ f, (build (.map [(.text "graphs", .text "sin(x)")]) true).1 = .error f ∧
      f.kind = .settings := by
  refine ⟨?_, ?_⟩
  · let fields : List (Value × Value) :=
      [(.text "pre_init", .list [.text "reset", .int 5]),
       (.text "graphs", .list [.map
        [(.text "axes", .map [(.text "x", .map [(.text "range", .list [.int 0, .null])])]),
         (.text "plots", .list [.map [(.text "function", .text "sin(x)")]])]])]
    have hok : (build (.map fields) true).1.toBool = true := by decide +kernel
    cases hbuild : build (.map fields) true with
    | mk r ns =>
      rw [hbuild] at hok
      cases r with
      | error f => exact absurd hok (by simp [Except.toBool])
      | ok p =>
        obtain ⟨-, hschema, hpre, -⟩ := (schema_of_build rfl true).1 p ns hbuild
        have hlist : fieldOrNull fields "pre_init" = .list [.text "reset", .int 5] := by
          simp [fields, fieldOrNull, field_cons_text]
        have hnone : fieldOrNull fields "post_init" = .null := by
          simp [fields, fieldOrNull, field_cons_text, field_nil]
        refine ⟨_, p, ns, hbuild, hschema.mpr ⟨fun _ => ?_, fun h => ?_⟩, ?_⟩
        · rw [entries, hlist]
          trivial
        · rw [entries, hnone] at h
          cases h
        · rw [hpre, entries, hlist]
          exact congrArg (List.map Value.text) (by decide +kernel : _ = ["reset", "5"])
  · have htext : fieldOrNull [(.text "graphs", .text "sin(x)")] "graphs" = .text "sin(x)" := by
      simp [fieldOrNull, field_cons_text]
    have hshape : ¬PageShape IsIterable (.map [(.text "graphs", .text "sin(x)")]) := by
      intro h
      have hgraphs := h.graphs
      rw [entries, htext] at hgraphs
      exact hgraphs (by decide)
    obtain ⟨f, hf, hkind | ⟨-, htoo⟩⟩ := (schema_of_build rfl true).2 hshape
    · exact ⟨f, hf, hkind⟩
    · -- the letters of a text have no axes and no plots
      obtain ⟨g, hg, hlarge⟩ := htoo
      rw [entries, htext] at hg
      obtain ⟨c, -, rfl⟩ := List.mem_map.mp hg
      rcases hlarge with ⟨e, he, -⟩ | ⟨x, hx, -⟩
      · exact absurd he List.not_mem_nil
      · exact absurd hx List.not_mem_nil

/-- **A text in place of a list of commands becomes commands**, one for each of its letters. -/
theorem text_becomes_commands :
    ∃ p ns, build (.map [(.text "pre_init", .text "reset")]) true = (.ok p, ns) ∧
      p.document.preInit = ["r", "e", "s", "e", "t"].map .text ∧
      ¬FollowsSchema (.map [(.text "pre_init", .text "reset")]) := by
  have hok : (build (.map [(.text "pre_init", .text "reset")]) true).1.toBool = true := by
    decide +kernel
  have htext : fieldOrNull [(.text "pre_init", .text "reset")] "pre_init" = .text "reset" := by
    simp [fieldOrNull, field_cons_text]
  cases hbuild : build (.map [(.text "pre_init", .text "reset")]) true with
  | mk r ns =>
    rw [hbuild] at hok
    cases r with
    | error f => exact absurd hok (by simp [Except.toBool])
    | ok p =>
      obtain ⟨hsettled, -⟩ := build_shows hbuild
      refine ⟨p, ns, rfl, ?_, fun h => ?_⟩
      · rw [hsettled.preInit, htext]
        exact congrArg (List.map Value.text) (by decide +kernel)
      · have hlist := h.preInit
        rw [entries, htext] at hlist
        exact hlist (by decide)

end Description

end PlotPage
