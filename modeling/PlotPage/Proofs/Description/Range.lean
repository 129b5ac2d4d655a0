import Mathlib.Tactic.NormNum
import PlotPage.Proofs.Description.Script
import PlotPage.Proofs.Number.Whole
import PlotPage.Proofs.Value.Parts

/-!
# Ranges that are set and ranges that are read

An axis is given a range by its setter, or by a description that has it under the name of the axis.
The setter keeps the digits of an integer, while a description turns both ends into doubles first.  So
the two write an integer differently, as 10 and as 10.0.

* Open ends are open both ways, and a double is written alike.
* Both texts of an integer are read as the double nearest to it (`Agree.read`), and up to 2^53 they
  denote the integer itself (`Agree.value`).
* Beyond 2^53 a description writes the double instead of the integer, and then the two texts may
  denote different numbers (`range_rounded_beyond_two_pow`).
-/

namespace PlotPage.Description

open Axis (isWord rangeKey)
open Line (isSingle)

/-- An end of a range: nothing, an integer that has a double, or a double. -/
inductive IsBound : Value → Prop
  | null : IsBound .null
  | int {i : ℤ} (h : i.natAbs < 2 ^ 1024 - 2 ^ 970) : IsBound (.int i)
  | real (d : Double) : IsBound (.real d)

/-- How an end is written by the setter and by a description. -/
structure Agree (v : Value) (direct loaded : String) : Prop where
  direct_open : direct = "" ↔ v = .null
  loaded_open : loaded = "" ↔ v = .null
  read : v ≠ .null → ∃ d, v.toDouble = .ok d ∧ Numeral.read? direct = some d ∧
    Numeral.read? loaded = some d
  real : ∀ d, v = .real d → direct = d.text ∧ loaded = d.text
  int : ∀ i, v = .int i → direct = toString i ∧ loaded = (Double.ofInt i).text
  value : ∀ i : ℤ, v = .int i → i.natAbs ≤ 2 ^ 53 →
    Numeral.value? direct = some (i : ℚ) ∧ Numeral.value? loaded = some (i : ℚ)

theorem agree_null : Agree .null "" "" where
  direct_open := iff_of_true rfl rfl
  loaded_open := iff_of_true rfl rfl
  read h := absurd rfl h
  real _ h := by cases h
  int _ h := by cases h
  value _ h := by cases h

theorem agree_real (d : Double) : Agree (.real d) d.text d.text where
  direct_open := iff_of_false d.text_ne_empty (by simp)
  loaded_open := iff_of_false d.text_ne_empty (by simp)
  read _ := ⟨d, rfl, Numeral.read?_text d, Numeral.read?_text d⟩
  real e h := by
    rw [Value.real.inj h]
    exact ⟨rfl, rfl⟩
  int _ h := by cases h
  value _ h := by cases h

theorem agree_int {i : ℤ} (h : (Double.ofInt i).isFinite = true) :
    Agree (.int i) (toString i) (Double.ofInt i).text where
  direct_open := iff_of_false (intText_ne_empty i) (by simp)
  loaded_open := iff_of_false (Double.text_ne_empty _) (by simp)
  read _ := ⟨_, if_pos h, Numeral.read?_intText h, Numeral.read?_text _⟩
  real _ h := by cases h
  int j h := by
    rw [Value.int.inj h]
    exact ⟨rfl, rfl⟩
  value j h hj := by
    obtain rfl := Value.int.inj h
    rw [Double.text_ofInt hj]
    exact ⟨Numeral.value?_intText i, Numeral.value?_intText_point i⟩

/-- An integer that has a double becomes it. -/
theorem bound_int {i : ℤ} (h : (Double.ofInt i).isFinite = true) :
    bound (.int i) = .ok (.real (.ofInt i)) := by
  have hdouble : (Value.int i).toDouble = .ok (.ofInt i) := if_pos h
  rw [bound, hdouble]
  · rfl
  · simp

/-- An end is written both ways, and the two agree. -/
theorem IsBound.exists_agree {v : Value} (h : IsBound v) : ∃ direct loaded b, Agree v direct loaded ∧
    Axis.boundText v = .ok direct ∧ bound v = .ok b ∧ Axis.boundText b = .ok loaded := by
  cases h with
  | null => exact ⟨_, _, _, agree_null, rfl, rfl, rfl⟩
  | real d => exact ⟨_, _, _, agree_real d, rfl, rfl, rfl⟩
  | @int i h =>
    have hfinite := Double.isFinite_ofInt_iff.mpr h
    have hdirect : Axis.boundText (.int i) = .ok (toString i) := by
      have hsize : Decimal.size i.natAbs ≤ 4300 := by
        refine (Decimal.size_le_of_isFinite ?_).trans (by decide : 309 ≤ 4300)
        rw [Double.isFinite_ofInt_iff]
        exact h
      exact (Value.plain_int i).trans (if_pos hsize)
    exact ⟨_, _, _, agree_int hfinite, hdirect, bound_int hfinite, rfl⟩

/-! ### One setting -/

/-- The text of a range with these ends. -/
def rangeText (low high : String) : String := "[" ++ low ++ ":" ++ high ++ "]"

theorem isSingle_of_boundText {v : Value} {t : String} (h : Axis.boundText v = .ok t) :
    isSingle t = true := by
  unfold Axis.boundText at h
  split at h
  · rw [← Except.ok.inj h]
    rfl
  · exact Value.isSingle_of_numberText h

theorem setBoundaries_eq {name l h : String} {low high : Value} (hname : isSingle name = true)
    (hl : Axis.boundText low = .ok l) (hh : Axis.boundText high = .ok h) (p : Properties) :
    (⟨name, p⟩ : Axis).setBoundaries low high =
      .ok ⟨name, p.insert (rangeKey name) (rangeText l h)⟩ := by
  -- whatever the name is, the key ends in letters
  have hblank : Text.isBlankText (rangeKey name) = false := by
    rw [Text.isBlankText, rangeKey, String.toList_append, List.all_append]
    exact Bool.and_false _
  have hkey : isSingle (rangeKey name) = true := by
    rw [rangeKey, Line.isSingle_append, hname]
    rfl
  have htext : isSingle (rangeText l h) = true := by
    simp only [rangeText, Line.isSingle_append, isSingle_of_boundText hl, isSingle_of_boundText hh]
    rfl
  have hset : p.set (.text (rangeKey name)) (.text (rangeText l h)) =
      .ok (p.insert (rangeKey name) (rangeText l h)) :=
    Properties.set_eq_ok_iff.mpr ⟨_, _, rfl, hblank, hkey, rfl, htext, rfl⟩
  rw [Axis.setBoundaries, hl, hh, ok_bind, ok_bind, Axis.set]
  show (p.set (.text (rangeKey name)) (.text (rangeText l h)) >>= _) = _
  rw [hset]
  rfl

theorem boundaries_eq {name l h : String} {v low high b c : Value} (hname : isSingle name = true)
    (hv : Value.Holds v [low, high]) (hlow : bound low = .ok b) (hhigh : bound high = .ok c)
    (hl : Axis.boundText b = .ok l) (hh : Axis.boundText c = .ok h) (place : String)
    (p : Properties) : boundaries place ⟨name, p⟩ v =
      .ok ⟨name, p.insert (rangeKey name) (rangeText l h)⟩ := by
  have hrange : range (place ++ ".range") v = .ok (b, c) := by
    cases hv <;> rw [range, hlow, hhigh] <;> rfl
  rw [boundaries, hrange, ok_bind]
  exact setBoundaries_eq hname hl hh p

/-! ### A description of one range -/

/-- An entry of `graphs` that has one axis with a range. -/
def graphOfRange (name : String) (v : Value) : Value :=
  .map [(.text "axes", .map [(.text name, .map [(.text "range", v)])])]

/-- The fields of a description of such a graph. -/
def fieldsOfRange (name : String) (v : Value) : List (Value × Value) :=
  [(.text "graphs", .list [graphOfRange name v])]

theorem ofName_eq {name : String} (hname : isWord name = true) (hsingle : isSingle name = true) :
    Axis.ofName (.text name) = .ok ⟨name, .empty⟩ := by
  have hcheck : Line.check "Axis name" name = .ok () := Line.check_eq_ok_iff.mpr hsingle
  rw [Axis.ofName, if_pos hname, hcheck]
  rfl

theorem axisSettings_range {place : String} {a b : Axis} {v : Value}
    (h : boundaries place a v = .ok b) : axisSettings place a [(.text "range", v)] = .ok b := by
  simp only [axisSettings, withField, Value.field_cons_text, Value.field_nil, String.reduceEq,
    if_true, if_false, ok_bind, h]

theorem fillGraph_range {name : String} {v : Value} {a : Axis} (hname : isWord name = true)
    (hsingle : isSingle name = true) (h : ∀ place, boundaries place ⟨name, .empty⟩ v = .ok a) :
    fillGraph ⟨[], [.empty false]⟩ 0 0 (graphOfRange name v) =
      .ok ⟨[a], [⟨false, [], [(name, 0)]⟩]⟩ := by
  have hget : (⟨[], [.empty false]⟩ : Workspace).getAxis 0 (.text name) =
      .ok (0, ⟨[⟨name, .empty⟩], [⟨false, [], [(name, 0)]⟩]⟩) := by
    simp only [Workspace.getAxis, Properties.lookupKey?, ofName_eq hname hsingle]
    rfl
  have haxes : ∀ place, fillAxes place ⟨[], [.empty false]⟩ 0
      [(.text name, .map [(.text "range", v)])] = .ok ⟨[a], [⟨false, [], [(name, 0)]⟩]⟩ := by
    intro place
    simp only [fillAxes, Value.plain, Value.plain?, hget, ok_bind]
    show (axisSettings _ ⟨name, .empty⟩ [(.text "range", v)] >>= _) = _
    rw [axisSettings_range (h _)]
    rfl
  simp only [fillGraph, graphOfRange, fieldOrNull, Value.field_cons_text, Value.field_nil,
    String.reduceEq, if_true, if_false, Option.getD_none, Option.getD_some, truthValue, ok_bind]
  show (fillAxes _ ⟨[], [.empty false]⟩ 0 [(.text name, .map [(.text "range", v)])] >>= _) = _
  rw [haxes]
  rfl

/-- Such a description is accepted if its range is. -/
theorem exists_build_range {name : String} {v : Value} {a : Axis} (hname : isWord name = true)
    (hsingle : isSingle name = true) (h : ∀ place, boundaries place ⟨name, .empty⟩ v = .ok a)
    (b : Bool) : ∃ p ns, build (.map (fieldsOfRange name v)) b = (.ok p, ns) := by
  have hfill : fillPage (blankPage b) (fieldsOfRange name v) = .ok (blankPage b) := by
    simp only [fillPage, fieldsOfRange, fieldOrNull, Value.field_cons_text, Value.field_nil,
      String.reduceEq, if_false, Option.getD_none]
    rfl
  have hitems : itemsOf (fieldOrNull (fieldsOfRange name v) "graphs") =
      .ok [graphOfRange name v] := by
    simp only [fieldsOfRange, fieldOrNull, Value.field_cons_text, if_true, Option.getD_some]
    rfl
  have hgraph : fillPageGraph (blankPage b) 0 0 (graphOfRange name v) =
      .ok { blankPage b with workspace := ⟨[a], [⟨false, [], [(name, 0)]⟩]⟩ } := by
    rw [fillPageGraph]
    show (fillGraph ⟨[], [.empty false]⟩ 0 0 _ >>= _) = _
    rw [fillGraph_range hname hsingle h]
    rfl
  have hentries : ∃ p, (buildEntries (fieldsOfRange name v) b).1 = .ok p := by
    simp only [buildEntries, hfill, hitems]
    rw [fillGraphs_cons (blankPage_shows b).1, hgraph]
    exact ⟨_, rfl⟩
  obtain ⟨p, hp⟩ := hentries
  simp only [build]
  cases hbuilt : buildEntries (fieldsOfRange name v) b with
  | mk r ns =>
    rw [hbuilt] at hp
    obtain rfl : r = .ok p := hp
    exact ⟨_, _, rfl⟩

/-- The settings of its axis are the range alone. -/
theorem fragment_graphOfRange (name : String) (v : Value) :
    Render.fragment (graphOfRange name v) = [Properties.line (rangeKey name, Render.range v)] := by
  have hsettings : Render.settings name [[(.text "range", v)]] =
      [(rangeKey name, Render.range v)] := by
    simp [Render.settings, Render.changes, Render.change, Value.field_cons_text, Value.field_nil,
      Entries.update]
  have hgrouped : Entries.grouped [(name, [(Value.text "range", v)])] =
      [(name, [[(Value.text "range", v)]])] := by
    simp [Entries.grouped, Entries.under, List.eraseDups_cons]
  have haxes : Render.axisLines [(.text name, .map [(.text "range", v)])] =
      [Properties.line (rangeKey name, Render.range v)] := by
    show (Entries.grouped [(name, [(Value.text "range", v)])]).flatMap _ = _
    rw [hgrouped, List.flatMap_singleton, hsettings, List.map_singleton]
  simp only [Render.fragment, graphOfRange, Render.entries, fieldOrNull, Value.field_cons_text,
    Value.field_nil, String.reduceEq, if_true, if_false, Option.getD_none, Option.getD_some, haxes]
  rfl

/-- **A description of a range is accepted and gives its setting**, if both ends are doubles. -/
theorem build_range {name l h : String} {v low high c d : Value} (hname : isWord name = true)
    (hsingle : isSingle name = true) (hv : Value.Holds v [low, high]) (hlow : bound low = .ok c)
    (hhigh : bound high = .ok d) (hl : Axis.boundText c = .ok l) (hh : Axis.boundText d = .ok h)
    (b : Bool) : ∃ p ns, build (.map (fieldsOfRange name v)) b = (.ok p, ns) ∧
      p.document.graphs = [0] ∧
      p.workspace.graphLines 0 = [Properties.line (rangeKey name, rangeText l h)] := by
  have hboundaries := fun place => boundaries_eq hsingle hv hlow hhigh hl hh place .empty
  obtain ⟨p, ns, hbuild⟩ := exists_build_range hname hsingle hboundaries b
  have hrange : Render.range v = rangeText l h := by
    rw [boundText_of_bound hlow hl, boundText_of_bound hhigh hh]
    cases hv <;> rfl
  have hfragments : Render.fragments (fieldsOfRange name v) =
      [[Properties.line (rangeKey name, rangeText l h)]] := by
    simp only [Render.fragments, fieldsOfRange, fieldOrNull, Value.field_cons_text, if_true,
      Option.getD_some, Render.items, List.map_singleton, fragment_graphOfRange, hrange]
  obtain ⟨-, hshows⟩ := build_shows hbuild
  rw [hfragments] at hshows
  exact ⟨p, ns, hbuild, hshows.graphs, (hshows.draws 0 Nat.one_pos).lines⟩

/-- **A range that is read agrees with the range that is set.**  If each end is nothing, a double, or an
integer that has a double, both ways succeed whatever the other settings of the axis are, and both write
one setting under the same key. -/
theorem range_agrees {name : String} (hname : isWord name = true) (hsingle : isSingle name = true)
    {v low high : Value} (hv : Value.Holds v [low, high]) (hlow : IsBound low)
    (hhigh : IsBound high) :
    ∃ l l' h h', Agree low l l' ∧ Agree high h h' ∧
      (∀ p : Properties, (⟨name, p⟩ : Axis).setBoundaries low high =
        .ok ⟨name, p.insert (rangeKey name) (rangeText l h)⟩) ∧
      (∀ (place : String) (p : Properties), boundaries place ⟨name, p⟩ v =
        .ok ⟨name, p.insert (rangeKey name) (rangeText l' h')⟩) ∧
      ∀ b, ∃ p ns, build (.map (fieldsOfRange name v)) b = (.ok p, ns) ∧
        p.document.graphs = [0] ∧
        p.workspace.graphLines 0 = [Properties.line (rangeKey name, rangeText l' h')] := by
  obtain ⟨l, l', c, hagreeLow, hl, hc, hl'⟩ := hlow.exists_agree
  obtain ⟨h, h', d, hagreeHigh, hh, hd, hh'⟩ := hhigh.exists_agree
  exact ⟨l, l', h, h', hagreeLow, hagreeHigh, setBoundaries_eq hsingle hl hh,
    boundaries_eq hsingle hv hc hd hl' hh', build_range hname hsingle hv hc hd hl' hh'⟩

/-- A range from -40 upwards. -/
theorem range_agrees_half_open :
    (⟨"y", .empty⟩ : Axis).setBoundaries (.int (-40)) .null = .ok ⟨"y", ⟨[("yrange", "[-40:]")]⟩⟩ ∧
      ∃ p ns, build (.map (fieldsOfRange "y" (.list [.int (-40), .null]))) false = (.ok p, ns) ∧
        p.workspace.graphLines 0 = ["set yrange [-40.0:]"] := by
  obtain ⟨l, l', h, h', hlow, hhigh, hset, -, hbuild⟩ := range_agrees
    (by decide : isWord "y" = true) (by decide : isSingle "y" = true)
    (.list [.int (-40), .null] none) (.int (by decide +kernel)) .null
  obtain ⟨hl, hl'⟩ := hlow.int (-40) rfl
  rw [Double.text_ofInt (by decide)] at hl'
  have hopen := hhigh.direct_open.mpr rfl
  have hopen' := hhigh.loaded_open.mpr rfl
  subst hl hl' hopen hopen'
  obtain ⟨p, ns, hp, -, hlines⟩ := hbuild false
  exact ⟨hset .empty, p, ns, hp, hlines⟩

/-- **A range that starts at 2^53 + 1 starts at 2^53 in a description**, and one that starts at a truth
value, which the setter refuses, is accepted there. -/
theorem range_rounded_beyond_two_pow :
    (∃ l l', (⟨"x", .empty⟩ : Axis).setBoundaries (.int (2 ^ 53 + 1)) .null =
        .ok ⟨"x", ⟨[("xrange", rangeText l "")]⟩⟩ ∧
      (∃ p ns, build (.map (fieldsOfRange "x" (.list [.int (2 ^ 53 + 1), .null]))) false =
          (.ok p, ns) ∧
        p.workspace.graphLines 0 = [Properties.line ("xrange", rangeText l' "")]) ∧
      Numeral.value? l = some (2 ^ 53 + 1) ∧ Numeral.value? l' = some (2 ^ 53)) ∧
      (∃ f, (⟨"x", .empty⟩ : Axis).setBoundaries (.bool true) .null = .error f) ∧
      ∃ p ns, build (.map (fieldsOfRange "x" (.list [.bool true, .null]))) false = (.ok p, ns) := by
  have hx : isWord "x" = true := by decide
  have hx' : isSingle "x" = true := by decide
  have htext : (Double.ofInt (2 ^ 53 + 1)).text = toString (2 ^ 53 : ℤ) ++ ".0" := by
    have hround : Double.ofInt (2 ^ 53 + 1) = Double.ofInt (2 ^ 53) := by decide +kernel
    rw [hround, Double.text_ofInt (by decide)]
  have hdirect : Axis.boundText (.int (2 ^ 53 + 1)) = .ok (toString (2 ^ 53 + 1 : ℤ)) :=
    toOption_eq_some_iff.mp (by decide +kernel)
  have hbound : bound (.int (2 ^ 53 + 1)) = .ok (.real (Double.ofInt (2 ^ 53 + 1))) :=
    bound_int (by decide +kernel)
  have hloaded : Axis.boundText (.real (Double.ofInt (2 ^ 53 + 1))) =
      .ok (toString (2 ^ 53 : ℤ) ++ ".0") := congrArg Except.ok htext
  obtain ⟨p, ns, hp, -, hlines⟩ := build_range hx hx' (.list [.int (2 ^ 53 + 1), .null] none) hbound
    (rfl : bound .null = .ok .null) hloaded (rfl : Axis.boundText .null = .ok "") false
  refine ⟨⟨_, _, setBoundaries_eq hx' hdirect (rfl : Axis.boundText .null = .ok "") .empty,
    ⟨p, ns, hp, hlines⟩, ?_, ?_⟩, ⟨_, rfl⟩, ?_⟩
  · rw [Numeral.value?_intText]
    norm_num
  · rw [Numeral.value?_intText_point]
    norm_num
  · obtain ⟨p, ns, hp, -⟩ := build_range hx hx' (.list [.bool true, .null] none)
      (rfl : bound (.bool true) = .ok (.real (.ofInt 1))) (rfl : bound .null = .ok .null) rfl
      (rfl : Axis.boundText .null = .ok "") false
    exact ⟨p, ns, hp⟩

end PlotPage.Description
