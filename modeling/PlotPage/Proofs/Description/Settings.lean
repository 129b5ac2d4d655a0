import PlotPage.Proofs.Description.Render
import PlotPage.Proofs.Properties

/-!
# What an entry says

Reading a value for a page either fails or gives what `Render` says about it: the written form, the
items, the number.  The same holds for an entry of an axis, which changes the settings of the axis
one by one (`axisSettings_changed`), and for an entry of a plot (`plot_written`).
-/

namespace PlotPage.Description

open Render

/-! ### Values -/

theorem str_of_plain {v : Value} {s : String} (h : v.plain = .ok s) : str v = s := by
  unfold Value.plain at h
  split at h
  · rename_i t ht
    rw [str, ht]
    exact Except.ok.inj h
  · exact absurd h (by simp)

theorem optional_of_plainOrEmpty {v : Value} {s : String} (h : v.plainOrEmpty = .ok s) :
    optional v = s := by
  cases v with
  | null => exact Except.ok.inj h
  | _ => exact str_of_plain h

theorem items_of_itemsOf {v : Value} {vs : List Value} (h : itemsOf v = .ok vs) : vs = items v := by
  unfold itemsOf at h
  by_cases ht : v.isTruthy = true
  · rw [if_pos ht] at h
    cases v with
    | list items mark => exact (Except.ok.inj h).symm
    | tuple items mark => exact (Except.ok.inj h).symm
    | set items => exact (Except.ok.inj h).symm
    | text s => exact (Except.ok.inj h).symm
    | bytes bs => exact (Except.ok.inj h).symm
    | map entries mark => exact (Except.ok.inj h).symm
    | _ => exact absurd h (by simp)
  · -- what does not count as true has no items
    rw [if_neg ht] at h
    obtain rfl := Except.ok.inj h
    cases v with
    | list vs mark => simpa [Value.isTruthy, Render.items] using ht
    | tuple vs mark => simpa [Value.isTruthy, Render.items] using ht
    | set vs => simpa [Value.isTruthy, Render.items] using ht
    | text s =>
      have hs : s = "" := by simpa [Value.isTruthy] using ht
      rw [hs]
      rfl
    | bytes bs =>
      have hbs : bs = [] := by simpa [Value.isTruthy] using ht
      rw [hbs]
      rfl
    | map entries mark =>
      have hentries : entries = [] := by simpa [Value.isTruthy] using ht
      rw [hentries]
      rfl
    | _ => rfl

theorem entries_of_entriesOf {v : Value} {es : List (Value × Value)} (h : entriesOf v = .ok es) :
    es = entries v := by
  unfold entriesOf at h
  by_cases ht : v.isTruthy = true
  · rw [if_pos ht] at h
    cases v with
    | map entries mark => exact (Except.ok.inj h).symm
    | _ => exact absurd h (by simp)
  · rw [if_neg ht] at h
    obtain rfl := Except.ok.inj h
    cases v with
    | map entries mark =>
      have hentries : entries = [] := by simpa [Value.isTruthy] using ht
      rw [hentries]
      rfl
    | _ => rfl

theorem numeral_of_toDouble {v : Value} {d : Double} (h : v.toDouble = .ok d) :
    numeral v = d.text := by
  rw [numeral, h]
  rfl

theorem truthValue_eq_ok {name : String} {v : Value} {b : Bool} (h : truthValue name v = .ok b) :
    v = .bool b := by
  cases v with
  | bool c => rw [Except.ok.inj h]
  | _ => exact absurd h (by simp [truthValue])

theorem boundText_of_bound {v b : Value} {s : String} (hb : bound v = .ok b)
    (hs : Axis.boundText b = .ok s) : s = Render.bound v := by
  have hreal : ∀ d : Double, Axis.boundText (.real d) = .ok d.text := fun _ => rfl
  cases v with
  | null =>
    obtain rfl := Except.ok.inj hb
    exact (Except.ok.inj hs).symm
  | _ =>
    simp only [bound, bind_eq_ok_iff, pure_eq_ok_iff] at hb
    obtain ⟨d, hd, rfl⟩ := hb
    rw [hreal] at hs
    rw [← Except.ok.inj hs]
    exact (numeral_of_toDouble hd).symm

/-! ### Axes -/

/-- An axis keeps its name and takes several changes of its settings. -/
structure Changed (a b : Axis) (cs : List (String × Option String)) : Prop where
  name : b.name = a.name
  entries : b.properties.entries = cs.foldl change a.properties.entries

theorem Changed.refl (a : Axis) : Changed a a [] := ⟨rfl, rfl⟩

theorem Changed.trans {a b c : Axis} {cs ds : List (String × Option String)} (h : Changed a b cs)
    (h' : Changed b c ds) : Changed a c (cs ++ ds) := by
  refine ⟨h'.name.trans h.name, ?_⟩
  rw [h'.entries, h.entries, List.foldl_append]

theorem changed_of_set {a b : Axis} {key s : String} (h : a.set key (.text s) = .ok b) :
    Changed a b [(key, some s)] := by
  simp only [Axis.set, bind_eq_ok_iff, pure_eq_ok_iff, Properties.set_eq_ok_iff,
    Value.text.injEq] at h
  obtain ⟨p, ⟨k, v, rfl, -, -, hv, -, rfl⟩, rfl⟩ := h
  obtain rfl : s = v := Except.ok.inj hv
  exact ⟨rfl, Properties.insertEntry_eq_update key s a.properties.entries⟩

theorem label_changed {a b : Axis} {v : Value} (h : label a v = .ok b) :
    Changed a b [(Axis.labelKey a.name, some ("\"" ++ str v ++ "\""))] := by
  simp only [label, Axis.setLabel, bind_eq_ok_iff] at h
  obtain ⟨s, hs, _, -, t, ht, hset⟩ := h
  obtain rfl : s = t := Except.ok.inj ht
  rw [str_of_plain hs]
  exact changed_of_set hset

theorem boundaries_changed {place : String} {a b : Axis} {v : Value}
    (h : boundaries place a v = .ok b) :
    Changed a b [(Axis.rangeKey a.name, some (Render.range v))] := by
  simp only [boundaries, Axis.setBoundaries, bind_eq_ok_iff] at h
  obtain ⟨ends, hends, low, hlow, high, hhigh, hset⟩ := h
  have hrange : "[" ++ low ++ ":" ++ high ++ "]" = Render.range v := by
    unfold range at hends
    split at hends
    · simp only [bind_eq_ok_iff, pure_eq_ok_iff] at hends
      obtain ⟨l, hl, r, hr, rfl⟩ := hends
      rw [boundText_of_bound hl hlow, boundText_of_bound hr hhigh]
      rfl
    · simp only [bind_eq_ok_iff, pure_eq_ok_iff] at hends
      obtain ⟨l, hl, r, hr, rfl⟩ := hends
      rw [boundText_of_bound hl hlow, boundText_of_bound hr hhigh]
      rfl
    · exact absurd hends (by simp)
  rw [← hrange]
  exact changed_of_set hset

theorem logScale_changed {place : String} {a b : Axis} {v : Value}
    (h : logScale place a v = .ok b) :
    Changed a b [(Axis.logScaleKey a.name, if isTrue v then some "" else none)] := by
  simp only [logScale, bind_eq_ok_iff] at h
  obtain ⟨c, hc, hset⟩ := h
  rw [truthValue_eq_ok hc]
  cases c with
  | true => exact changed_of_set hset
  | false =>
    obtain rfl := Except.ok.inj hset
    exact ⟨rfl, rfl⟩

theorem tics_changed {a b : Axis} {v : Value} (h : tics a v = .ok b) :
    Changed a b [(Axis.ticsKey a.name, some (str v))] := by
  simp only [tics, Axis.setTics, bind_eq_ok_iff] at h
  obtain ⟨s, hs, hset⟩ := h
  rw [str_of_plain hs]
  exact changed_of_set hset

theorem withField_changed {fields : List (Value × Value)} {name : String}
    {act : Axis → Value → Except Fault Axis} {a b : Axis} {c : Value → String × Option String}
    (hact : ∀ v, act a v = .ok b → Changed a b [c v]) (h : withField fields name act a = .ok b) :
    Changed a b ((Value.field fields name).map c).toList := by
  unfold withField at h
  cases hfield : Value.field fields name with
  | none =>
    rw [hfield] at h
    obtain rfl := Except.ok.inj h
    exact .refl a
  | some v =>
    rw [hfield] at h
    exact hact v h

/-- **What an entry does to an axis.** -/
theorem axisSettings_changed {place : String} {a b : Axis} {fields : List (Value × Value)}
    (h : axisSettings place a fields = .ok b) : Changed a b (changes a.name fields) := by
  simp only [axisSettings, bind_eq_ok_iff] at h
  obtain ⟨a₁, h₁, a₂, h₂, a₃, h₃, h₄⟩ := h
  have hlabel := withField_changed (fun v => label_changed) h₁
  have hrange := withField_changed (fun v => boundaries_changed) h₂
  have hlog := withField_changed (fun v => logScale_changed) h₃
  have htics := withField_changed (fun v => tics_changed) h₄
  have hname₂ := hrange.name.trans hlabel.name
  have hname₃ := hlog.name.trans hname₂
  rw [hlabel.name] at hrange
  rw [hname₂] at hlog
  rw [hname₃] at htics
  exact ((hlabel.trans hrange).trans hlog).trans htics

/-! ### Plots -/

theorem optionalText_eq_ok {v w : Value} (h : optionalText v = .ok w) :
    (v = .null ∧ w = .null) ∨ (v ≠ .null ∧ w = .text (str v)) := by
  cases v with
  | null => exact Or.inl ⟨rfl, (Except.ok.inj h).symm⟩
  | _ =>
    right
    simp only [optionalText, bind_eq_ok_iff, pure_eq_ok_iff] at h
    obtain ⟨s, hs, rfl⟩ := h
    refine ⟨by simp, ?_⟩
    rw [str_of_plain hs]

theorem titleClause_written {v w : Value} (hw : optionalText v = .ok w) {l : Option Label}
    (h : Plot.checkTitle w = .ok l) :
    Plot.titleClause l = title v ∧ l.all Label.isWritable = true := by
  rcases optionalText_eq_ok hw with ⟨rfl, rfl⟩ | ⟨hv, rfl⟩
  · obtain rfl := Except.ok.inj h
    exact ⟨rfl, rfl⟩
  · simp only [Plot.checkTitle, bind_eq_ok_iff, pure_eq_ok_iff] at h
    obtain ⟨_, -, _, -, rfl⟩ := h
    refine ⟨?_, Label.isWritable_text _⟩
    rw [Plot.titleClause, Label.text_text, title]
    exact fun hnull => hv hnull

theorem styleClause_written {v w : Value} (hw : optionalText v = .ok w) {l : Option Label}
    (h : Plot.checkStyle w = .ok l) :
    Plot.styleClause l = style v ∧ l.all Label.isWritable = true := by
  rcases optionalText_eq_ok hw with ⟨rfl, rfl⟩ | ⟨hv, rfl⟩
  · obtain rfl := Except.ok.inj h
    exact ⟨rfl, rfl⟩
  · simp only [Plot.checkStyle, bind_eq_ok_iff, pure_eq_ok_iff] at h
    obtain ⟨_, -, rfl⟩ := h
    refine ⟨?_, Label.isWritable_text _⟩
    rw [Plot.styleClause, Label.text_text, style]
    · by_cases he : str v = ""
      · simp [Value.isTruthy, he]
      · simp [Value.isTruthy, he]
    · exact fun hnull => hv hnull

/-- What the plot of an entry gives to the script. -/
structure Written (entry : Value) (p : Plot) : Prop where
  definition : p.definition = clause entry
  dataLines : p.dataLines = inlineData entry
  writable : p.isWritable = true

theorem plot_written {place : String} {v : Value} {p : Plot} (h : plot place v = .ok p) :
    Written v p := by
  unfold plot at h
  split at h
  · rename_i fields mark
    split at h
    · -- an expression, and no table
      rename_i e hfunction hdata
      simp only [bind_eq_ok_iff, Plot.ofFunction, pure_eq_ok_iff,
        Plot.checkExpression_eq_ok_iff, Value.text.injEq] at h
      obtain ⟨s, hs, w, hw, u, hu, _, ⟨rfl, -, -⟩, l, hl, m, hm, rfl⟩ := h
      obtain ⟨htitle, hl⟩ := titleClause_written hw hl
      obtain ⟨hstyle, hm⟩ := styleClause_written hu hm
      refine ⟨?_, ?_, Bool.and_eq_true_iff.mpr ⟨hl, hm⟩⟩
      · have hclause : clause (.map fields mark) = str e ++ decoration fields := by
          rw [clause, entries]
          simp only [hfunction]
        rw [hclause, str_of_plain hs, decoration, ← htitle, ← hstyle, ← String.append_assoc]
        rfl
      · rw [inlineData, entries, hdata]
        rfl
    · rename_i data hfunction hdata
      simp only [bind_eq_ok_iff, Plot.ofTable, pure_eq_ok_iff] at h
      obtain ⟨w, hw, u, hu, rows, hrows, l, hl, m, hm, rfl⟩ := h
      obtain ⟨htitle, hl⟩ := titleClause_written hw hl
      obtain ⟨hstyle, hm⟩ := styleClause_written hu hm
      refine ⟨?_, ?_, Bool.and_eq_true_iff.mpr ⟨hl, hm⟩⟩
      · have hclause : clause (.map fields mark) = "'-'" ++ decoration fields := by
          rw [clause, entries]
          simp only [hfunction]
        rw [hclause, decoration, ← htitle, ← hstyle, ← String.append_assoc]
        rfl
      · rw [inlineData, entries, hdata]
        show Table.lines rows = _
        rw [Table.lines_eq, Table.eq_rowsOf hrows, List.map_map]
        simp only [Function.comp_def, Table.rowLine, List.map_map]
        rfl
    · exact absurd h (by simp)
  · exact absurd h (by simp)

end PlotPage.Description
