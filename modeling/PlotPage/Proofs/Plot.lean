import PlotPage.Graph.Command
import PlotPage.Proofs.Text.SingleLine

/-!
# Constructed plots

A plot is made by one of two constructors, and each of them checks every text that it keeps.  So the
clause of a plot stays on one line.  Its inline data are one line for each row of its table and the
line `e` after them; no row is written as `e`, so the first such line ends the data.
-/

namespace PlotPage

open Line

theorem Line.refuse_eq_ok_iff {c : Char} {fault : String → Fault} {v : Value} {u : Unit} :
    refuse c fault v = .ok u ↔ v.holds c = .ok false := by
  unfold refuse
  simp only [bind_eq_ok_iff]
  constructor
  · rintro ⟨b, hb, h⟩
    cases b with
    | true => exact absurd h (by simp)
    | false => exact hb
  · intro h
    exact ⟨false, h, rfl⟩

/-- A value that is checked for line ends has a plain form on a single line: a text is looked
through, and any other value that passes shows its members in quotes. -/
theorem Line.isSingle_of_checkValue {what : String} {v : Value} {u : Unit}
    (h : checkValue what v = .ok u) {t : String} (ht : v.plain = .ok t) : isSingle t = true := by
  simp only [checkValue, bind_eq_ok_iff, refuse_eq_ok_iff, exists_const] at h
  obtain ⟨hfeed, hreturn⟩ := h
  have hshown : v.plain = v.shown → isSingle t = true :=
    fun he => Value.isSingle_of_shown (he ▸ ht)
  cases v with
  | text s =>
    obtain rfl : s = t := Except.ok.inj ht
    have hn : s.toList.contains '\n' = false := Except.ok.inj hfeed
    have hr : s.toList.contains '\r' = false := Except.ok.inj hreturn
    rw [isSingle_iff]
    intro c hc
    refine ⟨?_, ?_⟩
    · rintro rfl; exact absurd hc (by simpa using hn)
    · rintro rfl; exact absurd hc (by simpa using hr)
  | list items mark => exact hshown rfl
  | tuple items mark => exact hshown rfl
  | set items => exact hshown rfl
  | map entries mark => exact hshown rfl
  | null => exact absurd hfeed (by simp [Value.holds])
  | bool b => exact absurd hfeed (by simp [Value.holds])
  | int i => exact absurd hfeed (by simp [Value.holds])
  | real d => exact absurd hfeed (by simp [Value.holds])
  | bytes bs => exact absurd hfeed (by simp [Value.holds])
  | date d => exact absurd hfeed (by simp [Value.holds])
  | dateTime m => exact absurd hfeed (by simp [Value.holds])

namespace Plot

/-- What a title or a style that was accepted keeps: the value, and its text is a single line. -/
structure Kept (v : Value) (l : Label) : Prop where
  value : l.value = v
  single : isSingle l.text = true

theorem kept_of_checkValue {what : String} {v : Value} {u : Unit} (h : checkValue what v = .ok u) :
    Kept v ⟨v⟩ where
  value := rfl
  single := by
    rw [Label.text]
    cases hv : v.plain? with
    | none => rfl
    | some t => exact isSingle_of_checkValue h (by rw [Value.plain, hv]; rfl)

theorem kept_of_checkTitle {v : Value} {l : Label} (h : checkTitle v = .ok (some l)) :
    Kept v l := by
  unfold checkTitle at h
  split at h
  · exact absurd h (by simp)
  · simp only [bind_eq_ok_iff, pure_eq_ok_iff, Option.some.injEq] at h
    obtain ⟨u, hc, -, -, rfl⟩ := h
    exact kept_of_checkValue hc

theorem kept_of_checkStyle {v : Value} {l : Label} (h : checkStyle v = .ok (some l)) :
    Kept v l := by
  unfold checkStyle at h
  split at h
  · exact absurd h (by simp)
  · simp only [bind_eq_ok_iff, pure_eq_ok_iff, Option.some.injEq] at h
    obtain ⟨u, hc, rfl⟩ := h
    exact kept_of_checkValue hc

theorem checkExpression_eq_ok_iff {v : Value} {s : String} :
    checkExpression v = .ok s ↔ v = .text s ∧ Text.isBlankText s = false ∧ isSingle s = true := by
  unfold checkExpression
  split
  · rename_i t
    cases hb : Text.isBlankText t with
    | true => simp; rintro rfl h; rw [hb] at h; exact absurd h (by simp)
    | false =>
      simp only [Bool.false_eq_true, if_false, bind_eq_ok_iff, check_eq_ok_iff, exists_const,
        pure_eq_ok_iff, Value.text.injEq]
      constructor
      · rintro ⟨hs, rfl⟩; exact ⟨rfl, hb, hs⟩
      · rintro ⟨rfl, -, hs⟩; exact ⟨hs, rfl⟩
  · rename_i hv
    constructor
    · intro h; split at h <;> exact absurd h (by simp)
    · rintro ⟨rfl, -⟩; exact absurd rfl (hv s)

/-- A plot that one of the two constructors has made. -/
inductive Constructed (p : Plot) : Prop where
  | function {expression title style : Value} (h : ofFunction expression title style = .ok p)
  | table {data title style : Value} (h : ofTable data title style = .ok p)

theorem constructed_of_build {s : Spec} {p : Plot} (h : s.build = .ok (.plot p)) :
    Constructed p := by
  cases s with
  | function expression title style =>
    simp only [Spec.build, map_eq_ok_iff, Operand.plot.injEq] at h
    obtain ⟨q, hq, rfl⟩ := h
    exact .function hq
  | table data title style =>
    simp only [Spec.build, map_eq_ok_iff, Operand.plot.injEq] at h
    obtain ⟨q, hq, rfl⟩ := h
    exact .table hq
  | other v => exact absurd h (by simp [Spec.build])

theorem isSingle_titleClause {title : Option Label}
    (h : ∀ l, title = some l → isSingle l.text = true) : isSingle (titleClause title) = true := by
  cases title with
  | none => rfl
  | some l =>
    rw [titleClause, isSingle_append, isSingle_append, h l rfl]
    decide

theorem isSingle_styleClause {style : Option Label}
    (h : ∀ l, style = some l → isSingle l.text = true) : isSingle (styleClause style) = true := by
  cases style with
  | none => rfl
  | some l =>
    rw [styleClause]
    split
    · rw [isSingle_append, h l rfl]
      decide
    · rfl

theorem isSingle_definition_of {source : Source} (hsource : isSingle source.clause = true)
    {v w : Value} {title style : Option Label} (ht : checkTitle v = .ok title)
    (hs : checkStyle w = .ok style) : isSingle (definition ⟨source, title, style⟩) = true := by
  have htitle : isSingle (titleClause title) = true :=
    isSingle_titleClause fun l hl => (kept_of_checkTitle (v := v) (hl ▸ ht)).single
  have hstyle : isSingle (styleClause style) = true :=
    isSingle_styleClause fun l hl => (kept_of_checkStyle (v := w) (hl ▸ hs)).single
  rw [definition, isSingle_append, isSingle_append, hsource, htitle, hstyle]
  rfl

theorem Constructed.isSingle_definition {p : Plot} (h : Constructed p) :
    isSingle p.definition = true := by
  cases h with
  | function h =>
    simp only [ofFunction, bind_eq_ok_iff, pure_eq_ok_iff] at h
    obtain ⟨e, he, title, ht, style, hs, rfl⟩ := h
    have hsource : isSingle (Source.function e).clause = true :=
      (checkExpression_eq_ok_iff.mp he).2.2
    exact isSingle_definition_of hsource ht hs
  | table h =>
    simp only [ofTable, bind_eq_ok_iff, pure_eq_ok_iff] at h
    obtain ⟨rows, -, title, ht, style, hs, rfl⟩ := h
    have hsource : isSingle (Source.table rows).clause = true := by
      rw [Source.clause]
      decide
    exact isSingle_definition_of hsource ht hs

end Plot

/-! ### Inline data -/

namespace Table

/-- The line of a row: its numbers, separated by single spaces. -/
def rowLine (row : List Double) : String := " ".intercalate (row.map Double.text)

theorem lines_eq (t : Table) : lines t = t.map rowLine ++ [terminator] := rfl

theorem isSingle_rowLine (row : List Double) : isSingle (rowLine row) = true := by
  apply isSingle_intercalate (by decide)
  intro l hl
  obtain ⟨d, -, rfl⟩ := List.mem_map.mp hl
  exact isSingle_doubleText d

/-- No row is written as the line that ends the data. -/
theorem rowLine_ne_terminator (row : List Double) : rowLine row ≠ terminator := by
  intro h
  have hlist := congrArg String.toList h
  cases row with
  | nil => exact absurd hlist (by decide)
  | cons d ds =>
    obtain ⟨c, cs, hcs, hc⟩ := Double.exists_head_text d
    have hhead : (rowLine (d :: ds)).toList.head? = some c := by
      rw [rowLine, List.map_cons]
      cases ds.map Double.text with
      | nil => rw [String.intercalate_singleton, hcs]; rfl
      | cons t ts =>
        rw [String.intercalate_cons_cons, String.toList_append, String.toList_append, hcs]
        rfl
    rw [hlist] at hhead
    exact hc (Option.some.inj hhead).symm

end Table

end PlotPage
