import Mathlib.Data.List.Basic
import PlotPage.Proofs.Number.Text
import PlotPage.Proofs.Result
import PlotPage.Script.Line

/-!
# Texts on a single line

What is put together from single lines is a single line, and so is every text that the library
makes itself: numbers, quoted texts and the shown form of any value.  A quoted text stays on its
line whatever it quotes, since `quoteChar` writes the two line ends as letters after a backslash.
-/

namespace PlotPage.Line

/-- A character that does not end a line of a script. -/
def Inner (c : Char) : Prop := c ≠ '\n' ∧ c ≠ '\r'

instance (c : Char) : Decidable (Inner c) := inferInstanceAs (Decidable (_ ∧ _))

theorem isSingle_iff {s : String} : isSingle s = true ↔ ∀ c ∈ s.toList, Inner c := by
  simp [isSingle, Inner]

theorem isSingle_ofList {cs : List Char} :
    isSingle (String.ofList cs) = true ↔ ∀ c ∈ cs, Inner c := by
  rw [isSingle_iff, String.toList_ofList]

@[simp] theorem isSingle_append {s t : String} :
    isSingle (s ++ t) = (isSingle s && isSingle t) := by
  simp [isSingle, List.all_append]

@[simp] theorem isSingle_empty : isSingle "" = true := rfl

theorem isSingle_intercalate {sep : String} (hsep : isSingle sep = true) {ls : List String}
    (h : ∀ l ∈ ls, isSingle l = true) : isSingle (sep.intercalate ls) = true := by
  induction ls with
  | nil => rfl
  | cons l rest ih =>
    have hrest : ∀ m ∈ rest, isSingle m = true := fun m hm => h m (List.mem_cons_of_mem l hm)
    have hl : isSingle l = true := h l List.mem_cons_self
    cases rest with
    | nil => rw [String.intercalate_singleton]; exact hl
    | cons m rest =>
      rw [String.intercalate_cons_cons, isSingle_append, isSingle_append, hl, hsep, ih hrest]
      rfl

theorem inner_of_isDigit {c : Char} (h : c.isDigit = true) : Inner c := by
  constructor
  · rintro rfl; exact absurd h (by decide)
  · rintro rfl; exact absurd h (by decide)

end PlotPage.Line

namespace PlotPage

open Line

/-! ### Numbers -/

theorem isSingle_natText (n : Nat) : isSingle (toString n) = true := by
  rw [isSingle_iff, Nat.toString_eq_repr, Nat.toList_repr]
  exact fun c hc => inner_of_isDigit (Nat.isDigit_of_mem_toDigits (by decide) (by decide) hc)

theorem isSingle_intText (i : Int) : isSingle (toString i) = true := by
  cases i with
  | ofNat n => exact isSingle_natText n
  | negSucc n =>
    show isSingle ("-" ++ toString (n + 1)) = true
    rw [isSingle_append, isSingle_natText]
    rfl

theorem inner_of_isNumberChar {c : Char} (h : isNumberChar c = true) : Inner c := by
  constructor
  · rintro rfl; exact absurd h (by decide)
  · rintro rfl; exact absurd h (by decide)

theorem isSingle_doubleText (d : Double) : isSingle d.text = true := by
  rw [isSingle_iff]
  exact fun c hc => inner_of_isNumberChar (Double.numberChars_text d c hc)

theorem isSingle_of_intText? {i : Int} {t : String} (h : intText? i = some t) :
    isSingle t = true := by
  unfold intText? at h
  split at h
  · rw [← Option.some.inj h]
    exact isSingle_intText i
  · exact absurd h (by simp)

/-! ### Quoted texts -/

namespace Text

theorem exists_of_mem_hexDigits {c : Char} {width : Nat} :
    ∀ {n : Nat}, c ∈ hexDigits width n → ∃ d < 16, c = hexDigit d := by
  induction width with
  | zero => intro n h; exact absurd h List.not_mem_nil
  | succ width ih =>
    intro n h
    rw [hexDigits, List.mem_append, List.mem_singleton] at h
    rcases h with h | rfl
    · exact ih h
    · exact ⟨n % 16, Nat.mod_lt n (by decide), rfl⟩

theorem inner_of_mem_hexDigits {c : Char} {width n : Nat} (h : c ∈ hexDigits width n) :
    Inner c := by
  obtain ⟨d, hd, rfl⟩ := exists_of_mem_hexDigits h
  have hall : ∀ m < 16, Inner (hexDigit m) := by decide
  exact hall d hd

theorem inner_of_mem_escape {letter c : Char} (hl : Inner letter) {width n : Nat}
    (h : c ∈ '\\' :: letter :: hexDigits width n) : Inner c := by
  rcases List.mem_cons.mp h with rfl | h
  · decide
  · rcases List.mem_cons.mp h with rfl | h
    · exact hl
    · exact inner_of_mem_hexDigits h

theorem inner_escaped {letter d : Char} (h : d ∈ ['\\', letter]) (hl : Inner letter) : Inner d := by
  simp only [List.mem_cons, List.not_mem_nil, or_false] at h
  rcases h with rfl | rfl
  · decide
  · exact hl

/-- The two line ends are written with letters, so no character of a quoted one ends a line. -/
theorem inner_of_mem_quoteChar {mark c d : Char} (hm : Inner mark) (h : d ∈ quoteChar mark c) :
    Inner d := by
  unfold quoteChar at h
  split_ifs at h with hmark hfeed hreturn
  · have hc : Inner c := by
      simp only [Bool.or_eq_true, decide_eq_true_eq] at hmark
      rcases hmark with rfl | rfl
      · exact hm
      · decide
    simp only [List.mem_cons, List.not_mem_nil, or_false] at h
    rcases h with rfl | rfl
    · decide
    · exact hc
  · exact inner_escaped h (by decide)
  · exact inner_escaped h (by decide)
  · exact inner_escaped h (by decide)
  · rw [List.mem_singleton] at h
    rw [h]
    exact ⟨hfeed, hreturn⟩
  · exact inner_of_mem_escape (by decide) h
  · exact inner_of_mem_escape (by decide) h
  · exact inner_of_mem_escape (by decide) h

theorem inner_quoteMark (cs : List Char) : Inner (quoteMark cs) := by
  unfold quoteMark
  split <;> decide

theorem isSingle_quote (s : String) : isSingle (quote s) = true := by
  rw [quote, isSingle_ofList, quoteChars]
  intro c hc
  simp only [List.mem_cons, List.mem_append, List.not_mem_nil, or_false, List.mem_flatMap] at hc
  rcases hc with rfl | ⟨a, -, ha⟩ | rfl
  · exact inner_quoteMark _
  · exact inner_of_mem_quoteChar (inner_quoteMark _) ha
  · exact inner_quoteMark _

theorem isSingle_quoteBytes (bs : List UInt8) : isSingle (quoteBytes bs) = true := by
  rw [quoteBytes, isSingle_ofList]
  intro c hc
  simp only [List.mem_cons, List.mem_append, List.not_mem_nil, or_false, List.mem_flatMap] at hc
  rcases hc with rfl | rfl | ⟨b, -, hb⟩ | rfl
  · decide
  · exact inner_quoteMark _
  · unfold quoteByte at hb
    split_ifs at hb
    · exact inner_of_mem_quoteChar (inner_quoteMark _) hb
    · exact inner_of_mem_escape (by decide) hb
  · exact inner_quoteMark _

end Text

/-! ### Values -/

theorem Date.isSingle_shown (d : Date) : isSingle d.shown = true := by
  have hparts : d.shown = "datetime.date(" ++ toString d.year ++ ", " ++ toString d.month ++ ", " ++
      toString d.day ++ ")" := rfl
  rw [hparts]
  simp only [isSingle_append, isSingle_natText]
  decide

theorem DateTime.isSingle_shownZone (minutes : Int) : isSingle (shownZone minutes) = true := by
  have hdelta : ∀ seconds : Int, isSingle
      (if seconds < 0 then "days=-1, seconds=" ++ toString (seconds.emod 86400)
        else "seconds=" ++ toString (seconds.emod 86400)) = true := by
    intro seconds
    split <;> simp only [isSingle_append, isSingle_intText] <;> decide
  unfold shownZone
  split
  · decide
  · show isSingle ("datetime.timezone(datetime.timedelta(" ++ _ ++ "))") = true
    simp only [isSingle_append]
    rw [Bool.and_eq_true, Bool.and_eq_true]
    exact ⟨⟨by decide, hdelta (minutes * 60)⟩, by decide⟩

theorem isSingle_numbers (ns : List Nat) : isSingle (", ".intercalate (ns.map toString)) = true := by
  apply isSingle_intercalate (by decide)
  intro l hl
  obtain ⟨n, -, rfl⟩ := List.mem_map.mp hl
  exact isSingle_natText n

theorem DateTime.isSingle_shown (m : DateTime) : isSingle m.shown = true := by
  unfold shown
  simp only [isSingle_append, isSingle_numbers]
  cases m.offset with
  | none => decide
  | some minutes =>
    have hzone : isSingle (", tzinfo=" ++ shownZone minutes) = true := by
      rw [isSingle_append, isSingle_shownZone]
      decide
    show (isSingle "datetime.datetime(" && true && isSingle (", tzinfo=" ++ shownZone minutes) &&
      isSingle ")") = true
    rw [hzone]
    decide

namespace Value

theorem isSingle_bracketed {opening closing : String} (ho : isSingle opening = true)
    (hc : isSingle closing = true) {ts : List String} (h : ∀ t ∈ ts, isSingle t = true) :
    isSingle (opening ++ ", ".intercalate ts ++ closing) = true := by
  rw [isSingle_append, isSingle_append, ho, hc, isSingle_intercalate (by decide) h]
  rfl

mutual
/-- The shown form of a value is a single line, since every text in it is quoted. -/
theorem isSingle_of_shownIn? : ∀ (v : Value) (around : List Nat) (t : String),
    shownIn? around v = some t → isSingle t = true
  | .null => by intro _ _ h; rw [shownIn?] at h; rw [← Option.some.inj h]; decide
  | .bool b => by intro _ _ h; rw [shownIn?] at h; rw [← Option.some.inj h]; cases b <;> decide
  | .int i => by intro _ _ h; rw [shownIn?] at h; exact isSingle_of_intText? h
  | .real d => by
    intro _ _ h; rw [shownIn?] at h; rw [← Option.some.inj h]; exact isSingle_doubleText d
  | .text s => by
    intro _ _ h; rw [shownIn?] at h; rw [← Option.some.inj h]; exact Text.isSingle_quote s
  | .bytes bs => by
    intro _ _ h; rw [shownIn?] at h; rw [← Option.some.inj h]; exact Text.isSingle_quoteBytes bs
  | .date d => by
    intro _ _ h; rw [shownIn?] at h; rw [← Option.some.inj h]; exact d.isSingle_shown
  | .dateTime m => by
    intro _ _ h; rw [shownIn?] at h; rw [← Option.some.inj h]; exact m.isSingle_shown
  | .list items mark => by
    intro around t h
    rw [shownIn?] at h
    split at h
    · rw [← Option.some.inj h]; decide
    · obtain ⟨ts, hts, rfl⟩ := Option.map_eq_some_iff.mp h
      exact isSingle_bracketed (by decide) (by decide) (isSingle_of_shownItems? items _ ts hts)
  | .tuple items mark => by
    intro around t h
    rw [shownIn?] at h
    split at h
    · rw [← Option.some.inj h]; decide
    · obtain ⟨ts, hts, rfl⟩ := Option.map_eq_some_iff.mp h
      have hall := isSingle_of_shownItems? items _ ts hts
      split
      · rename_i t
        rw [isSingle_append, isSingle_append, hall t List.mem_cons_self]
        decide
      · exact isSingle_bracketed (by decide) (by decide) hall
  | .set items => by
    intro around t h
    rw [shownIn?] at h
    split at h
    · rw [← Option.some.inj h]; decide
    · obtain ⟨ts, hts, rfl⟩ := Option.map_eq_some_iff.mp h
      exact isSingle_bracketed (by decide) (by decide) (isSingle_of_shownItems? items _ ts hts)
  | .map entries mark => by
    intro around t h
    rw [shownIn?] at h
    split at h
    · rw [← Option.some.inj h]; decide
    · obtain ⟨ts, hts, rfl⟩ := Option.map_eq_some_iff.mp h
      exact isSingle_bracketed (by decide) (by decide) (isSingle_of_shownEntries? entries _ ts hts)

theorem isSingle_of_shownItems? : ∀ (vs : List Value) (around : List Nat) (ts : List String),
    shownItems? around vs = some ts → ∀ t ∈ ts, isSingle t = true
  | [] => by
    intro around ts h
    rw [shownItems?] at h
    rw [← Option.some.inj h]
    exact fun t ht => absurd ht List.not_mem_nil
  | v :: vs => by
    intro around ts h
    rw [shownItems?] at h
    split at h
    · rename_i t rest ht hrest
      rw [← Option.some.inj h]
      exact List.forall_mem_cons.mpr
        ⟨isSingle_of_shownIn? v _ t ht, isSingle_of_shownItems? vs _ rest hrest⟩
    · exact absurd h (by simp)

theorem isSingle_of_shownEntries? : ∀ (es : List (Value × Value)) (around : List Nat)
    (ts : List String), shownEntries? around es = some ts → ∀ t ∈ ts, isSingle t = true
  | [] => by
    intro around ts h
    rw [shownEntries?] at h
    rw [← Option.some.inj h]
    exact fun t ht => absurd ht List.not_mem_nil
  | (k, v) :: es => by
    intro around ts h
    rw [shownEntries?] at h
    split at h
    · rename_i a b rest ha hb hrest
      rw [← Option.some.inj h]
      refine List.forall_mem_cons.mpr ⟨?_, isSingle_of_shownEntries? es _ rest hrest⟩
      rw [isSingle_append, isSingle_append, isSingle_of_shownIn? k _ a ha,
        isSingle_of_shownIn? v _ b hb]
      decide
    · exact absurd h (by simp)
end

theorem isSingle_of_shown? {v : Value} {t : String} (h : v.shown? = some t) : isSingle t = true :=
  isSingle_of_shownIn? v [] t h

theorem isSingle_of_shown {v : Value} {t : String} (h : v.shown = .ok t) : isSingle t = true := by
  unfold shown at h
  split at h
  · rename_i u hu
    rw [← Except.ok.inj h]
    exact isSingle_of_shown? hu
  · exact absurd h (by simp)

/-- The text of a number in a script is a single line. -/
theorem isSingle_of_numberText {v : Value} {t : String} (h : v.numberText = .ok t) :
    isSingle t = true := by
  unfold numberText at h
  split at h
  · exact absurd h (by simp)
  · unfold plain at h
    split at h
    · rename_i u hu
      rw [← Except.ok.inj h]
      exact isSingle_of_shown? hu
    · exact absurd h (by simp)
  · simp only [bind_eq_ok_iff, pure_eq_ok_iff] at h
    obtain ⟨d, -, rfl⟩ := h
    exact isSingle_doubleText d

end Value

end PlotPage
