import Mathlib.Data.List.Basic
import PlotPage.Text.Blank

/-!
# Lines of trimmed texts

Trimming a text and cutting it into lines are about two classes of characters.  Every line break is
a blank, so trimming takes whole lines away at both ends of a text, as long as they are blank, and
the blanks of the first and the last line that stay; no other line changes.

* `lineChars_dropWhile`: the lines that are left when the blanks at the start are gone.
* `lineChars_dropEndWhile`: the same for the end.
* `lineChars_trimChars`: **the last line of a trimmed text is the last line of the text that is not
  blank**, without the blanks at its end, and without those at its start if it is also the first.
-/

namespace PlotPage.Text

/-- A line with nothing but blanks. -/
def IsBlankLine (line : List Char) : Prop := ∀ c ∈ line, isBlank c = true

instance (line : List Char) : Decidable (IsBlankLine line) :=
  inferInstanceAs (Decidable (∀ c ∈ line, isBlank c = true))

variable {α : Type} {p : α → Bool} {a : α} {as : List α} {c : Char} {cs line : List Char}
  {before after : List (List Char)}

theorem isBlankLine_nil : IsBlankLine [] := fun _ h => absurd h List.not_mem_nil

theorem isBlankLine_cons : IsBlankLine (c :: cs) ↔ isBlank c = true ∧ IsBlankLine cs :=
  List.forall_mem_cons

theorem isBlankText_iff {s : String} : isBlankText s = true ↔ IsBlankLine s.toList :=
  List.all_eq_true

/-! ### The end of a list -/

theorem dropEndWhile_eq_nil_iff : dropEndWhile p as = [] ↔ ∀ a ∈ as, p a = true := by
  induction as with
  | nil => simp [dropEndWhile]
  | cons a as ih =>
    rw [List.forall_mem_cons, ← ih, dropEndWhile]
    cases dropEndWhile p as with
    | nil => by_cases ha : p a = true <;> simp [ha]
    | cons b bs => simp

/-- What stands before something that stays, stays. -/
theorem dropEndWhile_cons_of_not (h : ¬∀ b ∈ as, p b = true) :
    dropEndWhile p (a :: as) = a :: dropEndWhile p as := by
  rw [← dropEndWhile_eq_nil_iff] at h
  rw [dropEndWhile]
  cases hrest : dropEndWhile p as with
  | nil => exact absurd hrest h
  | cons b bs => rfl

theorem dropEndWhile_cons_of_forall (h : ∀ b ∈ as, p b = true) (ha : p a = false) :
    dropEndWhile p (a :: as) = [a] := by
  rw [dropEndWhile, dropEndWhile_eq_nil_iff.mpr h, ha]
  rfl

/-- What is left of a list begins as the list does. -/
theorem head?_dropEndWhile (h : ¬∀ b ∈ as, p b = true) :
    (dropEndWhile p as).head? = as.head? := by
  cases as with
  | nil => exact absurd (fun b hb => absurd hb List.not_mem_nil) h
  | cons a as =>
    by_cases hall : ∀ b ∈ as, p b = true
    · have ha : p a = false := by
        rw [Bool.eq_false_iff]
        intro ha
        exact h (List.forall_mem_cons.mpr ⟨ha, hall⟩)
      rw [dropEndWhile_cons_of_forall hall ha]
      rfl
    · rw [dropEndWhile_cons_of_not hall]
      rfl

theorem mem_of_mem_dropEndWhile {b : α} (h : b ∈ dropEndWhile p as) : b ∈ as := by
  induction as with
  | nil => exact h
  | cons a as ih =>
    by_cases hall : ∀ b ∈ as, p b = true
    · rw [dropEndWhile, dropEndWhile_eq_nil_iff.mpr hall] at h
      dsimp only at h
      split at h
      · exact absurd h List.not_mem_nil
      · exact List.mem_singleton.mp h ▸ List.mem_cons_self
    · rw [dropEndWhile_cons_of_not hall] at h
      rcases List.mem_cons.mp h with rfl | h
      · exact List.mem_cons_self
      · exact List.mem_cons_of_mem a (ih h)

/-- Something stays at the end if there is something to stay. -/
theorem exists_mem_dropEndWhile (h : ¬∀ b ∈ as, p b = true) :
    ∃ b ∈ dropEndWhile p as, p b = false := by
  induction as with
  | nil => exact absurd (fun b hb => absurd hb List.not_mem_nil) h
  | cons a as ih =>
    by_cases hall : ∀ b ∈ as, p b = true
    · have ha : p a = false := by
        rw [Bool.eq_false_iff]
        intro ha
        exact h (List.forall_mem_cons.mpr ⟨ha, hall⟩)
      rw [dropEndWhile_cons_of_forall hall ha]
      exact ⟨a, List.mem_cons_self, ha⟩
    · obtain ⟨b, hb, hpb⟩ := ih hall
      rw [dropEndWhile_cons_of_not hall]
      exact ⟨b, List.mem_cons_of_mem a hb, hpb⟩

/-! ### Cutting a text into lines -/

/-- A break ends an empty line, unless it is the first half of one. -/
theorem lineChars_break (h : isLineBreak c = true) (hne : c = '\r' → cs.head? ≠ some '\n') :
    lineChars (c :: cs) = [] :: lineChars cs := by
  rw [lineChars, if_pos h]
  rintro rest rfl rfl
  exact hne rfl rfl

/-- A character that breaks no line goes to the first line of what follows. -/
theorem lineChars_cons {rest : List (List Char)} (h : isLineBreak c = false)
    (hcs : lineChars cs = line :: rest) : lineChars (c :: cs) = (c :: line) :: rest := by
  have hreturn : isLineBreak '\r' = true := by decide
  rw [lineChars, if_neg (ne_true_of_eq_false h), hcs]
  rintro tail rfl
  rw [hreturn] at h
  cases h

theorem lineChars_singleton (h : isLineBreak c = false) : lineChars [c] = [[c]] := by
  rw [lineChars, if_neg (ne_true_of_eq_false h), lineChars]
  rintro tail -
  exact List.cons_ne_nil '\n' tail |>.symm

theorem lineChars_eq_nil_iff : lineChars cs = [] ↔ cs = [] := by
  fun_induction lineChars cs <;> simp

/-- No line has a line break in it. -/
theorem isLineBreak_of_mem_lineChars (h : line ∈ lineChars cs) {d : Char} (hd : d ∈ line) :
    isLineBreak d = false := by
  fun_induction lineChars cs generalizing line with
  | case1 => exact absurd h List.not_mem_nil
  | case2 cs ih =>
    rcases List.mem_cons.mp h with rfl | h
    · exact absurd hd List.not_mem_nil
    · exact ih h hd
  | case3 c cs _ _ ih =>
    rcases List.mem_cons.mp h with rfl | h
    · exact absurd hd List.not_mem_nil
    · exact ih h hd
  | case4 c cs _ hc _ _ =>
    rw [List.mem_singleton.mp h, List.mem_singleton] at hd
    rw [hd]
    exact eq_false_of_ne_true hc
  | case5 c cs _ hc first rest hcs ih =>
    rw [hcs] at ih
    rcases List.mem_cons.mp h with rfl | h
    · rcases List.mem_cons.mp hd with rfl | hd
      · exact eq_false_of_ne_true hc
      · exact ih List.mem_cons_self hd
    · exact ih (List.mem_cons_of_mem first h) hd

/-- A text is blank when all its lines are, since a line break is a blank. -/
theorem isBlankLine_iff : IsBlankLine cs ↔ ∀ line ∈ lineChars cs, IsBlankLine line := by
  have hreturn : isBlank '\r' = true := by decide
  have hfeed : isBlank '\n' = true := by decide
  fun_induction lineChars cs with
  | case1 => simp [isBlankLine_nil]
  | case2 cs ih =>
    simp only [isBlankLine_cons, List.forall_mem_cons, ih, isBlankLine_nil, hreturn, hfeed,
      true_and]
  | case3 c cs _ hc ih =>
    simp only [isBlankLine_cons, List.forall_mem_cons, ih, isBlankLine_nil,
      isBlank_of_isLineBreak hc, true_and]
  | case4 c cs _ _ hcs _ =>
    rw [lineChars_eq_nil_iff.mp hcs]
    exact List.forall_mem_singleton.symm
  | case5 c cs _ _ first rest hcs ih =>
    simp only [isBlankLine_cons, List.forall_mem_cons, ih, hcs, and_assoc]

/-! ### Trimming the lines of a text -/

/-- An empty line is not the one that is looked for. -/
theorem exists_before {rest : List (List Char)} (h : [] :: rest = before ++ line :: after)
    (hline : ¬IsBlankLine line) : ∃ before', before = [] :: before' ∧
      rest = before' ++ line :: after := by
  rcases List.cons_eq_append_iff.mp h with ⟨-, hfirst⟩ | hlater
  · injection hfirst with hfirst
    exact absurd (hfirst ▸ isBlankLine_nil) hline
  · exact hlater

/-- A single line is the one that is looked for. -/
theorem eq_of_singleton {l : List Char} (h : [l] = before ++ line :: after) :
    before = [] ∧ line = l ∧ after = [] := by
  rcases List.singleton_eq_append_iff.mp h with ⟨hbefore, hrest⟩ | ⟨-, hrest⟩
  · injection hrest with hline hafter
    exact ⟨hbefore, hline, hafter⟩
  · cases hrest

/-- Blank lines at the start go away, and the next one loses the blanks at its start. -/
theorem lineChars_dropWhile (h : lineChars cs = before ++ line :: after)
    (hbefore : ∀ l ∈ before, IsBlankLine l) (hline : ¬IsBlankLine line) :
    lineChars (cs.dropWhile isBlank) = line.dropWhile isBlank :: after := by
  have hreturn : isBlank '\r' = true := by decide
  have hfeed : isBlank '\n' = true := by decide
  fun_induction lineChars cs generalizing before line with
  | case1 => exact absurd h.symm (by simp)
  | case2 cs ih =>
    rw [List.dropWhile_cons_of_pos hreturn, List.dropWhile_cons_of_pos hfeed]
    obtain ⟨before', rfl, hrest⟩ := exists_before h hline
    exact ih hrest (fun l hl => hbefore l (List.mem_cons_of_mem _ hl)) hline
  | case3 c cs _ hc ih =>
    rw [List.dropWhile_cons_of_pos (isBlank_of_isLineBreak hc)]
    obtain ⟨before', rfl, hrest⟩ := exists_before h hline
    exact ih hrest (fun l hl => hbefore l (List.mem_cons_of_mem _ hl)) hline
  | case4 c cs _ hc hcs _ =>
    obtain rfl := lineChars_eq_nil_iff.mp hcs
    obtain ⟨rfl, rfl, rfl⟩ := eq_of_singleton h
    have hblank : ¬isBlank c = true := fun hc => hline (List.forall_mem_singleton.mpr hc)
    rw [List.dropWhile_cons_of_neg hblank, lineChars_singleton (eq_false_of_ne_true hc)]
  | case5 c cs _ hc first rest hcs ih =>
    rcases List.cons_eq_append_iff.mp h with ⟨rfl, hfirst⟩ | ⟨before', rfl, rfl⟩
    · injection hfirst with hfirst hafter
      subst hfirst hafter
      have hlines : lineChars cs = [] ++ first :: after := hcs
      by_cases hblank : isBlank c = true
      · have hrest : ¬IsBlankLine first := fun h => hline (isBlankLine_cons.mpr ⟨hblank, h⟩)
        rw [List.dropWhile_cons_of_pos hblank, List.dropWhile_cons_of_pos hblank]
        exact ih hlines (fun l hl => absurd hl List.not_mem_nil) hrest
      · rw [List.dropWhile_cons_of_neg hblank, List.dropWhile_cons_of_neg hblank]
        exact lineChars_cons (eq_false_of_ne_true hc) hcs
    · have hlines : lineChars cs = (first :: before') ++ line :: after := hcs
      have hfirst := isBlankLine_cons.mp (hbefore _ List.mem_cons_self)
      rw [List.dropWhile_cons_of_pos hfirst.1]
      refine ih hlines (List.forall_mem_cons.mpr ⟨hfirst.2, ?_⟩) hline
      exact fun l hl => hbefore l (List.mem_cons_of_mem _ hl)

/-- Blank lines at the end go away, and the one before them loses the blanks at its end. -/
theorem lineChars_dropEndWhile (h : lineChars cs = before ++ line :: after)
    (hline : ¬IsBlankLine line) (hafter : ∀ l ∈ after, IsBlankLine l) :
    lineChars (dropEndWhile isBlank cs) = before ++ [dropEndWhile isBlank line] := by
  -- a text with a line that is not blank is not blank
  have hstays : ∀ {cs : List Char} {before line}, lineChars cs = before ++ line :: after →
      ¬IsBlankLine line → ¬∀ c ∈ cs, isBlank c = true := by
    intro cs before line hcs hline hall
    exact hline (isBlankLine_iff.mp hall line (by rw [hcs]; simp))
  fun_induction lineChars cs generalizing before line with
  | case1 => exact absurd h.symm (by simp)
  | case2 cs ih =>
    obtain ⟨before', rfl, hrest⟩ := exists_before h hline
    have hcs := hstays hrest hline
    have hfeed : ¬∀ c ∈ '\n' :: cs, isBlank c = true := fun h => hcs (List.forall_mem_cons.mp h).2
    rw [dropEndWhile_cons_of_not hfeed, dropEndWhile_cons_of_not hcs, lineChars, ih hrest hline]
    rfl
  | case3 c cs hne hc ih =>
    obtain ⟨before', rfl, hrest⟩ := exists_before h hline
    have hcs := hstays hrest hline
    rw [dropEndWhile_cons_of_not hcs, lineChars_break hc, ih hrest hline]
    · rfl
    · intro hreturn hhead
      rw [head?_dropEndWhile hcs, List.head?_eq_some_iff] at hhead
      obtain ⟨tail, rfl⟩ := hhead
      exact hne tail hreturn rfl
  | case4 c cs _ hc hcs _ =>
    obtain rfl := lineChars_eq_nil_iff.mp hcs
    obtain ⟨rfl, rfl, rfl⟩ := eq_of_singleton h
    have hblank : isBlank c = false := by
      rw [Bool.eq_false_iff]
      exact fun hc => hline (List.forall_mem_singleton.mpr hc)
    rw [dropEndWhile_cons_of_forall (fun b hb => absurd hb List.not_mem_nil) hblank]
    exact lineChars_singleton (eq_false_of_ne_true hc)
  | case5 c cs _ hc first rest hcs ih =>
    rcases List.cons_eq_append_iff.mp h with ⟨rfl, hfirst⟩ | ⟨before', rfl, rfl⟩
    · injection hfirst with hfirst hrest
      subst hfirst hrest
      by_cases hblank : IsBlankLine first
      · have hall : IsBlankLine cs := by
          rw [isBlankLine_iff, hcs]
          exact List.forall_mem_cons.mpr ⟨hblank, hafter⟩
        have hc' : isBlank c = false := by
          rw [Bool.eq_false_iff]
          exact fun hc => hline (isBlankLine_cons.mpr ⟨hc, hblank⟩)
        rw [dropEndWhile_cons_of_forall hall hc', dropEndWhile_cons_of_forall hblank hc']
        exact lineChars_singleton (eq_false_of_ne_true hc)
      · have hlines : lineChars cs = [] ++ first :: after := hcs
        rw [dropEndWhile_cons_of_not (hstays hlines hblank), dropEndWhile_cons_of_not hblank]
        exact lineChars_cons (eq_false_of_ne_true hc) (ih hlines hblank)
    · have hlines : lineChars cs = (first :: before') ++ line :: after := hcs
      rw [dropEndWhile_cons_of_not (hstays hlines hline)]
      exact lineChars_cons (eq_false_of_ne_true hc) (ih hlines hline)

/-- The line of a text that is quoted for the whole: the last of its lines that is not blank,
without the blanks at its end, and also without those at its start if every line before it is
blank. -/
def Quotes (cs quoted : List Char) : Prop :=
  ∃ before line after, lineChars cs = before ++ line :: after ∧ ¬IsBlankLine line ∧
    (∀ l ∈ after, IsBlankLine l) ∧
    quoted = dropEndWhile isBlank
      (if ∀ l ∈ before, IsBlankLine l then line.dropWhile isBlank else line)

/-- If not all lines are blank, there is a last one that is not. -/
theorem exists_last {lines : List (List Char)} (h : ¬∀ l ∈ lines, IsBlankLine l) :
    ∃ before line after, lines = before ++ line :: after ∧ ¬IsBlankLine line ∧
      ∀ l ∈ after, IsBlankLine l := by
  induction lines with
  | nil => exact absurd (fun l hl => absurd hl List.not_mem_nil) h
  | cons l ls ih =>
    by_cases hls : ∀ l ∈ ls, IsBlankLine l
    · exact ⟨[], l, ls, rfl, fun hl => h (List.forall_mem_cons.mpr ⟨hl, hls⟩), hls⟩
    · obtain ⟨before, line, after, rfl, hlast⟩ := ih hls
      exact ⟨l :: before, line, after, rfl, hlast⟩

/-- There is a first one as well. -/
theorem exists_first {lines : List (List Char)} (h : ¬∀ l ∈ lines, IsBlankLine l) :
    ∃ before line after, lines = before ++ line :: after ∧ ¬IsBlankLine line ∧
      ∀ l ∈ before, IsBlankLine l := by
  induction lines with
  | nil => exact absurd (fun l hl => absurd hl List.not_mem_nil) h
  | cons l ls ih =>
    by_cases hl : IsBlankLine l
    · obtain ⟨before, line, after, rfl, hline, hbefore⟩ :=
        ih fun hls => h (List.forall_mem_cons.mpr ⟨hl, hls⟩)
      exact ⟨l :: before, line, after, rfl, hline, List.forall_mem_cons.mpr ⟨hl, hbefore⟩⟩
    · exact ⟨[], l, ls, rfl, hl, fun l hl => absurd hl List.not_mem_nil⟩

theorem isBlankLine_dropWhile_iff : IsBlankLine (line.dropWhile isBlank) ↔ IsBlankLine line := by
  induction line with
  | nil => rfl
  | cons c cs ih =>
    by_cases hc : isBlank c = true
    · rw [List.dropWhile_cons_of_pos hc, ih, isBlankLine_cons, and_iff_right hc]
    · rw [List.dropWhile_cons_of_neg hc]

/-- **The last line of a trimmed text** is the quoted line of the text. -/
theorem lineChars_trimChars (h : ¬IsBlankLine cs) : ∃ quoted,
    (lineChars (trimChars cs)).getLast? = some quoted ∧ Quotes cs quoted := by
  obtain ⟨before, line, after, hcs, hline, hafter⟩ := exists_last (mt isBlankLine_iff.mpr h)
  refine ⟨_, ?_, before, line, after, hcs, hline, hafter, rfl⟩
  by_cases hbefore : ∀ l ∈ before, IsBlankLine l
  · have hstart : lineChars (cs.dropWhile isBlank) = [] ++ line.dropWhile isBlank :: after :=
      lineChars_dropWhile hcs hbefore hline
    rw [trimChars, lineChars_dropEndWhile hstart (mt isBlankLine_dropWhile_iff.mp hline) hafter,
      if_pos hbefore]
    rfl
  · obtain ⟨front, first, rest, rfl, hfirst, hfront⟩ := exists_first hbefore
    rw [List.append_assoc, List.cons_append] at hcs
    have hstart := lineChars_dropWhile hcs hfront hfirst
    rw [← List.cons_append] at hstart
    rw [trimChars, lineChars_dropEndWhile hstart hline hafter, if_neg hbefore,
      List.getLast?_concat]

/-- A quoted line is on one line and not blank. -/
theorem Quotes.isLine {quoted : List Char} (h : Quotes cs quoted) :
    ¬IsBlankLine quoted ∧ ∀ c ∈ quoted, isLineBreak c = false := by
  obtain ⟨before, line, after, hcs, hline, -, rfl⟩ := h
  have hmem : line ∈ lineChars cs := by rw [hcs]; simp
  have hkept : ∀ {kept : List Char}, ¬IsBlankLine kept → (∀ c ∈ kept, c ∈ line) →
      ¬IsBlankLine (dropEndWhile isBlank kept) ∧
        ∀ c ∈ dropEndWhile isBlank kept, isLineBreak c = false := by
    intro kept hkept hsub
    obtain ⟨b, hb, hvisible⟩ := exists_mem_dropEndWhile hkept
    refine ⟨fun hblank => ne_true_of_eq_false hvisible (hblank b hb), fun c hc => ?_⟩
    exact isLineBreak_of_mem_lineChars hmem (hsub c (mem_of_mem_dropEndWhile hc))
  split
  · exact hkept (mt isBlankLine_dropWhile_iff.mp hline) fun c hc =>
      (List.dropWhile_sublist isBlank).subset hc
  · exact hkept hline fun c hc => hc

end PlotPage.Text
