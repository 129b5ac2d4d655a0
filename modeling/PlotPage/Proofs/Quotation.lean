import Mathlib.Algebra.Group.Nat.Even
import Mathlib.Data.List.Induction
import PlotPage.Proofs.Document.Steps
import PlotPage.Proofs.Plot

/-!
# Quoted texts

The title of a page, the title of a plot and the label of an axis are written between double quotes.
Whoever reads such a string takes the character after a backslash as it is, and ends the string at
the first other quote.

The state of the reader after a text is all that matters: a text within which the string ends has no
state, and any other text either does or does not make the next character literal.  This depends on
the backslashes before each quote and at the end, counted in runs (`state_eq_some_iff`).  So a text
without quotes is closed by the quote after it exactly if an even number of backslashes ends it; an
odd number turns that quote into a part of the string (`accepted_texts`).
-/

namespace PlotPage.Quotation

/-! ### Reading a string -/

/-- What follows a quoted string that is read from behind its opening quote; nothing if it does not
end.  `literal` says that the character before was a backslash that makes the next one literal. -/
def rest : (literal : Bool) → List Char → Option (List Char)
  | _, [] => none
  | true, _ :: cs => rest false cs
  | false, c :: cs =>
    if c = '\\' then rest true cs else if c = '"' then some cs else rest false cs

/-- Whether the character after a piece of a quoted string is literal; nothing if the string ends
within the piece. -/
def state : (literal : Bool) → List Char → Option Bool
  | literal, [] => some literal
  | true, _ :: cs => state false cs
  | false, c :: cs =>
    if c = '\\' then state true cs else if c = '"' then none else state false cs

/-- The quote that is written after a text is the one that ends the string. -/
def Closes (text : String) : Prop :=
  ∀ after, rest false (text.toList ++ '"' :: after) = some after

/-- The quote that is written after a text belongs to the string, which goes on as if what follows
were its beginning. -/
def RunsOn (text : String) : Prop :=
  ∀ after, rest false (text.toList ++ '"' :: after) = rest false after

/-- The number of backslashes that end a text. -/
def backslashes (cs : List Char) : Nat := (cs.reverse.takeWhile (· = '\\')).length

/-- Every quote within a text is literal. -/
def Guarded (cs : List Char) : Prop := ∀ u v, cs = u ++ '"' :: v → Odd (backslashes u)

/-- Only the backslashes at the end of a text decide whether the quote after it ends the string. -/
structure ByParity (text : String) : Prop where
  closes : Closes text ↔ Even (backslashes text.toList)
  runs_on : RunsOn text ↔ Odd (backslashes text.toList)

/-- A text between double quotes. -/
def inQuotes (text : String) : String := "\"" ++ text ++ "\""

/-- A text in its command. -/
structure Emission where
  /-- The value that was looked through for quotes. -/
  checked : Value
  before : String
  text : String
  after : String
  /-- The commands that are emitted together. -/
  commands : List String

/-- The text in quotes, with what is written around them. -/
def Emission.command (e : Emission) : String := e.before ++ inQuotes e.text ++ e.after

/-- The texts that are accepted as the title of a page, the title of a plot or the label of an axis.
The title of a page is made a text before it is looked through, and that of a plot is looked through
before it is made one, if it can be written at all. -/
inductive Emission.Accepted : Emission → Prop where
  | page {p q : Page} {title : Value} (h : p.setTitle title = .ok q)
      (hne : q.document.title ≠ "") :
    Accepted ⟨.text q.document.title, "set multiplot title ", q.document.title, "",
      [q.document.header]⟩
  | plot {p : Plot} {l : Label} (h : p.Constructed) (hl : p.title = some l)
      (hwritable : p.isWritable = true) :
    Accepted ⟨l.value, p.source.clause ++ " title ", l.text, Plot.styleClause p.style,
      [p.definition]⟩
  | label {a b : Axis} {given : Value} {text : String} (h : a.setLabel given = .ok b)
      (htext : given.plain = .ok text) :
    Accepted ⟨given, "set " ++ Axis.labelKey a.name ++ " ", text, "", b.lines⟩

/-! ### The state of the reader -/

theorem state_append (literal : Bool) (cs ds : List Char) :
    state literal (cs ++ ds) = (state literal cs).bind fun b => state b ds := by
  induction cs generalizing literal with
  | nil => rfl
  | cons c cs ih =>
    rw [List.cons_append]
    cases literal with
    | true => rw [state, state, ih]
    | false =>
      rw [state, state]
      split
      · exact ih true
      · split
        · rfl
        · exact ih false

/-- Reading goes on from the state that a piece leaves. -/
theorem rest_append_of_state {literal b : Bool} {cs : List Char} (h : state literal cs = some b)
    (ds : List Char) : rest literal (cs ++ ds) = rest b ds := by
  induction cs generalizing literal with
  | nil =>
    obtain rfl := Option.some.inj h
    rfl
  | cons c cs ih =>
    rw [List.cons_append]
    cases literal with
    | true =>
      rw [state] at h
      rw [rest, ih h]
    | false =>
      rw [state] at h
      rw [rest]
      split at h
      · rename_i hc
        rw [if_pos hc, ih h]
      · rename_i hc
        split at h
        · exact absurd h (by simp)
        · rename_i hq
          rw [if_neg hc, if_neg hq, ih h]

/-- A string that ends within a piece leaves all that follows the piece. -/
theorem rest_append_of_ends {literal : Bool} {cs : List Char} (h : state literal cs = none)
    (ds : List Char) : ∃ left, rest literal (cs ++ ds) = some (left ++ ds) := by
  induction cs generalizing literal with
  | nil => exact absurd h (by simp [state])
  | cons c cs ih =>
    rw [List.cons_append]
    cases literal with
    | true =>
      rw [state] at h
      rw [rest]
      exact ih h
    | false =>
      rw [state] at h
      rw [rest]
      split at h
      · rename_i hc
        rw [if_pos hc]
        exact ih h
      · rename_i hc
        rw [if_neg hc]
        split at h
        · rename_i hq
          rw [if_pos hq]
          exact ⟨cs, rfl⟩
        · rename_i hq
          rw [if_neg hq]
          exact ih h

/-! ### Runs of backslashes -/

theorem backslashes_snoc (cs : List Char) (c : Char) :
    backslashes (cs ++ [c]) = if c = '\\' then backslashes cs + 1 else 0 := by
  rw [backslashes, List.reverse_append, List.reverse_singleton, List.singleton_append]
  by_cases hc : c = '\\'
  · rw [if_pos hc, List.takeWhile_cons_of_pos (by simpa using hc), List.length_cons, backslashes]
  · rw [if_neg hc, List.takeWhile_cons_of_neg (by simpa using hc), List.length_nil]

theorem guarded_nil : Guarded [] := by
  intro u v h
  exact absurd h (by simp)

theorem guarded_snoc (cs : List Char) (c : Char) :
    Guarded (cs ++ [c]) ↔ Guarded cs ∧ (c = '"' → Odd (backslashes cs)) := by
  constructor
  · intro h
    refine ⟨?_, ?_⟩
    · intro u v hcs
      exact h u (v ++ [c]) (by rw [hcs]; simp)
    · rintro rfl
      exact h cs [] rfl
  · rintro ⟨hcs, hc⟩ u v h
    rcases List.eq_nil_or_concat v with rfl | ⟨w, d, rfl⟩
    · obtain ⟨rfl, hq⟩ := List.append_inj' h rfl
      exact hc (List.singleton_inj.mp hq)
    · rw [List.concat_eq_append, ← List.cons_append, ← List.append_assoc] at h
      obtain ⟨hu, -⟩ := List.append_inj' h rfl
      exact hcs u w hu

theorem guarded_of_no_quote {cs : List Char} (h : '"' ∉ cs) : Guarded cs := by
  intro u v hcs
  exact absurd (by rw [hcs]; simp) h

/-- The state after one more character, when the state before it comes from `n` backslashes. -/
theorem state_singleton (n : Nat) (c : Char) (b : Bool) :
    state (decide (Odd n)) [c] = some b ↔
      (c = '"' → Odd n) ∧ b = decide (Odd (if c = '\\' then n + 1 else 0)) := by
  by_cases hodd : Odd n
  · -- the character is literal, whichever it is
    have hrun : ¬ Odd (if c = '\\' then n + 1 else 0) := by
      split
      · rw [Nat.odd_add_one]
        exact not_not_intro hodd
      · decide
    simp [state, hodd, hrun, eq_comm]
  · have hsucc : Odd (n + 1) := by
      rw [Nat.odd_add_one]
      exact hodd
    by_cases hc : c = '\\'
    · simp [state, hodd, hsucc, hc, eq_comm]
    · by_cases hq : c = '"'
      · simp [state, hodd, hq]
      · simp [state, hodd, hc, hq, eq_comm]

/-- The state after a text: every quote within it must be literal, and the next character is
literal after an odd number of backslashes. -/
theorem state_eq_some_iff (cs : List Char) (b : Bool) :
    state false cs = some b ↔ Guarded cs ∧ b = decide (Odd (backslashes cs)) := by
  induction cs using List.reverseRecOn generalizing b with
  | nil =>
    have hodd : ¬ Odd (backslashes []) := by decide
    simp [state, guarded_nil, hodd, eq_comm]
  | append_singleton cs c ih =>
    have hbefore : (∃ s, state false cs = some s ∧ state s [c] = some b) ↔
        Guarded cs ∧ state (decide (Odd (backslashes cs))) [c] = some b := by
      simp only [ih, and_assoc, exists_and_left, exists_eq_left]
    rw [state_append, Option.bind_eq_some_iff, hbefore, state_singleton, guarded_snoc,
      backslashes_snoc, and_assoc]

/-! ### The quote after a text -/

theorem closes_iff_state (text : String) : Closes text ↔ state false text.toList = some false := by
  constructor
  · intro h
    cases hs : state false text.toList with
    | none =>
      -- the string has ended before, so too much is left
      obtain ⟨left, hleft⟩ := rest_append_of_ends hs ['"']
      rw [h []] at hleft
      have hlength := congrArg List.length (Option.some.inj hleft)
      rw [List.length_append, List.length_nil, List.length_singleton] at hlength
      omega
    | some b =>
      cases b with
      | false => rfl
      | true =>
        have hrest := h []
        rw [rest_append_of_state hs] at hrest
        exact absurd hrest (by simp [rest])
  · intro hs after
    rw [rest_append_of_state hs]
    simp [rest]

theorem runsOn_iff_state (text : String) : RunsOn text ↔ state false text.toList = some true := by
  constructor
  · intro h
    have hnone : rest false (text.toList ++ ['"']) = none := h []
    cases hs : state false text.toList with
    | none =>
      obtain ⟨left, hleft⟩ := rest_append_of_ends hs ['"']
      rw [hnone] at hleft
      exact absurd hleft (by simp)
    | some b =>
      cases b with
      | true => rfl
      | false =>
        rw [rest_append_of_state hs] at hnone
        exact absurd hnone (by simp [rest])
  · intro hs after
    rw [rest_append_of_state hs]
    rfl

/-- The quote after a text ends the string exactly if every quote within the text is literal and an
even number of backslashes ends it. -/
theorem closes_iff (text : String) :
    Closes text ↔ Guarded text.toList ∧ Even (backslashes text.toList) := by
  rw [closes_iff_state, state_eq_some_iff, ← Nat.not_odd_iff_even]
  simp

theorem runsOn_iff (text : String) :
    RunsOn text ↔ Guarded text.toList ∧ Odd (backslashes text.toList) := by
  rw [runsOn_iff_state, state_eq_some_iff]
  simp

/-- Within a text without quotes the string never ends, so the end of the text decides. -/
theorem byParity_of_no_quote {text : String} (h : '"' ∉ text.toList) : ByParity text where
  closes := by
    rw [closes_iff]
    exact and_iff_right (guarded_of_no_quote h)
  runs_on := by
    rw [runsOn_iff]
    exact and_iff_right (guarded_of_no_quote h)

/-! ### The texts that are accepted -/

theorem no_quote_of_checkUnquoted {what text : String} {u : Unit}
    (h : Line.checkUnquoted what (.text text) = .ok u) : '"' ∉ text.toList := by
  rw [Line.checkUnquoted, Line.refuse_eq_ok_iff] at h
  have hcontains : text.toList.contains '"' = false := Except.ok.inj h
  simpa using hcontains

theorem no_quote_of_setTitle {p q : Page} {title : Value} (h : p.setTitle title = .ok q) :
    '"' ∉ q.document.title.toList := by
  obtain ⟨t, ht, rfl⟩ := Page.setTitle_eq_ok h
  simp only [Document.checkTitle, bind_eq_ok_iff, pure_eq_ok_iff] at ht
  obtain ⟨t', -, -, -, u, hu, rfl⟩ := ht
  exact no_quote_of_checkUnquoted hu

/-- The title of a plot that was made is one that was checked. -/
theorem checkTitle_of_constructed {p : Plot} (h : p.Constructed) :
    ∃ v, Plot.checkTitle v = .ok p.title := by
  cases h with
  | function h =>
    simp only [Plot.ofFunction, bind_eq_ok_iff, pure_eq_ok_iff] at h
    obtain ⟨_, -, title, ht, _, -, rfl⟩ := h
    exact ⟨_, ht⟩
  | table h =>
    simp only [Plot.ofTable, bind_eq_ok_iff, pure_eq_ok_iff] at h
    obtain ⟨_, -, title, ht, _, -, rfl⟩ := h
    exact ⟨_, ht⟩

theorem no_quote_of_checkTitle {l : Label} {s : String}
    (h : Plot.checkTitle (.text s) = .ok (some l)) : '"' ∉ s.toList := by
  simp only [Plot.checkTitle, bind_eq_ok_iff] at h
  obtain ⟨_, -, u, hu, -⟩ := h
  exact no_quote_of_checkUnquoted hu

theorem no_quote_of_setLabel {a b : Axis} {s : String} (h : a.setLabel (.text s) = .ok b) :
    '"' ∉ s.toList := by
  simp only [Axis.setLabel, bind_eq_ok_iff] at h
  obtain ⟨u, hu, -⟩ := h
  exact no_quote_of_checkUnquoted hu

/-- A value that is itself a text was looked through as it is written. -/
theorem Emission.Accepted.no_quote {e : Emission} (h : e.Accepted) {s : String}
    (hs : e.checked = .text s) : s = e.text ∧ '"' ∉ e.text.toList := by
  cases h with
  | page h hne => exact ⟨(Value.text.inj hs).symm, no_quote_of_setTitle h⟩
  | @plot p l h hl hwritable =>
    obtain ⟨v, hv⟩ := checkTitle_of_constructed h
    rw [hl] at hv
    obtain rfl : v = .text s := (Plot.kept_of_checkTitle hv).value.symm.trans hs
    obtain rfl : l = ⟨.text s⟩ := congrArg Label.mk hs
    exact ⟨(Label.text_text s).symm, no_quote_of_checkTitle hv⟩
  | @label a b given text h htext =>
    obtain rfl : given = .text s := hs
    obtain rfl : s = text := Except.ok.inj htext
    exact ⟨rfl, no_quote_of_setLabel h⟩

/-! ### Their commands -/

theorem header_eq {d : Document} (h : d.title ≠ "") :
    d.header = "set multiplot title " ++ inQuotes d.title := by
  rw [Document.header, if_neg h, inQuotes, ← String.append_assoc, ← String.append_assoc]
  rfl

theorem definition_eq {p : Plot} {l : Label} (h : p.title = some l) :
    p.definition = p.source.clause ++ " title " ++ inQuotes l.text ++ Plot.styleClause p.style := by
  have htitle : Plot.titleClause (some l) = " title " ++ inQuotes l.text := by
    rw [Plot.titleClause, inQuotes, ← String.append_assoc, ← String.append_assoc]
    rfl
  rw [Plot.definition, h, htitle, ← String.append_assoc]

theorem mem_insertEntry_self (key value : String) (es : List (String × String)) :
    (key, value) ∈ Properties.insertEntry key value es := by
  induction es with
  | nil => exact List.mem_singleton_self _
  | cons e es ih =>
    rw [Properties.insertEntry]
    split
    · exact List.mem_cons_self
    · exact List.mem_cons_of_mem e ih

/-- A label that was set is there as a command of the axis. -/
theorem mem_lines_of_setLabel {a b : Axis} {given : Value} {text : String}
    (h : a.setLabel given = .ok b) (htext : given.plain = .ok text) :
    "set " ++ Axis.labelKey a.name ++ " " ++ inQuotes text ∈ b.lines := by
  simp only [Axis.setLabel, Axis.set, bind_eq_ok_iff, pure_eq_ok_iff] at h
  obtain ⟨_, -, t, ht, p, hp, rfl⟩ := h
  obtain rfl : text = t := Except.ok.inj (htext.symm.trans ht)
  obtain ⟨k, v, hk, -, -, hv, -, rfl⟩ := Properties.set_eq_ok_iff.mp hp
  obtain rfl : Axis.labelKey a.name = k := Value.text.inj hk
  obtain rfl : inQuotes text = v := Except.ok.inj hv
  refine List.mem_map.mpr ⟨_, mem_insertEntry_self _ _ _, ?_⟩
  have hne : inQuotes text ≠ "" := by
    intro h
    have hlist := congrArg String.toList h
    rw [inQuotes, String.toList_append, String.toList_append] at hlist
    exact absurd hlist (by simp)
  rw [Properties.line, if_neg hne]

theorem Emission.Accepted.command_mem {e : Emission} (h : e.Accepted) : e.command ∈ e.commands := by
  cases h with
  | page h hne =>
    rw [Emission.command, String.append_empty, header_eq hne]
    exact List.mem_singleton_self _
  | plot h hl hwritable =>
    rw [Emission.command, definition_eq hl]
    exact List.mem_singleton_self _
  | label h htext =>
    rw [Emission.command, String.append_empty]
    exact mem_lines_of_setLabel h htext

/-- **The quoted texts of a script.**  Whatever is accepted as the title of a page, the title of a
plot or the label of an axis stands between quotes in a command.  Its string ends at the second of
them exactly if an even number of backslashes ends the text, and runs on after an odd number.  Only
for a value that was no text, as a list, the quotes within its text count as well, because they were
not looked for. -/
theorem accepted_texts {e : Emission} (h : e.Accepted) :
    e.command ∈ e.commands ∧
      (Closes e.text ↔ Guarded e.text.toList ∧ Even (backslashes e.text.toList)) ∧
      (RunsOn e.text ↔ Guarded e.text.toList ∧ Odd (backslashes e.text.toList)) ∧
      ∀ s, e.checked = .text s → s = e.text ∧ ByParity e.text := by
  refine ⟨h.command_mem, closes_iff e.text, runsOn_iff e.text, ?_⟩
  intro s hs
  obtain ⟨htext, hquote⟩ := h.no_quote hs
  exact ⟨htext, byParity_of_no_quote hquote⟩

theorem accepted_texts_in_use :
    (⟨.empty, .ofGraph 0⟩ : Page).setTitle (.text "a\\\\") =
        .ok ⟨.empty, ⟨[0], 0, "a\\\\", [], [], .empty, .grid .single⟩⟩ ∧
      ByParity "a\\\\" ∧
      Plot.ofFunction (.text "x") (.text "sine") .null =
        .ok ⟨.function "x", some ⟨.text "sine"⟩, none⟩ ∧
      ByParity "sine" ∧
      (⟨"x", .empty⟩ : Axis).setLabel (.text "T\\") =
        .ok ⟨"x", ⟨[("xlabel", "\"T\\\"")]⟩⟩ ∧
      ByParity "T\\" := by
  have htitle : (⟨.empty, .ofGraph 0⟩ : Page).setTitle (.text "a\\\\") =
      .ok ⟨.empty, ⟨[0], 0, "a\\\\", [], [], .empty, .grid .single⟩⟩ := rfl
  have hsine : Plot.ofFunction (.text "x") (.text "sine") .null =
      .ok ⟨.function "x", some ⟨.text "sine"⟩, none⟩ := rfl
  have hlabel : (⟨"x", .empty⟩ : Axis).setLabel (.text "T\\") =
      .ok ⟨"x", ⟨[("xlabel", "\"T\\\"")]⟩⟩ := rfl
  refine ⟨htitle, ?page, hsine, ?plot, hlabel, ?label⟩
  case page => exact ((accepted_texts (.page htitle (by decide))).2.2.2 _ rfl).2
  case plot => exact ((accepted_texts (.plot (.function hsine) rfl rfl)).2.2.2 _ rfl).2
  case label => exact ((accepted_texts (.label hlabel rfl)).2.2.2 _ rfl).2

/-- A backslash at the end is accepted everywhere and lets the string run on. -/
theorem backslash_runs_on :
    (∃ q, (⟨.empty, .ofGraph 0⟩ : Page).setTitle (.text "a\\") = .ok q ∧
        q.document.header = "set multiplot title \"a\\\"") ∧
      (∃ p, Plot.ofFunction (.text "x") (.text "a\\") .null = .ok p ∧
        p.definition = "x title \"a\\\"") ∧
      (∃ b, (⟨"x", .empty⟩ : Axis).setLabel (.text "a\\") = .ok b ∧
        b.lines = ["set xlabel \"a\\\""]) ∧
      ¬ Closes "a\\" ∧ RunsOn "a\\" := by
  have hodd : Odd (backslashes "a\\".toList) := by decide
  refine ⟨⟨_, rfl, rfl⟩, ⟨_, rfl, rfl⟩, ⟨_, rfl, rfl⟩, ?_, ?_⟩
  · rw [closes_iff]
    exact fun h => Nat.not_even_iff_odd.mpr hodd h.2
  · exact (runsOn_iff _).mpr ⟨guarded_of_no_quote (by decide), hodd⟩

end PlotPage.Quotation
