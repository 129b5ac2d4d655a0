import PlotPage.Files.Encoding
import PlotPage.Proofs.Log.JsonNumeral
import PlotPage.Proofs.Text.SingleLine

/-!
# JSON texts read back

A reader of JSON texts that knows nothing of how they were written: blanks may stand between all
parts, a string consists of 16-bit units, each written as a character or escaped, and two of them
may be the halves of one character.

* `ofUnits?_units16`: characters are put together again from their units.
* `units?_escapeChar`: an escaped character is read as its units.
* `decode?_render`: **every JSON value is read back from its text.**
* `visible_of_mem_chars`: the text consists of printable ASCII characters.
-/

namespace PlotPage

namespace JsonValue

open Encoding (units16)

/-! ### The reader -/

def isBlank (c : Char) : Bool := c = ' ' || c = '\t' || c = '\n' || c = '\r'

def skipBlanks (cs : List Char) : List Char := cs.dropWhile isBlank

/-- The characters with the given units; a half without the other half is none. -/
def ofUnits? : List Nat → Option (List Char)
  | [] => some []
  | u :: us =>
    if u < 0xd800 || 0xe000 ≤ u then (ofUnits? us).map (Char.ofNat u :: ·)
    else
      match us with
      | [] => none
      | v :: us =>
        if u < 0xdc00 && 0xdc00 ≤ v && v < 0xe000 then
          (ofUnits? us).map (Char.ofNat (0x10000 + (u - 0xd800) * 0x400 + (v - 0xdc00)) :: ·)
        else none

/-- The character that a letter stands for after a backslash. -/
def letterEscape? (c : Char) : Option Char :=
  if c = '"' || c = '\\' || c = '/' then some c
  else if c = 'b' then some (Char.ofNat 0x08)
  else if c = 'f' then some (Char.ofNat 0x0c)
  else if c = 'n' then some '\n'
  else if c = 'r' then some '\r'
  else if c = 't' then some '\t'
  else none

/-- The number that hexadecimal digits denote. -/
def hexValue? (ds : List Char) : Option Nat :=
  (ds.mapM (Numeral.digitIn? 16)).map fun ns => ns.foldl (fun n d => 16 * n + d) 0

/-- The units of a string up to its closing quote, and what follows the quote.  Control characters
must be escaped. -/
def units? : List Char → Option (List Nat × List Char)
  | [] => none
  | '"' :: cs => some ([], cs)
  | '\\' :: 'u' :: a :: b :: c :: d :: cs =>
    match hexValue? [a, b, c, d], units? cs with
    | some u, some (us, rest) => some (u :: us, rest)
    | _, _ => none
  | '\\' :: c :: cs =>
    match letterEscape? c, units? cs with
    | some e, some (us, rest) => some (units16 e ++ us, rest)
    | _, _ => none
  | c :: cs =>
    if c = '\\' || c.toNat < 0x20 then none
    else (units? cs).map fun (us, rest) => (units16 c ++ us, rest)

/-- Reads a string behind its opening quote. -/
def string? (cs : List Char) : Option (String × List Char) :=
  (units? cs).bind fun (us, rest) => (ofUnits? us).map fun s => (String.ofList s, rest)

mutual
/-- Reads a value and answers what follows it.  The fuel bounds the number of nested readings. -/
def value? : (fuel : Nat) → List Char → Option (JsonValue × List Char)
  | 0, _ => none
  | fuel + 1, cs =>
    match skipBlanks cs with
    | '"' :: cs => (string? cs).map fun (s, rest) => (.text s, rest)
    | '[' :: cs =>
      match skipBlanks cs with
      | ']' :: rest => some (.array [], rest)
      | _ => (items? fuel cs).map fun (vs, rest) => (.array vs, rest)
    | '\x7b' :: cs =>
      match skipBlanks cs with
      | '\x7d' :: rest => some (.object [], rest)
      | _ => (members? fuel cs).map fun (ms, rest) => (.object ms, rest)
    | cs => (plain? (cs.takeWhile isPlainChar)).map fun v => (v, cs.dropWhile isPlainChar)

/-- Reads the items of an array up to its closing bracket. -/
def items? : (fuel : Nat) → List Char → Option (List JsonValue × List Char)
  | 0, _ => none
  | fuel + 1, cs =>
    (value? fuel cs).bind fun (v, rest) =>
      match skipBlanks rest with
      | ',' :: rest => (items? fuel rest).map fun (vs, rest) => (v :: vs, rest)
      | ']' :: rest => some ([v], rest)
      | _ => none

/-- Reads the members of an object up to its closing brace. -/
def members? : (fuel : Nat) → List Char → Option (List (String × JsonValue) × List Char)
  | 0, _ => none
  | fuel + 1, cs =>
    match skipBlanks cs with
    | '"' :: cs =>
      (string? cs).bind fun (k, rest) =>
        match skipBlanks rest with
        | ':' :: rest =>
          (value? fuel rest).bind fun (v, rest) =>
            match skipBlanks rest with
            | ',' :: rest => (members? fuel rest).map fun (ms, rest) => ((k, v) :: ms, rest)
            | '\x7d' :: rest => some ([(k, v)], rest)
            | _ => none
        | _ => none
    | _ => none
end

/-- Reads a text that is one value and nothing else. -/
def decode? (s : String) : Option JsonValue :=
  (value? s.length s.toList).bind fun (v, rest) => if skipBlanks rest = [] then some v else none

/-! ### Characters and units -/

theorem toNat_valid (c : Char) :
    c.toNat < 0xd800 ∨ (0xdfff < c.toNat ∧ c.toNat < 0x110000) := c.valid

/-- Characters are put together again from their units. -/
theorem ofUnits?_units16 (cs : List Char) : ofUnits? (cs.flatMap units16) = some cs := by
  induction cs with
  | nil => rfl
  | cons c cs ih =>
    have hvalid := toNat_valid c
    rw [List.flatMap_cons]
    by_cases hsmall : c.toNat < 0x10000
    · have hone : (decide (c.toNat < 0xd800) || decide (0xe000 ≤ c.toNat)) = true := by
        simp only [Bool.or_eq_true, decide_eq_true_eq]
        omega
      rw [units16, if_pos hsmall, List.singleton_append, ofUnits?.eq_def]
      simp only [hone, if_true, ih, Option.map_some, Char.ofNat_toNat]
    · -- the two halves lie in ranges of their own, and their sum is the character
      have hhigh : ¬(decide (0xd800 + (c.toNat - 0x10000) / 0x400 < 0xd800) ||
          decide (0xe000 ≤ 0xd800 + (c.toNat - 0x10000) / 0x400)) = true := by
        simp only [Bool.or_eq_true, decide_eq_true_eq]
        omega
      have hpair : (decide (0xd800 + (c.toNat - 0x10000) / 0x400 < 0xdc00) &&
          decide (0xdc00 ≤ 0xdc00 + (c.toNat - 0x10000) % 0x400) &&
          decide (0xdc00 + (c.toNat - 0x10000) % 0x400 < 0xe000)) = true := by
        simp only [Bool.and_eq_true, decide_eq_true_eq]
        omega
      have hsum : 0x10000 + (0xd800 + (c.toNat - 0x10000) / 0x400 - 0xd800) * 0x400 +
          (0xdc00 + (c.toNat - 0x10000) % 0x400 - 0xdc00) = c.toNat := by omega
      rw [units16, if_neg hsmall, List.cons_append, List.singleton_append, ofUnits?.eq_def]
      simp only [hhigh, Bool.false_eq_true, if_false, hpair, if_true, hsum, ih, Option.map_some,
        Char.ofNat_toNat]

/-- Four hexadecimal digits are read back. -/
theorem hexValue?_hexDigits {n : Nat} (h : n < 0x10000) :
    ∃ a b c d, Text.hexDigits 4 n = [a, b, c, d] ∧ hexValue? [a, b, c, d] = some n := by
  have hdigit : ∀ m : Nat, Numeral.digitIn? 16 (Text.hexDigit (m % 16)) = some (m % 16) := by
    intro m
    have hall : ∀ d < 16, Numeral.digitIn? 16 (Text.hexDigit d) = some d := by decide
    exact hall _ (Nat.mod_lt m (by decide))
  refine ⟨_, _, _, _, rfl, ?_⟩
  simp only [hexValue?, List.mapM_cons, List.mapM_nil, hdigit, Option.pure_def, Option.bind_some,
    Option.bind_eq_bind, Option.map_some, List.foldl_cons, List.foldl_nil, Option.some.injEq]
  omega

/-- An escaped unit is read as the unit. -/
theorem units?_escapeUnit {n : Nat} (h : n < 0x10000) (rest : List Char) :
    units? ('\\' :: 'u' :: (Text.hexDigits 4 n ++ rest)) =
      (units? rest).map fun p => (n :: p.1, p.2) := by
  obtain ⟨a, b, c, d, hdigits, hvalue⟩ := hexValue?_hexDigits h
  rw [hdigits]
  simp only [List.cons_append, List.nil_append, units?, hvalue]
  cases units? rest <;> rfl

/-- A letter after a backslash is read as the character that it stands for. -/
theorem units?_letter {c e : Char} (h : letterEscape? c = some e) (rest : List Char) :
    units? ('\\' :: c :: rest) = (units? rest).map fun p => (units16 e ++ p.1, p.2) := by
  have hletter : c ≠ 'u' := by
    rintro rfl
    cases h
  rw [units?]
  · simp only [h]
    cases units? rest <;> rfl
  · intro a b c' d cs hc
    exact absurd hc hletter

/-- An escaped character is read as its units. -/
theorem units?_escapeChar (c : Char) (rest : List Char) :
    units? (escapeChar c ++ rest) = (units? rest).map fun p => (units16 c ++ p.1, p.2) := by
  unfold escapeChar
  split_ifs with hquote hslash hfeed hreturn htab hpage hback hplain
  · subst hquote
    exact units?_letter rfl rest
  · subst hslash
    exact units?_letter rfl rest
  · subst hfeed
    exact units?_letter rfl rest
  · subst hreturn
    exact units?_letter rfl rest
  · subst htab
    exact units?_letter rfl rest
  · rw [← Char.ofNat_toNat c, hpage]
    exact units?_letter rfl rest
  · rw [← Char.ofNat_toNat c, hback]
    exact units?_letter rfl rest
  · simp only [Bool.and_eq_true, decide_eq_true_eq] at hplain
    have hgood : ¬(decide (c = '\\') || decide (c.toNat < 0x20)) = true := by
      simp only [Bool.or_eq_true, decide_eq_true_eq, not_or]
      exact ⟨hslash, by omega⟩
    rw [List.singleton_append, units?, if_neg hgood]
    · exact hquote
    · exact fun _ _ _ _ _ h _ => hslash h
    · exact fun _ _ h _ => hslash h
  · have hvalid := toNat_valid c
    rw [escapeUnits, units16]
    by_cases hsmall : c.toNat < 0x10000
    · rw [if_pos hsmall, if_pos hsmall]
      exact units?_escapeUnit hsmall rest
    · rw [if_neg hsmall, if_neg hsmall, List.cons_append, List.cons_append, List.cons_append,
        List.cons_append, List.append_assoc, List.cons_append, List.cons_append,
        units?_escapeUnit (by omega), units?_escapeUnit (by omega), Option.map_map]
      rfl

theorem string?_escaped (cs rest : List Char) :
    string? (cs.flatMap escapeChar ++ '"' :: rest) = some (String.ofList cs, rest) := by
  have hunits : units? (cs.flatMap escapeChar ++ '"' :: rest) =
      some (cs.flatMap units16, rest) := by
    induction cs with
    | nil => rw [List.flatMap_nil, List.nil_append, units?]; rfl
    | cons c cs ih =>
      rw [List.flatMap_cons, List.append_assoc, units?_escapeChar, ih, List.flatMap_cons]
      rfl
  simp only [string?, hunits, Option.bind_some, ofUnits?_units16, Option.map_some]

/-! ### Values -/

/-- What follows a word or a number does not go on with it. -/
def Stops (cs : List Char) : Prop := ∀ c ∈ cs.head?, isPlainChar c = false

theorem stops_cons {c : Char} (h : isPlainChar c = false) (cs : List Char) : Stops (c :: cs) := by
  intro d hd
  cases hd
  exact h

theorem skipBlanks_cons {c : Char} (h : isBlank c = false) (cs : List Char) :
    skipBlanks (c :: cs) = c :: cs :=
  List.dropWhile_cons_of_neg (ne_true_of_eq_false h)

theorem value?_blank (fuel : Nat) (cs : List Char) : value? fuel (' ' :: cs) = value? fuel cs := by
  cases fuel with
  | zero => rw [value?, value?]
  | succ fuel => rw [value?, value?]; rfl

theorem items?_blank (fuel : Nat) (cs : List Char) : items? fuel (' ' :: cs) = items? fuel cs := by
  cases fuel with
  | zero => rw [items?, items?]
  | succ fuel => rw [items?, items?, value?_blank]

theorem members?_blank (fuel : Nat) (cs : List Char) :
    members? fuel (' ' :: cs) = members? fuel cs := by
  cases fuel with
  | zero => rw [members?, members?]
  | succ fuel => rw [members?, members?]; rfl

theorem isBlank_of_isPlainChar {c : Char} (hc : isPlainChar c = true) : isBlank c = false := by
  rw [Bool.eq_false_iff]
  intro h
  simp only [isBlank, Bool.or_eq_true, decide_eq_true_eq] at h
  rcases h with ((rfl | rfl) | rfl) | rfl <;> exact absurd hc (by decide)

theorem ne_nil_of_plain? {cs : List Char} {v : JsonValue} (h : plain? cs = some v) : cs ≠ [] := by
  rintro rfl
  cases h

theorem value?_plain {cs : List Char} {v : JsonValue} (hcs : ∀ c ∈ cs, isPlainChar c = true)
    (hv : plain? cs = some v) (fuel : Nat) {rest : List Char} (hrest : Stops rest) :
    value? (fuel + 1) (cs ++ rest) = some (v, rest) := by
  obtain ⟨c, tail, rfl⟩ := List.exists_cons_of_ne_nil (ne_nil_of_plain? hv)
  have hc := hcs c List.mem_cons_self
  have hother : ∀ d : Char, isPlainChar d = false → c ≠ d := by
    rintro d hd rfl
    exact Bool.false_ne_true (hd.symm.trans hc)
  have htake : ((c :: tail) ++ rest).takeWhile isPlainChar = c :: tail := by
    rw [List.takeWhile_append_of_pos hcs]
    rcases rest with _ | ⟨d, rest⟩
    · simp
    · simp [hrest d rfl]
  have hdrop : ((c :: tail) ++ rest).dropWhile isPlainChar = rest := by
    rw [List.dropWhile_append_of_pos hcs]
    rcases rest with _ | ⟨d, rest⟩
    · rfl
    · simp [hrest d rfl]
  rw [value?, List.cons_append, skipBlanks_cons (isBlank_of_isPlainChar hc)]
  split
  · next heq => exact absurd (List.cons.inj heq).1 (hother _ (by decide))
  · next heq => exact absurd (List.cons.inj heq).1 (hother _ (by decide))
  · next heq => exact absurd (List.cons.inj heq).1 (hother _ (by decide))
  · rw [← List.cons_append, htake, hdrop, hv, Option.map_some]

def isWord : JsonValue → Bool
  | .null | .bool _ | .int _ | .real _ => true
  | .text _ | .array _ | .object _ => false

/-- Words and numbers are read back. -/
theorem plain?_chars {v : JsonValue} (h : v.isWord = true) :
    plain? v.chars = some v ∧ ∀ c ∈ v.chars, isPlainChar c = true := by
  cases v with
  | null => exact ⟨rfl, List.all_eq_true.mp rfl⟩
  | bool b => cases b <;> exact ⟨rfl, List.all_eq_true.mp rfl⟩
  | int i => exact ⟨plain?_int i, fun _ => isPlainChar_of_mem_intText⟩
  | real d => exact ⟨plain?_real d, fun _ => isPlainChar_of_mem_realText⟩
  | text s => cases h
  | array items => cases h
  | object members => cases h

theorem exists_head_chars (v : JsonValue) :
    ∃ c cs, v.chars = c :: cs ∧ isBlank c = false ∧ c ≠ ']' := by
  cases hword : v.isWord with
  | true =>
    obtain ⟨hread, hplain⟩ := plain?_chars hword
    obtain ⟨c, cs, hcs⟩ := List.exists_cons_of_ne_nil (ne_nil_of_plain? hread)
    have hc := hplain c (hcs ▸ List.mem_cons_self)
    refine ⟨c, cs, hcs, isBlank_of_isPlainChar hc, ?_⟩
    rintro rfl
    exact absurd hc (by decide)
  | false =>
    cases v with
    | text s => exact ⟨'"', _, rfl, by decide, by decide⟩
    | array items => exact ⟨'[', _, rfl, by decide, by decide⟩
    | object members => exact ⟨'\x7b', _, rfl, by decide, by decide⟩
    | _ => cases hword

/-! ### Arrays and objects -/

theorem value?_array {fuel : Nat} {c : Char} {cs rest : List Char} {vs : List JsonValue}
    (hblank : isBlank c = false) (hc : c ≠ ']') (h : items? fuel (c :: cs) = some (vs, rest)) :
    value? (fuel + 1) ('[' :: c :: cs) = some (.array vs, rest) := by
  rw [value?, skipBlanks_cons (by decide)]
  simp only [skipBlanks_cons hblank]
  split
  · next heq => exact absurd (List.cons.inj heq).1 hc
  · rw [h, Option.map_some]

theorem value?_object {fuel : Nat} {k : String} {cs rest : List Char}
    {ms : List (String × JsonValue)} (h : members? fuel (stringChars k ++ cs) = some (ms, rest)) :
    value? (fuel + 1) ('\x7b' :: (stringChars k ++ cs)) = some (.object ms, rest) := by
  rw [value?, skipBlanks_cons (by decide)]
  rw [stringChars, List.cons_append] at h ⊢
  simp only [skipBlanks_cons (by decide : isBlank '"' = false), h]
  rfl

theorem items?_last {fuel : Nat} {v : JsonValue} {cs rest : List Char}
    (h : value? fuel cs = some (v, ']' :: rest)) : items? (fuel + 1) cs = some ([v], rest) := by
  rw [items?, h]
  rfl

theorem items?_more {fuel : Nat} {v : JsonValue} {vs : List JsonValue} {cs more rest : List Char}
    (hv : value? fuel cs = some (v, ',' :: ' ' :: more))
    (hvs : items? fuel more = some (vs, rest)) : items? (fuel + 1) cs = some (v :: vs, rest) := by
  rw [items?, hv]
  show (items? fuel (' ' :: more)).map _ = _
  rw [items?_blank, hvs, Option.map_some]

theorem members?_last {fuel : Nat} {k : String} {v : JsonValue} {cs rest : List Char}
    (h : value? fuel cs = some (v, '\x7d' :: rest)) :
    members? (fuel + 1) (stringChars k ++ ':' :: ' ' :: cs) = some ([(k, v)], rest) := by
  rw [members?, stringChars, List.cons_append, List.append_assoc, skipBlanks_cons (by decide)]
  simp only [List.singleton_append, string?_escaped, String.ofList_toList, Option.bind_some,
    skipBlanks_cons (by decide : isBlank ':' = false), value?_blank, h]
  rfl

theorem members?_more {fuel : Nat} {k : String} {v : JsonValue} {ms : List (String × JsonValue)}
    {cs more rest : List Char} (hv : value? fuel cs = some (v, ',' :: ' ' :: more))
    (hms : members? fuel more = some (ms, rest)) :
    members? (fuel + 1) (stringChars k ++ ':' :: ' ' :: cs) = some ((k, v) :: ms, rest) := by
  rw [members?, stringChars, List.cons_append, List.append_assoc, skipBlanks_cons (by decide)]
  simp only [List.singleton_append, string?_escaped, String.ofList_toList, Option.bind_some,
    skipBlanks_cons (by decide : isBlank ':' = false), value?_blank, hv]
  show (members? fuel (' ' :: more)).map _ = _
  rw [members?_blank, hms, Option.map_some]

theorem joinChars_cons_cons (p q : List Char) (ps : List (List Char)) :
    joinChars (p :: q :: ps) = p ++ ',' :: ' ' :: joinChars (q :: ps) := rfl

mutual
/-- A value is read back from its text, whatever comes after it.  The fuel need not exceed the
length of the text, for every nested reading stands behind a character of its own. -/
theorem value?_chars (v : JsonValue) {fuel : Nat} (hfuel : v.chars.length ≤ fuel)
    {rest : List Char} (hrest : Stops rest) : value? fuel (v.chars ++ rest) = some (v, rest) := by
  obtain ⟨fuel, rfl⟩ : ∃ n, fuel = n + 1 := by
    obtain ⟨c, cs, hcs, -, -⟩ := exists_head_chars v
    rw [hcs, List.length_cons] at hfuel
    exact ⟨fuel - 1, by omega⟩
  match v with
  | .null | .bool _ | .int _ | .real _ =>
    exact value?_plain (plain?_chars rfl).2 (plain?_chars rfl).1 fuel hrest
  | .text s =>
    rw [value?, chars, stringChars, List.cons_append, List.append_assoc,
      skipBlanks_cons (by decide)]
    simp only [List.singleton_append, string?_escaped, String.ofList_toList, Option.map_some]
  | .array [] => rw [value?]; rfl
  | .array (v :: vs) =>
    rw [chars, List.length_cons, List.length_append, List.length_singleton] at hfuel
    have hitems : items? fuel (joinChars (itemChars (v :: vs)) ++ ']' :: rest) =
        some (v :: vs, rest) := items?_chars (v :: vs) (List.cons_ne_nil _ _) (by omega) rest
    obtain ⟨c, cs, hcs, hblank, hc⟩ := exists_head_chars v
    obtain ⟨tail, htail⟩ : ∃ tail, joinChars (itemChars (v :: vs)) = c :: tail := by
      cases vs with
      | nil => exact ⟨cs, by rw [itemChars, hcs]; rfl⟩
      | cons w ws => exact ⟨_, by rw [itemChars, itemChars, joinChars_cons_cons, hcs]; rfl⟩
    rw [chars, List.cons_append, List.append_assoc]
    rw [htail] at hitems ⊢
    exact value?_array hblank hc hitems
  | .object [] => rw [value?]; rfl
  | .object ((k, v) :: ms) =>
    rw [chars, List.length_cons, List.length_append, List.length_singleton] at hfuel
    have hmembers : members? fuel (joinChars (memberChars ((k, v) :: ms)) ++ '\x7d' :: rest) =
        some ((k, v) :: ms, rest) := members?_chars _ (List.cons_ne_nil _ _) (by omega) rest
    obtain ⟨tail, htail⟩ : ∃ tail, joinChars (memberChars ((k, v) :: ms)) =
        stringChars k ++ tail := by
      cases ms with
      | nil => exact ⟨_, by rw [memberChars]; rfl⟩
      | cons m ms =>
        exact ⟨_, by rw [memberChars, memberChars, joinChars_cons_cons, List.append_assoc]⟩
    rw [chars, List.cons_append, List.append_assoc]
    rw [htail, List.append_assoc] at hmembers ⊢
    exact value?_object hmembers

theorem items?_chars (vs : List JsonValue) (hne : vs ≠ []) {fuel : Nat}
    (hfuel : (joinChars (itemChars vs)).length < fuel) (rest : List Char) :
    items? fuel (joinChars (itemChars vs) ++ ']' :: rest) = some (vs, rest) := by
  obtain ⟨fuel, rfl⟩ : ∃ n, fuel = n + 1 := ⟨fuel - 1, by omega⟩
  match vs with
  | [] => exact absurd rfl hne
  | [v] =>
    rw [itemChars, itemChars, joinChars] at hfuel ⊢
    exact items?_last (value?_chars v (by omega) (stops_cons (by decide) rest))
  | v :: w :: ws =>
    have hjoin : joinChars (itemChars (v :: w :: ws)) =
        v.chars ++ ',' :: ' ' :: joinChars (itemChars (w :: ws)) := by
      rw [itemChars, itemChars, joinChars_cons_cons]
    rw [hjoin, List.length_append, List.length_cons, List.length_cons] at hfuel
    rw [hjoin, List.append_assoc]
    exact items?_more (value?_chars v (by omega) (stops_cons (by decide) _))
      (items?_chars (w :: ws) (List.cons_ne_nil _ _) (by omega) rest)

theorem members?_chars (ms : List (String × JsonValue)) (hne : ms ≠ []) {fuel : Nat}
    (hfuel : (joinChars (memberChars ms)).length < fuel) (rest : List Char) :
    members? fuel (joinChars (memberChars ms) ++ '\x7d' :: rest) = some (ms, rest) := by
  obtain ⟨fuel, rfl⟩ : ∃ n, fuel = n + 1 := ⟨fuel - 1, by omega⟩
  match ms with
  | [] => exact absurd rfl hne
  | [(k, v)] =>
    have hjoin : joinChars (memberChars [(k, v)]) = stringChars k ++ ':' :: ' ' :: v.chars := by
      rw [memberChars, memberChars, joinChars]
    rw [hjoin, List.length_append, List.length_cons, List.length_cons] at hfuel
    rw [hjoin, List.append_assoc]
    exact members?_last (value?_chars v (by omega) (stops_cons (by decide) rest))
  | (k, v) :: (l, w) :: ms =>
    have hjoin : joinChars (memberChars ((k, v) :: (l, w) :: ms)) =
        stringChars k ++ ':' :: ' ' ::
          (v.chars ++ ',' :: ' ' :: joinChars (memberChars ((l, w) :: ms))) := by
      rw [memberChars, memberChars, joinChars_cons_cons, List.append_assoc]
      rfl
    rw [hjoin, List.length_append, List.length_cons, List.length_cons, List.length_append,
      List.length_cons, List.length_cons] at hfuel
    have hread {cs : List Char} : value? fuel (v.chars ++ ',' :: cs) = some (v, ',' :: cs) :=
      value?_chars v (by omega) (stops_cons (by decide) cs)
    rw [hjoin]
    simp only [List.append_assoc, List.cons_append]
    exact members?_more hread
      (members?_chars ((l, w) :: ms) (List.cons_ne_nil _ _) (by omega) rest)
end

/-- Every JSON value is read back from its text. -/
theorem decode?_render (v : JsonValue) : decode? v.render = some v := by
  have hread : value? v.chars.length (v.chars ++ []) = some (v, []) :=
    value?_chars v (Nat.le_refl _) (fun _ h => by cases h)
  rw [List.append_nil] at hread
  rw [decode?, render, String.toList_ofList, String.length_ofList, hread]
  rfl

/-! ### The characters of a text -/

/-- A printable ASCII character. -/
def Visible (c : Char) : Prop := 0x20 ≤ c.toNat ∧ c.toNat ≤ 0x7e

instance (c : Char) : Decidable (Visible c) := inferInstanceAs (Decidable (_ ∧ _))

theorem visible_of_isPlainChar {c : Char} (h : isPlainChar c = true) : Visible c := by
  simp only [isPlainChar, Bool.or_eq_true, decide_eq_true_eq] at h
  rcases h with ((h | rfl) | rfl) | rfl
  · have hletter : ((decide (65 ≤ c.val ∧ c.val ≤ 90) ||
        (decide (97 ≤ c.val) && decide (c.val ≤ 122))) ||
        (decide (48 ≤ c.val) && decide (c.val ≤ 57))) = true := h
    simp only [Bool.or_eq_true, Bool.and_eq_true, decide_eq_true_eq] at hletter
    have hranges : ((65 ≤ c.toNat ∧ c.toNat ≤ 90) ∨ (97 ≤ c.toNat ∧ c.toNat ≤ 122)) ∨
        48 ≤ c.toNat ∧ c.toNat ≤ 57 := hletter
    rw [Visible]
    omega
  all_goals decide

theorem visible_of_mem_escapeUnit {n : Nat} {c : Char}
    (h : c ∈ '\\' :: 'u' :: Text.hexDigits 4 n) : Visible c := by
  rcases List.mem_cons.mp h with rfl | h
  · decide
  rcases List.mem_cons.mp h with rfl | h
  · decide
  obtain ⟨d, hd, rfl⟩ := Text.exists_of_mem_hexDigits h
  have hall : ∀ d < 16, Visible (Text.hexDigit d) := by decide
  exact hall d hd

theorem visible_of_mem_escapeChar {c d : Char} (h : d ∈ escapeChar c) : Visible d := by
  have hpair : ∀ letter : Char, Visible letter → d ∈ ['\\', letter] → Visible d := by
    intro letter hletter hd
    simp only [List.mem_cons, List.not_mem_nil, or_false] at hd
    rcases hd with rfl | rfl
    · decide
    · exact hletter
  unfold escapeChar at h
  split_ifs at h with hquote hslash hfeed hreturn htab hpage hback hplain
  iterate 7 exact hpair _ (by decide) h
  · rw [List.mem_singleton] at h
    simpa [Visible, h] using hplain
  · unfold escapeUnits at h
    split_ifs at h
    · exact visible_of_mem_escapeUnit h
    · rcases List.mem_append.mp h with h | h
      · exact visible_of_mem_escapeUnit h
      · exact visible_of_mem_escapeUnit h

theorem visible_of_mem_stringChars {s : String} {c : Char} (h : c ∈ stringChars s) : Visible c := by
  rw [stringChars, List.mem_cons, List.mem_append, List.mem_singleton, List.mem_flatMap] at h
  rcases h with rfl | ⟨d, -, h⟩ | rfl
  · decide
  · exact visible_of_mem_escapeChar h
  · decide

theorem visible_of_mem_joinChars {parts : List (List Char)}
    (h : ∀ part ∈ parts, ∀ c ∈ part, Visible c) : ∀ c ∈ joinChars parts, Visible c := by
  induction parts with
  | nil => exact fun _ hc => absurd hc List.not_mem_nil
  | cons part parts ih =>
    have hpart := h part List.mem_cons_self
    have hparts := ih fun q hq => h q (List.mem_cons_of_mem part hq)
    cases parts with
    | nil => exact hpart
    | cons q parts =>
      intro c hc
      rw [joinChars_cons_cons, List.mem_append, List.mem_cons, List.mem_cons] at hc
      rcases hc with hc | rfl | rfl | hc
      · exact hpart c hc
      · decide
      · decide
      · exact hparts c hc

theorem visible_of_enclosed {o e : Char} {cs : List Char} (ho : Visible o) (he : Visible e)
    (h : ∀ c ∈ cs, Visible c) : ∀ c ∈ o :: (cs ++ [e]), Visible c := by
  intro c hc
  rw [List.mem_cons, List.mem_append, List.mem_singleton] at hc
  rcases hc with rfl | hc | rfl
  · exact ho
  · exact h c hc
  · exact he

mutual
/-- The text of a value consists of printable ASCII characters. -/
theorem visible_of_mem_chars : ∀ (v : JsonValue), ∀ c ∈ v.chars, Visible c
  | .null | .bool _ | .int _ | .real _ =>
    fun c hc => visible_of_isPlainChar ((plain?_chars rfl).2 c hc)
  | .text _ => fun _ => visible_of_mem_stringChars
  | .array items => visible_of_enclosed (by decide) (by decide)
      (visible_of_mem_joinChars (visible_of_mem_itemChars items))
  | .object members => visible_of_enclosed (by decide) (by decide)
      (visible_of_mem_joinChars (visible_of_mem_memberChars members))

theorem visible_of_mem_itemChars :
    ∀ (vs : List JsonValue), ∀ part ∈ itemChars vs, ∀ c ∈ part, Visible c
  | [], part, h => absurd h List.not_mem_nil
  | v :: vs, part, h => by
    rw [itemChars, List.mem_cons] at h
    rcases h with rfl | h
    · exact visible_of_mem_chars v
    · exact visible_of_mem_itemChars vs part h

theorem visible_of_mem_memberChars :
    ∀ (ms : List (String × JsonValue)), ∀ part ∈ memberChars ms, ∀ c ∈ part, Visible c
  | [], part, h => absurd h List.not_mem_nil
  | (k, v) :: ms, part, h => by
    rw [memberChars, List.mem_cons] at h
    rcases h with rfl | h
    · intro c hc
      rw [List.mem_append, List.mem_cons, List.mem_cons] at hc
      rcases hc with hc | rfl | rfl | hc
      · exact visible_of_mem_stringChars hc
      · decide
      · decide
      · exact visible_of_mem_chars v c hc
    · exact visible_of_mem_memberChars ms part h
end

end JsonValue

end PlotPage
