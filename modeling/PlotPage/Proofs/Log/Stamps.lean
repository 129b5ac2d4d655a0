import Mathlib.Data.List.TakeWhile
import PlotPage.Log.Stamp
import PlotPage.Proofs.Calendar
import PlotPage.Proofs.Number.Padded
import PlotPage.Yaml.Timestamp

/-!
# The two forms of a time

A time is written for readers and for programs, and up to the seconds both forms have the same 19
characters (`DateTime.face`).  Behind them the one has three digits of the second, and the other has
six, or none if they are all zero.

* `DateTime.exists_moment`: a time up to the end of the year 9999 has a moment of the calendar.
* `time?`: the time that a stamp tells.  It is read as a timestamp, digit by digit, by a reader that
  has nothing to do with the writers.
* `DateTime.parts_cases`: of two moments the later one has the later year, or the same year and the
  later month, and so on.  The columns of a stamp have fixed widths, so stamps are ordered as texts
  in the same way.
* `stamps_agree`: **the two forms of a time agree, tell the time, and are ordered by time.**
-/

namespace PlotPage

/-- The number of microseconds from the start of 1970 to the start of a year. -/
def yearStart (year : Nat) : Int :=
  ((Date.daysBeforeYear year : Int) - Date.epoch) * microsPerDay

namespace DateTime

/-! ### Moments -/

/-- The whole seconds since the start of 1970. -/
def seconds (d : DateTime) : Int :=
  ((d.date.toDays : Int) - Date.epoch) * 86400 + (d.hour * 3600 + d.minute * 60 + d.second : Nat) -
    d.offset.getD 0 * 60

/-- The microseconds since the start of 1970. -/
def micros (d : DateTime) : Int := d.seconds * 1000000 + d.micro

/-- A moment of the calendar in universal time, in a year with four digits. -/
structure IsUtc (d : DateTime) : Prop where
  date : d.date.isValid = true
  year : 1000 ≤ d.date.year
  hour : d.hour < 24
  minute : d.minute < 60
  second : d.second < 60
  micro : d.micro < 1000000
  offset : d.offset = some 0

variable {d e : DateTime} {m : Int}

theorem daysBeforeYear_1970 : Date.daysBeforeYear 1970 = Date.epoch := by decide +kernel

theorem daysBeforeYear_10000 : Date.daysBeforeYear 10000 = Date.last + 1 := by decide +kernel

/-- The moment on a day and at a time of the day. -/
theorem ofMicros?_eq {n k : Nat} (hn : n + Date.epoch ≤ Date.last) (hk : k < microsPerDay) :
    ofMicros? (n * microsPerDay + k) = some (.ofDay (.ofDays (n + Date.epoch)) k) := by
  have hpos : (0 : Int) < microsPerDay := Int.ofNat_lt.mpr (Nat.lt_of_le_of_lt (Nat.zero_le k) hk)
  have hday : ((n : Int) * microsPerDay + k) / microsPerDay = n := by
    rw [Int.add_comm, Int.add_mul_ediv_right _ _ (Int.ne_of_gt hpos),
      Int.ediv_eq_zero_of_lt (Int.natCast_nonneg k) (Int.ofNat_lt.mpr hk), Int.zero_add]
  have htime : ((n : Int) * microsPerDay + k) % microsPerDay = k := by
    rw [Int.add_comm, Int.add_mul_emod_self_right,
      Int.emod_eq_of_lt (Int.natCast_nonneg k) (Int.ofNat_lt.mpr hk)]
  simp only [ofMicros?, hday, htime]
  rw [if_neg]
  · rfl
  · simp only [Bool.or_eq_true, decide_eq_true_eq]
    omega

theorem isUtc_ofDay {date : Date} {k : Nat} (hdate : date.isValid = true) (hyear : 1000 ≤ date.year)
    (hk : k < microsPerDay) : (ofDay date k).IsUtc := by
  have hday : microsPerDay = 86400000000 := rfl
  rw [hday] at hk
  refine ⟨hdate, hyear, ?_, ?_, ?_, ?_, rfl⟩
  · show k / 3600000000 < 24
    omega
  · show k / 60000000 % 60 < 60
    omega
  · show k / 1000000 % 60 < 60
    omega
  · show k % 1000000 < 1000000
    omega

theorem micros_ofDay (date : Date) (k : Nat) :
    (ofDay date k).micros = ((date.toDays : Int) - Date.epoch) * microsPerDay + k := by
  have hday : microsPerDay = 86400000000 := rfl
  simp only [micros, seconds, ofDay, Option.getD_some, hday]
  omega

/-- A time from 1970 on has a moment of the calendar, up to the end of the year 9999. -/
theorem exists_moment (hstart : 0 ≤ m) (hend : m < yearStart 10000) :
    ∃ d, ofMicros? m = some d ∧ d.IsUtc ∧ d.micros = m := by
  obtain ⟨t, rfl⟩ := Int.eq_ofNat_of_zero_le hstart
  have hsplit : t / microsPerDay * microsPerDay + t % microsPerDay = t := Nat.div_add_mod' t _
  have htime : t % microsPerDay < microsPerDay := Nat.mod_lt t (by decide)
  have hday : t / microsPerDay + Date.epoch ≤ Date.last := by
    have hlimit : yearStart 10000 = (2932897 * microsPerDay : Nat) := by decide +kernel
    rw [hlimit, Int.ofNat_lt] at hend
    have hlt : t / microsPerDay < 2932897 := Nat.div_lt_of_lt_mul (Nat.mul_comm _ _ ▸ hend)
    show t / microsPerDay + 719162 ≤ 3652058
    omega
  have hmoment := ofMicros?_eq hday htime
  rw [← Int.natCast_mul, ← Int.natCast_add, hsplit] at hmoment
  have hvalid : (Date.ofDays (t / microsPerDay + Date.epoch)).isValid = true := by
    refine Date.isValid_ofDays ?_
    rw [daysBeforeYear_10000]
    exact Nat.lt_succ_of_le hday
  have hyear : ¬(Date.ofDays (t / microsPerDay + Date.epoch)).year < 1970 := by
    rw [Date.year_ofDays_lt_iff, daysBeforeYear_1970]
    exact Nat.not_lt.mpr (Nat.le_add_left _ _)
  have hmodern : 1000 ≤ (Date.ofDays (t / microsPerDay + Date.epoch)).year :=
    Nat.le_trans (by decide) (Nat.le_of_not_lt hyear)
  refine ⟨_, hmoment, isUtc_ofDay hvalid hmodern htime, ?_⟩
  rw [micros_ofDay, Date.toDays_ofDays, Int.natCast_add, Int.add_sub_cancel, ← Int.natCast_mul,
    ← Int.natCast_add, hsplit]

/-- Year, month, day, hour, minute and second. -/
def parts (d : DateTime) : List Nat :=
  [d.date.year, d.date.month, d.date.day, d.hour, d.minute, d.second]

theorem seconds_lt_of_earlier (hd : d.IsUtc) (he : e.IsUtc) (h : d.date.Earlier e.date) :
    d.seconds < e.seconds := by
  have hdays := Date.toDays_lt_toDays hd.date h
  have hhour := hd.hour
  have hminute := hd.minute
  have hsecond := hd.second
  rw [seconds, seconds, hd.offset, he.offset]
  simp only [Option.getD_some]
  omega

/-- A moment with an earlier year, or the same year and an earlier month, and so on, is earlier. -/
theorem seconds_lt_of_parts_lt (hd : d.IsUtc) (he : e.IsUtc) (h : d.parts < e.parts) :
    d.seconds < e.seconds := by
  simp only [parts, List.cons_lt_cons_iff, List.not_lt_nil, and_false, or_false] at h
  rcases h with hyear | ⟨hyear, hmonth | ⟨hmonth, hday | ⟨hday, hclock⟩⟩⟩
  · exact seconds_lt_of_earlier hd he (Or.inl hyear)
  · exact seconds_lt_of_earlier hd he (Or.inr ⟨hyear, Or.inl hmonth⟩)
  · exact seconds_lt_of_earlier hd he (Or.inr ⟨hyear, Or.inr ⟨hmonth, hday⟩⟩)
  · -- on the same day the clock decides
    have hsame : d.date = e.date := by
      rw [Date.mk.injEq]
      exact ⟨hyear, hmonth, hday⟩
    have hminute := hd.minute
    have hsecond := hd.second
    rw [seconds, seconds, hd.offset, he.offset, hsame]
    simp only [Option.getD_some]
    omega

theorem seconds_eq_of_parts_eq (hd : d.IsUtc) (he : e.IsUtc) (h : d.parts = e.parts) :
    d.seconds = e.seconds := by
  simp only [parts, List.cons.injEq, and_true] at h
  obtain ⟨hyear, hmonth, hday, hhour, hminute, hsecond⟩ := h
  have hsame : d.date = e.date := by
    rw [Date.mk.injEq]
    exact ⟨hyear, hmonth, hday⟩
  rw [seconds, seconds, hd.offset, he.offset, hsame, hhour, hminute, hsecond]

/-- **Moments have the order of their parts.** -/
theorem parts_cases (hd : d.IsUtc) (he : e.IsUtc) :
    (d.seconds < e.seconds → d.parts < e.parts) ∧ (d.seconds = e.seconds → d.parts = e.parts) := by
  have hother := seconds_lt_of_parts_lt he hd
  have hthis := seconds_lt_of_parts_lt hd he
  have hsame := seconds_eq_of_parts_eq hd he
  by_cases h : d.parts < e.parts
  · exact ⟨fun _ => h, fun heq => absurd (hthis h) (by omega)⟩
  · rcases List.le_iff_lt_or_eq.mp (List.not_lt.mp h) with hlt | heq
    · exact ⟨fun _ => absurd (hother hlt) (by omega), fun _ => absurd (hother hlt) (by omega)⟩
    · exact ⟨fun _ => absurd (hsame heq.symm) (by omega), fun _ => heq.symm⟩

/-! ### The characters of a stamp -/

/-- The widths of the parts, and what stands behind each of them. -/
def columns : List (Nat × List Char) :=
  [(4, ['-']), (2, ['-']), (2, ['T']), (2, [':']), (2, [':']), (2, [])]

/-- A moment up to its seconds. -/
def face (d : DateTime) : List Char := layout columns d.parts

/-- Every part of a moment has a place in its column. -/
theorem IsUtc.widths (h : d.IsUtc) : d.date.year < 10 ^ 4 ∧ d.date.month < 10 ^ 2 ∧
    d.date.day < 10 ^ 2 ∧ d.hour < 10 ^ 2 ∧ d.minute < 10 ^ 2 ∧ d.second < 10 ^ 2 := by
  obtain ⟨⟨-, hyear⟩, ⟨-, hmonth⟩, -, hday⟩ := Date.isValid_iff.mp h.date
  have hlength : daysInMonth d.date.year d.date.month ≤ 31 := by
    unfold daysInMonth
    split_ifs <;> omega
  have hhour := h.hour
  have hminute := h.minute
  have hsecond := h.second
  omega

theorem IsUtc.fits (h : d.IsUtc) : Fits columns d.parts := by
  simpa only [Fits, columns, parts, List.forall₂_cons, List.Forall₂.nil, and_true] using h.widths

theorem length_face (h : d.IsUtc) : d.face.length = 19 := length_layout h.fits

def wholeClock (d : DateTime) : String :=
  paddedNumber 2 d.hour ++ ":" ++ paddedNumber 2 d.minute ++ ":" ++ paddedNumber 2 d.second

/-- Date and time of day, up to the seconds. -/
def faceText (d : DateTime) : String := d.date.text ++ "T" ++ d.wholeClock

/-- Every part of a moment is written with the width of its column. -/
theorem toList_faceText (h : d.IsUtc) : d.faceText.toList = d.face := by
  obtain ⟨hyear, hmonth, hday, hhour, hminute, hsecond⟩ := h.widths
  have hdate : d.date.text = paddedNumber 4 d.date.year ++ "-" ++ paddedNumber 2 d.date.month ++
      "-" ++ paddedNumber 2 d.date.day := rfl
  have hdash : "-".toList = ['-'] := rfl
  have hcolon : ":".toList = [':'] := rfl
  have hletter : "T".toList = ['T'] := rfl
  simp only [faceText, wholeClock, hdate, String.toList_append, toList_paddedNumber hyear,
    toList_paddedNumber hmonth, toList_paddedNumber hday, toList_paddedNumber hhour,
    toList_paddedNumber hminute, toList_paddedNumber hsecond, hdash, hcolon, hletter]
  simp only [face, columns, parts, layout, List.append_assoc, List.append_nil]

theorem toList_humanText (h : d.IsUtc) : (Stamp.humanText d).toList =
    d.face ++ '.' :: (lastDigits 3 (d.micro / 1000) ++ ['Z']) := by
  have hmicro : d.micro / 1000 < 10 ^ (2 + 1) := by
    have hlt := h.micro
    omega
  have htext : Stamp.humanText d = d.faceText ++ "." ++ paddedNumber 3 (d.micro / 1000) ++ "Z" := by
    have hdate : d.date.text = toString d.date.year ++ "-" ++ paddedNumber 2 d.date.month ++ "-" ++
        paddedNumber 2 d.date.day := by
      have hyear : paddedNumber 4 d.date.year = toString d.date.year :=
        paddedNumber_of_le (by decide) h.year
      rw [← hyear]
      rfl
    rw [faceText, hdate]
    rfl
  rw [htext, String.toList_append, String.toList_append, String.toList_append, toList_faceText h,
    toList_paddedNumber hmicro, List.append_assoc, List.append_assoc]
  rfl

/-- The digits behind the seconds, if there are any. -/
def fraction (micro : Nat) : List Char := if micro = 0 then [] else '.' :: lastDigits 6 micro

theorem toList_text (h : d.IsUtc) :
    (d.text "T").toList = d.face ++ (fraction d.micro ++ "+00:00".toList) := by
  have hzone : d.zone = "+00:00" := by
    rw [zone, h.offset]
    decide +kernel
  have hclock : d.clock =
      d.wholeClock ++ if d.micro = 0 then "" else "." ++ paddedNumber 6 d.micro := by
    unfold clock
    split
    · rw [String.append_empty]
      rfl
    · rw [← String.append_assoc]
      rfl
  have htext : d.text "T" = d.faceText ++
      (if d.micro = 0 then "" else "." ++ paddedNumber 6 d.micro) ++ "+00:00" := by
    show d.date.text ++ "T" ++ d.clock ++ d.zone = _
    rw [hclock, hzone, faceText, ← String.append_assoc]
  rw [htext, String.toList_append, String.toList_append, toList_faceText h, List.append_assoc,
    fraction]
  split
  · rfl
  · have hmicro : (paddedNumber 6 d.micro).toList = lastDigits 6 d.micro :=
      toList_paddedNumber h.micro
    rw [String.toList_append, hmicro]
    rfl

/-! ### The order of stamps -/

/-- Moments in order have faces in order. -/
theorem face_cases (hd : d.IsUtc) (he : e.IsUtc) (h : d.micros ≤ e.micros) :
    d.face < e.face ∨ d.face = e.face ∧ d.micro ≤ e.micro := by
  obtain ⟨hless, hsame⟩ := parts_cases hd he
  have hdmicro := hd.micro
  have hemicro := he.micro
  rw [micros, micros] at h
  by_cases hlt : d.seconds < e.seconds
  · exact Or.inl (layout_lt (hless hlt) hd.fits he.fits)
  · have heq : d.seconds = e.seconds := by omega
    refine Or.inr ⟨?_, by omega⟩
    rw [face, face, hsame heq]

/-- What stands behind the faces decides when these are the same. -/
theorem le_of_face {s t : String} {u v : List Char} (hd : d.IsUtc) (he : e.IsUtc)
    (h : d.micros ≤ e.micros) (hs : s.toList = d.face ++ u) (ht : t.toList = e.face ++ v)
    (htail : d.micro ≤ e.micro → ¬v < u) : s ≤ t := by
  rw [← String.not_lt, String.lt_iff, hs, ht]
  rcases face_cases hd he h with hface | ⟨hface, hmicro⟩
  · refine List.not_lt.mpr (List.le_of_lt (append_lt_append hface ?_ u v))
    rw [length_face hd, length_face he]
  · rw [hface]
    exact List.not_lt.mpr (List.append_left_le (List.not_lt.mp (htail hmicro)))

theorem humanText_le (hd : d.IsUtc) (he : e.IsUtc) (h : d.micros ≤ e.micros) :
    Stamp.humanText d ≤ Stamp.humanText e := by
  refine le_of_face hd he h (toList_humanText hd) (toList_humanText he) fun hmicro => ?_
  have hlimit : e.micro / 1000 < 10 ^ 3 := by
    have hemicro := he.micro
    omega
  rcases Nat.lt_or_eq_of_le (Nat.div_le_div_right hmicro) with hlt | heq
  · refine List.not_lt.mpr (List.le_of_lt (List.cons_lt_cons_iff.mpr (Or.inr ⟨rfl, ?_⟩)))
    exact append_lt_append (lastDigits_lt hlt hlimit) (by simp) _ _
  · rw [heq]
    exact List.lt_irrefl _

theorem text_le (hd : d.IsUtc) (he : e.IsUtc) (h : d.micros ≤ e.micros) :
    d.text "T" ≤ e.text "T" := by
  refine le_of_face hd he h (toList_text hd) (toList_text he) fun hmicro => ?_
  rcases Nat.lt_or_eq_of_le hmicro with hlt | heq
  · have hsome : ¬e.micro = 0 := by omega
    rw [fraction, fraction, if_neg hsome]
    refine List.not_lt.mpr (List.le_of_lt ?_)
    split
    · -- without a fraction a plus sign follows, which comes before the point
      exact List.cons_lt_cons_iff.mpr (Or.inl (by decide))
    · refine List.cons_lt_cons_iff.mpr (Or.inr ⟨rfl, ?_⟩)
      exact append_lt_append (lastDigits_lt hlt he.micro) (by simp) _ _
  · rw [heq]
    exact List.lt_irrefl _

end DateTime

/-! ### Reading a stamp -/

namespace Yaml.Timestamp

theorem digits?_lastDigits {least width : Nat} (h : least ≤ width) (n : Nat) (rest : List Char) :
    digits? least width (lastDigits width n ++ rest) = some (lastDigits width n, rest) := by
  have htake : ((lastDigits width n ++ rest).take width).takeWhile Char.isDigit =
      lastDigits width n := by
    rw [List.take_left' (length_lastDigits width n)]
    exact List.takeWhile_eq_self_iff.mpr fun c hc => isDigit_of_mem_lastDigits hc
  simp only [digits?, htake, length_lastDigits]
  rw [if_neg (Nat.not_lt.mpr h), List.drop_left' (length_lastDigits width n)]

theorem after?_cons (c : Char) (cs : List Char) : after? c (c :: cs) = some cs := if_pos rfl

theorem number_lastDigits {width n : Nat} (h : n < 10 ^ width) :
    number (lastDigits width n) = n := by
  have hdigit : ∀ k < 10, (Nat.digitChar k).toNat - 48 = k := by decide
  induction width generalizing n with
  | zero =>
    rw [Nat.pow_zero] at h
    exact (Nat.lt_one_iff.mp h).symm
  | succ width ih =>
    have hrest := ih (n := n / 10) (by omega)
    rw [number] at hrest ⊢
    rw [lastDigits, List.foldl_append, hrest, List.foldl_cons, List.foldl_nil,
      hdigit _ (Nat.mod_lt n (by decide))]
    omega

theorem micros_lastDigits {width n : Nat} (h : n < 10 ^ width) (hwidth : width ≤ 6) :
    micros (lastDigits width n) = n * 10 ^ (6 - width) := by
  have htake : (lastDigits width n).take 6 = lastDigits width n :=
    List.take_of_length_le (Nat.le_trans (Nat.le_of_eq (length_lastDigits width n)) hwidth)
  simp only [micros, htake, length_lastDigits, number_lastDigits h]
  rfl

/-- The digits of a fraction, if there is one, and what follows. -/
def fractionOf (cs : List Char) : List Char × List Char :=
  match cs with
  | '.' :: rest => (rest.takeWhile Char.isDigit, rest.dropWhile Char.isDigit)
  | _ => ([], cs)

theorem fractionOf_point {ds z : List Char} (hds : ∀ c ∈ ds, c.isDigit = true)
    (hnone : z.takeWhile Char.isDigit = []) : fractionOf ('.' :: (ds ++ z)) = (ds, z) := by
  have htake : (ds ++ z).takeWhile Char.isDigit = ds := by
    rw [List.takeWhile_append_of_pos hds, hnone, List.append_nil]
  have hdrop : (ds ++ z).dropWhile Char.isDigit = z := by
    have hall := List.takeWhile_append_dropWhile (p := Char.isDigit) (l := ds ++ z)
    rw [htake] at hall
    exact List.append_cancel_left hall
  simp only [fractionOf, htake, hdrop]

theorem bind_of_some {α β : Type} {o : Option α} {a : α} {f : α → Option β} (h : o = some a) :
    (o >>= f) = f a := by
  rw [h]
  rfl

/-- Groups of digits are read as they stand. -/
theorem read?_groups {year month day hour minute second : List Char}
    (hyear : ∀ rest, digits? 4 4 (year ++ rest) = some (year, rest))
    (hmonth : ∀ rest, digits? 1 2 (month ++ rest) = some (month, rest))
    (hday : ∀ rest, digits? 1 2 (day ++ rest) = some (day, rest))
    (hhour : ∀ rest, digits? 1 2 (hour ++ rest) = some (hour, rest))
    (hminute : ∀ rest, digits? 2 2 (minute ++ rest) = some (minute, rest))
    (hsecond : ∀ rest, digits? 2 2 (second ++ rest) = some (second, rest)) (tail : List Char) :
    read? (year ++ '-' :: (month ++ '-' :: (day ++ 'T' :: (hour ++ ':' :: (minute ++ ':' ::
      (second ++ tail)))))) =
    (zone? (fractionOf tail).2).map fun zone =>
      ⟨year, month, day, some (hour, minute, second), (fractionOf tail).1, zone⟩ := by
  rw [read?]
  refine (bind_of_some (hyear _)).trans ?_
  refine (bind_of_some (after?_cons _ _)).trans ?_
  refine (bind_of_some (hmonth _)).trans ?_
  refine (bind_of_some (after?_cons _ _)).trans ?_
  refine (bind_of_some (hday _)).trans ?_
  -- the text goes on, with the letter that starts the time of day
  refine (if_neg Bool.false_ne_true).trans ?_
  refine (bind_of_some rfl).trans ?_
  refine (bind_of_some (hhour _)).trans ?_
  refine (bind_of_some (after?_cons _ _)).trans ?_
  refine (bind_of_some (hminute _)).trans ?_
  refine (bind_of_some (after?_cons _ _)).trans ?_
  refine (bind_of_some (hsecond _)).trans ?_
  rw [Option.map_eq_bind]
  rfl

/-- What is read from the face of a moment, a fraction and a distance from universal time. -/
def ofFace (d : DateTime) (fraction : List Char) (zone : Option (Bool × List Char × List Char)) :
    Timestamp :=
  ⟨lastDigits 4 d.date.year, lastDigits 2 d.date.month, lastDigits 2 d.date.day,
    some (lastDigits 2 d.hour, lastDigits 2 d.minute, lastDigits 2 d.second), fraction, zone⟩

variable {d : DateTime}

theorem read?_face {tail ds z : List Char} {zone : Option (Bool × List Char × List Char)}
    (htail : fractionOf tail = (ds, z)) (hzone : zone? z = some zone) :
    read? (d.face ++ tail) = some (ofFace d ds zone) := by
  have hface : d.face ++ tail =
      lastDigits 4 d.date.year ++ '-' :: (lastDigits 2 d.date.month ++ '-' ::
        (lastDigits 2 d.date.day ++ 'T' :: (lastDigits 2 d.hour ++ ':' ::
          (lastDigits 2 d.minute ++ ':' :: (lastDigits 2 d.second ++ tail))))) := by
    simp only [DateTime.face, DateTime.columns, DateTime.parts, layout, List.append_assoc,
      List.cons_append, List.nil_append, List.append_nil]
  have htwo (n : Nat) := digits?_lastDigits (Nat.le_refl 2) n
  have hone (n : Nat) := digits?_lastDigits (show 1 ≤ 2 by decide) n
  rw [hface, read?_groups (digits?_lastDigits (Nat.le_refl 4) _) (hone _) (hone _) (hone _)
    (htwo _) (htwo _), htail, hzone]
  rfl

/-- What is read is the moment, with the fraction that is written. -/
theorem moment?_ofFace (h : d.IsUtc) {ds : List Char}
    {zone : Option (Bool × List Char × List Char)} (hzone : (ofFace d ds zone).offset = some 0) :
    (ofFace d ds zone).moment? = some { d with micro := micros ds } := by
  obtain ⟨hyear, hmonth, hday, hhour, hminute, hsecond⟩ := h.widths
  have hdate : (ofFace d ds zone).date = d.date := by
    rw [date, ofFace, number_lastDigits hyear, number_lastDigits hmonth, number_lastDigits hday]
  rw [moment?, hdate, hzone]
  simp only [ofFace, Option.map_some, number_lastDigits hhour, number_lastDigits hminute,
    number_lastDigits hsecond, h.offset]

end Yaml.Timestamp

namespace Stamp

open Yaml (Timestamp)

/-- The time that a text tells, in microseconds since the start of 1970. -/
def time? (s : String) : Option Int :=
  (Timestamp.read? s.toList).bind fun t =>
    (t.moment?.filter Timestamp.isMoment).map DateTime.micros

variable {d : DateTime}

theorem time?_of_read? {s : String} {ds : List Char}
    {zone : Option (Bool × List Char × List Char)} (h : d.IsUtc)
    (hread : Timestamp.read? s.toList = some (.ofFace d ds zone))
    (hzone : (Timestamp.ofFace d ds zone).offset = some 0) :
    time? s = some (d.seconds * 1000000 + Timestamp.micros ds) := by
  have hmoment : Timestamp.isMoment { d with micro := Timestamp.micros ds } = true := by
    simp [Timestamp.isMoment, h.date, h.hour, h.minute, h.second, h.offset]
  rw [time?, hread, Option.bind_some, Timestamp.moment?_ofFace h hzone,
    Option.filter_some_pos hmoment]
  rfl

theorem time?_humanText (h : d.IsUtc) :
    time? (humanText d) = some (d.micros / 1000 * 1000) := by
  have hmillis : d.micro / 1000 < 10 ^ 3 := by
    have hmicro := h.micro
    omega
  have hfraction : Timestamp.fractionOf ('.' :: (lastDigits 3 (d.micro / 1000) ++ ['Z'])) =
      (lastDigits 3 (d.micro / 1000), ['Z']) :=
    Timestamp.fractionOf_point (fun _ hc => isDigit_of_mem_lastDigits hc) (by decide)
  have hzone : Timestamp.zone? ['Z'] = some (some (false, ['0'], [])) := by decide
  have hread := Timestamp.read?_face (d := d) hfraction hzone
  rw [← DateTime.toList_humanText h] at hread
  have htime : d.seconds * 1000000 + (d.micro / 1000 * 10 ^ (6 - 3) : Nat) =
      d.micros / 1000 * 1000 := by
    rw [DateTime.micros]
    omega
  rw [time?_of_read? h hread rfl, Timestamp.micros_lastDigits hmillis (by decide), htime]

theorem time?_text (h : d.IsUtc) : time? (d.text "T") = some d.micros := by
  have hzone : Timestamp.zone? "+00:00".toList = some (some (false, ['0', '0'], ['0', '0'])) := by
    decide
  have htext := DateTime.toList_text h
  by_cases hwhole : d.micro = 0
  · rw [DateTime.fraction, if_pos hwhole, List.nil_append] at htext
    have hnone : Timestamp.fractionOf "+00:00".toList = ([], "+00:00".toList) := rfl
    have hread := Timestamp.read?_face (d := d) hnone hzone
    rw [← htext] at hread
    rw [time?_of_read? h hread rfl, DateTime.micros, hwhole]
    rfl
  · rw [DateTime.fraction, if_neg hwhole, List.cons_append] at htext
    have hfraction : Timestamp.fractionOf ('.' :: (lastDigits 6 d.micro ++ "+00:00".toList)) =
        (lastDigits 6 d.micro, "+00:00".toList) :=
      Timestamp.fractionOf_point (fun _ hc => isDigit_of_mem_lastDigits hc) (by decide)
    have hread := Timestamp.read?_face (d := d) hfraction hzone
    rw [← htext] at hread
    rw [time?_of_read? h hread rfl, Timestamp.micros_lastDigits h.micro (by decide), Nat.sub_self,
      Nat.pow_zero, Nat.mul_one, DateTime.micros]

/-! ### The two forms -/

/-- What follows the seconds in the two forms of a time with so many microseconds of the second. -/
inductive Tails (micros : Int) : List Char → List Char → Prop where
  | whole : micros = 0 → Tails micros ".000Z".toList "+00:00".toList
  | broken (six : List Char) : six.length = 6 → (∀ c ∈ six, c.isDigit = true) →
      (Timestamp.number six : Int) = micros → micros ≠ 0 →
      Tails micros ('.' :: (six.take 3 ++ ['Z'])) ('.' :: (six ++ "+00:00".toList))

/-- A stamp shows a time, given in microseconds since the start of 1970. -/
structure Shows (s : Stamp) (m : Int) : Prop where
  length : s.human.length = 24
  shared : s.human.toList.take 19 = s.exact.toList.take 19
  tails : Tails (m % 1000000) (s.human.toList.drop 19) (s.exact.toList.drop 19)
  human : time? s.human = some (m / 1000 * 1000)
  exact : time? s.exact = some m

theorem tails_ofMoment (h : d.IsUtc) : Tails (d.micros % 1000000)
    ('.' :: (lastDigits 3 (d.micro / 1000) ++ ['Z']))
    (DateTime.fraction d.micro ++ "+00:00".toList) := by
  have hmicro := h.micro
  have hrest : d.micros % 1000000 = d.micro := by
    rw [DateTime.micros]
    omega
  rw [hrest]
  by_cases hwhole : d.micro = 0
  · rw [DateTime.fraction, if_pos hwhole, hwhole]
    exact .whole rfl
  · have hthree : (lastDigits 6 d.micro).take 3 = lastDigits 3 (d.micro / 1000) := by
      have hsplit := lastDigits_add 3 3 d.micro
      rw [hsplit, List.take_left' (length_lastDigits 3 _)]
      rfl
    rw [DateTime.fraction, if_neg hwhole, ← hthree]
    refine .broken _ (length_lastDigits 6 _) (fun _ hc => isDigit_of_mem_lastDigits hc) ?_ ?_
    · rw [Timestamp.number_lastDigits hmicro]
    · omega

theorem shows_ofMoment (h : d.IsUtc) : (ofMoment d).Shows d.micros := by
  have hhuman : (ofMoment d).human.toList = _ := DateTime.toList_humanText h
  have hexact : (ofMoment d).exact.toList = _ := DateTime.toList_text h
  have hface := DateTime.length_face h
  refine ⟨?_, ?_, ?_, time?_humanText h, time?_text h⟩
  · rw [← String.length_toList, hhuman, List.length_append, hface, List.length_cons,
      List.length_append, length_lastDigits]
    rfl
  · rw [hhuman, hexact, List.take_left' hface, List.take_left' hface]
  · rw [hhuman, hexact, List.drop_left' hface, List.drop_left' hface]
    exact tails_ofMoment h

/-- The stamp of seconds and microseconds is that of their sum. -/
theorem ofParts_eq {m : Int} {s : Stamp} (hstart : 0 ≤ m) (hend : m < yearStart 10000)
    (h : ofMicros? m = some s) : ofParts (m / 1000000) (m % 1000000) = .ok s := by
  have hlimit : yearStart 10000 = 253402300800000000 := by decide +kernel
  rw [hlimit] at hend
  have hsum : m / 1000000 * 1000000 + m % 1000000 = m := Int.ediv_mul_add_emod m 1000000
  have hclock : ¬(m / 1000000 < -clockLimit || clockLimit ≤ m / 1000000) = true := by
    rw [Bool.or_eq_true, decide_eq_true_eq, decide_eq_true_eq, clockLimit]
    omega
  have hsystem : ¬(m / 1000000 < systemLeast || systemGreatest < m / 1000000) = true := by
    rw [Bool.or_eq_true, decide_eq_true_eq, decide_eq_true_eq, systemLeast, systemGreatest]
    omega
  rw [ofParts, if_neg hclock, if_neg hsystem, hsum, h]

/-- A stamp that is made of a number of seconds is that of a whole number of microseconds. -/
theorem exists_micros {v : Value} {s : Stamp} (h : ofSeconds v = .ok s) :
    ∃ m, ofMicros? m = some s := by
  have hparts : ∀ seconds micros, ofParts seconds micros = .ok s → ∃ m, ofMicros? m = some s := by
    intro seconds micros hok
    unfold ofParts at hok
    split_ifs at hok
    split at hok
    · next hmoment =>
      obtain rfl := Except.ok.inj hok
      exact ⟨_, hmoment⟩
    · cases hok
  unfold ofSeconds at h
  split at h
  · exact hparts _ _ h
  · exact hparts _ _ h
  · cases h
  · cases h
  · exact hparts _ _ h
  · cases h

/-- **The two forms of a time agree, tell the time, and are ordered by time.**  A number of seconds
has the stamp of a whole number of microseconds.  For every such number from the start of 1970 to
the end of the year 9999 the human form has 24 characters, the first 19 of which both forms share;
behind them the human form has the first three of the six digits of the exact form, or zeros where
that has none; and read as dates and times of day, the forms are the time cut to milliseconds and
the time itself. -/
theorem stamps_agree :
    (∀ v s, ofSeconds v = .ok s → ∃ m, ofMicros? m = some s) ∧
    (∀ m, 0 ≤ m → m < yearStart 10000 →
      ∃ s, ofMicros? m = some s ∧ ofParts (m / 1000000) (m % 1000000) = .ok s ∧ s.Shows m) ∧
    ∀ a b, 0 ≤ a → a ≤ b → b < yearStart 10000 → ∀ s t, ofMicros? a = some s →
      ofMicros? b = some t → s.human ≤ t.human ∧ s.exact ≤ t.exact := by
  refine ⟨fun v s => exists_micros, fun m hstart hend => ?_,
    fun a b hstart hab hend s t hs ht => ?_⟩
  · obtain ⟨d, hd, hutc, rfl⟩ := DateTime.exists_moment hstart hend
    have hs : ofMicros? d.micros = some (ofMoment d) := by rw [ofMicros?, hd, Option.map_some]
    exact ⟨_, hs, ofParts_eq hstart hend hs, shows_ofMoment hutc⟩
  · obtain ⟨d, hd, hdutc, rfl⟩ := DateTime.exists_moment hstart (Int.lt_of_le_of_lt hab hend)
    obtain ⟨e, he, heutc, rfl⟩ := DateTime.exists_moment (Int.le_trans hstart hab) hend
    rw [ofMicros?, hd, Option.map_some, Option.some.injEq] at hs
    rw [ofMicros?, he, Option.map_some, Option.some.injEq] at ht
    subst hs ht
    exact ⟨DateTime.humanText_le hdutc heutc hab, DateTime.text_le hdutc heutc hab⟩

/-- A time with a fraction, and the whole second before it. -/
theorem stamps_agree_same_second :
    (∃ s, ofMicros? 1792397702114000 = some s ∧
      ofParts (1792397702114000 / 1000000) (1792397702114000 % 1000000) = .ok s ∧
      s.Shows 1792397702114000) ∧
    "2026-10-19T08:15:02.000Z" ≤ "2026-10-19T08:15:02.114Z" ∧
    "2026-10-19T08:15:02+00:00" ≤ "2026-10-19T08:15:02.114000+00:00" :=
  ⟨stamps_agree.2.1 1792397702114000 (by decide) (by decide +kernel),
    stamps_agree.2.2 1792397702000000 1792397702114000 (by decide) (by decide) (by decide +kernel)
      ⟨"2026-10-19T08:15:02.000Z", "2026-10-19T08:15:02+00:00"⟩
      ⟨"2026-10-19T08:15:02.114Z", "2026-10-19T08:15:02.114000+00:00"⟩
      (by decide +kernel) (by decide +kernel)⟩

end Stamp

end PlotPage
