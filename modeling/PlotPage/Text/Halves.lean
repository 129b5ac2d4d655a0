/-!
# Halves of surrogate pairs

A quoted YAML text may name half a surrogate pair by its number.  Such a half is no character, and
no encoding has bytes for it; but it stays in the text until the text is encoded, and a text that is
never encoded may well have one.

Texts are made of characters here, so each half has a character in its place, from a block of
characters for private use.  Which block this is, is left open: one can be chosen from which no text
has a character otherwise.  A private character is no digit, letter, blank or line break, and
neither is a half.
-/

namespace PlotPage

/-- The characters that stand for halves of surrogate pairs: the first of a block of 2048, as many
as there are halves. -/
structure Halves where
  first : Nat
  isPrivate : 0xf0000 ≤ first ∧ first + 0x800 ≤ 0x110000

namespace Halves

/-- The last block there is. -/
def last : Halves := ⟨0x10f800, by decide⟩

/-- The character that stands for the half with a number. -/
def stand (h : Halves) (n : Nat) : Char := Char.ofNat (h.first + (n - 0xd800))

/-- The number of the half that a character stands for. -/
def half? (h : Halves) (c : Char) : Option Nat :=
  if h.first ≤ c.toNat && c.toNat < h.first + 0x800 then some (0xd800 + (c.toNat - h.first))
  else none

theorem half?_stand (h : Halves) {n : Nat} (hlow : 0xd800 ≤ n) (hhigh : n ≤ 0xdfff) :
    h.half? (h.stand n) = some n := by
  obtain ⟨hfirst, hlast⟩ := h.isPrivate
  have hvalid : (h.first + (n - 0xd800)).isValidChar := Or.inr ⟨by omega, by omega⟩
  have hchar : (h.stand n).toNat = h.first + (n - 0xd800) := by
    rw [stand, Char.ofNat, dif_pos hvalid]
    rfl
  have hinside : h.first ≤ (h.stand n).toNat ∧ (h.stand n).toNat < h.first + 0x800 := by omega
  simp only [half?, hinside, decide_true, Bool.and_self, if_true, Option.some.injEq]
  omega

/-- Whether a half stands for a single byte that belongs to no character. -/
def isByte (n : Nat) : Bool := 0xdc80 ≤ n && n ≤ 0xdcff

/-- Whether a text can be encoded: it has no half, except that halves for bytes are written as these
bytes where this is asked for. -/
def encodes (h : Halves) (escapesBytes : Bool) (s : String) : Bool :=
  s.toList.all fun c => (h.half? c).all fun n => escapesBytes && isByte n

/-- A text with a half has no bytes. -/
theorem encodes_of_stand_mem (h : Halves) {n : Nat} (hlow : 0xd800 ≤ n) (hhigh : n ≤ 0xdfff)
    {s : String} (hs : h.stand n ∈ s.toList) : h.encodes false s = false := by
  rw [encodes, List.all_eq_false]
  refine ⟨_, hs, ?_⟩
  rw [h.half?_stand hlow hhigh]
  exact Bool.false_ne_true

end Halves

end PlotPage
