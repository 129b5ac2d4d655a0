/-!
# Bytes in base 64

Four characters stand for three bytes, six bits each.  Characters that are no digits are passed
over.  An equals sign fills up a group: it ends the text when the group has two digits and two
signs, or three digits and one sign; signs count only from the third place of a group on, and a
digit after them makes them void.
-/

namespace PlotPage.Text.Base64

def digit? (c : Char) : Option Nat :=
  if c.isUpper then some (c.toNat - 65)
  else if c.isLower then some (c.toNat - 71)
  else if c.isDigit then some (c.toNat + 4)
  else if c = '+' then some 62
  else if c = '/' then some 63
  else none

/-- The bytes that the digits of a group make up with the next digit, which are one or none. -/
def nextByte (group : List Nat) (d : Nat) : List UInt8 :=
  match group.getLast? with
  | none => []
  | some last => [UInt8.ofNat (last * Nat.pow 4 group.length + d / Nat.pow 4 (3 - group.length))]

/-- The bytes of a text after the digits `group` of an unfinished group and `signs` equals signs;
none if the text ends in the middle of a group. -/
def decodeFrom (group : List Nat) (signs : Nat) : List Char → Option (List UInt8)
  | [] => if group.isEmpty then some [] else none
  | c :: cs =>
    if c = '=' then
      if group.length < 2 then decodeFrom group signs cs
      else if 4 ≤ group.length + signs + 1 then some []
      else decodeFrom group (signs + 1) cs
    else
      match digit? c with
      | none => decodeFrom group signs cs
      | some d =>
        (decodeFrom (if group.length = 3 then [] else group ++ [d]) 0 cs).map (nextByte group d ++ ·)

def decode? (cs : List Char) : Option (List UInt8) := decodeFrom [] 0 cs

end PlotPage.Text.Base64
