import PlotPage.Text.Quoted

/-!
# Bytes and texts

A list of bytes is shown like a text whose characters have the numbers of the bytes, with a `b` in
front, except that nothing beyond ASCII is written as it is.  Bytes below 128 are a text in ASCII.
-/

namespace PlotPage.Text

/-- The text that bytes are in ASCII. -/
def ofAscii? (bs : List UInt8) : Option String :=
  if bs.all (· < 128) then some (String.ofList (bs.map fun b => Char.ofNat b.toNat)) else none

/-- One byte inside the quotes `mark`. -/
def quoteByte (mark : Char) (b : UInt8) : List Char :=
  if b < 128 then quoteChar mark (Char.ofNat b.toNat) else '\\' :: 'x' :: hexDigits 2 b.toNat

def quoteBytes (bs : List UInt8) : String :=
  let mark := quoteMark (bs.map fun b => Char.ofNat b.toNat)
  String.ofList ('b' :: mark :: (bs.flatMap (quoteByte mark) ++ [mark]))

end PlotPage.Text
