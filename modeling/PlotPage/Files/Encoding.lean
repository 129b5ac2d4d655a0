import PlotPage.Fault

/-!
# Text encodings

The encodings in which a text can be written, each with the names by which it is asked for.  A name
is compared without regard to case, and all characters in it but letters, digits and dots count as
the same separator.
-/

namespace PlotPage

/-- An encoding of texts. -/
inductive Encoding where
  | utf8
  | utf8Marked
  | ascii
  | latin1
  /-- Single bytes as in Latin-1 but for some, each with the character that it stands for or none. -/
  | codePage (changes : List (Nat × Option Nat))
  | utf16 (bigEndian marked : Bool)
  | utf32 (bigEndian marked : Bool)
  deriving DecidableEq, Repr

namespace Encoding

/-- The bytes of a word of `size` bytes. -/
def wordBytes (bigEndian : Bool) (size n : Nat) : List UInt8 :=
  let low := (List.range size).map fun i => UInt8.ofNat (n / Nat.pow 256 i)
  if bigEndian then low.reverse else low

/-- The 16-bit units of a character. -/
def units16 (c : Char) : List Nat :=
  if c.toNat < 0x10000 then [c.toNat]
  else [0xd800 + (c.toNat - 0x10000) / 0x400, 0xdc00 + (c.toNat - 0x10000) % 0x400]

/-- The characters below a limit as single bytes; none if one is not below it. -/
def singleBytes? (limit : Nat) (s : String) : Option (List UInt8) :=
  s.toList.mapM fun c => if c.toNat < limit then some (UInt8.ofNat c.toNat) else none

/-- The byte for a character in a code page. -/
def pageByte? (changes : List (Nat × Option Nat)) (c : Char) : Option UInt8 :=
  match changes.find? fun e => e.2 = some c.toNat with
  | some e => some (UInt8.ofNat e.1)
  | none =>
    if c.toNat < 0x100 && (changes.lookup c.toNat).isNone then some (UInt8.ofNat c.toNat) else none

/-- The code page with quotation marks and dashes that is usual on office systems. -/
def windows1252 : Encoding := .codePage [
  (0x80, some 0x20ac), (0x81, none), (0x82, some 0x201a), (0x83, some 0x0192), (0x84, some 0x201e),
  (0x85, some 0x2026), (0x86, some 0x2020), (0x87, some 0x2021), (0x88, some 0x02c6),
  (0x89, some 0x2030), (0x8a, some 0x0160), (0x8b, some 0x2039), (0x8c, some 0x0152), (0x8d, none),
  (0x8e, some 0x017d), (0x8f, none), (0x90, none), (0x91, some 0x2018), (0x92, some 0x2019),
  (0x93, some 0x201c), (0x94, some 0x201d), (0x95, some 0x2022), (0x96, some 0x2013),
  (0x97, some 0x2014), (0x98, some 0x02dc), (0x99, some 0x2122), (0x9a, some 0x0161),
  (0x9b, some 0x203a), (0x9c, some 0x0153), (0x9d, none), (0x9e, some 0x017e), (0x9f, some 0x0178)]

/-- Latin-1 with the euro sign and a few letters in place of rare signs. -/
def latin9 : Encoding := .codePage [
  (0xa4, some 0x20ac), (0xa6, some 0x0160), (0xa8, some 0x0161), (0xb4, some 0x017d),
  (0xb8, some 0x017e), (0xbc, some 0x0152), (0xbd, some 0x0153), (0xbe, some 0x0178)]

/-- The bytes of a text in an encoding, if it can be written. -/
def encode? (e : Encoding) (s : String) : Option (List UInt8) :=
  match e with
  | .utf8 => some s.toUTF8.toList
  | .utf8Marked => some ([0xef, 0xbb, 0xbf] ++ s.toUTF8.toList)
  | .ascii => singleBytes? 0x80 s
  | .latin1 => singleBytes? 0x100 s
  | .codePage changes => s.toList.mapM (pageByte? changes)
  | .utf16 big marked =>
    some ((if marked then wordBytes big 2 0xfeff else []) ++
      s.toList.flatMap fun c => (units16 c).flatMap (wordBytes big 2))
  | .utf32 big marked =>
    some ((if marked then wordBytes big 4 0xfeff else []) ++
      s.toList.flatMap fun c => wordBytes big 4 c.toNat)

/-- Replaces each run of separators of a name by one underscore. -/
def joinSeparators : (separated : Bool) → List Char → List Char
  | _, [] => []
  | separated, c :: cs =>
    if c.isAlphanum || c = '.' then
      (if separated then ['_', c] else [c]) ++ joinSeparators false cs
    else joinSeparators true cs

/-- The form of a name in which names are compared. -/
def normalName (name : String) : String :=
  let cs := (name.toList.map Char.toLower).filter fun c => c.toNat < 0x80
  String.ofList (joinSeparators false (cs.dropWhile fun c => !(c.isAlphanum || c = '.')))

def names : List (Encoding × List String) := [
  (.utf8, ["utf_8", "utf8", "u8", "utf", "utf8_ucs2", "utf8_ucs4", "cp65001"]),
  (.utf8Marked, ["utf_8_sig"]),
  (.ascii, ["ascii", "646", "ansi_x3.4_1968", "ansi_x3_4_1968", "ansi_x3.4_1986", "cp367",
    "csascii", "ibm367", "iso646_us", "iso_646.irv_1991", "iso_ir_6", "us", "us_ascii"]),
  (.latin1, ["latin_1", "iso8859_1", "8859", "cp819", "csisolatin1", "ibm819", "iso8859",
    "iso_8859_1", "iso_8859_1_1987", "iso_ir_100", "l1", "latin", "latin1"]),
  (windows1252, ["cp1252", "1252", "windows_1252"]),
  (latin9, ["iso8859_15", "iso_8859_15", "l9", "latin9"]),
  (.utf16 false true, ["utf_16", "u16", "utf16"]),
  (.utf16 false false, ["utf_16_le", "unicodelittleunmarked", "utf_16le"]),
  (.utf16 true false, ["utf_16_be", "unicodebigunmarked", "utf_16be"]),
  (.utf32 false true, ["utf_32", "u32", "utf32"]),
  (.utf32 false false, ["utf_32_le", "utf_32le"]),
  (.utf32 true false, ["utf_32_be", "utf_32be"])]

def ofName? (name : String) : Option Encoding :=
  (names.find? fun e => e.2.contains (normalName name)).map Prod.fst

/-- The bytes of a text in the encoding of a name. -/
def encodeNamed (name text : String) : Except Fault (List UInt8) :=
  match ofName? name with
  | none => .error (.outside .unknownEncoding)
  | some e =>
    match e.encode? text with
    | some bytes => .ok bytes
    | none => .error (.outside .unencodable)

end Encoding

end PlotPage
