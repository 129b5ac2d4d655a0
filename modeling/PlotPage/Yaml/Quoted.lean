import PlotPage.Text.Halves
import PlotPage.Yaml.Cursor

/-!
# Quoted texts

Between single quotes only the quote itself is special, and it is written twice; between double
quotes a backslash begins an escape.  In both a line break and the blanks around it are folded, and
no line may begin with the mark of a document.
-/

namespace PlotPage.Yaml.Quoted

def escapes : List (Char × Nat) := [
  ('0', 0x00), ('a', 0x07), ('b', 0x08), ('t', 0x09), ('\t', 0x09), ('n', 0x0a), ('v', 0x0b),
  ('f', 0x0c), ('r', 0x0d), ('e', 0x1b), (' ', 0x20), ('"', 0x22), ('\\', 0x5c), ('/', 0x2f),
  ('N', 0x85), ('_', 0xa0), ('L', 0x2028), ('P', 0x2029)]

/-- The number of hexadecimal digits that an escape takes. -/
def codeSize? : Char → Option Nat
  | 'x' => some 2
  | 'u' => some 4
  | 'U' => some 8
  | _ => none

/-- The value of a hexadecimal digit. -/
def hexValue? (c : Char) : Option Nat :=
  if c.isDigit then some (c.toNat - 48)
  else if 'a' ≤ c && c ≤ 'f' then some (c.toNat - 87)
  else if 'A' ≤ c && c ≤ 'F' then some (c.toNat - 55)
  else none

def hexNumber? (cs : List Char) : Option Nat :=
  (cs.mapM hexValue?).map fun ds => ds.foldl (fun n d => 16 * n + d) 0

/-- The character with the given number, or the one that stands for half of a surrogate pair. -/
def character (halves : Halves) (n : Nat) : Except Problem Char :=
  if 0x7fffffff < n then .error (.outside .tooLarge)
  else if 0x10ffff < n then .error (.outside .notNumeral)
  else if 0xd800 ≤ n && n ≤ 0xdfff then .ok (halves.stand n)
  else .ok (Char.ofNat n)

/-- The line breaks that follow a line break, with the blanks around them skipped. -/
def moreBreaks : (fuel : Nat) → Cursor → Except Problem (List Char × Cursor)
  | 0, _ => .error .malformed
  | fuel + 1, c =>
    if c.isAtMark then .error .malformed
    else
      let c := c.skipWhile isSpaceOrTab
      match c.lineBreak? with
      | none => .ok ([], c)
      | some (b, c) => do
        let (bs, c) ← moreBreaks fuel c
        return (b :: bs, c)

def escape (halves : Halves) (c : Cursor) : Except Problem (List Char × Cursor) :=
  match c.rest with
  | [] => .error .malformed
  | ch :: rest =>
    match escapes.lookup ch, codeSize? ch with
    | some n, _ => .ok ([Char.ofNat n], c.step)
    | none, some size =>
      match hexNumber? (rest.take size) with
      | some n =>
        if (rest.take size).length < size then .error .malformed
        else do return ([← character halves n], c.forward (size + 1))
      | none => .error .malformed
    | none, none =>
      match c.lineBreak? with
      | some (_, c) => moreBreaks (c.size + 1) c
      | none => .error .malformed

def content (halves : Halves) (double : Bool) :
    (fuel : Nat) → Cursor → Except Problem (List Char × Cursor)
  | 0, _ => .error .malformed
  | fuel + 1, c => do
    let quote := if double then '"' else '\''
    match c.rest with
    | [] => throw .malformed
    | ch :: rest =>
      if ch = quote then
        if !double && rest.head? = some quote then
          let (text, c) ← content halves double fuel (c.forward 2)
          return (quote :: text, c)
        else return ([], c.step)
      else if double && ch = '\\' then
        let (part, c) ← escape halves c.step
        let (text, c) ← content halves double fuel c
        return (part ++ text, c)
      else if isSpaceOrTab ch || isBreak ch then
        let (blanks, c) := c.takeWhile isSpaceOrTab
        let (part, c) ← match c.lineBreak? with
          | none => pure (blanks, c)
          | some (b, c) => do
            let (bs, c) ← moreBreaks (c.size + 1) c
            pure (foldBreaks b bs, c)
        let (text, c) ← content halves double fuel c
        return (part ++ text, c)
      else
        let (text, c) ← content halves double fuel c.step
        return (ch :: text, c)

def read (halves : Halves) (double : Bool) (c : Cursor) : Except Problem (String × Cursor) := do
  let (text, c) ← content halves double (c.size + 1) c.step
  return (String.ofList text, c)

end PlotPage.Yaml.Quoted
