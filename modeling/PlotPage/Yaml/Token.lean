import PlotPage.Yaml.Block
import PlotPage.Yaml.Plain
import PlotPage.Yaml.Quoted
import PlotPage.Yaml.Word

/-!
# Tokens

A YAML text as a list of tokens.  The indentation of blocks becomes tokens of its own, so that a
token list needs no columns.  Whether a token begins the key of an entry is known only when the
colon after it comes; until then the place before it is kept as a pending key, and the marks for
the key, and for the mapping if it is the first, are put there afterwards.  A pending key must end
on its line and within 1024 characters.

A text that cannot be cut to its end still has the tokens that are settled before the place where
cutting fails, for a reader may find another fault among those first.
-/

namespace PlotPage.Yaml

/-- A token. -/
inductive Token where
  | directive (d : Directive)
  | documentStart
  | documentEnd
  | blockSequenceStart
  | blockMappingStart
  | blockEnd
  | flowSequenceStart
  | flowSequenceEnd
  | flowMappingStart
  | flowMappingEnd
  | flowEntry
  | blockEntry
  | key
  | value
  | alias (name : String)
  | anchor (name : String)
  | tag (t : TagText)
  | text (s : String) (isPlain : Bool)
  deriving DecidableEq, Repr

/-- The tokens of a text that are settled before the first place at which it cannot be cut, and what
is wrong there.  A text without such a place has all its tokens. -/
structure TokenRun where
  tokens : List Token
  problem : Option Problem

/-- Tokens in the order in which they are added, the last one first. -/
structure TokenStack where
  tokens : List Token
  /-- The number of tokens. -/
  size : Nat
  size_eq : size = tokens.length

namespace TokenStack

def empty : TokenStack := ⟨[], 0, rfl⟩

def push (s : TokenStack) (token : Token) : TokenStack :=
  ⟨token :: s.tokens, s.size + 1, by simp [s.size_eq]⟩

/-- Puts a token behind the first `position` tokens. -/
def insertAt (s : TokenStack) (position : Nat) (token : Token) : TokenStack :=
  let later := s.size - position
  ⟨s.tokens.take later ++ token :: s.tokens.drop later, s.size + 1, by
    simp only [List.length_append, List.length_cons, List.length_take, List.length_drop, s.size_eq]
    omega⟩

def toList (s : TokenStack) : List Token := s.tokens.reverse

end TokenStack

/-- A place at which a key may have begun. -/
structure PendingKey where
  /-- The number of tokens before it. -/
  position : Nat
  /-- Whether nothing but a key may begin there. -/
  isRequired : Bool
  index : Nat
  line : Nat
  column : Nat

/-- A text that is being cut into tokens. -/
structure Tokenizer where
  cursor : Cursor
  /-- The characters that stand for halves of surrogate pairs. -/
  halves : Halves
  /-- The tokens so far. -/
  tokens : TokenStack := .empty
  /-- The columns of the open block collections, the innermost first. -/
  columns : List Nat := []
  /-- The pending key at the current depth of brackets. -/
  pending : Option PendingKey := none
  /-- The pending keys outside the open brackets, the innermost first. -/
  outer : List (Option PendingKey) := []
  /-- Whether a key may begin at the cursor. -/
  allowsKey : Bool := true

namespace Tokenizer

def inFlow (t : Tokenizer) : Bool := !t.outer.isEmpty

/-- The least number of columns before the lines of a part of the innermost block collection. -/
def indent (t : Tokenizer) : Nat :=
  match t.columns with
  | [] => 0
  | c :: _ => c + 1

def emit (t : Tokenizer) (token : Token) : Tokenizer := { t with tokens := t.tokens.push token }

/-- Puts a token behind the first `position` tokens. -/
def emitAt (t : Tokenizer) (position : Nat) (token : Token) : Tokenizer :=
  { t with tokens := t.tokens.insertAt position token }

/-- A pending key, or nothing if it has become stale. -/
def freshKey (c : Cursor) : Option PendingKey → Except Problem (Option PendingKey)
  | none => .ok none
  | some k =>
    if k.line = c.line && c.index ≤ k.index + 1024 then .ok (some k)
    else if k.isRequired then .error .malformed
    else .ok none

/-- Gives up all stale keys. -/
def dropStale (t : Tokenizer) : Except Problem Tokenizer := do
  return { t with pending := ← freshKey t.cursor t.pending,
                  outer := ← t.outer.mapM (freshKey t.cursor) }

def dropKey (t : Tokenizer) : Except Problem Tokenizer :=
  if t.pending.any PendingKey.isRequired then .error .malformed
  else .ok { t with pending := none }

def saveKey (t : Tokenizer) : Except Problem Tokenizer := do
  if t.allowsKey then
    let t ← t.dropKey
    let isRequired := !t.inFlow && t.columns.head? = some t.cursor.column
    let c := t.cursor
    return { t with pending := some ⟨t.tokens.size, isRequired, c.index, c.line, c.column⟩ }
  else return t

/-- Ends the block collections to the right of a column, or all of them. -/
def unwind (t : Tokenizer) (column : Option Nat) : Tokenizer :=
  if t.inFlow then t
  else
    let ended := t.columns.takeWhile fun c => column.all (· < c)
    { t with columns := t.columns.drop ended.length,
             tokens := ended.foldl (fun s _ => s.push .blockEnd) t.tokens }

/-- Whether a block collection can start at a column. -/
def canIndent (t : Tokenizer) (column : Nat) : Bool := t.indent ≤ column

/-- Starts a block collection at the cursor unless one is open in this column. -/
def openBlock (t : Tokenizer) (start : Token) : Tokenizer :=
  if t.canIndent t.cursor.column then
    { t.emit start with columns := t.cursor.column :: t.columns }
  else t

/-- Moves to the next token, over spaces, comments and line breaks. -/
def skipToToken : (fuel : Nat) → Tokenizer → Tokenizer
  | 0, t => t
  | fuel + 1, t =>
    let c := t.cursor.skipSpaces.skipComment
    match c.lineBreak? with
    | none => { t with cursor := c }
    | some (_, c) => skipToToken fuel { t with cursor := c, allowsKey := t.allowsKey || !t.inFlow }

/-- Ends all blocks before a directive, the mark of a document or the end of the text. -/
def closeAll (t : Tokenizer) : Except Problem Tokenizer := do
  let t ← (t.unwind none).dropKey
  return { t with allowsKey := false }

/-- Adds a token and moves over the `n` characters that it is written with. -/
def accept (t : Tokenizer) (n : Nat) (token : Token) : Tokenizer :=
  { t.emit token with cursor := t.cursor.forward n }

def openFlow (t : Tokenizer) (token : Token) : Except Problem Tokenizer := do
  let t ← t.saveKey
  return { t.accept 1 token with pending := none, outer := t.pending :: t.outer, allowsKey := true }

def closeFlow (t : Tokenizer) (token : Token) : Except Problem Tokenizer :=
  match t.outer with
  | [] => .error .malformed
  | pending :: outer => .ok { t.accept 1 token with pending, outer, allowsKey := false }

def flowEntry (t : Tokenizer) : Except Problem Tokenizer := do
  let t ← t.dropKey
  return { t.accept 1 .flowEntry with allowsKey := true }

def blockEntry (t : Tokenizer) : Except Problem Tokenizer := do
  if !t.inFlow && !t.allowsKey then throw .malformed
  let t := if t.inFlow then t else t.openBlock .blockSequenceStart
  let t ← t.dropKey
  return { t.accept 1 .blockEntry with allowsKey := true }

def key (t : Tokenizer) : Except Problem Tokenizer := do
  if !t.inFlow && !t.allowsKey then throw .malformed
  let t := if t.inFlow then t else t.openBlock .blockMappingStart
  let t ← t.dropKey
  return { t.accept 1 .key with allowsKey := !t.inFlow }

/-- The colon before a value.  A pending key is settled by it. -/
def value (t : Tokenizer) : Except Problem Tokenizer := do
  match t.pending with
  | some k =>
    let t := { t with pending := none, allowsKey := false }
    let t :=
      if !t.inFlow && t.canIndent k.column then
        { (t.emitAt k.position .key).emitAt k.position .blockMappingStart with
          columns := k.column :: t.columns }
      else t.emitAt k.position .key
    return t.accept 1 .value
  | none =>
    if !t.inFlow && !t.allowsKey then throw .malformed
    let t := if t.inFlow then t else t.openBlock .blockMappingStart
    return { t.accept 1 .value with allowsKey := !t.inFlow }

/-- A token that may be or begin a key: its reader gives the token and the place after it. -/
def keyPart (t : Tokenizer) (read : Cursor → Except Problem (Token × Cursor)) :
    Except Problem Tokenizer := do
  let t ← t.saveKey
  let (token, cursor) ← read t.cursor
  return { t.emit token with cursor, allowsKey := false }

def block (t : Tokenizer) (folded : Bool) : Except Problem Tokenizer := do
  let t ← t.dropKey
  let (s, cursor) ← Block.read folded t.indent t.cursor
  return { t.emit (.text s false) with cursor, allowsKey := true }

/-- A text without quotes.  A key may begin after it if it ends with a line. -/
def plain (t : Tokenizer) : Except Problem Tokenizer := do
  let t ← t.saveKey
  let (s, cursor, allowsKey) := Plain.read t.inFlow t.indent t.cursor
  return { t.emit (.text s true) with cursor, allowsKey }

/-- Reads the next token, or finds the end of the text. -/
def cut (t : Tokenizer) : Except Problem (Tokenizer × Bool) := do
  let t ← (t.skipToToken (t.cursor.size + 1)).dropStale
  let t := t.unwind (some t.cursor.column)
  let atStart := t.cursor.column = 0
  match t.cursor.rest with
  | [] => return (← t.closeAll, false)
  | c :: rest =>
    let after := rest.head?
    let t ←
      if c = '%' && atStart then do
        let t ← t.closeAll
        let (d, cursor) ← Word.directive t.cursor
        pure { t.emit (.directive d) with cursor }
      else if atStart && t.cursor.hasTriple '-' then do pure ((← t.closeAll).accept 3 .documentStart)
      else if atStart && t.cursor.hasTriple '.' then do pure ((← t.closeAll).accept 3 .documentEnd)
      else if c = '[' then t.openFlow .flowSequenceStart
      else if c = '\x7b' then t.openFlow .flowMappingStart
      else if c = ']' then t.closeFlow .flowSequenceEnd
      else if c = '\x7d' then t.closeFlow .flowMappingEnd
      else if c = ',' then t.flowEntry
      else if c = '-' && endsToken after then t.blockEntry
      else if c = '?' && (t.inFlow || endsToken after) then t.key
      else if c = ':' && (t.inFlow || endsToken after) then t.value
      else if c = '*' then t.keyPart fun c => do
        let (s, c) ← Word.name c.step
        return (.alias s, c)
      else if c = '&' then t.keyPart fun c => do
        let (s, c) ← Word.name c.step
        return (.anchor s, c)
      else if c = '!' then t.keyPart fun c => do
        let (s, c) ← Word.tag c
        return (.tag s, c)
      else if c = '|' && !t.inFlow then t.block false
      else if c = '>' && !t.inFlow then t.block true
      else if c = '\'' || c = '"' then t.keyPart fun cursor => do
        let (s, cursor) ← Quoted.read t.halves (c = '"') cursor
        return (.text s false, cursor)
      else if Plain.canBegin t.inFlow c after then t.plain
      else throw .malformed
    return (t, true)

/-- Reads the next token and gives up the keys that are stale after it.  The last component tells
whether the text goes on. -/
def next (t : Tokenizer) : Except Problem (Tokenizer × Bool) := do
  let (t, more) ← t.cut
  if more then return (← t.dropStale, true) else return (t, false)

/-- The number of tokens that the rest of the text cannot change: those before all pending keys. -/
def settled (t : Tokenizer) : Nat :=
  (t.pending :: t.outer).foldl (fun n k => (k.map PendingKey.position).elim n (min n)) t.tokens.size

/-- Reads tokens to the end of the text or to the first place at which it cannot be cut. -/
def run : (fuel : Nat) → Tokenizer → TokenRun
  | 0, t => ⟨t.tokens.toList, some .malformed⟩
  | fuel + 1, t =>
    match t.next with
    | .error problem => ⟨t.tokens.toList.take t.settled, some problem⟩
    | .ok (t, more) => if more then run fuel t else ⟨t.tokens.toList, none⟩

end Tokenizer

/-- The tokens of a text.  A byte order mark at its start is left out. -/
def TokenRun.ofChars (halves : Halves) (cs : List Char) : TokenRun :=
  let c := Cursor.ofChars cs
  let c := if (c.peek.map Char.toNat) = some 0xfeff then c.step else c
  Tokenizer.run (cs.length + 2) { cursor := c, halves }

end PlotPage.Yaml
