import PlotPage.Proofs.Log.Members

/-!
# Log files in JSON lines

A record in the JSON style is one line of printable ASCII characters, whatever its texts hold, and
the line is decoded to the members of the record.  So a file to which records are written falls
into as many lines as there are records.

* `JsonValue.value_ofValueIn`: a plain value comes back from its JSON form.
* `Tells`: what a line has to do with the members of a record.
* `emitEach_node`: what a run of records leaves in a file.
* `json_lines`: **the lines of a log file are the records, each of them decoded to its members.**
-/

namespace PlotPage

/-! ### Plain values -/

/-- A value that JSON has a form of its own for: null, a truth value, an integer that is short
enough to have a text, a text, or a list of such values, which then holds no part of itself. -/
inductive Value.Plain : Value → Prop
  | null : Plain .null
  | bool (b : Bool) : Plain (.bool b)
  | int {i : Int} (h : Decimal.size i.natAbs ≤ 4300) : Plain (.int i)
  | text (s : String) : Plain (.text s)
  | list {items : List Value} (h : ∀ v ∈ items, Plain v) : Plain (.list items)

namespace JsonValue

mutual
/-- The value that JSON is decoded to. -/
def value : JsonValue → Value
  | .null => .null
  | .bool b => .bool b
  | .int i => .int i
  | .real d => .real d
  | .text s => .text s
  | .array items => .list (values items)
  | .object members => .map (entries members)

def values : List JsonValue → List Value
  | [] => []
  | v :: vs => value v :: values vs

def entries : List (String × JsonValue) → List (Value × Value)
  | [] => []
  | (k, v) :: rest => (.text k, value v) :: entries rest
end

theorem values_ofItems {around : List Nat} {items : List Value}
    (h : ∀ v ∈ items, ∃ j, ofValueIn around v = .ok j ∧ j.value = v) :
    ∃ js, ofItems around items = .ok js ∧ values js = items := by
  induction items with
  | nil => exact ⟨[], rfl, rfl⟩
  | cons v vs ih =>
    obtain ⟨j, hj, hv⟩ := h v List.mem_cons_self
    obtain ⟨js, hjs, hvs⟩ := ih fun w hw => h w (List.mem_cons_of_mem v hw)
    exact ⟨j :: js, by rw [ofItems, hj, hjs]; rfl, by rw [values, hv, hvs]⟩

/-- A plain value has a form in JSON, wherever it stands, and is what that form is decoded to. -/
theorem value_ofValueIn (around : List Nat) {v : Value} (h : v.Plain) :
    ∃ j, ofValueIn around v = .ok j ∧ j.value = v := by
  induction h with
  | null => exact ⟨.null, by rw [ofValueIn], rfl⟩
  | bool b => exact ⟨.bool b, by rw [ofValueIn], rfl⟩
  | @int i hi =>
    exact ⟨.int i, by rw [ofValueIn, Value.plain_int, if_pos hi]; rfl, rfl⟩
  | text s => exact ⟨.text s, by rw [ofValueIn], rfl⟩
  | list h ih =>
    -- a plain list has no mark, so it comes again nowhere
    obtain ⟨js, hjs, hvalues⟩ := values_ofItems ih
    refine ⟨.array js, ?_, by rw [value, hvalues]⟩
    rw [ofValueIn, if_neg (by simp [Value.comesAgain])]
    exact congrArg (Except.map JsonValue.array) hjs

theorem value_ofValue {v : Value} (h : v.Plain) : ∃ j, ofValue v = .ok j ∧ j.value = v :=
  value_ofValueIn [] h

theorem Shows.entries_eq {fields : List (String × Value)} {ms : List (String × JsonValue)}
    (h : Shows fields ms) (hplain : ∀ f ∈ fields, f.2.Plain) :
    entries ms = fields.map fun f => (.text f.1, f.2) := by
  induction h with
  | nil => rfl
  | @cons f m fields ms hm _ ih =>
    obtain ⟨j, hj, hvalue⟩ := value_ofValue (hplain f List.mem_cons_self)
    have hsame : m.2 = j := Except.ok.inj (hm.2.symm.trans hj)
    rw [entries, List.map_cons, hsame, hvalue, hm.1,
      ih fun g hg => hplain g (List.mem_cons_of_mem f hg)]

end JsonValue

/-! ### One line -/

namespace LogRecord

open JsonValue LogContext

/-- A line tells a record: it is what is written for the record, it consists of printable ASCII
characters, and it is decoded to the members of the record, which have different names, with their
values in their order. -/
structure Tells (line : String) (c : LogContext) (r : LogRecord) : Prop where
  written : r.json c = .ok line
  visible : ∀ c ∈ line.toList, Visible c
  decoded : ∃ all, r.members c = .ok all ∧ (all.map Prod.fst).Nodup ∧
    (decode? line).map value = some (.map (all.map fun f => (.text f.1, f.2)))

/-- A record that has a message, in a context of plain values. -/
structure IsPlain (r : LogRecord) (c : LogContext) : Prop where
  message : ∃ message, r.message = .ok message
  fields : ∀ f ∈ c.fields, f.2.Plain

theorem plain_entry {r : LogRecord} {c : LogContext} (hc : ∀ f ∈ c.fields, f.2.Plain)
    (message : String) : ∀ f ∈ (r.entry c message).fields, f.2.Plain := by
  have hpush : ∀ f ∈ ((r.own message).push c.fields).fields, f.2.Plain := by
    intro f hf
    rcases mem_push hf with hf | hf
    · exact hc f hf
    · simp only [own, List.mem_cons, List.not_mem_nil, or_false] at hf
      rcases hf with rfl | rfl | rfl | rfl <;> exact .text _
  intro f hf
  cases htrouble : r.trouble with
  | none =>
    simp only [entry, report?, htrouble, Option.map_none] at hf
    exact hpush f hf
  | some t =>
    simp only [entry, report?, htrouble, Option.map_some] at hf
    rcases mem_store hf with rfl | hf
    · exact .text _
    · exact hpush f hf

/-- Every plain record has a line that tells it. -/
theorem exists_tells {r : LogRecord} {c : LogContext} (h : r.IsPlain c) :
    ∃ line, Tells line c r := by
  obtain ⟨message, hmessage⟩ := h.message
  have hplain := plain_entry (r := r) h.fields message
  obtain ⟨ms, hms⟩ := exists_ofEntries fun f hf =>
    (value_ofValue (hplain f hf)).imp fun _ hj => hj.1
  have hshows := shows_iff.mpr hms
  refine ⟨_, json_eq_ok_iff.mpr ⟨message, hmessage, ms, hshows, rfl⟩, fun c hc => ?_,
    _, members_eq_ok_iff.mpr ⟨message, hmessage, rfl⟩, nodup_entry r c message, ?_⟩
  · rw [render, String.toList_ofList] at hc
    exact visible_of_mem_chars _ c hc
  · rw [decode?_render, Option.map_some, value, hshows.entries_eq hplain]

end LogRecord

/-! ### The lines of a file -/

namespace Text

/-- What stands before a line feed without breaking itself is a line. -/
theorem lineChars_append_feed {line : List Char} (h : ∀ c ∈ line, isLineBreak c = false)
    (cs : List Char) : lineChars (line ++ '\n' :: cs) = line :: lineChars cs := by
  have hreturn : isLineBreak '\r' = true := by decide
  induction line with
  | nil => rw [List.nil_append, lineChars, if_pos (by decide)]; exact fun _ h => by cases h
  | cons c line ih =>
    have hc := h c List.mem_cons_self
    rw [List.cons_append, lineChars, if_neg (ne_true_of_eq_false hc),
      ih fun d hd => h d (List.mem_cons_of_mem c hd)]
    rintro cs' rfl
    rw [hreturn] at hc
    cases hc

theorem lineChars_flatMap {lines : List String}
    (h : ∀ line ∈ lines, ∀ c ∈ line.toList, isLineBreak c = false) :
    lineChars (lines.flatMap fun line => line.toList ++ ['\n']) = lines.map String.toList := by
  induction lines with
  | nil => rfl
  | cons line lines ih =>
    rw [List.flatMap_cons, List.append_assoc, List.singleton_append,
      lineChars_append_feed (h line List.mem_cons_self),
      ih fun l hl => h l (List.mem_cons_of_mem line hl), List.map_cons]

end Text

theorem JsonValue.Visible.isLineBreak {c : Char} (h : JsonValue.Visible c) :
    Text.isLineBreak c = false := by
  rw [Bool.eq_false_iff]
  intro hbreak
  simp only [Text.isLineBreak, Bool.or_eq_true, Bool.and_eq_true, decide_eq_true_eq,
    beq_iff_eq] at hbreak
  have hvisible : 0x20 ≤ c.toNat ∧ c.toNat ≤ 0x7e := h
  omega

/-! ### A run of records -/

/-- The list of bytes, which is gathered one by one, is the array as a list. -/
theorem toList_byteArray (b : ByteArray) : b.toList = b.data.toList := by
  have hloop : ∀ k i r, b.size = i + k →
      ByteArray.toList.loop b i r = r.reverse ++ b.data.toList.drop i := by
    intro k
    induction k with
    | zero =>
      intro i r hi
      rw [ByteArray.toList.loop, if_neg (by omega), List.drop_of_length_le, List.append_nil]
      rw [Array.length_toList]
      exact Nat.le_of_eq hi
    | succ k ih =>
      intro i r hi
      have hlt : i < b.data.toList.length := by
        rw [Array.length_toList]
        show i < b.size
        omega
      have hget : b.get! i = b.data.toList[i] := by
        show b.data[i]! = _
        rw [getElem!_pos b.data i hlt]
        rfl
      rw [ByteArray.toList.loop, if_pos (by omega), ih (i + 1) _ (by omega), hget,
        List.drop_eq_getElem_cons hlt, List.reverse_cons, List.append_assoc]
      rfl
  rw [ByteArray.toList, hloop b.size 0 [] (Nat.zero_add _).symm]
  rfl

namespace Log

theorem bytes_eq_join (lines : List String) : bytes lines = (String.join lines).toUTF8.toList := by
  induction lines with
  | nil => rw [String.join_nil]; exact ByteArray.toList_empty.symm
  | cons line lines ih =>
    rw [bytes, List.flatMap_cons, ← bytes, ih, String.join_cons, String.toUTF8, String.toUTF8,
      String.toUTF8, String.toByteArray_append, toList_byteArray, toList_byteArray,
      toList_byteArray, ByteArray.toList_data_append]

/-- Writes records one after another, each in the context of its time. -/
def emitEach (hs : List LogHandler) :
    List (LogContext × LogRecord) → FileSystem → String × FileSystem
  | [], fs => ("", fs)
  | (c, r) :: rest, fs =>
    let (text, fs) := emitAll c r hs fs
    let (more, fs) := emitEach hs rest fs
    (text ++ more, fs)

/-- A run of records leaves their lines in each file, in the order of the records. -/
theorem emitEach_node (hs : List LogHandler) (records : List (LogContext × LogRecord))
    (fs : FileSystem) (p : Place) : (emitEach hs records fs).2.node? p = (fs.node? p).map
      (Node.extend (bytes (records.flatMap fun x => written x.1 x.2 hs (.file p)))) := by
  induction records generalizing fs with
  | nil => exact (Node.map_extend_nil (fs.node? p)).symm
  | cons x rest ih =>
    have hfirst := (emitAll_eq x.1 x.2 hs fs).2 p
    have hrest := ih (emitAll x.1 x.2 hs fs).2
    rw [hfirst, Node.map_extend_extend] at hrest
    rw [List.flatMap_cons, bytes_append]
    exact hrest

/-- The only handler of a file writes one line for each record. -/
theorem written_of_single {hs : List LogHandler} {o : Outlet} {style : LineStyle}
    (h : (hs.filter fun h => h.outlet = o).map LogHandler.style = [style])
    (c : LogContext) (r : LogRecord) : written c r hs o = [r.line style c] := by
  have hmap : written c r hs o =
      ((hs.filter fun h => h.outlet = o).map LogHandler.style).map fun s => r.line s c := by
    rw [written, List.map_map]
    rfl
  rw [hmap, h]
  rfl

variable {records : List (LogContext × LogRecord)} {lines : List String}

theorem exists_lines (h : ∀ x ∈ records, x.2.IsPlain x.1) :
    ∃ lines, List.Forall₂ (fun x line => LogRecord.Tells line x.1 x.2) records lines := by
  induction records with
  | nil => exact ⟨[], .nil⟩
  | cons x rest ih =>
    obtain ⟨line, hline⟩ := LogRecord.exists_tells (h x List.mem_cons_self)
    obtain ⟨lines, hlines⟩ := ih fun y hy => h y (List.mem_cons_of_mem x hy)
    exact ⟨line :: lines, .cons hline hlines⟩

theorem written_records {hs : List LogHandler} {o : Outlet}
    (hhandler : (hs.filter fun h => h.outlet = o).map LogHandler.style = [.json])
    (h : List.Forall₂ (fun x line => LogRecord.Tells line x.1 x.2) records lines) :
    (records.flatMap fun x => written x.1 x.2 hs o) = lines.map (· ++ "\n") := by
  induction h with
  | nil => rfl
  | @cons x line rest lines hline _ ih =>
    have htext : x.2.line .json x.1 = line ++ "\n" := by
      rw [LogRecord.line, LogRecord.write, hline.written]
    rw [List.flatMap_cons, ih, written_of_single hhandler, htext, List.map_cons,
      List.singleton_append]

theorem isLineBreak_of_tells
    (h : List.Forall₂ (fun x line => LogRecord.Tells line x.1 x.2) records lines) :
    ∀ line ∈ lines, ∀ c ∈ line.toList, Text.isLineBreak c = false := by
  induction h with
  | nil => exact fun _ hline => absurd hline List.not_mem_nil
  | cons hline _ ih =>
    exact List.forall_mem_cons.mpr ⟨fun c hc => (hline.visible c hc).isLineBreak, ih⟩

/-- **A log file in JSON lines consists of the records.**  Every record with a message and a plain
context has a line that tells it.  When the records are written to an empty file by a single handler
in the JSON style, their lines are the lines of the file, in their order and without any other. -/
theorem json_lines (hplain : ∀ x ∈ records, x.2.IsPlain x.1) :
    ∃ lines : List String,
      List.Forall₂ (fun x line => LogRecord.Tells line x.1 x.2) records lines ∧
      ∀ (hs : List LogHandler) (p : Place) (fs : FileSystem),
        (hs.filter fun h => h.outlet = .file p).map LogHandler.style = [.json] →
        fs.node? p = some (.file []) →
        ∃ text : String, (emitEach hs records fs).2.node? p = some (.file text.toUTF8.toList) ∧
          Text.lineChars text.toList = lines.map String.toList := by
  obtain ⟨lines, hlines⟩ := exists_lines hplain
  refine ⟨lines, hlines, fun hs p fs hhandler hempty => ?_⟩
  refine ⟨String.join (lines.map (· ++ "\n")), ?_, ?_⟩
  · rw [emitEach_node, hempty, written_records hhandler hlines, bytes_eq_join]
    rfl
  · have htext : (String.join (lines.map (· ++ "\n"))).toList =
        lines.flatMap fun line => line.toList ++ ['\n'] := by
      rw [String.toList_join, List.flatMap_map]
      exact List.flatMap_congr fun line _ => String.toList_append
    rw [htext, Text.lineChars_flatMap (isLineBreak_of_tells hlines)]

/-- Two records on a file, one of them with texts of two lines, quotes, a backslash and characters
beyond ASCII. -/
theorem json_lines_two :
    let stamp : Stamp := ⟨"1970-01-01T00:00:00.000Z", "1970-01-01T00:00:00+00:00"⟩
    let c : LogContext :=
      ⟨[("document", .text "größe\n.yaml"), ("sizes", .list [.int (-3), .null, .bool true])]⟩
    let failed : LogRecord := ⟨stamp, "ERROR", "plotscript", "no \"C:\\😀\"\r\n", [],
      some ("OSError", "gone\u2028")⟩
    let done : LogRecord := ⟨stamp, "INFO", "plotscript", "done", [], none⟩
    let p : Place := ["tmp", "work", "run.log"]
    let hs : List LogHandler := [⟨0, .stream, .json⟩, ⟨1, .file p, .json⟩]
    ∃ first second text : String, LogRecord.Tells first c failed ∧
      LogRecord.Tells second .empty done ∧
      (emitEach hs [(c, failed), (.empty, done)] (FileSystem.empty.put p (.file []))).2.node? p =
        some (.file text.toUTF8.toList) ∧
      Text.lineChars text.toList = [first.toList, second.toList] := by
  intro stamp c failed done p hs
  have hplain : ∀ x ∈ [(c, failed), (.empty, done)], x.2.IsPlain x.1 := by
    have hitems : ∀ v ∈ [Value.int (-3), .null, .bool true], v.Plain := by
      simp only [List.forall_mem_cons]
      exact ⟨.int (by decide), .null, .bool true, fun _ h => absurd h List.not_mem_nil⟩
    refine List.forall_mem_cons.mpr ⟨⟨⟨_, rfl⟩, ?_⟩, List.forall_mem_singleton.mpr ⟨⟨_, rfl⟩, ?_⟩⟩
    · exact List.forall_mem_cons.mpr ⟨.text _, List.forall_mem_singleton.mpr (.list hitems)⟩
    · exact fun _ h => absurd h List.not_mem_nil
  obtain ⟨lines, hlines, hfile⟩ := json_lines hplain
  obtain ⟨first, _, hfirst, hrest, rfl⟩ := List.forall₂_cons_left_iff.mp hlines
  obtain ⟨second, _, hsecond, hnil, rfl⟩ := List.forall₂_cons_left_iff.mp hrest
  obtain rfl := List.forall₂_nil_left_iff.mp hnil
  obtain ⟨text, htext, hsplit⟩ := hfile hs p _ (by decide) (FileSystem.node?_put_self _ _ _)
  exact ⟨first, second, text, hfirst, hsecond, htext, hsplit⟩

end Log

end PlotPage
