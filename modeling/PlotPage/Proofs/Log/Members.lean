import Mathlib.Data.List.Forall2
import Mathlib.Data.List.Nodup
import PlotPage.Proofs.Log.JsonText
import PlotPage.Proofs.Log.Setup

/-!
# What a JSON line says of a record

The members of a line are those of the record itself, the fields of the context and the report of
trouble.  All of them have names in one space, and what comes later takes the place of what has the
same name.

* `LogContext.Reached`: the contexts that pushing and popping lead to; their names are all
  different.
* `get?_entry`: what stands under a name, of the three.
* `json_truthful_iff`: **a line says of the record what the record says, exactly when no field of
  the context has the name of a member of the record and says something else.**
* `field_replaces_message`: a field `msg` stands in the place of the message.
-/

namespace PlotPage

/-! ### Contexts as tables -/

namespace LogContext

/-- A context that pushing and popping lead to from the empty one, which is also what is left when
everything is removed. -/
inductive Reached : LogContext → Prop
  | empty : Reached empty
  | push {c : LogContext} (h : Reached c) (fields : List (String × Value)) :
      Reached (c.push fields)
  | pop {c : LogContext} (h : Reached c) (names : List String) : Reached (c.pop names)

theorem nodup_store (name : String) (v : Value) {fields : List (String × Value)}
    (h : (fields.map Prod.fst).Nodup) : ((store name v fields).map Prod.fst).Nodup := by
  induction fields with
  | nil => exact List.nodup_singleton name
  | cons f rest ih =>
    rw [List.map_cons, List.nodup_cons] at h
    by_cases hf : f.1 = name
    · rw [store, if_pos hf, List.map_cons, List.nodup_cons]
      exact h
    · rw [store, if_neg hf, List.map_cons, List.nodup_cons, mem_names_store]
      exact ⟨fun hmem => hmem.elim hf h.1, ih h.2⟩

theorem nodup_push {c : LogContext} (h : c.names.Nodup) (fields : List (String × Value)) :
    (c.push fields).names.Nodup := by
  induction fields generalizing c with
  | nil => exact h
  | cons f rest ih => exact ih (c := c.add f.1 f.2) (nodup_store f.1 f.2 h)

/-- The names of a context that has come about are all different. -/
theorem Reached.nodup {c : LogContext} (h : Reached c) : c.names.Nodup := by
  induction h with
  | empty => exact List.nodup_nil
  | push h fields ih => exact nodup_push ih fields
  | pop h names ih => exact ih.sublist (List.filter_sublist.map Prod.fst)

theorem get?_cons (f : String × Value) (rest : List (String × Value)) (key : String) :
    get? ⟨f :: rest⟩ key = if f.1 = key then some f.2 else get? ⟨rest⟩ key := by
  by_cases hf : f.1 = key <;> simp [get?, hf]

theorem get?_eq_none_iff {c : LogContext} {key : String} : c.get? key = none ↔ key ∉ c.names := by
  rw [get?, Option.map_eq_none_iff, List.find?_eq_none, names, List.mem_map, not_exists]
  simp

theorem get?_eq_some_iff {c : LogContext} (h : c.names.Nodup) {key : String} {v : Value} :
    c.get? key = some v ↔ (key, v) ∈ c.fields := by
  obtain ⟨fields⟩ := c
  induction fields with
  | nil => simp [get?]
  | cons f rest ih =>
    rw [names, List.map_cons, List.nodup_cons] at h
    rw [get?_cons, List.mem_cons]
    by_cases hf : f.1 = key
    · subst hf
      have hother : (f.1, v) ∉ rest := fun hmem => h.1 (List.mem_map.mpr ⟨_, hmem, rfl⟩)
      rw [if_pos rfl, Option.some.injEq, or_iff_left hother, Prod.ext_iff]
      exact ⟨fun hv => ⟨rfl, hv.symm⟩, fun hv => hv.2.symm⟩
    · have hne : (key, v) ≠ f := fun heq => hf (heq ▸ rfl)
      rw [if_neg hf, ih h.2, or_iff_right hne]

theorem get?_add (c : LogContext) (name key : String) (v : Value) :
    (c.add name v).get? key = if name = key then some v else c.get? key := by
  obtain ⟨fields⟩ := c
  show get? ⟨store name v fields⟩ key = _
  induction fields with
  | nil => exact get?_cons (name, v) [] key
  | cons f rest ih =>
    by_cases hf : f.1 = name
    · rw [store, if_pos hf, get?_cons, get?_cons, hf]
      split <;> rfl
    · rw [store, if_neg hf, get?_cons, get?_cons, ih]
      by_cases hkey : f.1 = key
      · have hname : name ≠ key := fun heq => hf (hkey.trans heq.symm)
        rw [if_pos hkey, if_neg hname, if_pos hkey]
      · rw [if_neg hkey, if_neg hkey]

/-- What is pushed counts before what was there. -/
theorem get?_push (c : LogContext) {d : LogContext} (hd : d.names.Nodup) (key : String) :
    (c.push d.fields).get? key = (d.get? key).or (c.get? key) := by
  obtain ⟨fields⟩ := d
  induction fields generalizing c with
  | nil => rfl
  | cons f rest ih =>
    rw [names, List.map_cons, List.nodup_cons] at hd
    have hstep : (c.push (f :: rest)).get? key = ((c.add f.1 f.2).push rest).get? key := rfl
    rw [hstep, ih (c.add f.1 f.2) hd.2, get?_add, get?_cons]
    by_cases hf : f.1 = key
    · have hnone : get? ⟨rest⟩ key = none := get?_eq_none_iff.mpr (hf ▸ hd.1)
      rw [hnone, if_pos hf, if_pos hf]
      rfl
    · rw [if_neg hf, if_neg hf]

end LogContext

/-! ### The entry of a record -/

namespace LogRecord

open LogContext

/-- The members that a record has whatever the context is. -/
def own (r : LogRecord) (message : String) : LogContext :=
  ⟨[("t", .text r.stamp.exact), ("lvl", .text r.level), ("name", .text r.source),
    ("msg", .text message)]⟩

/-- The report of trouble as a value. -/
def report? (r : LogRecord) : Option Value := r.trouble.map fun t => .text (troubleText t)

/-- All members of a line. -/
def entry (r : LogRecord) (c : LogContext) (message : String) : LogContext :=
  match r.report? with
  | none => (r.own message).push c.fields
  | some report => ((r.own message).push c.fields).add "exc" report

theorem members_eq_ok_iff {r : LogRecord} {c : LogContext} {all : List (String × Value)} :
    r.members c = .ok all ↔
      ∃ message, r.message = .ok message ∧ (r.entry c message).fields = all := by
  rw [members, bind_eq_ok_iff]
  refine exists_congr fun message => and_congr_right fun _ => ?_
  cases htrouble : r.trouble <;>
    simp only [entry, report?, htrouble, Option.map_none, Option.map_some, pure_eq_ok_iff, own]

theorem nodup_entry (r : LogRecord) (c : LogContext) (message : String) :
    (r.entry c message).names.Nodup := by
  have hown : (r.own message).names.Nodup := (by decide : ["t", "lvl", "name", "msg"].Nodup)
  have hpush := nodup_push hown c.fields
  unfold entry
  cases r.report? with
  | none => exact hpush
  | some report => exact nodup_store "exc" report hpush

theorem get?_own {r : LogRecord} {message key : String} {w : Value} :
    (r.own message).get? key = some w → ∃ s, w = .text s ∧
      ((key = "t" ∧ s = r.stamp.exact) ∨ (key = "lvl" ∧ s = r.level) ∨
        (key = "name" ∧ s = r.source) ∨ key = "msg" ∧ s = message) := by
  intro h
  simp only [own, get?_cons] at h
  split_ifs at h with ht hl hn hm
  · exact ⟨_, (Option.some.inj h).symm, Or.inl ⟨ht.symm, rfl⟩⟩
  · exact ⟨_, (Option.some.inj h).symm, Or.inr (Or.inl ⟨hl.symm, rfl⟩)⟩
  · exact ⟨_, (Option.some.inj h).symm, Or.inr (Or.inr (Or.inl ⟨hn.symm, rfl⟩))⟩
  · exact ⟨_, (Option.some.inj h).symm, Or.inr (Or.inr (Or.inr ⟨hm.symm, rfl⟩))⟩
  · cases h

/-- The report of trouble counts first, then the context, then the members of the record. -/
theorem get?_entry (r : LogRecord) {c : LogContext} (hc : c.names.Nodup) (message key : String) :
    (r.entry c message).get? key =
      (if "exc" = key then r.report? else none).or
        ((c.get? key).or ((r.own message).get? key)) := by
  unfold entry
  cases r.report? with
  | none => rw [get?_push _ hc, ite_self]; rfl
  | some report =>
    rw [get?_add, get?_push _ hc]
    split <;> rfl

end LogRecord

/-! ### The entry as an object -/

namespace JsonValue

/-- What stands under a name. -/
def member? (ms : List (String × JsonValue)) (name : String) : Option JsonValue :=
  (ms.find? fun m => m.1 = name).map Prod.snd

/-- An object has the fields as members, each under its name. -/
def Shows (fields : List (String × Value)) (ms : List (String × JsonValue)) : Prop :=
  List.Forall₂ (fun f m => m.1 = f.1 ∧ ofValue f.2 = .ok m.2) fields ms

theorem shows_iff {fields : List (String × Value)} {ms : List (String × JsonValue)} :
    Shows fields ms ↔ ofEntries [] (fields.map fun f => (.text f.1, f.2)) = .ok ms := by
  induction fields generalizing ms with
  | nil =>
    rw [Shows, List.forall₂_nil_left_iff, List.map_nil, ofEntries, Except.ok.injEq]
    exact eq_comm
  | cons f rest ih =>
    rw [Shows, List.forall₂_cons_left_iff, List.map_cons, ofEntries_cons]
    simp only [bind_eq_ok_iff, pure_eq_ok_iff, keyText, Except.ok.injEq]
    constructor
    · rintro ⟨m, ms, ⟨hname, hvalue⟩, hrest, rfl⟩
      exact ⟨f.1, rfl, m.2, hvalue, ms, ih.mp hrest, by rw [← hname]⟩
    · rintro ⟨_, rfl, j, hvalue, ms, hrest, rfl⟩
      exact ⟨(f.1, j), ms, ⟨rfl, hvalue⟩, ih.mpr hrest, rfl⟩

theorem Shows.names {fields : List (String × Value)} {ms : List (String × JsonValue)}
    (h : Shows fields ms) : ms.map Prod.fst = fields.map Prod.fst := by
  induction h with
  | nil => rfl
  | cons hm _ ih => rw [List.map_cons, List.map_cons, ih, hm.1]

theorem Shows.get? {fields : List (String × Value)} {ms : List (String × JsonValue)}
    (h : Shows fields ms) (key : String) :
    (LogContext.get? ⟨fields⟩ key).map ofValue = (member? ms key).map .ok := by
  induction h with
  | nil => rfl
  | @cons f m fields ms hm _ ih =>
    rw [LogContext.get?_cons]
    by_cases hf : f.1 = key
    · simp [member?, hm.1, hf, hm.2]
    · simpa [member?, hm.1, hf] using ih

theorem Shows.exists_member? {c : LogContext} {ms : List (String × JsonValue)}
    (h : Shows c.fields ms) {key : String} {v : Value} (hv : c.get? key = some v) :
    ∃ j, ofValue v = .ok j ∧ member? ms key = some j := by
  have hget := h.get? key
  rw [hv] at hget
  obtain ⟨j, hj, hvalue⟩ := Option.map_eq_some_iff.mp hget.symm
  exact ⟨j, hvalue.symm, hj⟩

theorem Shows.member?_eq_none {c : LogContext} {ms : List (String × JsonValue)}
    (h : Shows c.fields ms) {key : String} (hnone : c.get? key = none) : member? ms key = none := by
  have hget := h.get? key
  rw [hnone] at hget
  exact Option.map_eq_none_iff.mp hget.symm

end JsonValue

/-! ### Truthful lines -/

namespace LogRecord

open JsonValue LogContext

variable {r : LogRecord} {c : LogContext} {message text : String}
  {ms : List (String × JsonValue)}

theorem json_eq_ok_iff : r.json c = .ok text ↔ ∃ message, r.message = .ok message ∧
    ∃ ms, Shows (r.entry c message).fields ms ∧ (JsonValue.object ms).render = text := by
  simp only [json, bind_eq_ok_iff, pure_eq_ok_iff, members_eq_ok_iff, shows_iff]
  constructor
  · rintro ⟨_, ⟨message, hmessage, rfl⟩, ms, hms, rfl⟩
    exact ⟨message, hmessage, ms, hms, rfl⟩
  · rintro ⟨message, hmessage, ms, hms, rfl⟩
    exact ⟨_, ⟨message, hmessage, rfl⟩, ms, hms, rfl⟩

/-- The members of an object say of a record and a context what is in them. -/
structure Truthful (r : LogRecord) (c : LogContext) (message : String)
    (ms : List (String × JsonValue)) : Prop where
  time : member? ms "t" = some (.text r.stamp.exact)
  level : member? ms "lvl" = some (.text r.level)
  source : member? ms "name" = some (.text r.source)
  message : member? ms "msg" = some (.text message)
  trouble : (member? ms "exc").isSome = r.trouble.isSome
  fields : ∀ f ∈ c.fields, ∃ j, ofValue f.2 = .ok j ∧ member? ms f.1 = some j

/-- No field with the name of a member of the record says anything else than that member. -/
structure Agrees (r : LogRecord) (c : LogContext) (message : String) : Prop where
  own : ∀ key v w, c.get? key = some v → (r.own message).get? key = some w → ofValue v = ofValue w
  trouble : ∀ v, c.get? "exc" = some v → ∃ w, r.report? = some w ∧ ofValue v = ofValue w

/-- A member of the record itself stands under its name when no field says anything else. -/
theorem member?_own (hc : c.names.Nodup) (hms : Shows (r.entry c message).fields ms)
    {key s : String} (hown : (r.own message).get? key = some (.text s)) (hkey : "exc" ≠ key) :
    member? ms key = some (.text s) ↔ ∀ v, c.get? key = some v → ofValue v = .ok (.text s) := by
  have hget := get?_entry r hc message key
  rw [if_neg hkey, hown, Option.none_or] at hget
  cases hfield : c.get? key with
  | none =>
    rw [hfield] at hget
    obtain ⟨j, hj, hmember⟩ := hms.exists_member? hget
    rw [ofValue_text, Except.ok.injEq] at hj
    exact iff_of_true (hj ▸ hmember) (fun v hv => by cases hv)
  | some v =>
    rw [hfield] at hget
    obtain ⟨j, hj, hmember⟩ := hms.exists_member? hget
    rw [hmember, Option.some.injEq]
    constructor
    · rintro rfl v' hv'
      rw [← Option.some.inj hv', hj]
    · intro hall
      exact Except.ok.inj (hj.symm.trans (hall v rfl))

/-- A field of the context stands under its name, unless it stands in the way of a report. -/
theorem get?_entry_of_field (hc : c.names.Nodup) {f : String × Value} (hf : f ∈ c.fields) :
    (r.entry c message).get? f.1 = some f.2 ∨ (f.1 = "exc" ∧
      ∃ w, r.report? = some w ∧ (r.entry c message).get? "exc" = some w) := by
  have hfield := (get?_eq_some_iff hc).mpr hf
  have hget := get?_entry r hc message f.1
  rw [hfield] at hget
  by_cases hkey : "exc" = f.1
  · rw [if_pos hkey] at hget
    cases hreport : r.report? with
    | none =>
      rw [hreport] at hget
      exact Or.inl hget
    | some w =>
      rw [hreport, ← hkey] at hget
      exact Or.inr ⟨hkey.symm, w, rfl, hget⟩
  · rw [if_neg hkey] at hget
    exact Or.inl hget

theorem report?_isSome (r : LogRecord) : r.report?.isSome = r.trouble.isSome := Option.isSome_map

theorem get?_entry_exc (hc : c.names.Nodup) :
    (r.entry c message).get? "exc" = r.report?.or (c.get? "exc") := by
  have hown : (r.own message).get? "exc" = none := rfl
  rw [get?_entry r hc, if_pos rfl, hown, Option.or_none]

theorem Truthful.agrees (hc : c.names.Nodup) (hms : Shows (r.entry c message).fields ms)
    (h : r.Truthful c message ms) : r.Agrees c message := by
  refine ⟨fun key v w hv hw => ?_, fun v hv => ?_⟩
  · obtain ⟨s, rfl, hs⟩ := get?_own hw
    rw [ofValue_text]
    rcases hs with ⟨rfl, rfl⟩ | ⟨rfl, rfl⟩ | ⟨rfl, rfl⟩ | ⟨rfl, rfl⟩
    · exact (member?_own hc hms rfl (by decide)).mp h.time v hv
    · exact (member?_own hc hms rfl (by decide)).mp h.level v hv
    · exact (member?_own hc hms rfl (by decide)).mp h.source v hv
    · exact (member?_own hc hms rfl (by decide)).mp h.message v hv
  · -- the field has its member, so there is a report, and the report is that member
    obtain ⟨j, hj, hmember⟩ := h.fields _ ((get?_eq_some_iff hc).mp hv)
    have hsome := h.trouble
    rw [hmember, ← report?_isSome] at hsome
    obtain ⟨w, hw⟩ := Option.isSome_iff_exists.mp hsome.symm
    have hexc : (r.entry c message).get? "exc" = some w := by
      rw [get?_entry_exc hc, hw, Option.some_or]
    obtain ⟨j', hj', hmember'⟩ := hms.exists_member? hexc
    exact ⟨w, hw, by rw [hj, hj', Option.some.inj (hmember.symm.trans hmember')]⟩

/-- Without a report there is no field in its place either. -/
theorem Agrees.isSome_exc (h : r.Agrees c message) (hc : c.names.Nodup)
    (hms : Shows (r.entry c message).fields ms) :
    (member? ms "exc").isSome = r.trouble.isSome := by
  have hexc : (r.entry c message).get? "exc" = r.report?.or (c.get? "exc") := get?_entry_exc hc
  rw [← report?_isSome]
  cases hreport : r.report? with
  | some w =>
    rw [hreport] at hexc
    obtain ⟨j, -, hmember⟩ := hms.exists_member? hexc
    rw [hmember]
    rfl
  | none =>
    have hnone : c.get? "exc" = none := by
      rw [Option.eq_none_iff_forall_not_mem]
      intro v hv
      obtain ⟨w, hw, -⟩ := h.trouble v hv
      rw [hreport] at hw
      cases hw
    rw [hreport, hnone] at hexc
    rw [hms.member?_eq_none hexc]
    rfl

theorem Agrees.truthful (hc : c.names.Nodup) (hms : Shows (r.entry c message).fields ms)
    (h : r.Agrees c message) : r.Truthful c message ms := by
  have hown : ∀ {key s}, (r.own message).get? key = some (.text s) → "exc" ≠ key →
      member? ms key = some (.text s) := fun hw hkey =>
    (member?_own hc hms hw hkey).mpr fun v hv => (h.own _ v _ hv hw).trans (ofValue_text _)
  refine ⟨hown rfl (by decide), hown rfl (by decide), hown rfl (by decide),
    hown rfl (by decide), h.isSome_exc hc hms, fun f hf => ?_⟩
  rcases get?_entry_of_field hc hf with hget | ⟨hname, w, hw, hget⟩
  · exact hms.exists_member? hget
  · -- the report stands in the place of the field and says the same
    obtain ⟨w', hw', hsame⟩ := h.trouble f.2 (hname ▸ (get?_eq_some_iff hc).mpr hf)
    obtain ⟨j, hj, hmember⟩ := hms.exists_member? hget
    rw [hw, Option.some.injEq] at hw'
    exact ⟨j, by rw [hsame, ← hw', hj], hname ▸ hmember⟩

/-- A record is written when it has a message and all fields have a form in JSON; a field that the
report takes the place of need not have one. -/
theorem exists_json_iff (hc : c.names.Nodup) : (∃ text, r.json c = .ok text) ↔
    (∃ message, r.message = .ok message) ∧ ∀ f ∈ c.fields,
      (f.1 = "exc" ∧ r.trouble.isSome) ∨ ∃ j, ofValue f.2 = .ok j := by
  simp only [json_eq_ok_iff]
  constructor
  · rintro ⟨text, message, hmessage, ms, hms, -⟩
    refine ⟨⟨message, hmessage⟩, fun f hf => ?_⟩
    rcases get?_entry_of_field hc hf with hget | ⟨hname, w, hw, -⟩
    · obtain ⟨j, hj, -⟩ := hms.exists_member? hget
      exact Or.inr ⟨j, hj⟩
    · refine Or.inl ⟨hname, ?_⟩
      rw [← report?_isSome, hw]
      rfl
  · rintro ⟨⟨message, hmessage⟩, hfields⟩
    have hall : ∀ e ∈ (r.entry c message).fields, ∃ j, ofValue e.2 = .ok j := by
      intro e he
      have hget := (get?_eq_some_iff (nodup_entry r c message)).mpr he
      rw [get?_entry r hc, Option.or_eq_some_iff, Option.or_eq_some_iff] at hget
      rcases hget with hreport | ⟨hreport, hfield | ⟨-, hown⟩⟩
      · rw [ite_eq_iff, report?, Option.map_eq_some_iff] at hreport
        rcases hreport with ⟨-, t, -, ht⟩ | ⟨-, hnone⟩
        · exact ⟨_, ht ▸ ofValue_text _⟩
        · cases hnone
      · refine (hfields e ((get?_eq_some_iff hc).mp hfield)).resolve_left ?_
        rintro ⟨hname, hsome⟩
        rw [if_pos hname.symm] at hreport
        rw [← report?_isSome, hreport] at hsome
        cases hsome
      · obtain ⟨s, hs, -⟩ := get?_own hown
        exact ⟨_, hs ▸ ofValue_text s⟩
    obtain ⟨ms, hms⟩ := exists_ofEntries hall
    exact ⟨_, message, hmessage, ms, shows_iff.mpr hms, rfl⟩

/-- **A JSON line tells the truth exactly when no field contradicts the record.** -/
theorem json_truthful_iff (hc : c.Reached) (r : LogRecord) :
    ((∃ text, r.json c = .ok text) ↔ (∃ message, r.message = .ok message) ∧ ∀ f ∈ c.fields,
      (f.1 = "exc" ∧ r.trouble.isSome) ∨ ∃ j, ofValue f.2 = .ok j) ∧
    ∀ text message, r.json c = .ok text → r.message = .ok message →
      ∃ ms, decode? text = some (.object ms) ∧ (ms.map Prod.fst).Nodup ∧
        (r.Truthful c message ms ↔ r.Agrees c message) := by
  refine ⟨exists_json_iff hc.nodup, fun text message htext hmessage => ?_⟩
  obtain ⟨message', hmessage', ms, hms, rfl⟩ := json_eq_ok_iff.mp htext
  obtain rfl : message' = message := Except.ok.inj (hmessage'.symm.trans hmessage)
  refine ⟨ms, decode?_render _, ?_, Truthful.agrees hc.nodup hms, Agrees.truthful hc.nodup hms⟩
  rw [hms.names]
  exact nodup_entry r c message'

theorem json_truthful_iff_trouble :
    let c := (LogContext.empty.push [("app", .text "plot"), ("msg", .text "x")]).pop ["msg"]
    let r : LogRecord := ⟨⟨"1970-01-01T00:00:00.000Z", "1970-01-01T00:00:00+00:00"⟩, "ERROR",
      "plotscript", "no file", [], some ("OSError", "gone")⟩
    c.Reached ∧ ∃ text ms, r.json c = .ok text ∧ decode? text = some (.object ms) ∧
      r.Truthful c "no file" ms := by
  intro c r
  have hc : c.Reached := .pop (.push .empty _) _
  obtain ⟨hwritten, htrue⟩ := json_truthful_iff hc r
  obtain ⟨text, htext⟩ := hwritten.mpr ⟨⟨"no file", rfl⟩, by
    intro f hf
    obtain rfl := List.mem_singleton.mp hf
    exact Or.inr ⟨_, ofValue_text "plot"⟩⟩
  obtain ⟨ms, hdecode, -, hiff⟩ := htrue text "no file" htext rfl
  refine ⟨hc, text, ms, htext, hdecode, hiff.mpr ⟨fun key v w hv hw => ?_, fun v hv => ?_⟩⟩
  · -- the only field is `app`, which is no member of a record
    obtain ⟨s, rfl, hs⟩ := get?_own hw
    rcases hs with ⟨rfl, -⟩ | ⟨rfl, -⟩ | ⟨rfl, -⟩ | ⟨rfl, -⟩ <;> cases hv
  · cases hv

/-- A field with the name of the message stands in its place, and the message is nowhere. -/
theorem field_replaces_message :
    let c := LogContext.empty.push [("msg", .text "x")]
    let r : LogRecord := ⟨⟨"1970-01-01T00:00:00.000Z", "1970-01-01T00:00:00+00:00"⟩, "INFO",
      "plotscript", "hello", [], none⟩
    c.Reached ∧ r.message = .ok "hello" ∧ ∃ text ms, r.json c = .ok text ∧
      decode? text = some (.object ms) ∧ member? ms "msg" = some (.text "x") ∧
      ¬r.Truthful c "hello" ms := by
  intro c r
  have hmember : member? [("t", JsonValue.text "1970-01-01T00:00:00+00:00"), ("lvl", .text "INFO"),
      ("name", .text "plotscript"), ("msg", .text "x")] "msg" = some (.text "x") := rfl
  refine ⟨.push .empty _, rfl, _, _, rfl, decode?_render _, hmember, fun h => ?_⟩
  have hmessage := hmember.symm.trans h.message
  rw [Option.some.injEq, JsonValue.text.injEq] at hmessage
  exact absurd hmessage (by decide)

end LogRecord

end PlotPage
