import PlotPage.Proofs.Entries
import PlotPage.Proofs.Log.Members

/-!
# The history of a context

A context comes about by calls, one after the other, that push fields and pop them.  What it holds
can be read off all the calls at once: a pushed field stands until a later call removes its name,
and of the fields that stand every name is there once, where it first appears, with its last value.

* `ContextCall.standing`: the fields that stand after some calls.
* `LogContext.fields_after`: **a context holds the latest of the fields that stand.**
* `LogContext.after_push_pop`: fields that are pushed and popped again leave no trace, if no field
  had one of their names before.
* `Notice.marked_of_write`: a field that has a text is on every line, in either style.
-/

namespace PlotPage

/-- A call that changes a context. -/
inductive ContextCall where
  | push (fields : List (String × Value))
  | pop (names : List String)
  /-- Removes all fields. -/
  | clear

namespace ContextCall

def apply (c : LogContext) : ContextCall → LogContext
  | push fields => c.push fields
  | pop names => c.pop names
  | clear => .empty

/-- Whether a call removes the field with a name, if there is one. -/
def removes (name : String) : ContextCall → Bool
  | push _ => false
  | pop names => names.contains name
  | clear => true

/-- The fields that are pushed, in their order, without those whose names a later call removes. -/
def standing : List ContextCall → List (String × Value)
  | [] => []
  | push fields :: later => (fields.filter fun f => !later.any (removes f.1)) ++ standing later
  | pop _ :: later => standing later
  | clear :: later => standing later

end ContextCall

namespace LogContext

open ContextCall (standing)

variable {c : LogContext} {name : String} {fields : List (String × Value)} {names : List String}

/-- The context after some calls. -/
def after (c : LogContext) (calls : List ContextCall) : LogContext :=
  calls.foldl ContextCall.apply c

/-- Every name once, where it first appears, with the last of its values. -/
def latest (fields : List (String × Value)) : List (String × Value) :=
  (Entries.grouped fields).map fun g => (g.1, g.2.getLastD .null)

/-! ### One call -/

theorem store_eq_update (name : String) (v : Value) (fields : List (String × Value)) :
    store name v fields = Entries.update .null name (fun _ => v) fields := by
  induction fields with
  | nil => rfl
  | cons f rest ih => rw [store, Entries.update, ih]

/-- A name that is there keeps its place. -/
theorem names_add_of_mem (h : name ∈ c.names) (v : Value) : (c.add name v).names = c.names := by
  show (store name v c.fields).map Prod.fst = c.names
  rw [store_eq_update, Entries.keys_update]
  exact if_pos h

theorem push_append (c : LogContext) (fields more : List (String × Value)) :
    c.push (fields ++ more) = (c.push fields).push more := List.foldl_append

/-- Pushing on the empty context leaves the latest of the fields. -/
theorem fields_push_empty (fields : List (String × Value)) :
    (empty.push fields).fields = latest fields := by
  have hfold : ∀ (c : LogContext) (fields : List (String × Value)), (c.push fields).fields =
      fields.foldl (fun es f => Entries.update .null f.1 (fun _ => f.2) es) c.fields := by
    intro c fields
    induction fields generalizing c with
    | nil => rfl
    | cons f rest ih =>
      rw [List.foldl_cons, ← store_eq_update]
      exact ih (c.add f.1 f.2)
  have hlast : ∀ (vs : List Value) (start : Value),
      vs.foldl (fun _ v => v) start = vs.getLastD start := by
    intro vs
    induction vs with
    | nil => exact fun _ => rfl
    | cons v rest ih =>
      intro start
      rw [List.foldl_cons, ih, List.getLastD_cons]
  have hgather := Entries.gather_eq .null (fun _ _ v => v) fields
  simp only [hlast] at hgather
  exact (hfold empty fields).trans hgather

/-- Fields with different names stand as they are pushed. -/
theorem push_of_nodup (h : (c.fields ++ fields).map Prod.fst |>.Nodup) :
    c.push fields = ⟨c.fields ++ fields⟩ := by
  induction fields generalizing c with
  | nil => rw [List.append_nil]; rfl
  | cons f rest ih =>
    have hnew : f.1 ∉ c.fields.map Prod.fst := by
      rw [List.map_append, List.map_cons, List.nodup_append] at h
      exact fun hmem => h.2.2 _ hmem _ List.mem_cons_self rfl
    have hadd : c.add f.1 f.2 = ⟨c.fields ++ [f]⟩ := by
      rw [add, store_eq_update, Entries.update_of_not_mem hnew]
    rw [← List.singleton_append, ← List.append_assoc] at h
    show (c.add f.1 f.2).push rest = _
    rw [hadd, ih h, List.append_assoc, List.singleton_append]

/-- A context is what comes of pushing its fields. -/
theorem push_fields (h : c.names.Nodup) : empty.push c.fields = c := push_of_nodup h

theorem pop_add (c : LogContext) (name : String) (v : Value) (names : List String) :
    (c.add name v).pop names = if name ∈ names then c.pop names else (c.pop names).add name v := by
  obtain ⟨fields⟩ := c
  induction fields with
  | nil => by_cases hname : name ∈ names <;> simp [add, pop, store, hname]
  | cons f rest ih =>
    simp only [add, pop] at ih ⊢
    by_cases hf : f.1 = name
    · subst hf
      by_cases hname : f.1 ∈ names <;> simp [store, hname]
    · rw [store, if_neg hf]
      by_cases hkept : f.1 ∈ names
      · rw [List.filter_cons_of_neg (by simpa using hkept),
          List.filter_cons_of_neg (by simpa using hkept)]
        exact ih
      · rw [List.filter_cons_of_pos (by simpa using hkept),
          List.filter_cons_of_pos (by simpa using hkept)]
        by_cases hname : name ∈ names
        · rw [if_pos hname, LogContext.mk.injEq] at ih ⊢
          rw [ih]
        · rw [if_neg hname, LogContext.mk.injEq] at ih ⊢
          rw [ih, store, if_neg hf]

/-- Of the pushed fields those with the popped names are gone. -/
theorem pop_push (c : LogContext) (fields : List (String × Value)) (names : List String) :
    (c.push fields).pop names =
      (c.pop names).push (fields.filter fun f => !names.contains f.1) := by
  induction fields generalizing c with
  | nil => rfl
  | cons f rest ih =>
    show ((c.add f.1 f.2).push rest).pop names = _
    rw [ih, pop_add]
    by_cases hf : f.1 ∈ names
    · rw [if_pos hf, List.filter_cons_of_neg (by simpa using hf)]
    · rw [if_neg hf, List.filter_cons_of_pos (by simpa using hf)]
      rfl

/-- Names that no field has are passed over. -/
theorem pop_of_not_mem (h : ∀ name ∈ names, name ∉ c.names) : c.pop names = c := by
  have hkept : c.fields.filter (fun f => !names.contains f.1) = c.fields := by
    refine List.filter_eq_self.mpr fun f hf => ?_
    have hnot : f.1 ∉ names := fun hmem => h f.1 hmem (List.mem_map.mpr ⟨f, hf, rfl⟩)
    simpa using hnot
  rw [pop, hkept]

/-! ### All calls -/

/-- What stands after some calls when the context began with pushed fields. -/
theorem after_push_empty (fields : List (String × Value)) (calls : List ContextCall) :
    (empty.push fields).after calls = empty.push (standing (.push fields :: calls)) := by
  induction calls generalizing fields with
  | nil => simp [after, standing]
  | cons call calls ih =>
    cases call with
    | push more =>
      show ((empty.push fields).push more).after calls = _
      rw [← push_append, ih]
      simp [standing, ContextCall.removes]
    | pop names =>
      show ((empty.push fields).pop names).after calls = _
      rw [pop_push]
      refine (ih _).trans ?_
      simp [standing, ContextCall.removes, Bool.and_comm]
    | clear =>
      show (empty.push []).after calls = _
      rw [ih]
      simp [standing, ContextCall.removes]

/-- **A context holds the latest of the fields that stand.** -/
theorem fields_after (h : c.names.Nodup) (calls : List ContextCall) :
    (c.after calls).fields = latest (standing (.push c.fields :: calls)) := by
  rw [← fields_push_empty, ← after_push_empty, push_fields h]

/-- **Fields that are pushed and popped again leave no trace.** -/
theorem after_push_pop (h : ∀ f ∈ fields, f.1 ∉ c.names) :
    c.after [.push fields, .pop (fields.map Prod.fst)] = c := by
  have hnone : fields.filter (fun f => !(fields.map Prod.fst).contains f.1) = [] := by
    refine List.filter_eq_nil_iff.mpr fun f hf => ?_
    have hmem : f.1 ∈ fields.map Prod.fst := List.mem_map.mpr ⟨f, hf, rfl⟩
    simpa using hmem
  show (c.push fields).pop _ = c
  rw [pop_push, hnone]
  refine pop_of_not_mem fun name hname => ?_
  obtain ⟨f, hf, rfl⟩ := List.mem_map.mp hname
  exact h f hf

end LogContext

/-! ### The fields of a line -/

theorem exists_mem_of_mapM {ε α β : Type} {f : α → Except ε β} {xs : List α} {ys : List β}
    (h : xs.mapM f = .ok ys) {x : α} (hx : x ∈ xs) : ∃ y ∈ ys, f x = .ok y := by
  induction xs generalizing ys with
  | nil => exact absurd hx List.not_mem_nil
  | cons a rest ih =>
    rw [List.mapM_cons] at h
    simp only [bind_eq_ok_iff, pure_eq_ok_iff] at h
    obtain ⟨b, hb, bs, hbs, rfl⟩ := h
    rcases List.mem_cons.mp hx with rfl | hx
    · exact ⟨b, List.mem_cons_self, hb⟩
    · obtain ⟨y, hy, hfx⟩ := ih hbs hx
      exact ⟨y, List.mem_cons_of_mem b hy, hfx⟩

/-- A line for a notice shows a field with a text: it is one of the fields between the bars, or a
member of the object. -/
def Notice.Marked (n : Notice) (stamp : Stamp) (name text : String) : LineStyle → String → Prop
  | .human hasColors, line => ∃ fields, name ++ "=" ++ text ∈ fields ∧
      line = " ".intercalate [stamp.human, "|", LogRecord.levelColumn hasColors n.level.name, "|",
        " ".intercalate fields, "|", n.message]
  | .json, line => ∃ ms, JsonValue.decode? line = some (.object ms) ∧
      JsonValue.member? ms name = some (.text text)

/-- A field that has a text is on every line. -/
theorem Notice.marked_of_write {n : Notice} {stamp : Stamp} {c : LogContext} {name text : String}
    (hc : c.names.Nodup) (hfield : c.get? name = some (.text text)) {style : LineStyle}
    {line : String} (h : (n.record stamp).write style c = .ok line) :
    n.Marked stamp name text style line := by
  cases style with
  | human hasColors =>
    have hmem := (LogContext.get?_eq_some_iff hc).mp hfield
    have hsome : ¬c.fields.isEmpty = true := by
      rw [List.isEmpty_iff]
      exact List.ne_nil_of_mem hmem
    simp only [LogRecord.write, LogRecord.human, LogRecord.contextText, if_neg hsome,
      bind_eq_ok_iff, pure_eq_ok_iff] at h
    obtain ⟨_, ⟨fields, hfields, rfl⟩, _, rfl, message, hmessage, hline⟩ := h
    obtain ⟨part, hpart, hshown⟩ := exists_mem_of_mapM hfields hmem
    obtain rfl : name ++ "=" ++ text = part := Except.ok.inj hshown
    obtain rfl : n.message = message := Except.ok.inj hmessage
    exact ⟨fields, hpart, (Except.ok.inj hline).symm⟩
  | json =>
    obtain ⟨message, -, ms, hms, rfl⟩ := LogRecord.json_eq_ok_iff.mp h
    have hentry := LogRecord.get?_entry (n.record stamp) hc message name
    have hnone : (n.record stamp).report? = none := rfl
    rw [hfield, hnone, ite_self, Option.none_or, Option.some_or] at hentry
    obtain ⟨j, hj, hmember⟩ := hms.exists_member? hentry
    rw [JsonValue.ofValue_text, Except.ok.injEq] at hj
    exact ⟨ms, JsonValue.decode?_render _, hj ▸ hmember⟩

end PlotPage
