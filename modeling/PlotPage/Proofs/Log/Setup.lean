import PlotPage.Log.Basic
import PlotPage.Proofs.Files.Places

/-!
# Every record is written once

A setup takes away the handlers of the setup before it and installs its own, with numbers that no
handler has had.  So the handlers are those of others, untouched, and after them those of the last
setup that succeeded.

* `written`: what some handlers write to an outlet for one record; `emitAll` writes exactly this.
* `setup_eq`: what a setup with a known level does, when its file opens and its context has names.
* `push_push`: a context that is pushed again is already there.
-/

namespace PlotPage

/-! ### Contexts -/

namespace LogContext

def names (c : LogContext) : List String := c.fields.map Prod.fst

theorem store_store (name : String) (v w : Value) (fields : List (String × Value)) :
    store name w (store name v fields) = store name w fields := by
  induction fields with
  | nil => simp [store]
  | cons f rest ih =>
    by_cases hf : f.1 = name
    · simp [store, hf]
    · simp [store, hf, ih]

/-- A field that is there may as well be stored before another one. -/
theorem store_comm {name other : String} (hne : name ≠ other) (v w : Value)
    {fields : List (String × Value)} (h : other ∈ fields.map Prod.fst) :
    store other w (store name v fields) = store name v (store other w fields) := by
  induction fields with
  | nil => exact absurd h List.not_mem_nil
  | cons f rest ih =>
    rw [List.map_cons, List.mem_cons] at h
    by_cases hname : f.1 = name
    · have hother : f.1 ≠ other := fun ho => hne (hname.symm.trans ho)
      simp [store, hname, hne]
    · by_cases hother : f.1 = other
      · simp [store, hother, Ne.symm hne]
      · have hrest : other ∈ rest.map Prod.fst := h.resolve_left (Ne.symm hother)
        simp [store, hname, hother, ih hrest]

theorem mem_names_store {name : String} {fields : List (String × Value)} {key : String}
    {v : Value} : key ∈ (store name v fields).map Prod.fst ↔
      key = name ∨ key ∈ fields.map Prod.fst := by
  induction fields with
  | nil => simp [store]
  | cons f rest ih =>
    by_cases hf : f.1 = name
    · simp [store, hf]
    · simp only [store, hf, if_false, List.map_cons, List.mem_cons, ih]
      exact or_left_comm

theorem mem_names_add {c : LogContext} {name key : String} {v : Value} :
    key ∈ (c.add name v).names ↔ key = name ∨ key ∈ c.names := mem_names_store

theorem mem_names_push {c : LogContext} {fields : List (String × Value)} {key : String} :
    key ∈ (c.push fields).names ↔ key ∈ fields.map Prod.fst ∨ key ∈ c.names := by
  induction fields generalizing c with
  | nil => simp [push]
  | cons f rest ih =>
    show key ∈ ((c.add f.1 f.2).push rest).names ↔ _
    rw [ih, mem_names_add, List.map_cons, List.mem_cons]
    exact or_left_comm.trans or_assoc.symm

theorem mem_store {name : String} {v : Value} {fields : List (String × Value)}
    {f : String × Value} (h : f ∈ store name v fields) : f = (name, v) ∨ f ∈ fields := by
  induction fields with
  | nil => exact Or.inl (List.mem_singleton.mp h)
  | cons g rest ih =>
    by_cases hg : g.1 = name
    · rw [store, if_pos hg, hg, List.mem_cons] at h
      exact h.imp_right (List.mem_cons_of_mem g)
    · rw [store, if_neg hg, List.mem_cons] at h
      rcases h with rfl | h
      · exact Or.inr List.mem_cons_self
      · exact (ih h).imp_right (List.mem_cons_of_mem g)

theorem mem_push {c : LogContext} {fields : List (String × Value)} {f : String × Value}
    (h : f ∈ (c.push fields).fields) : f ∈ fields ∨ f ∈ c.fields := by
  induction fields generalizing c with
  | nil => exact Or.inr h
  | cons g rest ih =>
    rcases ih (c := c.add g.1 g.2) h with h | h
    · exact Or.inl (List.mem_cons_of_mem g h)
    · rcases mem_store h with rfl | h
      · exact Or.inl List.mem_cons_self
      · exact Or.inr h

/-- A field that is stored last needs no place of its own before, if the others are there. -/
theorem add_push_add {name : String} (v w : Value) {fields : List (String × Value)}
    {c : LogContext} (h : ∀ key ∈ fields.map Prod.fst, key ∈ c.names) :
    ((c.add name w).push fields).add name v = (c.push fields).add name v := by
  induction fields generalizing c w with
  | nil => exact congrArg LogContext.mk (store_store name w v c.fields)
  | cons f rest ih =>
    show (((c.add name w).add f.1 f.2).push rest).add name v =
      ((c.add f.1 f.2).push rest).add name v
    by_cases hname : f.1 = name
    · have hsame : (c.add name w).add f.1 f.2 = c.add f.1 f.2 := by
        rw [hname]
        exact congrArg LogContext.mk (store_store name w f.2 c.fields)
      rw [hsame]
    · have hcomm : (c.add name w).add f.1 f.2 = (c.add f.1 f.2).add name w :=
        congrArg LogContext.mk (store_comm (Ne.symm hname) w f.2 (h f.1 (by simp)))
      rw [hcomm]
      refine ih w fun key hkey => mem_names_add.mpr (Or.inr (h key ?_))
      rw [List.map_cons]
      exact List.mem_cons_of_mem _ hkey

/-- Pushing the same fields again changes nothing. -/
theorem push_push (c : LogContext) (fields : List (String × Value)) :
    (c.push fields).push fields = c.push fields := by
  have hsnoc : ∀ (d : LogContext) (front : List (String × Value)) (f : String × Value),
      d.push (front ++ [f]) = (d.push front).add f.1 f.2 := by
    intro d front f
    rw [push, List.foldl_append]
    rfl
  rw [← List.reverse_reverse fields]
  induction fields.reverse with
  | nil => rfl
  | cons f front ih =>
    rw [List.reverse_cons, hsnoc, hsnoc, add_push_add f.2 f.2, ih]
    exact fun key hkey => mem_names_push.mpr (Or.inl hkey)

theorem pushValue_again {c c' : LogContext} {v : Value} (h : c.pushValue v = .ok c') :
    c'.pushValue v = .ok c' := by
  simp only [pushValue, bind_eq_ok_iff, pure_eq_ok_iff] at h ⊢
  obtain ⟨fields, hfields, rfl⟩ := h
  exact ⟨fields, hfields, push_push c fields⟩

end LogContext

/-! ### What handlers write -/

/-- What a notice becomes as a record. -/
def Notice.record (n : Notice) (stamp : Stamp) : LogRecord :=
  { stamp, level := n.level.name, source := n.source, template := n.message }

/-- The line that a style adds for a record; a record that has no text in the style is left out. -/
def LogRecord.line (r : LogRecord) (style : LineStyle) (c : LogContext) : String :=
  match r.write style c with
  | .ok text => text ++ "\n"
  | .error _ => ""

/-- The fields of a context have a text in a style. -/
def LogContext.Writable (c : LogContext) : LineStyle → Prop
  | .human _ => ∀ f ∈ c.fields, ∃ text, f.2.plain = .ok text
  | .json => ∀ f ∈ c.fields, ∃ v, JsonValue.ofValue f.2 = .ok v

theorem exists_mapM {ε α β : Type} {f : α → Except ε β} {xs : List α}
    (h : ∀ x ∈ xs, ∃ y, f x = .ok y) : ∃ ys, xs.mapM f = .ok ys := by
  induction xs with
  | nil => exact ⟨[], List.mapM_nil⟩
  | cons x xs ih =>
    obtain ⟨y, hy⟩ := h x List.mem_cons_self
    obtain ⟨ys, hys⟩ := ih fun x' hx' => h x' (List.mem_cons_of_mem x hx')
    exact ⟨y :: ys, by rw [List.mapM_cons, hy, hys]; rfl⟩

theorem exists_ofEntries {fields : List (String × Value)}
    (h : ∀ f ∈ fields, ∃ v, JsonValue.ofValue f.2 = .ok v) :
    ∃ members,
      JsonValue.ofEntries [] (fields.map fun f => (Value.text f.1, f.2)) = .ok members := by
  induction fields with
  | nil => exact ⟨[], rfl⟩
  | cons f rest ih =>
    obtain ⟨v, hv⟩ := h f List.mem_cons_self
    obtain ⟨members, hmembers⟩ := ih fun g hg => h g (List.mem_cons_of_mem f hg)
    refine ⟨(f.1, v) :: members, ?_⟩
    rw [List.map_cons, JsonValue.ofEntries_cons, hv, hmembers]
    rfl

/-- The record of a notice can be written when the fields of the context can. -/
theorem Notice.exists_write (n : Notice) (stamp : Stamp) {style : LineStyle} {c : LogContext}
    (h : c.Writable style) : ∃ text, (n.record stamp).write style c = .ok text := by
  cases style with
  | human hasColors =>
    have hcontext : ∃ text, LogRecord.contextText c = .ok text := by
      have hparts : ∀ f ∈ c.fields, ∃ part, (do
          return s!"{f.1}=" ++ (← f.2.plain) : Except Fault String) = .ok part := by
        intro f hf
        obtain ⟨text, htext⟩ := h f hf
        exact ⟨_, by rw [htext]; rfl⟩
      obtain ⟨parts, hmap⟩ := exists_mapM hparts
      exact ⟨_, by rw [LogRecord.contextText, hmap]; rfl⟩
    obtain ⟨text, htext⟩ := hcontext
    simp only [LogRecord.write, LogRecord.human, htext]
    by_cases hempty : c.fields.isEmpty
    · rw [if_pos hempty]
      exact ⟨_, rfl⟩
    · rw [if_neg hempty]
      exact ⟨_, rfl⟩
  | json =>
    have hmembers : ∃ all, (n.record stamp).members c = .ok all ∧
        ∀ f ∈ all, ∃ v, JsonValue.ofValue f.2 = .ok v := by
      refine ⟨_, rfl, fun f hf => ?_⟩
      rcases LogContext.mem_push hf with hf | hf
      · exact h f hf
      · -- the members of the record itself are texts
        simp only [List.mem_cons, List.not_mem_nil, or_false] at hf
        rcases hf with rfl | rfl | rfl | rfl <;> exact ⟨_, JsonValue.ofValue_text _⟩
    obtain ⟨all, hall, hvalues⟩ := hmembers
    obtain ⟨members, hentries⟩ := exists_ofEntries hvalues
    simp only [LogRecord.write, LogRecord.json, hall, ok_bind, hentries]
    exact ⟨_, rfl⟩

/-- A file with more at its end. -/
def Node.extend (data : List UInt8) : Node → Node
  | .file content => .file (content ++ data)
  | .directory => .directory

theorem Node.extend_nil (n : Node) : n.extend [] = n := by
  cases n with
  | file content => rw [extend, List.append_nil]
  | directory => rfl

theorem Node.map_extend_nil (node? : Option Node) : node?.map (extend []) = node? := by
  rw [funext extend_nil]
  exact Option.map_id_apply

theorem Node.extend_extend (a b : List UInt8) (n : Node) :
    (n.extend a).extend b = n.extend (a ++ b) := by
  cases n with
  | file content => rw [extend, extend, extend, List.append_assoc]
  | directory => rfl

theorem Node.map_extend_extend (a b : List UInt8) (node? : Option Node) :
    (node?.map (extend a)).map (extend b) = node?.map (extend (a ++ b)) := by
  rw [Option.map_map]
  exact congrArg (Option.map · node?) (funext (extend_extend a b))

theorem FileSystem.node?_append (fs : FileSystem) (q p : Place) (data : List UInt8) :
    (fs.append q data).node? p =
      if q = p then (fs.node? p).map (Node.extend data) else fs.node? p := by
  unfold append
  by_cases hqp : q = p
  · subst hqp
    rw [if_pos rfl]
    split
    · next content hq => rw [node?_put_self, hq]; rfl
    · next hq =>
      rcases hn : fs.node? q with _ | ⟨content⟩ | _
      · rfl
      · exact absurd hn (hq content)
      · rfl
  · rw [if_neg hqp]
    split
    · exact node?_put_of_ne fs _ hqp
    · rfl

namespace Log

/-- The lines that the handlers write to an outlet for one record, in their order. -/
def written (c : LogContext) (r : LogRecord) (hs : List LogHandler) (o : Outlet) : List String :=
  (hs.filter fun h => h.outlet = o).map fun h => r.line h.style c

/-- The bytes of lines. -/
def bytes (lines : List String) : List UInt8 := lines.flatMap fun line => line.toUTF8.toList

theorem written_cons (c : LogContext) (r : LogRecord) (h : LogHandler) (hs : List LogHandler)
    (o : Outlet) : written c r (h :: hs) o = written c r [h] o ++ written c r hs o := by
  rw [← List.singleton_append, written, List.filter_append, List.map_append]
  rfl

theorem written_append (c : LogContext) (r : LogRecord) (hs hs' : List LogHandler) (o : Outlet) :
    written c r (hs ++ hs') o = written c r hs o ++ written c r hs' o := by
  rw [written, List.filter_append, List.map_append]
  rfl

theorem written_of_outlet (c : LogContext) (r : LogRecord) {h : LogHandler} {o : Outlet}
    (ho : h.outlet = o) : written c r [h] o = [r.line h.style c] := by
  simp [written, ho]

theorem written_of_ne (c : LogContext) (r : LogRecord) {h : LogHandler} {o : Outlet}
    (ho : h.outlet ≠ o) : written c r [h] o = [] := by
  simp [written, ho]

theorem emit_text (c : LogContext) (r : LogRecord) (h : LogHandler) (fs : FileSystem) :
    (emit c r h fs).1 = String.join (written c r [h] .stream) := by
  by_cases ho : h.outlet = .stream
  · rw [written_of_outlet c r ho, LogRecord.line]
    unfold emit
    cases r.write h.style c <;> simp [ho]
  · rw [written_of_ne c r ho]
    unfold emit
    cases r.write h.style c with
    | error f => rfl
    | ok line => cases hout : h.outlet <;> simp_all

theorem bytes_line (line : String) : bytes [line] = line.toUTF8.toList := List.flatMap_singleton ..

theorem bytes_append (lines more : List String) :
    bytes (lines ++ more) = bytes lines ++ bytes more := List.flatMap_append

theorem emit_node (c : LogContext) (r : LogRecord) (h : LogHandler) (fs : FileSystem) (p : Place) :
    (emit c r h fs).2.node? p =
      (fs.node? p).map (Node.extend (bytes (written c r [h] (.file p)))) := by
  by_cases ho : h.outlet = .file p
  · rw [written_of_outlet c r ho, bytes_line, LogRecord.line]
    unfold emit
    cases r.write h.style c with
    | error f => simp [Node.map_extend_nil, ByteArray.toList_empty]
    | ok line => simp [ho, FileSystem.node?_append]
  · have hnone : bytes (written c r [h] (.file p)) = [] := by rw [written_of_ne c r ho]; rfl
    rw [hnone, Node.map_extend_nil]
    unfold emit
    cases r.write h.style c with
    | error f => rfl
    | ok line =>
      cases hout : h.outlet with
      | stream => rfl
      | lost => rfl
      | file q =>
        have hqp : q ≠ p := fun hq => ho (by rw [hout, hq])
        simp only [FileSystem.node?_append, if_neg hqp]

/-- A record goes to each handler once. -/
theorem emitAll_eq (c : LogContext) (r : LogRecord) (hs : List LogHandler) (fs : FileSystem) :
    (emitAll c r hs fs).1 = String.join (written c r hs .stream) ∧
      ∀ p, (emitAll c r hs fs).2.node? p =
        (fs.node? p).map (Node.extend (bytes (written c r hs (.file p)))) := by
  induction hs generalizing fs with
  | nil =>
    exact ⟨rfl, fun p => (Node.map_extend_nil (fs.node? p)).symm⟩
  | cons h hs ih =>
    obtain ⟨htext, hnode⟩ := ih (emit c r h fs).2
    refine ⟨?_, fun p => ?_⟩
    · rw [written_cons, String.join_append, ← emit_text c r h fs, ← htext]
      rfl
    · have hstep := hnode p
      rw [emit_node, Node.map_extend_extend] at hstep
      show (emitAll c r hs (emit c r h fs).2).2.node? p = _
      rw [hstep, written_cons c r h hs, bytes_append]

/-! ### One setup -/

/-- The handlers that the last setup did not install. -/
def others (l : Log) : List LogHandler := l.handlers.filter fun h => !l.installed.contains h

/-- No handler has a number that is still to be given. -/
def Fresh (l : Log) : Prop := ∀ h ∈ l.handlers, h.id < l.nextId

/-- The handlers that a log installs for some outlets. -/
def adds (l : Log) (outlets : List (Outlet × LineStyle)) : List LogHandler :=
  outlets.mapIdx fun i o => ⟨l.nextId + i, o.1, o.2⟩

theorem id_of_mem_adds {l : Log} {outlets : List (Outlet × LineStyle)} {h : LogHandler}
    (hmem : h ∈ l.adds outlets) : l.nextId ≤ h.id ∧ h.id < l.nextId + outlets.length := by
  obtain ⟨i, hi, rfl⟩ := List.mem_mapIdx.mp hmem
  exact ⟨Nat.le_add_right _ _, Nat.add_lt_add_left hi _⟩

/-- What handlers are, apart from their numbers. -/
def kinds (hs : List LogHandler) : List (Outlet × LineStyle) := hs.map fun h => (h.outlet, h.style)

theorem kinds_adds (l : Log) (outlets : List (Outlet × LineStyle)) :
    kinds (l.adds outlets) = outlets := by
  refine List.ext_getElem (by simp [kinds, adds]) fun i _ _ => ?_
  simp [kinds, adds]

/-- The log after a setup that installs handlers for some outlets. -/
def renewed (l : Log) (level : Level) (outlets : List (Outlet × LineStyle)) (context : LogContext) :
    Log where
  level := level
  handlers := l.others ++ l.adds outlets
  installed := l.adds outlets
  nextId := l.nextId + outlets.length
  context := context

variable {l : Log} {level : Level} {os : List (Outlet × LineStyle)} {context : LogContext}

theorem Fresh.others (hl : l.Fresh) : ∀ h ∈ l.others, h.id < l.nextId :=
  fun h hmem => hl h (List.mem_filter.mp hmem).1

theorem Fresh.renewed (hl : l.Fresh) : (l.renewed level os context).Fresh := by
  intro h hmem
  show h.id < l.nextId + os.length
  rcases List.mem_append.mp hmem with hother | hadded
  · exact Nat.lt_add_right _ (hl.others h hother)
  · exact (id_of_mem_adds hadded).2

/-- A setup leaves the handlers of others alone. -/
theorem others_renewed (hl : l.Fresh) : (l.renewed level os context).others = l.others := by
  show (l.others ++ l.adds os).filter (fun h => !(l.adds os).contains h) = l.others
  rw [List.filter_append, List.filter_eq_self.mpr, List.filter_eq_nil_iff.mpr, List.append_nil]
  · intro h hmem
    simp [hmem]
  · intro h hmem
    have hlt := hl.others h hmem
    have hnot : h ∉ l.adds os := fun hadded => by
      have hle := (id_of_mem_adds hadded).1
      omega
    simp [hnot]

end Log

/-- The style of the handler for the error stream. -/
def LogRequest.streamStyle (q : LogRequest) (isTerminal : Bool) : LineStyle :=
  if q.json then .json else .human (q.hasColors && isTerminal)

/-- The style of the handler for a file. -/
def LogRequest.fileStyle (q : LogRequest) : LineStyle := if q.json then .json else .human false

/-- The file of a request can be opened, and where it is; no name and an empty one ask for no
file. -/
inductive LogRequest.Opens (q : LogRequest) (fs : FileSystem) : Option Place → FileSystem → Prop
  | unnamed : q.file = none → Opens q fs none fs
  | blank : q.file = some "" → Opens q fs none fs
  | named {name : String} {place : Place} {fs' : FileSystem} : q.file = some name → name ≠ "" →
      Log.openFile fs (.read name) = (.ok place, fs') → Opens q fs (some place) fs'

/-- The context of a request is nothing, or a mapping with texts as keys. -/
def LogRequest.IsNamed (q : LogRequest) : Prop :=
  q.context.isTruthy = true → ∃ entries mark, q.context = .map entries mark ∧
    ∀ e ∈ entries, ∃ name, e.1 = .text name

/-- The outlets of a request whose file is at a place. -/
def LogRequest.outlets (q : LogRequest) (isTerminal : Bool) (place : Option Place) :
    List (Outlet × LineStyle) :=
  (.stream, q.streamStyle isTerminal) :: (place.map fun p => (.file p, q.fileStyle)).toList

namespace Log

/-- The context that a request leaves. -/
def asked (c : LogContext) (q : LogRequest) : Except Fault LogContext :=
  if q.context.isTruthy then c.pushValue q.context else .ok c

variable {l : Log} {level : Level} {q : LogRequest} {fs fs' : FileSystem} {place : Option Place}

theorem outlets_of_opens (isTerminal : Bool) (h : q.Opens fs place fs') :
    outlets isTerminal fs q = (.ok (q.outlets isTerminal place), fs') := by
  unfold outlets
  cases h with
  | unnamed hfile => simp only [hfile]; rfl
  | blank hfile => simp only [hfile]; rfl
  | named hfile _ hopen =>
    simp only [hfile, hopen]
    rfl

/-- What a setup does, when its level is known and its file opens. -/
theorem setup_of_opens (isTerminal : Bool) (l : Log)
    (hlevel : Level.ofName? (Text.upper q.level) = some level) (hopens : q.Opens fs place fs') :
    setup isTerminal l fs q =
      match asked l.context q with
      | .ok context => (.ok (l.adds (q.outlets isTerminal place)),
          l.renewed level (q.outlets isTerminal place) context, fs')
      | .error f => (.error f, l.renewed level (q.outlets isTerminal place) l.context, fs') := by
  have hinstall : ({ l.release with level }).install (q.outlets isTerminal place) =
      l.renewed level (q.outlets isTerminal place) l.context := by
    simp only [install, renewed, adds, release, others, List.length_mapIdx]
  have hcontext : (l.renewed level (q.outlets isTerminal place) l.context).context = l.context :=
    rfl
  simp only [setup, hlevel, outlets_of_opens isTerminal hopens, hinstall, asked, hcontext]
  split
  · cases l.context.pushValue q.context <;> rfl
  · rfl

/-- What a setup does, when its level is known, its file opens and its context has names. -/
theorem setup_eq (isTerminal : Bool) (hlevel : Level.ofName? (Text.upper q.level) = some level)
    (hopens : q.Opens fs place fs') {context : LogContext}
    (hcontext : asked l.context q = .ok context) :
    setup isTerminal l fs q = (.ok (l.adds (q.outlets isTerminal place)),
      l.renewed level (q.outlets isTerminal place) context, fs') := by
  rw [setup_of_opens isTerminal l hlevel hopens, hcontext]

/-- The log with the handlers of others alone, at a level. -/
def stripped (l : Log) (level : Level) : Log :=
  { l with level, handlers := l.others, installed := [] }

/-- What a setup does, when its level is known and its file cannot be opened. -/
theorem setup_of_noFile (isTerminal : Bool) (l : Log)
    (hlevel : Level.ofName? (Text.upper q.level) = some level) {name : String} {f : Fault}
    (hfile : q.file = some name) (hname : name ≠ "")
    (hopen : openFile fs (.read name) = (.error f, fs')) :
    setup isTerminal l fs q = (.error f, l.stripped level, fs') := by
  have houtlets : outlets isTerminal fs q = (.error f, fs') := by
    unfold outlets
    simp only [hfile, hopen]
  simp only [setup, hlevel, houtlets]
  rfl

theorem exists_asked (c : LogContext) (h : q.IsNamed) : ∃ context, asked c q = .ok context := by
  unfold asked
  split
  · next htruthy =>
    obtain ⟨entries, mark, hmap, hnames⟩ := h htruthy
    have hfields : ∃ fields, LogContext.namedFields entries = .ok fields := by
      clear hmap
      induction entries with
      | nil => exact ⟨[], rfl⟩
      | cons e rest ih =>
        obtain ⟨fields, hfields⟩ := ih fun e he => hnames e (List.mem_cons_of_mem _ he)
        obtain ⟨name, hname⟩ := hnames e List.mem_cons_self
        obtain ⟨key, v⟩ := e
        obtain rfl : key = .text name := hname
        exact ⟨(name, v) :: fields, by rw [LogContext.namedFields, hfields]; rfl⟩
    obtain ⟨fields, hfields⟩ := hfields
    refine ⟨c.push fields, ?_⟩
    rw [LogContext.pushValue, hmap, LogContext.fieldsOf, hfields]
    rfl
  · exact ⟨c, rfl⟩

theorem setup_of_unknown (isTerminal : Bool) (l : Log) (fs : FileSystem)
    (hlevel : Level.ofName? (Text.upper q.level) = none) :
    setup isTerminal l fs q = (.error (.unknownLevel q.level), l, fs) := by
  simp only [setup, hlevel]

/-- A file that has been opened can be opened again, and this changes nothing. -/
theorem openFile_again {p : FilePath} {r : Place} (h : openFile fs p = (.ok r, fs')) :
    openFile fs' p = (.ok r, fs') := by
  unfold openFile at h ⊢
  split at h
  · cases h
  · next made hmade =>
    split at h
    · cases h
    · next hopen =>
      obtain ⟨hr, rfl⟩ := Prod.mk.inj h
      obtain rfl := Except.ok.inj hr
      have hext := (FileSystem.openAtEnd_eq_ok hopen).2.1.toExtends
      have hdir := hext.isDirectory (FileSystem.isDirectory_of_ensureDirectory hmade)
      rw [FileSystem.ensureDirectory_of_isDirectory _ hdir]
      simp only [FileSystem.openAtEnd_again hopen]

end Log

theorem LogRequest.Opens.again {q : LogRequest} {fs fs' : FileSystem} {place : Option Place}
    (h : q.Opens fs place fs') : q.Opens fs' place fs' := by
  cases h with
  | unnamed hfile => exact .unnamed hfile
  | blank hfile => exact .blank hfile
  | named hfile hne hopen => exact .named hfile hne (Log.openFile_again hopen)

/-! ### A run of setups -/

/-- A log setup, with the files that are there when it happens. -/
structure LogCall where
  isTerminal : Bool
  files : FileSystem
  request : LogRequest

namespace LogCall

def level? (c : LogCall) : Option Level := Level.ofName? (Text.upper c.request.level)

/-- The file of the call, if it names one, can be opened, and its context has names. -/
def Usable (c : LogCall) : Prop :=
  c.request.IsNamed ∧ ∃ place fs', c.request.Opens c.files place fs'

end LogCall

namespace Log

variable {l : Log} {c : LogCall} {calls : List LogCall}

/-- The log after some setups, whether or not they succeeded. -/
def after (l : Log) (calls : List LogCall) : Log :=
  calls.foldl (fun l c => (l.setup c.isTerminal c.files c.request).2.1) l

theorem after_cons (l : Log) (c : LogCall) (calls : List LogCall) :
    l.after (c :: calls) = ((l.setup c.isTerminal c.files c.request).2.1).after calls := rfl

theorem after_append (l : Log) (calls more : List LogCall) :
    l.after (calls ++ more) = (l.after calls).after more := List.foldl_append

/-- A setup that succeeds or does not know its level leaves the handlers of others alone. -/
theorem setup_keeps (hl : l.Fresh) (h : c.level? = none ∨ c.Usable) :
    (l.setup c.isTerminal c.files c.request).2.1.Fresh ∧
      (l.setup c.isTerminal c.files c.request).2.1.others = l.others := by
  cases hlevel : c.level? with
  | none =>
    rw [setup_of_unknown c.isTerminal l c.files hlevel]
    exact ⟨hl, rfl⟩
  | some level =>
    obtain ⟨hnamed, place, fs', hopens⟩ := h.resolve_left (by simp [hlevel])
    obtain ⟨context, hcontext⟩ := exists_asked l.context hnamed
    rw [setup_eq c.isTerminal hlevel hopens hcontext]
    exact ⟨hl.renewed, others_renewed hl⟩

theorem after_keeps (hl : l.Fresh) (h : ∀ c ∈ calls, c.level? = none ∨ c.Usable) :
    (l.after calls).Fresh ∧ (l.after calls).others = l.others := by
  induction calls generalizing l with
  | nil => exact ⟨hl, rfl⟩
  | cons c calls ih =>
    obtain ⟨hfresh, hothers⟩ := setup_keeps hl (h c List.mem_cons_self)
    rw [after_cons, ← hothers]
    exact ih hfresh fun c' hc' => h c' (List.mem_cons_of_mem c hc')

theorem after_of_unknown (h : ∀ c ∈ calls, c.level? = none) : l.after calls = l := by
  induction calls with
  | nil => rfl
  | cons c calls ih =>
    rw [after_cons, setup_of_unknown c.isTerminal l c.files (h c List.mem_cons_self)]
    exact ih fun c' hc' => h c' (List.mem_cons_of_mem c hc')

/-- The handlers are those of others and after them those that a setup has returned, and each record
goes to each of them once. -/
structure Serves (l : Log) (others returned : List LogHandler) (level : Level) (q : LogRequest)
    (isTerminal : Bool) (place : Option Place) : Prop where
  level_eq : l.level = level
  installed : l.installed = returned
  handlers : l.handlers = others ++ returned
  others_eq : l.others = others
  kinds : kinds returned = q.outlets isTerminal place
  /-- A record below the level is written nowhere. -/
  below : ∀ stamp n fs, n.level.rank < level.rank → l.report stamp n fs = ("", fs)
  /-- Any other record is written once to the error stream. -/
  stream : ∀ stamp n fs, level.rank ≤ n.level.rank → (l.report stamp n fs).1 =
    String.join (written l.context (n.record stamp) others .stream ++
      [(n.record stamp).line (q.streamStyle isTerminal) l.context])
  /-- It is written once to the file of the setup, and to no other file. -/
  files : ∀ stamp n fs, level.rank ≤ n.level.rank → ∀ p, (l.report stamp n fs).2.node? p =
    (fs.node? p).map (Node.extend (bytes (written l.context (n.record stamp) others (.file p) ++
      if place = some p then [(n.record stamp).line q.fileStyle l.context] else [])))
  /-- A line is the record in its style, if the style can write the fields of the context. -/
  line : ∀ stamp (n : Notice) style, l.context.Writable style → ∃ text,
    (n.record stamp).write style l.context = .ok text ∧
      (n.record stamp).line style l.context = text ++ "\n"

/-- The handlers of a setup write a record to the error stream and to the file, once each. -/
theorem written_adds (l : Log) (c : LogContext) (r : LogRecord) (q : LogRequest) (isTerminal : Bool)
    (place : Option Place) :
    written c r (l.adds (q.outlets isTerminal place)) .stream =
        [r.line (q.streamStyle isTerminal) c] ∧
      ∀ p, written c r (l.adds (q.outlets isTerminal place)) (.file p) =
        if place = some p then [r.line q.fileStyle c] else [] := by
  cases place with
  | none => exact ⟨rfl, fun p => rfl⟩
  | some r =>
    refine ⟨rfl, fun p => ?_⟩
    by_cases hp : r = p
    · simp [written, adds, LogRequest.outlets, hp]
    · simp [written, adds, LogRequest.outlets, hp]

theorem serves_renewed (hl : l.Fresh) (level : Level) (q : LogRequest) (isTerminal : Bool)
    (place : Option Place) (context : LogContext) :
    (l.renewed level (q.outlets isTerminal place) context).Serves l.others
      (l.adds (q.outlets isTerminal place)) level q isTerminal place := by
  have hemit : ∀ stamp n fs, level.rank ≤ n.level.rank →
      (l.renewed level (q.outlets isTerminal place) context).report stamp n fs =
        emitAll context (n.record stamp) (l.others ++ l.adds (q.outlets isTerminal place)) fs := by
    intro stamp n fs hrank
    have hnot : ¬n.level.rank < level.rank := Nat.not_lt.mpr hrank
    have hsome : (l.others ++ l.adds (q.outlets isTerminal place)).isEmpty = false := by
      simp [adds, LogRequest.outlets]
    simp only [report, renewed, hnot, if_false, hsome]
    rfl
  have hadds := fun c r => written_adds l c r q isTerminal place
  refine ⟨rfl, rfl, rfl, others_renewed hl, kinds_adds l _, ?_, ?_, ?_, ?_⟩
  · intro stamp n fs hrank
    exact if_pos hrank
  · intro stamp n fs hrank
    rw [hemit stamp n fs hrank, (emitAll_eq ..).1, written_append, (hadds _ _).1]
    rfl
  · intro stamp n fs hrank p
    rw [hemit stamp n fs hrank, (emitAll_eq ..).2 p, written_append, (hadds _ _).2 p]
    rfl
  · intro stamp n style hwritable
    obtain ⟨text, htext⟩ := n.exists_write stamp hwritable
    exact ⟨text, htext, by rw [LogRecord.line, htext]⟩

/-- **Each record is written once.**  After any setups, of which those that do not know their level
change nothing, the handlers are those of others, untouched, and those of the last setup that
succeeded; a record that is not below its level is written once to the error stream and once to its
file.  The same setup once more leaves the same level, kinds of handlers and context. -/
theorem record_written_once (hl : l.Fresh) {earlier later : List LogCall} {call : LogCall}
    {level : Level} (hearlier : ∀ c ∈ earlier, c.level? = none ∨ c.Usable) (hcall : call.Usable)
    (hlevel : call.level? = some level) (hlater : ∀ c ∈ later, c.level? = none) :
    ∃ returned place fs' l',
      (l.after earlier).setup call.isTerminal call.files call.request = (.ok returned, l', fs') ∧
      call.request.Opens call.files place fs' ∧
      l'.Serves l.others returned level call.request call.isTerminal place ∧
      (∀ c ∈ later, l'.setup c.isTerminal c.files c.request =
        (.error (.unknownLevel c.request.level), l', c.files)) ∧
      l.after (earlier ++ call :: later) = l' ∧
      ∃ again l'', l'.setup call.isTerminal fs' call.request = (.ok again, l'', fs') ∧
        l''.level = l'.level ∧ kinds l''.handlers = kinds l'.handlers ∧
        kinds again = kinds returned ∧ l''.context = l'.context := by
  obtain ⟨hfresh, hothers⟩ := after_keeps hl hearlier
  obtain ⟨hnamed, place, fs', hopens⟩ := hcall
  obtain ⟨context, hcontext⟩ := exists_asked (l.after earlier).context hnamed
  have hsetup := setup_eq call.isTerminal hlevel hopens hcontext
  have hserves := serves_renewed hfresh level call.request call.isTerminal place context
  rw [hothers] at hserves
  refine ⟨_, place, fs', _, hsetup, hopens, hserves, ?_, ?_, ?_⟩
  · intro c hc
    exact setup_of_unknown c.isTerminal _ c.files (hlater c hc)
  · rw [after_append, after_cons, hsetup, after_of_unknown hlater]
  · have hagain : asked context call.request = .ok context := by
      unfold asked at hcontext ⊢
      by_cases htruthy : call.request.context.isTruthy
      · rw [if_pos htruthy] at hcontext ⊢
        exact LogContext.pushValue_again hcontext
      · rw [if_neg htruthy]
    refine ⟨_, _, setup_eq call.isTerminal hlevel hopens.again hagain, rfl, ?_, ?_, rfl⟩
    · show kinds (Log.others _ ++ _) = kinds (_ ++ _)
      rw [others_renewed hfresh, kinds, kinds, List.map_append, List.map_append]
      exact congrArg _ ((kinds_adds _ _).trans (kinds_adds _ _).symm)
    · rw [kinds_adds, kinds_adds]

/-- A setup with a file between two that do not know their level. -/
theorem record_written_once_file :
    let stray : LogCall := ⟨false, .empty, { level := "loud" }⟩
    let request : LogRequest :=
      { level := "info", file := some "run.log", context := .map [(.text "app", .text "plot")] }
    let call : LogCall := ⟨false, .empty, request⟩
    stray.level? = none ∧ call.level? = some .info ∧ call.Usable ∧
      ∃ returned place fs' l',
        (after {} [stray]).setup false .empty request = (.ok returned, l', fs') ∧
        l'.Serves [] returned .info request false place ∧
        after {} [stray, call, stray] = l' := by
  intro stray request call
  have hstray : stray.level? = none := by decide +kernel
  have hlevel : call.level? = some .info := by decide +kernel
  have husable : call.Usable :=
    ⟨fun _ => ⟨_, _, rfl, by simp⟩, _, _, .named rfl (by decide) rfl⟩
  have hstrays : ∀ c ∈ [stray], c.level? = none := fun c hc => List.mem_singleton.mp hc ▸ hstray
  obtain ⟨returned, place, fs', l', hsetup, -, hserves, -, hafter, -⟩ :=
    record_written_once (l := {}) nofun (fun c hc => Or.inl (hstrays c hc)) husable hlevel hstrays
  exact ⟨hstray, hlevel, husable, returned, place, fs', l', hsetup, hserves, hafter⟩

end Log

end PlotPage
