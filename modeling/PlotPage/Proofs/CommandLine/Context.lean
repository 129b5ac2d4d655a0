import PlotPage.Proofs.CommandLine.Session
import PlotPage.Proofs.Log.ContextCalls

/-!
# The context of a session

Between the setup of its log and its end a session reports, prints, starts the plotting program and
writes its script, and does nothing else (`Session.process_acts`).  None of these acts touches the
context of the log.  So the name of the description is in the context at every report and is taken
out at the end, however the session ends.

* `Session.Carries`: the log, a notice that is reported to it, and the path of the description on
  its lines.
* `Session.context_scoped`: **a context is a table of what stands after its calls, every record of a
  session names the description, and a session leaves the context as it was but for the field
  `app`, and without the name of a description.**
-/

namespace PlotPage

namespace Session

variable {w : Surroundings} {q : Request} {s : Settings} {x y z : Session}

/-! ### Acts -/

/-- What a session does, one thing at a time. -/
inductive Act where
  | report (n : Notice)
  | print (text : String)
  | start (calls : List ProcessCall)
  | store (path script : String)

def Act.apply (w : Surroundings) (x : Session) : Act → Session
  | report n => x.report w [n]
  | print text => { x with output := x.output ++ text }
  | start calls => { x with calls := x.calls ++ calls }
  | store path script =>
    match x.store (.read path) script with
    | (.error _, files) => { x with files }
    | (.ok (), files) => { x with files, log := logAfterWrite x.log files (.read path) }

/-- The session after some acts. -/
def acted (w : Surroundings) (x : Session) (acts : List Act) : Session := acts.foldl (Act.apply w) x

/-- Between two moments of a session there were acts, and nothing else. -/
def Acts (w : Surroundings) (x z : Session) : Prop := ∃ acts, z = acted w x acts

namespace Acts

theorem refl (w : Surroundings) (x : Session) : Acts w x x := ⟨[], rfl⟩

theorem trans (h : Acts w x y) (h' : Acts w y z) : Acts w x z := by
  obtain ⟨acts, rfl⟩ := h
  obtain ⟨more, rfl⟩ := h'
  exact ⟨acts ++ more, List.foldl_append.symm⟩

theorem single (w : Surroundings) (x : Session) (act : Act) : Acts w x (act.apply w x) :=
  ⟨[act], rfl⟩

/-- Notices are reported one by one. -/
theorem report (w : Surroundings) (ns : List Notice) (x : Session) : Acts w x (x.report w ns) := by
  induction ns generalizing x with
  | nil =>
    have hsame : x.report w [] = x := by
      simp only [Session.report, Log.reportAll, String.append_empty]
    rw [hsame]
    exact refl w x
  | cons n ns ih =>
    have hsplit : x.report w (n :: ns) = (x.report w [n]).report w ns := by
      simp only [Session.report, Log.reportAll, String.append_empty, String.append_assoc]
    rw [hsplit]
    exact (single w x (.report n)).trans (ih _)

end Acts

theorem load_acts (w : Surroundings) (q : Request) (s : Settings) (x : Session) :
    Acts w x (load w q s x).2 := by
  rw [load_eq]
  exact (Acts.report w _ x).trans (Acts.report w _ _)

theorem compile_acts (w : Surroundings) (p : Page) (t : Terminal) (x : Session) :
    Acts w x (compile w p t x).2 := Acts.report w _ x

theorem write_acts (w : Surroundings) (p : Page) (path : String) (t : Terminal) (x : Session) :
    Acts w x (write w p path t x).2 := by
  have hcompile := compile_acts w p t x
  unfold write
  generalize compile w p t x = r at hcompile
  obtain ⟨f | script, y⟩ := r
  · exact hcompile
  · have hstore := hcompile.trans (Acts.single w y (.store path script))
    dsimp only
    split
    · next hfiles =>
      simp only [Act.apply, hfiles] at hstore
      exact hstore
    · next hfiles =>
      simp only [Act.apply, hfiles] at hstore
      dsimp only
      exact hstore.trans (Acts.report w _ _)

theorem print_acts (w : Surroundings) (text : String) (x : Session) :
    Acts w x (print text x).2 := by
  unfold print
  split
  · exact Acts.single w x (.print text)
  · exact Acts.refl w x

theorem run_acts (w : Surroundings) (s : Settings) (script : String) (x : Session) :
    Acts w x (run w s script x).2 := by
  unfold run
  split
  · exact Acts.refl w x
  · next r _ =>
    dsimp only
    generalize r.run script (x.fed script w.outcome) = trace
    have hstart := (Acts.single w x (.start trace.calls)).trans (Acts.report w trace.notices _)
    simp only [Act.apply] at hstart
    split
    · split
      · dsimp only
        exact hstart.trans (Acts.report w _ _)
      · exact hstart
    · next result _ =>
      have hprint := hstart.trans (Acts.single w _ (.print result.output))
      simp only [Act.apply] at hprint
      dsimp only
      exact hprint.trans (Acts.report w _ _)

theorem deliver_acts (w : Surroundings) (q : Request) (s : Settings) (p : Page) (t : Terminal)
    (x : Session) : Acts w x (deliver w q s p t x).2 := by
  have hcompile := compile_acts w p t x
  unfold deliver
  generalize compile w p t x = r at hcompile
  obtain ⟨f | script, y⟩ := r
  · exact hcompile
  · dsimp only at hcompile ⊢
    -- the script is written, kept for the plotting program or printed
    generalize hr : (if q.scriptOut.getD "" ≠ "" then _ else _ : Except Fault Unit × Session) = r
    have hhanded : Acts w y r.2 := by
      rw [← hr]
      split
      · exact write_acts w p _ t y
      · split
        · exact Acts.refl w y
        · exact print_acts w script y
    obtain ⟨f | _, z⟩ := r
    · exact hcompile.trans hhanded
    · dsimp only
      split
      · exact (hcompile.trans hhanded).trans (run_acts w s script z)
      · exact hcompile.trans hhanded

/-- **A session does nothing but acts**, however it ends. -/
theorem process_acts (w : Surroundings) (q : Request) (s : Settings) (x : Session) :
    Acts w x (process w q s x).2 := by
  unfold process
  split
  · exact Acts.refl w x
  · next t _ =>
    have hload := load_acts w q s x
    generalize load w q s x = r at hload
    obtain ⟨f | p, y⟩ := r
    · dsimp only at hload ⊢
      split
      · dsimp only
        exact hload.trans (Acts.report w _ y)
      · exact hload
    · exact hload.trans (deliver_acts w q s p t y)

/-! ### The context between the acts -/

/-- What no act of a session touches: the context of the log, and that there are handlers. -/
structure Keeps (x z : Session) : Prop where
  context : z.log.context = x.log.context
  handlers : x.log.handlers ≠ [] → z.log.handlers ≠ []

theorem keeps_logAfterWrite (l : Log) (fs : FileSystem) (target : FilePath) :
    (logAfterWrite l fs target).context = l.context ∧
      (l.handlers ≠ [] → (logAfterWrite l fs target).handlers ≠ []) := by
  unfold logAfterWrite
  split
  · exact ⟨rfl, id⟩
  · split
    · exact ⟨rfl, mt List.map_eq_nil_iff.mp⟩
    · exact ⟨rfl, id⟩

theorem keeps_apply (w : Surroundings) (x : Session) (act : Act) : Keeps x (act.apply w x) := by
  cases act with
  | report n => exact ⟨rfl, id⟩
  | print text => exact ⟨rfl, id⟩
  | start calls => exact ⟨rfl, id⟩
  | store path script =>
    unfold Act.apply
    dsimp only
    split
    · exact ⟨rfl, id⟩
    · next files _ =>
      obtain ⟨hcontext, hhandlers⟩ := keeps_logAfterWrite x.log files (.read path)
      exact ⟨hcontext, hhandlers⟩

theorem keeps_acted (w : Surroundings) (x : Session) (acts : List Act) :
    Keeps x (acted w x acts) := by
  induction acts generalizing x with
  | nil => exact ⟨rfl, id⟩
  | cons act acts ih =>
    have hfirst := keeps_apply w x act
    have hrest := ih (act.apply w x)
    exact ⟨hrest.context.trans hfirst.context, hrest.handlers ∘ hfirst.handlers⟩

/-- The log carries the path of the description in what it writes for a notice. -/
structure Carries (w : Surroundings) (path : String) (l : Log) (n : Notice) : Prop where
  field : l.context.get? documentField = some (.text path)
  /-- A notice that is not below the level goes to every handler, with the fields. -/
  reported : l.level.rank ≤ n.level.rank → ∀ fs,
    l.report w.stamp n fs = Log.emitAll l.context (n.record w.stamp) l.handlers fs
  line : ∀ style line, (n.record w.stamp).write style l.context = .ok line →
    n.Marked w.stamp documentField path style line

theorem carries_of_field {path : String} {l : Log} (hnodup : l.context.names.Nodup)
    (hfield : l.context.get? documentField = some (.text path)) (hhandlers : l.handlers ≠ [])
    (n : Notice) : Carries w path l n := by
  refine ⟨hfield, fun hlevel fs => ?_, fun style line => Notice.marked_of_write hnodup hfield⟩
  have hsome : ¬l.handlers.isEmpty = true := mt List.isEmpty_iff.mp hhandlers
  rw [Log.report, if_neg (Nat.not_lt.mpr hlevel), if_neg hsome]
  rfl

/-! ### Whole sessions -/

/-- A call on the context of the log. -/
def called (x : Session) (call : ContextCall) : Session :=
  { x with log := { x.log with context := call.apply x.log.context } }

/-- The fields that are pushed by the setup of the log. -/
def appFields : List (String × Value) := [("app", .text programName)]

/-- The field that is pushed after it. -/
def documentFields (q : Request) : List (String × Value) := [(documentField, .text q.document)]

/-- A session whose log is set up has handlers, and has pushed its fields. -/
theorem Prepared.context (h : Prepared w q x s y) : y.log.handlers ≠ [] ∧
    y.log.context = x.log.context.after [.push appFields, .push (documentFields q)] := by
  obtain ⟨z, hsetUp, rfl⟩ := setUp_of_prepare h.log
  obtain ⟨hs, log, files, hsetup, rfl⟩ := setup_of_setUp hsetUp
  obtain ⟨level, place, context, -, hasked, rfl⟩ := Log.setup_eq_ok hsetup
  obtain rfl : (configured w q x).log.context.push appFields = context :=
    Except.ok.inj hasked
  refine ⟨?_, rfl⟩
  show Log.others _ ++ Log.adds _ _ ≠ []
  simp [Log.adds, LogRequest.outlets]

/-- The field of the description is there from its setup on, under acts of any kind. -/
theorem Prepared.carries (h : Prepared w q x s y) (hnodup : x.log.context.names.Nodup)
    (acts : List Act) (n : Notice) : Carries w q.document (acted w y acts).log n := by
  obtain ⟨hhandlers, hcontext⟩ := h.context
  have hkeeps := keeps_acted w y acts
  have hpushed : (acted w y acts).log.context =
      (x.log.context.push appFields).push (documentFields q) := hkeeps.context.trans hcontext
  refine carries_of_field ?_ ?_ (hkeeps.handlers hhandlers) n
  · rw [hpushed]
    exact LogContext.nodup_push (LogContext.nodup_push hnodup appFields) (documentFields q)
  · rw [hpushed]
    exact (LogContext.get?_add _ documentField documentField _).trans (if_pos rfl)

/-- What is left of the context when a session ends. -/
theorem Prepared.context_end (h : Prepared w q x s y) (acts : List Act) :
    ((acted w y acts).called (.pop [documentField])).log.context =
      x.log.context.after [.push appFields, .pop [documentField]] := by
  show (acted w y acts).log.context.pop [documentField] =
    (x.log.context.push appFields).pop [documentField]
  rw [(keeps_acted w y acts).context, h.context.2]
  show ((x.log.context.push appFields).push (documentFields q)).pop [documentField] = _
  rw [LogContext.pop_push]
  -- the field of the description is the only one that was pushed last
  have hnone : (documentFields q).filter (fun f => !([documentField].contains f.1)) = [] := by
    simp [documentFields]
  rw [hnone]
  rfl

/-- A session with a command line that is accepted returns 0 or 1 or escapes. -/
theorem perform_ends {args : List String} (hread : Request.read args = .ok q) :
    (perform w args x).1 = .returned 0 ∨ (perform w args x).1 = .returned 1 ∨
      ∃ f, (perform w args x).1 = .escaped f := by
  rw [perform_of_read hread]
  rcases serve_cases (w := w) (x := x) (Request.levelled_of_read hread) with
    ⟨f, hf, -⟩ | ⟨hreturned, -⟩ | ⟨n, hreturned, hserved⟩
  · exact Or.inr (Or.inr ⟨f, hf⟩)
  · exact Or.inr (Or.inl hreturned)
  · rcases hserved.status with rfl | rfl
    · exact Or.inl hreturned
    · exact Or.inr (Or.inl hreturned)

/-- A session is its acts, between the calls that push and pop the name of the description. -/
theorem perform_acts {args : List String} (hread : Request.read args = .ok q)
    (h : Prepared w q x s y) :
    ∃ acts, (perform w args x).2 = (acted w y acts).called (.pop [documentField]) := by
  obtain ⟨acts, hacts⟩ := process_acts w q s y
  refine ⟨acts, ?_⟩
  rw [perform_of_read hread, serve_eq_of_prepared h, ← hacts]
  rfl

/-- **Contexts are scoped to sessions.**  After any calls a context, whose names are all different,
holds the latest of the fields that stand: a name that is there keeps its place when it is pushed
again, everything can be removed at once, names that no field has are passed over, and fields that
are pushed and popped leave no trace.  So every record of a session whose log is set up names the
description, and when the session ends, in whatever way, the context is the one before with the
field `app` and without the name of a description. -/
theorem context_scoped :
    (∀ (c : LogContext) (calls : List ContextCall), c.names.Nodup →
      (c.after calls).fields = LogContext.latest (ContextCall.standing (.push c.fields :: calls))) ∧
    (∀ (c : LogContext) (name : String) (v : Value), name ∈ c.names →
      (c.after [.push [(name, v)]]).names = c.names ∧ ∀ key,
        (c.after [.push [(name, v)]]).get? key = if name = key then some v else c.get? key) ∧
    (∀ c : LogContext, c.after [.clear] = .empty) ∧
    (∀ (c : LogContext) (names : List String), (∀ name ∈ names, name ∉ c.names) →
      c.after [.pop names] = c) ∧
    (∀ (c : LogContext) (fields : List (String × Value)), (∀ f ∈ fields, f.1 ∉ c.names) →
      c.after [.push fields, .pop (fields.map Prod.fst)] = c) ∧
    ∀ (w : Surroundings) (args : List String) (q : Request) (s : Settings) (x y : Session),
      x.log.context.names.Nodup → Request.read args = .ok q → Prepared w q x s y →
      ((perform w args x).1 = .returned 0 ∨ (perform w args x).1 = .returned 1 ∨
        ∃ f, (perform w args x).1 = .escaped f) ∧
      (∃ acts, (perform w args x).2 = (acted w y acts).called (.pop [documentField]) ∧
        ∀ before n later, acts = before ++ .report n :: later →
          Carries w q.document (acted w y before).log n) ∧
      (perform w args x).2.log.context =
        x.log.context.after [.push appFields, .pop [documentField]] := by
  refine ⟨fun c calls h => LogContext.fields_after h calls, fun c name v h => ⟨?_, fun key => ?_⟩,
    fun c => rfl, fun c names h => LogContext.pop_of_not_mem h,
    fun c fields h => LogContext.after_push_pop h, ?_⟩
  · exact LogContext.names_add_of_mem h v
  · exact LogContext.get?_add c name key v
  · intro w args q s x y hnodup hread hprepared
    obtain ⟨acts, hacts⟩ := perform_acts hread hprepared
    refine ⟨perform_ends hread, ⟨acts, hacts, fun before n _ _ => ?_⟩, ?_⟩
    · exact hprepared.carries hnodup before n
    · rw [hacts, hprepared.context_end]

/-- A context after some calls, and a session that escapes because its description is no YAML. -/
theorem context_scoped_escape :
    let c : LogContext := ⟨[("run", .int 7), ("app", .text "batch")]⟩
    let calls : List ContextCall :=
      [.push [("app", .text "x"), ("page", .null)], .pop ["none", "run"], .push [("run", .int 8)]]
    let q : Request := { document := "doc.yaml" }
    let w : Surroundings := ⟨⟨"", ""⟩, false, .notFound⟩
    let page : Node := .file "a: [".toUTF8.toList
    let x : Session :=
      { files := FileSystem.empty.put ["tmp", "work", "doc.yaml"] page, log := { context := c } }
    (c.after calls).fields = [("app", .text "x"), ("page", .null), ("run", .int 8)] ∧
    (c.after [.push [("app", .null)]]).names = ["run", "app"] ∧
    c.after [.pop ["none"]] = c ∧ c.after [.push [("page", .null)], .pop ["page"]] = c ∧
    Request.read ["doc.yaml"] = .ok q ∧
    (perform w ["doc.yaml"] x).1 = .escaped (.badMarkup "doc.yaml") ∧
    (∃ s y acts, Prepared w q x s y ∧
      (perform w ["doc.yaml"] x).2 = (acted w y acts).called (.pop [documentField]) ∧
      ∀ before n later, acts = before ++ .report n :: later →
        Carries w "doc.yaml" (acted w y before).log n) ∧
    (perform w ["doc.yaml"] x).2.log.context =
      ⟨[("run", .int 7), ("app", .text "compile_plot")]⟩ := by
  intro c calls q w page x
  have hnodup : c.names.Nodup := (by decide : ["run", "app"].Nodup)
  have hread : Request.read ["doc.yaml"] = .ok q := toOption_eq_some_iff.mp (by decide +kernel)
  have hescaped : (perform w ["doc.yaml"] x).1 = .escaped (.badMarkup "doc.yaml") := by
    decide +kernel
  have hsettings : (Settings.load x.files (q.config.map FilePath.read) x.halves).1 = .ok .shipped :=
    rfl
  obtain ⟨y, hy⟩ : ∃ y, prepare w q .shipped (configured w q x) = .ok y := by
    cases hlog : prepare w q .shipped (configured w q x) with
    | ok y => exact ⟨y, rfl⟩
    | error f =>
      -- the settings name no log file that could be refused
      obtain ⟨_, -, _, hfile, -⟩ := (prepare_eq_error_iff (Request.levelled_of_read hread)
        (checked_of_load hsettings)).mp hlog
      cases hfile
  have hprepared : Prepared w q x .shipped y := ⟨hsettings, hy⟩
  obtain ⟨hafter, hagain, -, habsent, htrace, hsession⟩ := context_scoped
  obtain ⟨-, ⟨acts, hacts, hcarries⟩, hcontext⟩ :=
    hsession w ["doc.yaml"] q .shipped x y hnodup hread hprepared
  refine ⟨(hafter c calls hnodup).trans rfl, (hagain c "app" .null (by decide)).1,
    habsent c ["none"] (by decide), htrace c [("page", .null)] (by decide), hread, hescaped,
    ⟨.shipped, y, acts, hprepared, hacts, hcarries⟩, hcontext.trans rfl⟩

end Session

end PlotPage
