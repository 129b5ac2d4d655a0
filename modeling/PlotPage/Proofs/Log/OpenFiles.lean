import PlotPage.Proofs.Log.FailedSetup
import PlotPage.Proofs.Log.Growth

/-!
# The files that a log has open

A log writes to the files that its handlers have open and to no others: `node_reportAll` says what
stands in each file after some reports.  A setup opens one file and makes directories for it, and a
file that is moved stays open at the place where it then is (`lines_moved`).
-/

namespace PlotPage

namespace Log

variable {l l' : Log} {fs fs' : FileSystem} {p : Place}

/-- A handler of the log has the file at the place open. -/
def HasOpen (l : Log) (p : Place) : Prop := ∃ h ∈ l.handlers, h.outlet = .file p

/-- The lines that a log writes to an outlet for some notices, in their order. -/
def lines (l : Log) (stamp : Stamp) (ns : List Notice) (o : Outlet) : List String :=
  ns.flatMap fun n =>
    if n.level.rank < l.level.rank then [] else written l.context (n.record stamp) l.handlers o

theorem lines_append (l : Log) (stamp : Stamp) (ns ms : List Notice) (o : Outlet) :
    l.lines stamp (ns ++ ms) o = l.lines stamp ns o ++ l.lines stamp ms o := List.flatMap_append

theorem lines_of_not_hasOpen (h : ¬l.HasOpen p) (stamp : Stamp) (ns : List Notice) :
    l.lines stamp ns (.file p) = [] := by
  have hnone : l.handlers.filter (fun h => h.outlet = .file p) = [] := by
    rw [List.filter_eq_nil_iff]
    intro handler hmem
    simpa using fun hout => h ⟨handler, hmem, hout⟩
  rw [lines, List.flatMap_eq_nil_iff]
  intro n _
  rw [written, hnone, List.map_nil, ite_self]

theorem node_report (l : Log) (stamp : Stamp) (n : Notice) (fs : FileSystem) (p : Place) :
    (l.report stamp n fs).2.node? p =
      (fs.node? p).map (Node.extend (bytes (l.lines stamp [n] (.file p)))) := by
  rw [lines, List.flatMap_singleton]
  unfold report
  split
  · exact (Node.map_extend_nil (fs.node? p)).symm
  · split
    · next hempty =>
      rw [List.isEmpty_iff.mp hempty]
      exact (Node.map_extend_nil (fs.node? p)).symm
    · exact (emitAll_eq ..).2 p

/-- What stands in a file after some reports. -/
theorem node_reportAll (l : Log) (stamp : Stamp) (ns : List Notice) (fs : FileSystem) (p : Place) :
    (l.reportAll stamp ns fs).2.node? p =
      (fs.node? p).map (Node.extend (bytes (l.lines stamp ns (.file p)))) := by
  induction ns generalizing fs with
  | nil => exact (Node.map_extend_nil (fs.node? p)).symm
  | cons n ns ih =>
    show (l.reportAll stamp ns (l.report stamp n fs).2).2.node? p = _
    rw [ih, node_report, Node.map_extend_extend, ← bytes_append, ← lines_append]
    rfl

theorem files_reportAll_append (l : Log) (stamp : Stamp) (ns ms : List Notice) (fs : FileSystem) :
    (l.reportAll stamp (ns ++ ms) fs).2 =
      (l.reportAll stamp ms (l.reportAll stamp ns fs).2).2 := by
  induction ns generalizing fs with
  | nil => rfl
  | cons n ns ih => exact ih _

/-! ### Setting the log up -/

theorem openFile_eq_ok {path : FilePath} (h : openFile fs path = (.ok p, fs')) :
    ∃ made, FileSystem.MadeAlong path.parent fs made ∧
      FileSystem.DiffersAt (· = p) made fs' := by
  have halong := FileSystem.ensureDirectory_madeAlong fs path.parent fun _ => none
  unfold openFile at h
  split at h
  · cases h
  · next made hmade =>
    rw [hmade] at halong
    split at h
    · cases h
    · next hopen =>
      obtain ⟨hplace, rfl⟩ := Prod.mk.inj h
      obtain rfl := Except.ok.inj hplace
      exact ⟨made, halong, (FileSystem.openAtEnd_eq_ok hopen).2.1⟩

section

variable {isTerminal : Bool} {q : LogRequest} {returned : List LogHandler}

/-- A setup that succeeds has opened its file. -/
theorem setup_eq_ok (h : l.setup isTerminal fs q = (.ok returned, l', fs')) :
    ∃ level place context, q.Opens fs place fs' ∧ asked l.context q = .ok context ∧
      l' = l.renewed level (q.outlets isTerminal place) context := by
  cases hlevel : Level.ofName? (Text.upper q.level) with
  | none =>
    rw [setup_of_unknown isTerminal l fs hlevel] at h
    cases h
  | some level =>
    rcases opens_or_refused fs q with ⟨place, opened, hopens⟩ | ⟨name, f, opened, hfile, hne, hopen⟩
    · rw [setup_of_opens isTerminal l hlevel hopens] at h
      split at h
      · next context hcontext =>
        obtain ⟨rfl, rfl⟩ := Prod.mk.inj (Prod.mk.inj h).2
        exact ⟨level, place, context, hopens, hcontext, rfl⟩
      · cases h
    · rw [setup_of_noFile isTerminal l hlevel hfile hne hopen] at h
      cases h

/-- A setup makes directories and opens a file, and nothing else changes. -/
theorem node_setup (h : l.setup isTerminal fs q = (.ok returned, l', fs')) (p : Place) :
    fs'.node? p = fs.node? p ∨ (fs.node? p = none ∧ fs'.node? p = some .directory) ∨
      l'.HasOpen p := by
  obtain ⟨level, place, context, hopens, -, rfl⟩ := setup_eq_ok h
  cases hopens with
  | unnamed => exact Or.inl rfl
  | blank => exact Or.inl rfl
  | @named name place _ _ _ hopen =>
    obtain ⟨made, halong, hdiff⟩ := openFile_eq_ok hopen
    by_cases hp : p = place
    · refine Or.inr (Or.inr ?_)
      have hadded : ⟨l.nextId + 1, .file place, q.fileStyle⟩ ∈
          l.adds (q.outlets isTerminal (some place)) :=
        List.mem_mapIdx.mpr ⟨1, by simp [LogRequest.outlets], rfl⟩
      exact ⟨_, List.mem_append_right _ hadded, by rw [hp]⟩
    · rw [hdiff.node_eq hp]
      exact (halong.node p).imp_right fun h => Or.inl ⟨h.1, h.2.1⟩

end

/-! ### Moving a file -/

/-- What was written to a file before it was moved is written to it where it now is. -/
theorem lines_moved (l : Log) (source target : Place) (stamp : Stamp) (ns : List Notice) :
    (l.moved source target).lines stamp ns (.file target) = l.lines stamp ns (.file source) := by
  have hwritten : ∀ c r, written c r (l.moved source target).handlers (.file target) =
      written c r l.handlers (.file source) := by
    intro c r
    show written c r (l.handlers.map _) _ = _
    induction l.handlers with
    | nil => rfl
    | cons h hs ih =>
      rw [List.map_cons, written_cons, ih, written_cons c r h hs]
      refine congrArg (· ++ written c r hs (.file source)) ?_
      by_cases hsource : h.outlet = .file source
      · rw [if_pos hsource, written_of_outlet c r hsource, written_of_outlet c r rfl]
      · rw [if_neg hsource, written_of_ne c r hsource]
        refine written_of_ne c r ?_
        split
        · simp
        · next htarget => exact htarget
  simp only [lines, hwritten]
  rfl

end Log

end PlotPage
