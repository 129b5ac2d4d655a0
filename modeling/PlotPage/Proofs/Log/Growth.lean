import PlotPage.Proofs.Files.Places
import PlotPage.Proofs.Log.Setup

/-!
# Files under a log

Reporting makes log files longer and does nothing else to the files, so what has been written to a
file is still there, at its beginning, after any number of reports.
-/

namespace PlotPage

/-- Files have got longer, and nothing else has happened to them. -/
structure FileSystem.Grows (fs fs' : FileSystem) : Prop where
  working : fs'.working = fs.working
  node : ∀ p, ∃ data, fs'.node? p = (fs.node? p).map (Node.extend data)

namespace FileSystem.Grows

variable {fs fs' fs'' : FileSystem}

theorem refl (fs : FileSystem) : Grows fs fs :=
  ⟨rfl, fun p => ⟨[], (Node.map_extend_nil (fs.node? p)).symm⟩⟩

theorem trans (h : Grows fs fs') (h' : Grows fs' fs'') : Grows fs fs'' := by
  refine ⟨h'.working.trans h.working, fun p => ?_⟩
  obtain ⟨data, hdata⟩ := h.node p
  obtain ⟨more, hmore⟩ := h'.node p
  exact ⟨data ++ more, by rw [hmore, hdata, Node.map_extend_extend]⟩

theorem append (fs : FileSystem) (q : Place) (data : List UInt8) : Grows fs (fs.append q data) := by
  refine ⟨(DiffersAt.append fs q data).working, fun p => ?_⟩
  rw [node?_append]
  by_cases hqp : q = p
  · exact ⟨data, if_pos hqp⟩
  · rw [if_neg hqp]
    exact (refl fs).node p

theorem toExtends (h : Grows fs fs') : Extends fs fs' := by
  refine ⟨h.working, fun r hr => ?_⟩
  obtain ⟨data, hdata⟩ := h.node r
  rw [hdata, hr]
  rfl

/-- What was read from a file is read from it again, and perhaps more. -/
theorem read (h : Grows fs fs') {p : FilePath} {content : List UInt8}
    (hread : fs.read p = .ok content) : ∃ more, fs'.read p = .ok (content ++ more) := by
  obtain ⟨q, hq, hcontent⟩ := read_eq_ok_iff.mp hread
  obtain ⟨more, hmore⟩ := h.node q
  refine ⟨more, read_eq_ok_iff.mpr ⟨q, h.toExtends.place hq, ?_⟩⟩
  rw [hmore, hcontent]
  rfl

theorem emitAll (c : LogContext) (r : LogRecord) (hs : List LogHandler) (fs : FileSystem) :
    Grows fs (Log.emitAll c r hs fs).2 := by
  have hemit : ∀ (h : LogHandler) (fs : FileSystem), Grows fs (Log.emit c r h fs).2 := by
    intro h fs
    unfold Log.emit
    split
    · exact refl fs
    · split
      · exact refl fs
      · exact append fs _ _
      · exact refl fs
  induction hs generalizing fs with
  | nil => exact refl fs
  | cons h hs ih => exact (hemit h fs).trans (ih _)

/-- Reporting appends to files. -/
theorem reportAll (l : Log) (stamp : Stamp) (ns : List Notice) (fs : FileSystem) :
    Grows fs (l.reportAll stamp ns fs).2 := by
  have hreport : ∀ (n : Notice) (fs : FileSystem), Grows fs (l.report stamp n fs).2 := by
    intro n fs
    unfold Log.report
    split
    · exact refl fs
    · split
      · exact refl fs
      · exact emitAll _ _ _ fs
  induction ns generalizing fs with
  | nil => exact refl fs
  | cons n ns ih => exact (hreport n fs).trans (ih _)

end FileSystem.Grows

end PlotPage
