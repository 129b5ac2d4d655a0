import PlotPage.Files.AtomicWrite
import PlotPage.Proofs.Files.Places

/-!
# Atomic writes keep the target whole

The only file that the steps of a write touch before the last one is the temporary file, which is
never the target: its name is longer.  So the target holds the old content until the move, and the
new one after it.

* `attempt_cases`: up to the move only the temporary file differs, and the move brings the data.
* `run_cases`: the same for the whole write with its clean-up, whatever the device refuses.
* `Occupied`: a path such as `a/../a` names its own target on the way to it.  Making the directories
  above the target then makes the target a directory, and the write fails.
-/

namespace PlotPage

namespace AtomicWrite

open FileSystem

variable {fs fs' : FileSystem} {temporary target : FilePath} {data : List UInt8}

/-! ### The temporary file -/

theorem temporary_parts (h : temporary? target defaultSuffix = some temporary) :
    ∃ dir name long, target.parts = dir ++ [name] ∧ temporary.parts = dir ++ [long] ∧
      temporary.root = target.root ∧ name.length + 4 ≤ long.length := by
  unfold temporary? FilePath.withSuffix? at h
  split at h
  · cases h
  · next hcond =>
    rw [Bool.or_eq_true, not_or, decide_eq_true_eq] at hcond
    have hne : target.parts ≠ [] := by
      intro hparts
      exact hcond.2 (by rw [FilePath.name, hparts]; rfl)
    have hname : target.name = target.parts.getLast hne := by
      rw [FilePath.name, List.getLastD_eq_getLast?, List.getLast?_eq_some_getLast hne]
      rfl
    obtain rfl := Option.some.inj h
    refine ⟨target.parts.dropLast, target.name, _, ?_, rfl, rfl, ?_⟩
    · rw [hname, List.dropLast_concat_getLast]
    · have hsuffix : defaultSuffix.length = 4 := by decide
      simp only [String.length_append, String.length_ofList, List.length_take,
        FilePath.suffix, hsuffix, String.length_toList]
      omega

/-- The temporary file never stands at the target's place. -/
theorem temporary_place_ne {p q : Place} (h : temporary? target defaultSuffix = some temporary)
    (hp : fs.place temporary = .ok p) (hq : fs.place target = .ok q) : p ≠ q := by
  obtain ⟨dir, name, long, htarget, htemporary, hroot, hlength⟩ := temporary_parts h
  have hstart : fs.startOf temporary = fs.startOf target := by rw [startOf, startOf, hroot]
  rw [place_eq_ok_iff, htemporary, hstart, follow_append_eq_ok] at hp
  rw [place_eq_ok_iff, htarget, follow_append_eq_ok] at hq
  obtain ⟨_, r, hr, hp⟩ := hp
  obtain ⟨_, r', hr', hq⟩ := hq
  obtain rfl : r = r' := Except.ok.inj (hr.symm.trans hr')
  have hlong : long ≠ ".." := by
    rintro rfl
    have htwo : "..".length = 2 := by decide
    omega
  have hp' : p = r ++ [long] := by
    rcases (follow_cons_eq_ok.mp hp).2 with ⟨hup, _⟩ | ⟨_, _, hp⟩
    · exact absurd hup hlong
    · exact (Except.ok.inj hp).symm
  rw [hp']
  intro hsame
  rcases (follow_cons_eq_ok.mp hq).2 with ⟨_, hq⟩ | ⟨_, _, hq⟩
  · -- a step upwards leads to a shorter place
    have hq' : q = r.dropLast := (Except.ok.inj hq).symm
    have hlen := congrArg List.length (hsame.trans hq')
    rw [List.length_append, List.length_dropLast, List.length_singleton] at hlen
    omega
  · have hq' : q = r ++ [name] := (Except.ok.inj hq).symm
    have hnames : long = name := by simpa using hsame.trans hq'
    rw [hnames] at hlength
    omega

/-! ### Filling and moving the temporary file -/

theorem guarded_eq_ok_iff {α : Type} {refusal : Option Outside} {x : Except Outside α} {a : α} :
    guarded refusal x = .ok a ↔ refusal = none ∧ x = .ok a := by
  cases refusal with
  | none => simp [guarded]
  | some cause => simp [guarded]

theorem guarded_eq_ok {α : Type} {refusal : Option Outside} {x : Except Outside α} {a : α}
    (h : guarded refusal x = .ok a) : x = .ok a := (guarded_eq_ok_iff.mp h).2

/-- The places at which a temporary file may stand. -/
def At (fs : FileSystem) (p : FilePath) (r : Place) : Prop := fs.place p = .ok r

/-- The data has been moved to the target: no directory stood there, and nothing else has changed
but the temporary file. -/
structure Moved (fs : FileSystem) (temporary target : FilePath) (data : List UInt8)
    (fs' : FileSystem) : Prop where
  arrives : ∃ q, fs.place target = .ok q ∧ fs.node? q ≠ some .directory ∧
    fs'.node? q = some (.file data)
  differs : DiffersAt (fun r => At fs temporary r ∨ At fs target r) fs fs'

/-- The temporary file is there with the given content, and nothing else has changed. -/
def Filled (fs : FileSystem) (temporary : FilePath) (content : List UInt8)
    (fs' : FileSystem) : Prop :=
  ∃ p, fs.place temporary = .ok p ∧ fs'.node? p = some (.file content) ∧
    DiffersAt (At fs temporary) fs fs'

theorem filled_of_create (h : fs.create temporary = .ok fs') : Filled fs temporary [] fs' := by
  obtain ⟨p, hp, hfree, rfl⟩ := create_eq_ok h
  exact ⟨p, hp, node?_put_self fs p _, (DiffersAt.put_file hfree []).mono fun r hr => hr ▸ hp⟩

theorem Filled.write {content : List UInt8} {s s' : FileSystem} (h : Filled fs temporary content s)
    (hw : s.write temporary data = .ok s') : Filled fs temporary (content ++ data) s' := by
  obtain ⟨p, hp, hcontent, hdiff⟩ := h
  obtain ⟨p', hp', rfl⟩ := write_eq_ok hw
  obtain rfl : p = p' := Except.ok.inj ((hdiff.toExtends.place hp).symm.trans hp')
  refine ⟨p, hp, ?_, hdiff.trans ((DiffersAt.append s p data).mono fun r hr => hr ▸ hp)⟩
  simp only [FileSystem.append, hcontent, node?_put_self]

theorem Filled.rename {s s' : FileSystem} (h : Filled fs temporary data s)
    (hr : s.rename temporary target = .ok s') : Moved fs temporary target data s' := by
  obtain ⟨p, hp, hcontent, hdiff⟩ := h
  obtain ⟨p', q, content, hp', hq, hsource, htarget, rfl⟩ := rename_eq_ok hr
  obtain rfl : p = p' := Except.ok.inj ((hdiff.toExtends.place hp).symm.trans hp')
  obtain rfl : data = content := by simpa using hcontent.symm.trans hsource
  have hq' : fs.place target = .ok q := hdiff.place_eq_ok_iff.mp hq
  have herase : DiffersAt (At fs temporary) fs (s.erase p) :=
    hdiff.trans ((DiffersAt.erase (by rw [hcontent]; simp)).mono fun r hr => hr ▸ hp)
  have hfree : (s.erase p).node? q ≠ some .directory := by
    by_cases hpq : p = q
    · rw [hpq, node?_erase_self]
      simp
    · rw [node?_erase_of_ne s hpq]
      exact htarget
  have hput := DiffersAt.put_file hfree data
  refine ⟨⟨q, hq', fun hdir => hfree (herase.toExtends.directory q hdir), node?_put_self _ q _⟩, ?_⟩
  exact (herase.mono fun r hr => Or.inl hr).trans (hput.mono fun r hr => Or.inr (hr ▸ hq'))

/-- Up to the move only the temporary file differs from what was there before. -/
theorem attempt_cases (trouble : Trouble) (fs : FileSystem) (temporary target : FilePath)
    (data : List UInt8) :
    ∃ steps final, (∀ s ∈ steps, DiffersAt (At fs temporary) fs s) ∧
      ((∃ cause, attempt trouble fs temporary target data = (steps, final, some cause) ∧
          DiffersAt (At fs temporary) fs final) ∨
        (attempt trouble fs temporary target data = (steps ++ [final], final, none) ∧
          Moved fs temporary target data final)) := by
  unfold attempt
  cases hcreate : guarded trouble.onCreate (fs.create temporary) with
  | error cause => exact ⟨[], fs, by simp, Or.inl ⟨cause, rfl, DiffersAt.refl fs⟩⟩
  | ok created =>
    have hcreated := filled_of_create (guarded_eq_ok hcreate)
    obtain ⟨_, _, _, hcreatedDiffers⟩ := id hcreated
    have hone : ∀ s ∈ [created], DiffersAt (At fs temporary) fs s := by simpa using hcreatedDiffers
    have htwo : ∀ {s'}, DiffersAt (At fs temporary) fs s' →
        ∀ s ∈ [created, s'], DiffersAt (At fs temporary) fs s := by
      intro s' hs' s hs
      rw [List.mem_cons, List.mem_singleton] at hs
      rcases hs with rfl | rfl
      · exact hcreatedDiffers
      · exact hs'
    rcases trouble.onWrite with _ | ⟨size, cause⟩
    · cases hwrite : created.write temporary data with
      | error cause =>
        exact ⟨[created], created, hone, Or.inl ⟨cause, by simp [hwrite], hcreatedDiffers⟩⟩
      | ok written =>
        have hwritten := hcreated.write hwrite
        obtain ⟨_, _, _, hwrittenDiffers⟩ := id hwritten
        cases hsync : trouble.onSync with
        | some cause =>
          refine ⟨_, written, htwo hwrittenDiffers, Or.inl ⟨cause, ?_, hwrittenDiffers⟩⟩
          simp [hwrite]
        | none =>
          cases hmove : guarded trouble.onMove (written.rename temporary target) with
          | error cause =>
            exact ⟨_, written, htwo hwrittenDiffers,
              Or.inl ⟨cause, by simp [hwrite, hmove], hwrittenDiffers⟩⟩
          | ok renamed =>
            refine ⟨_, renamed, htwo hwrittenDiffers, Or.inr ⟨by simp [hwrite, hmove], ?_⟩⟩
            exact hwritten.rename (guarded_eq_ok hmove)
    · cases hwrite : created.write temporary (data.take size) with
      | error cause =>
        exact ⟨[created], created, hone, Or.inl ⟨cause, by simp [hwrite], hcreatedDiffers⟩⟩
      | ok partly =>
        obtain ⟨_, _, _, hpartly⟩ := hcreated.write hwrite
        exact ⟨_, partly, htwo hpartly, Or.inl ⟨cause, by simp [hwrite], hpartly⟩⟩

theorem cleanUp_differs (trouble : Trouble) (fs : FileSystem) (temporary target : FilePath)
    (cause : Outside) :
    DiffersAt (At fs temporary) fs (cleanUp trouble fs temporary target cause).1 := by
  unfold cleanUp
  split
  · exact DiffersAt.refl fs
  · exact DiffersAt.refl fs
  · cases hremove : guarded trouble.onRemove (fs.remove temporary) with
    | error other => exact DiffersAt.refl fs
    | ok removed =>
      obtain ⟨p, hp, hfile, rfl⟩ := remove_eq_ok (guarded_eq_ok hremove)
      exact (DiffersAt.erase hfile).mono fun r hr => hr ▸ hp

/-! ### The whole write -/

/-- The file system after the directories above the target have been made, as far as they were. -/
def prepared (trouble : Trouble) (fs : FileSystem) (target : FilePath) : FileSystem :=
  (fs.ensureDirectory target.parent trouble.onMake).2

/-- The places at which the temporary file of a target may stand. -/
def Aside (fs : FileSystem) (target : FilePath) (r : Place) : Prop :=
  ∃ temporary, temporary? target defaultSuffix = some temporary ∧ fs.place temporary = .ok r

/-- A write prepares the directories; then only the temporary file changes, unless and until the
data has been moved to the target. -/
theorem run_cases (trouble : Trouble) (fs : FileSystem) (target : FilePath) (data : List UInt8) :
    ∃ steps final result,
      run trouble fs target data defaultSuffix = ⟨fs :: (steps ++ [final]), final, result⟩ ∧
      (∀ s ∈ steps, DiffersAt (Aside (prepared trouble fs target) target)
        (prepared trouble fs target) s) ∧
      (((∃ f, result = .error f) ∧ DiffersAt (Aside (prepared trouble fs target) target)
          (prepared trouble fs target) final) ∨
        (result = .ok () ∧ ∃ temporary, temporary? target defaultSuffix = some temporary ∧
          Moved (prepared trouble fs target) temporary target data final)) := by
  unfold run prepared
  rcases fs.ensureDirectory target.parent trouble.onMake with ⟨ensured, made⟩
  cases ensured with
  | error cause => exact ⟨[], made, _, rfl, by simp, Or.inl ⟨⟨_, rfl⟩, DiffersAt.refl made⟩⟩
  | ok =>
    cases htemporary : temporary? target defaultSuffix with
    | none =>
      exact ⟨[], made, _, rfl, by simp, Or.inl ⟨⟨_, rfl⟩, DiffersAt.refl made⟩⟩
    | some temporary =>
      have haside : ∀ {s}, DiffersAt (At made temporary) made s →
          DiffersAt (Aside made target) made s :=
        fun hs => hs.mono fun r hr => ⟨temporary, htemporary, hr⟩
      by_cases hnull : temporary.isNullFree
      · obtain ⟨steps, final, hsteps, hrest⟩ := attempt_cases trouble made temporary target data
        have hmade : ∀ s ∈ made :: steps, DiffersAt (Aside made target) made s := by
          intro s hs
          rcases List.mem_cons.mp hs with rfl | hs
          · exact DiffersAt.refl _
          · exact haside (hsteps s hs)
        rcases hrest with ⟨cause, hattempt, hfinal⟩ | ⟨hattempt, hmoved⟩
        · have hclean := cleanUp_differs trouble final temporary target cause
          have hcleaned : DiffersAt (At made temporary) made
              (cleanUp trouble final temporary target cause).1 :=
            hfinal.trans (hclean.mono fun r hr => hfinal.place_eq_ok_iff.mp hr)
          exact ⟨made :: steps, _, .error (cleanUp trouble final temporary target cause).2,
            by simp [hnull, hattempt], hmade, Or.inl ⟨⟨_, rfl⟩, haside hcleaned⟩⟩
        · exact ⟨made :: steps, final, .ok (), by simp [hnull, hattempt], hmade,
            Or.inr ⟨rfl, temporary, rfl, hmoved⟩⟩
      · exact ⟨[], made, .error (.outside .badPath), by simp [hnull], by simp,
          Or.inl ⟨⟨_, rfl⟩, DiffersAt.refl made⟩⟩

end AtomicWrite

open FileSystem AtomicWrite

/-- The place held what it held before, or the new data, at every step; it holds the data if the
write succeeded and the old content if it failed. -/
structure WriteTrace.Whole (t : WriteTrace) (fs : FileSystem) (q : Place) (data : List UInt8) :
    Prop where
  states : ∀ s ∈ t.states, s.node? q = fs.node? q ∨ s.node? q = some (.file data)
  written : t.result = .ok () → t.final.node? q = some (.file data)
  refused : ∀ f, t.result = .error f → t.final.node? q = fs.node? q

/-- Nothing stood at the place, and then a directory that was made on the way to the target; the
write has failed. -/
structure WriteTrace.Occupied (t : WriteTrace) (fs : FileSystem) (target : FilePath) (q : Place) :
    Prop where
  before : fs.node? q = none
  states : ∀ s ∈ t.states, s.node? q = none ∨ s.node? q = some .directory
  refused : ∃ f, t.result = .error f
  passed : t.final.Passes target.parent q

/-- What a write does to its target. -/
structure WriteTrace.Replaces (t : WriteTrace) (fs : FileSystem) (target : FilePath)
    (data : List UInt8) : Prop where
  first : t.states.head? = some fs
  last : t.states.getLast? = some t.final
  /-- Where the target leads to at one step, it leads to in the end. -/
  settled : ∀ s ∈ t.states, ∀ q, s.place target = .ok q → t.final.place target = .ok q
  written : t.result = .ok () → t.final.read target = .ok data
  whole : ∀ q, t.final.place target = .ok q →
    t.Whole fs q data ∨ (t.Occupied fs target q ∧ ".." ∈ target.parts)

/-- A path that passes its own place steps upwards. -/
theorem mem_up_of_passes_parent {fs : FileSystem} {target : FilePath} {q : Place}
    (hpass : fs.Passes target.parent q) (hq : fs.place target = .ok q) : ".." ∈ target.parts := by
  obtain ⟨names, hne, hpre, hplace⟩ := hpass
  refine Decidable.byContradiction fun hup => ?_
  obtain ⟨rest, hrest⟩ := hpre
  have hparent : target.parent.parts = target.parts.dropLast := rfl
  have hinitial : ".." ∉ names := by
    intro hmem
    apply hup
    apply List.dropLast_subset
    rw [← hparent, ← hrest]
    exact List.mem_append_left rest hmem
  have hroot : fs.startOf ⟨target.parent.root, names⟩ = fs.startOf target := rfl
  have hlong := eq_append_of_follow hup (place_eq_ok_iff.mp hq).2
  have hshort := eq_append_of_follow hinitial (place_eq_ok_iff.mp hplace).2
  rw [hroot, hlong, List.append_cancel_left_eq] at hshort
  have hlength : target.parts.length - 1 = names.length + rest.length := by
    rw [← List.length_dropLast, ← hparent, ← hrest, List.length_append]
  have hpos := List.length_pos_iff.mpr hne
  rw [hshort] at hlength
  omega

theorem mem_trace {s first final : FileSystem} {steps : List FileSystem}
    (hs : s ∈ first :: (steps ++ [final])) : s = first ∨ s ∈ steps ∨ s = final := by
  simpa [or_comm] using hs

section

variable {fs made : FileSystem} {target : FilePath} {data : List UInt8} {t : WriteTrace}
  {steps : List FileSystem} {q : Place}

/-- Only the temporary file differs, so the target's place is as the directories left it. -/
theorem node_eq_of_differsAt_aside {s : FileSystem} (hq : made.place target = .ok q)
    (hdiff : DiffersAt (Aside made target) made s) : s.node? q = made.node? q := by
  refine hdiff.node_eq ?_
  rintro ⟨temporary, htemporary, hp⟩
  exact temporary_place_ne htemporary hp hq rfl

/-- A write that was given up leaves the target as the directories left it. -/
theorem whole_or_occupied_of_refused (hstates : t.states = fs :: (steps ++ [t.final]))
    (hmade : MadeAlong target.parent fs made) (hq : made.place target = .ok q)
    (hsteps : ∀ s ∈ steps, DiffersAt (Aside made target) made s)
    (hfinal : DiffersAt (Aside made target) made t.final) (hrefused : ∃ f, t.result = .error f) :
    t.Whole fs q data ∨ t.Occupied fs target q := by
  have hkept : ∀ s ∈ t.states, s = fs ∨ s.node? q = made.node? q := by
    intro s hs
    rw [hstates] at hs
    rcases mem_trace hs with rfl | hs | rfl
    · exact Or.inl rfl
    · exact Or.inr (node_eq_of_differsAt_aside hq (hsteps s hs))
    · exact Or.inr (node_eq_of_differsAt_aside hq hfinal)
  rcases hmade.node q with hsame | ⟨hnone, hdir, hpass⟩
  · left
    obtain ⟨f, hf⟩ := hrefused
    refine ⟨fun s hs => Or.inl ?_, fun hok => absurd (hok.symm.trans hf) (by simp), fun _ _ => ?_⟩
    · rcases hkept s hs with rfl | hnode
      · rfl
      · exact hnode.trans hsame
    · exact (node_eq_of_differsAt_aside hq hfinal).trans hsame
  · right
    refine ⟨hnone, fun s hs => ?_, hrefused, hpass.mono hfinal.toExtends⟩
    rcases hkept s hs with rfl | hnode
    · exact Or.inl hnone
    · exact Or.inr (hnode.trans hdir)

/-- A write that moved the data leaves it at the target, where no directory was made. -/
theorem whole_of_moved {temporary : FilePath} (hstates : t.states = fs :: (steps ++ [t.final]))
    (hmade : MadeAlong target.parent fs made) (hq : made.place target = .ok q)
    (hsteps : ∀ s ∈ steps, DiffersAt (Aside made target) made s)
    (hmoved : Moved made temporary target data t.final) (hok : t.result = .ok ()) :
    t.Whole fs q data := by
  obtain ⟨q', hplace, hfree, hdata⟩ := hmoved.arrives
  obtain rfl : q = q' := Except.ok.inj (hq.symm.trans hplace)
  have hsame : made.node? q = fs.node? q := by
    rcases hmade.node q with hsame | ⟨_, hdir, _⟩
    · exact hsame
    · exact absurd hdir hfree
  refine ⟨?_, fun _ => hdata, fun f hf => absurd (hok.symm.trans hf) (by simp)⟩
  intro s hs
  rw [hstates] at hs
  rcases mem_trace hs with rfl | hs | rfl
  · exact Or.inl rfl
  · exact Or.inl ((node_eq_of_differsAt_aside hq (hsteps s hs)).trans hsame)
  · exact Or.inr hdata

end

/-- Whatever the device refuses, a write replaces its target as a whole. -/
theorem run_replaces (trouble : Trouble) (fs : FileSystem) (target : FilePath)
    (data : List UInt8) :
    (run trouble fs target data defaultSuffix).Replaces fs target data := by
  obtain ⟨steps, final, result, hrun, hsteps, hend⟩ := run_cases trouble fs target data
  have hmade : MadeAlong target.parent fs (prepared trouble fs target) :=
    ensureDirectory_madeAlong fs target.parent trouble.onMake
  rw [hrun]
  generalize prepared trouble fs target = made at hsteps hend hmade
  have hplace : ∀ q, final.place target = .ok q ↔ made.place target = .ok q := by
    intro q
    rcases hend with ⟨_, hdiff⟩ | ⟨_, _, _, hmoved⟩
    · exact hdiff.place_eq_ok_iff
    · exact hmoved.differs.place_eq_ok_iff
  refine ⟨rfl, ?_, ?_, ?_, ?_⟩
  · rw [← List.cons_append, List.getLast?_append]
    rfl
  · intro s hs q hq
    rcases mem_trace hs with rfl | hs | rfl
    · exact (hplace q).mpr (hmade.toExtends.place hq)
    · exact (hplace q).mpr ((hsteps s hs).place_eq_ok_iff.mp hq)
    · exact hq
  · intro hok
    rcases hend with ⟨⟨f, hf⟩, _⟩ | ⟨_, temporary, _, hmoved⟩
    · exact absurd (hok.symm.trans hf) (by simp)
    · obtain ⟨q, hq, _, hdata⟩ := hmoved.arrives
      simp only [FileSystem.read, (hplace q).mpr hq, ok_bind, hdata]
      rfl
  · intro q hq
    have hq' := (hplace q).mp hq
    rcases hend with ⟨hf, hdiff⟩ | ⟨hok, temporary, _, hmoved⟩
    · refine (whole_or_occupied_of_refused rfl hmade hq' hsteps hdiff hf).imp_right fun h => ?_
      exact ⟨h, mem_up_of_passes_parent h.passed hq⟩
    · exact Or.inl (whole_of_moved rfl hmade hq' hsteps hmoved hok)

end PlotPage
