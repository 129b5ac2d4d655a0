import PlotPage.Proofs.Files.Frame

/-!
# Failed writes and their clean-up

When one of the steps of a write fails, the temporary file is removed and the failure is reported as
a failed write.  The removal asks the file system again, and it can fail in its turn.

* `node_givenUp`: what stands under the temporary name when a write is given up.
* `Blocked`: the name is too long to be asked for, a directory stands there, or the device refuses
  to remove the file.  This depends on what was there before the first step.
* `failure_reported_iff`: a failure is reported as a failed write, and nothing is left behind,
  exactly when the clean-up is not blocked.
-/

namespace PlotPage

namespace FilePath

/-- No name that a path has been read with holds a slash. -/
theorem slash_not_mem_of_mem_splitSlashes {cs name : List Char} (h : name ∈ splitSlashes cs) :
    '/' ∉ name := by
  induction cs generalizing name with
  | nil =>
    rw [splitSlashes, List.mem_singleton] at h
    rw [h]
    exact List.not_mem_nil
  | cons c cs ih =>
    unfold splitSlashes at h
    split_ifs at h with hc
    · rcases List.mem_cons.mp h with rfl | h
      · exact List.not_mem_nil
      · exact ih h
    · cases hrest : splitSlashes cs with
      | nil =>
        rw [hrest, List.mem_singleton] at h
        rw [h, List.mem_singleton]
        exact Ne.symm hc
      | cons first names =>
        rw [hrest] at h ih
        rcases List.mem_cons.mp h with rfl | h
        · rw [List.mem_cons, not_or]
          exact ⟨Ne.symm hc, ih List.mem_cons_self⟩
        · exact ih (List.mem_cons_of_mem first h)

theorem slash_not_mem_name_read (s : String) : '/' ∉ (read s).name.toList := by
  intro h
  rw [name, List.getLastD_eq_getLast?] at h
  cases hlast : (read s).parts.getLast? with
  | none => simp [hlast] at h
  | some name =>
    rw [hlast] at h
    obtain ⟨chars, hchars, rfl⟩ := List.mem_map.mp (List.mem_of_getLast? hlast)
    refine slash_not_mem_of_mem_splitSlashes (List.mem_filter.mp hchars).1 ?_
    simpa using h

end FilePath

namespace AtomicWrite

open FileSystem

/-- Every path with a name has a temporary file beside it. -/
theorem temporary_of_name {target : FilePath} (hname : target.name ≠ "")
    (hslash : '/' ∉ target.name.toList) :
    temporary? target defaultSuffix = some (beside target) := by
  have htmp : defaultSuffix.toList = ['.', 't', 'm', 'p'] := by decide
  have hsuffix : FilePath.isSuffix (target.suffix ++ defaultSuffix).toList = true := by
    have hfree : '/' ∉ FilePath.suffixChars target.name.toList ++ ['.', 't', 'm', 'p'] := by
      rw [List.mem_append, not_or]
      exact ⟨fun h => hslash ((FilePath.suffixChars_isSuffix _).subset h), by decide⟩
    have hhead : FilePath.suffixChars target.name.toList = [] ∨
        (FilePath.suffixChars target.name.toList).head? = some '.' := by
      unfold FilePath.suffixChars
      dsimp only
      split
      · exact Or.inl rfl
      · exact Or.inr rfl
    rw [String.toList_append, FilePath.suffix, String.toList_ofList, htmp, FilePath.isSuffix]
    cases hchars : FilePath.suffixChars target.name.toList with
    | nil => decide
    | cons c cs =>
      rw [hchars] at hhead hfree
      obtain rfl : c = '.' := by simpa using hhead
      simp only [Bool.and_eq_true, Bool.not_eq_true', List.contains_eq_mem, decide_eq_false_iff_not]
      exact ⟨hfree, by simp⟩
  cases htemporary : temporary? target defaultSuffix with
  | some temporary => rw [temporary_eq_beside htemporary]
  | none =>
    unfold temporary? FilePath.withSuffix? at htemporary
    rw [hsuffix, Bool.not_true, Bool.false_or, if_neg (by simpa using hname)] at htemporary
    cases htemporary

variable {trouble : Trouble} {fs made final : FileSystem} {temporary target : FilePath}
  {data : List UInt8} {suffix : String} {states : List FileSystem} {cause : Outside} {p : Place}

/-! ### Where a write is given up -/

/-- A write is given up before its temporary file is opened, or with the temporary file there. -/
theorem givenUp_cases
    (h : attempt trouble made temporary target data = (states, final, some cause)) :
    (guarded trouble.onCreate (made.create temporary) = .error cause ∧ final = made) ∨
      (trouble.onCreate = none ∧ ∃ content, Filled made temporary content final) := by
  unfold attempt at h
  split at h
  · next hcreate =>
    cases h
    exact Or.inl ⟨hcreate, rfl⟩
  · next created hcreate =>
    obtain ⟨hallow, hcreate⟩ := guarded_eq_ok_iff.mp hcreate
    have hcreated := filled_of_create hcreate
    refine Or.inr ⟨hallow, ?_⟩
    split at h
    · split at h
      · next partly hwrite =>
        cases h
        exact ⟨_, hcreated.write hwrite⟩
      · cases h
        exact ⟨_, hcreated⟩
    · split at h
      · cases h
        exact ⟨_, hcreated⟩
      · next written hwrite =>
        have hwritten := hcreated.write hwrite
        split at h
        · cases h
          exact ⟨_, hwritten⟩
        · split at h
          · cases h
            exact ⟨_, hwritten⟩
          · cases h

/-- What stands at the place of the temporary file when a write is given up: the directory that was
there before, nothing if the device refused to open a new file, and else a file. -/
theorem node_givenUp
    (h : attempt trouble made temporary target data = (states, final, some cause))
    (hp : made.place temporary = .ok p) :
    final.place temporary = .ok p ∧
      ((made.node? p = some .directory ∧ final.node? p = some .directory) ∨
        (made.node? p = none ∧ trouble.onCreate ≠ none ∧ final.node? p = none) ∨
        (made.node? p ≠ some .directory ∧ (trouble.onCreate = none ∨ made.node? p ≠ none) ∧
          ∃ content, final.node? p = some (.file content))) := by
  rcases givenUp_cases h with ⟨hcreate, rfl⟩ | ⟨hallow, content, p', hp', hfile, hdiff⟩
  · refine ⟨hp, ?_⟩
    rcases hnode : final.node? p with _ | ⟨content⟩ | _
    · refine Or.inr (Or.inl ⟨rfl, fun hallow => ?_, rfl⟩)
      -- nothing else keeps a file from being opened there
      rw [hallow, guarded, FileSystem.create, hp, ok_bind, hnode] at hcreate
      cases hcreate
    · exact Or.inr (Or.inr ⟨by simp, Or.inr (by simp), content, rfl⟩)
    · exact Or.inl ⟨rfl, rfl⟩
  · obtain rfl : p = p' := Except.ok.inj (hp.symm.trans hp')
    refine ⟨hdiff.toExtends.place hp,
      Or.inr (Or.inr ⟨fun hdir => ?_, Or.inl hallow, content, hfile⟩)⟩
    have hsame := (hdiff.toExtends.directory p hdir).symm.trans hfile
    cases hsame

/-! ### The clean-up -/

/-- The clean-up looks at the place of the temporary file once more. -/
theorem cleanUp_eq (trouble : Trouble) (target : FilePath) (cause : Outside)
    (hp : fs.place temporary = .ok p) :
    cleanUp trouble fs temporary target cause =
      match fs.node? p with
      | none => (fs, .writeFailed target.text cause)
      | some .directory => (fs, .outside (trouble.onRemove.getD .directoryInTheWay))
      | some (.file _) =>
        match trouble.onRemove with
        | none => (fs.erase p, .writeFailed target.text cause)
        | some other => (fs, .outside other) := by
  have hremove : fs.remove temporary =
      match fs.node? p with
      | none => .error .noFile
      | some .directory => .error .directoryInTheWay
      | some (.file _) => .ok (fs.erase p) := by
    rw [FileSystem.remove, hp, ok_bind]
    rcases fs.node? p with _ | ⟨content⟩ | _ <;> rfl
  simp only [cleanUp, FileSystem.exists?, hp, hremove]
  rcases fs.node? p with _ | ⟨content⟩ | _
  · rfl
  · rcases trouble.onRemove with _ | other <;> rfl
  · rcases trouble.onRemove with _ | other <;> rfl

/-- What keeps the clean-up of a write from its end, by the state before the first step: nobody can
ask whether the temporary file is there, a directory stands in its place, or the device refuses to
remove a file that is or will be there. -/
inductive Blocked (trouble : Trouble) (made : FileSystem) (temporary : FilePath) : Prop
  | tooLong : made.place temporary = .error .nameTooLong → Blocked trouble made temporary
  | occupied {p : Place} : made.place temporary = .ok p → made.node? p = some .directory →
      Blocked trouble made temporary
  | refused {p : Place} : made.place temporary = .ok p → trouble.onRemove ≠ none →
      (trouble.onCreate = none ∨ made.node? p ≠ none) → Blocked trouble made temporary

/-- The clean-up ends with the report of the failed write, or with an error of its own. -/
structure Ending (target temporary : FilePath) (made : FileSystem) (cause : Outside)
    (after : FileSystem × Fault) : Prop where
  reported : after.2 = .writeFailed target.text cause
  vacated : ∀ p, made.place temporary = .ok p → after.1.node? p = none

theorem cleanUp_cases
    (h : attempt trouble made temporary target data = (states, final, some cause)) :
    (¬Blocked trouble made temporary ∧
        Ending target temporary made cause (cleanUp trouble final temporary target cause)) ∨
      (Blocked trouble made temporary ∧
        ∃ other, (cleanUp trouble final temporary target cause).2 = .outside other) := by
  cases hplace : made.place temporary with
  | error other =>
    -- without a place the temporary file was never opened
    obtain rfl : final = made := by
      rcases givenUp_cases h with ⟨-, hfinal⟩ | ⟨-, _, _, hp, -⟩
      · exact hfinal
      · rw [hplace] at hp
        cases hp
    by_cases hlong : other = .nameTooLong
    · subst hlong
      refine Or.inr ⟨.tooLong hplace, .nameTooLong, ?_⟩
      rw [cleanUp, FileSystem.exists?, hplace]
    · refine Or.inl ⟨?_, ?_, fun p hp => ?_⟩
      · rintro (htooLong | ⟨hp, -⟩ | ⟨hp, -, -⟩)
        · exact hlong (Except.error.inj (hplace.symm.trans htooLong))
        · exact absurd (hplace.symm.trans hp) (by simp)
        · exact absurd (hplace.symm.trans hp) (by simp)
      · rw [cleanUp, FileSystem.exists?, hplace]
        cases other <;> first | rfl | exact absurd rfl hlong
      · rw [hplace] at hp
        cases hp
  | ok p =>
    have honly : ∀ {q}, made.place temporary = .ok q → q = p := fun hq =>
      Except.ok.inj (hq.symm.trans hplace)
    obtain ⟨hfinal, hnodes⟩ := node_givenUp h hplace
    have hclean := cleanUp_eq trouble target cause hfinal
    rcases hnodes with ⟨hmade, hnode⟩ | ⟨hmade, hrefused, hnode⟩ | ⟨hmade, hopened, content, hnode⟩
    · rw [hnode] at hclean
      exact Or.inr ⟨.occupied hplace hmade, _, congrArg Prod.snd hclean⟩
    · rw [hnode] at hclean
      refine Or.inl ⟨?_, congrArg Prod.snd hclean, fun q hq => ?_⟩
      · rintro (htooLong | ⟨hq, hdir⟩ | ⟨hq, -, hstands⟩)
        · exact absurd (hplace.symm.trans htooLong) (by simp)
        · rw [honly hq, hmade] at hdir
          cases hdir
        · rw [honly hq] at hstands
          exact hstands.elim hrefused fun hsome => hsome hmade
      · rw [hclean, honly hq, hnode]
    · rw [hnode] at hclean
      cases hremove : trouble.onRemove with
      | some other =>
        rw [hremove] at hclean
        refine Or.inr ⟨.refused hplace (by simp [hremove]) hopened, other, congrArg Prod.snd hclean⟩
      | none =>
        rw [hremove] at hclean
        refine Or.inl ⟨?_, congrArg Prod.snd hclean, fun q hq => ?_⟩
        · rintro (htooLong | ⟨hq, hdir⟩ | ⟨-, hrefuses, -⟩)
          · exact absurd (hplace.symm.trans htooLong) (by simp)
          · exact hmade (honly hq ▸ hdir)
          · exact hrefuses hremove
        · rw [hclean, honly hq, node?_erase_self]

/-- A file that the write has opened is still under the temporary name. -/
def LeftBehind (made : FileSystem) (temporary : FilePath) (after : FileSystem) : Prop :=
  ∃ p content, made.place temporary = .ok p ∧ made.node? p = none ∧
    after.node? p = some (.file content)

/-- The clean-up leaves a file behind only where the device refuses to remove it. -/
theorem leftBehind_iff
    (h : attempt trouble made temporary target data = (states, final, some cause)) :
    LeftBehind made temporary (cleanUp trouble final temporary target cause).1 ↔
      (∃ p, made.place temporary = .ok p ∧ made.node? p = none) ∧
        trouble.onCreate = none ∧ trouble.onRemove ≠ none := by
  constructor
  · rintro ⟨p, content, hplace, hfree, hfile⟩
    rcases cleanUp_cases h with ⟨-, hending⟩ | ⟨htooLong | ⟨hp, hdir⟩ | ⟨hp, hremove, hopened⟩, -⟩
    · rw [hending.vacated p hplace] at hfile
      cases hfile
    · exact absurd (hplace.symm.trans htooLong) (by simp)
    · obtain rfl := Except.ok.inj (hplace.symm.trans hp)
      rw [hfree] at hdir
      cases hdir
    · obtain rfl := Except.ok.inj (hplace.symm.trans hp)
      exact ⟨⟨p, hplace, hfree⟩, hopened.resolve_right fun hsome => hsome hfree, hremove⟩
  · rintro ⟨⟨p, hplace, hfree⟩, hallow, hremove⟩
    obtain ⟨hfinal, hnodes⟩ := node_givenUp h hplace
    rcases hnodes with ⟨hdir, -⟩ | ⟨-, hrefused, -⟩ | ⟨-, -, content, hfile⟩
    · rw [hfree] at hdir
      cases hdir
    · exact absurd hallow hrefused
    · obtain ⟨other, hother⟩ := Option.ne_none_iff_exists'.mp hremove
      refine ⟨p, content, hplace, hfree, ?_⟩
      rw [cleanUp_eq _ _ _ hfinal, hfile, hother]
      exact hfile

theorem run_of_givenUp (hmade : fs.ensureDirectory target.parent trouble.onMake = (.ok (), made))
    (hnamed : temporary? target suffix = some temporary) (hnull : temporary.isNullFree = true)
    (h : attempt trouble made temporary target data = (states, final, some cause)) :
    (run trouble fs target data suffix).final = (cleanUp trouble final temporary target cause).1 ∧
      (run trouble fs target data suffix).result =
        .error (cleanUp trouble final temporary target cause).2 := by
  simp [run, hmade, hnamed, hnull, h]

/-- **A failed write is reported as one and leaves nothing under the temporary name, exactly when
the clean-up is not blocked**; a blocked clean-up puts its own error in place of the report.  A file
that the write has opened stays only where the device refuses to remove it. -/
theorem failure_reported_iff (text : String) (hname : (FilePath.read text).name ≠ "") :
    temporary? (.read text) defaultSuffix = some (beside (.read text)) ∧
    ∀ (trouble : Trouble) (fs made : FileSystem) (suffix : String) (temporary : FilePath)
      (data : List UInt8) (states : List FileSystem) (final : FileSystem) (cause : Outside),
      fs.ensureDirectory (FilePath.read text).parent trouble.onMake = (.ok (), made) →
      temporary? (.read text) suffix = some temporary → temporary.isNullFree = true →
      attempt trouble made temporary (.read text) data = (states, final, some cause) →
      let t := run trouble fs (.read text) data suffix
      ((t.result = .error (.writeFailed (FilePath.read text).text cause) ∧
          ∀ p, made.place temporary = .ok p → t.final.node? p = none) ↔
        ¬Blocked trouble made temporary) ∧
      (Blocked trouble made temporary → ∃ other, t.result = .error (.outside other)) ∧
      (LeftBehind made temporary t.final ↔
        (∃ p, made.place temporary = .ok p ∧ made.node? p = none) ∧
          trouble.onCreate = none ∧ trouble.onRemove ≠ none) := by
  refine ⟨temporary_of_name hname (FilePath.slash_not_mem_name_read text), ?_⟩
  intro trouble fs made suffix temporary data states final cause hmade hnamed hnull hfail t
  obtain ⟨hfinal, hresult⟩ := run_of_givenUp hmade hnamed hnull hfail
  rw [show t.final = _ from hfinal, show t.result = _ from hresult]
  refine ⟨⟨?_, fun hfree => ?_⟩, fun hblocked => ?_, leftBehind_iff hfail⟩
  · rintro ⟨hreport, -⟩ hblocked
    rcases cleanUp_cases hfail with ⟨hfree, -⟩ | ⟨-, other, hother⟩
    · exact hfree hblocked
    · rw [hother] at hreport
      cases hreport
  · rcases cleanUp_cases hfail with ⟨-, hending⟩ | ⟨hblocked, -⟩
    · exact ⟨congrArg Except.error hending.reported, hending.vacated⟩
    · exact absurd hblocked hfree
  · rcases cleanUp_cases hfail with ⟨hfree, -⟩ | ⟨-, other, hother⟩
    · exact absurd hblocked hfree
    · exact ⟨other, congrArg Except.error hother⟩

/-- A write of a directory fails at its last step and leaves nothing behind; with a device that
refuses the removal the temporary file stays. -/
theorem failure_reported_iff_directory :
    let fs := FileSystem.empty.put ["tmp", "work", "a"] .directory
    let stuck : Trouble := { Trouble.never with onRemove := some .directoryInTheWay }
    ((run .never fs (.read "a") [0] defaultSuffix).result =
        .error (.writeFailed "a" .directoryInTheWay) ∧
      (run .never fs (.read "a") [0] defaultSuffix).final.node? ["tmp", "work", "a.tmp"] = none) ∧
    (∃ other, (run stuck fs (.read "a") [0] defaultSuffix).result = .error (.outside other)) ∧
    LeftBehind fs (beside (.read "a")) (run stuck fs (.read "a") [0] defaultSuffix).final := by
  intro fs stuck
  have hplace : fs.place (beside (.read "a")) = .ok ["tmp", "work", "a.tmp"] := rfl
  have hfree : fs.node? ["tmp", "work", "a.tmp"] = none := rfl
  obtain ⟨hnamed, hfails⟩ := failure_reported_iff "a" (by decide)
  obtain ⟨hreported, -, -⟩ := hfails .never fs fs defaultSuffix _ [0] _ _ .directoryInTheWay
    rfl hnamed (by decide) rfl
  obtain ⟨-, hblocked, hleft⟩ := hfails stuck fs fs defaultSuffix _ [0] _ _ .directoryInTheWay
    rfl hnamed (by decide) rfl
  obtain ⟨hresult, hvacated⟩ := hreported.mpr <| by
    rintro (htooLong | ⟨hp, hdir⟩ | ⟨-, hremove, -⟩)
    · exact absurd (hplace.symm.trans htooLong) (by simp)
    · rw [← Except.ok.inj (hplace.symm.trans hp), hfree] at hdir
      cases hdir
    · exact hremove rfl
  refine ⟨⟨hresult, hvacated _ hplace⟩, ?_, hleft.mpr ⟨⟨_, hplace, hfree⟩, rfl, by simp [stuck]⟩⟩
  exact hblocked (.refused hplace (by simp [stuck]) (Or.inl rfl))

/-- **Where a directory has the name of the temporary file, the error of the clean-up escapes.** -/
theorem occupied_name_escapes :
    let fs := FileSystem.empty.put ["tmp", "work", "a.tmp"] .directory
    fs.ensureDirectory (FilePath.read "a").parent = (.ok (), fs) ∧
      attempt .never fs (beside (.read "a")) (.read "a") [0] =
        ([], fs, some .directoryInTheWay) ∧
      (run .never fs (.read "a") [0] defaultSuffix).result =
        .error (.outside .directoryInTheWay) :=
  ⟨rfl, rfl, rfl⟩

end AtomicWrite

end PlotPage
