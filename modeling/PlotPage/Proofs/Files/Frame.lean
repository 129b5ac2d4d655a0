import Mathlib.Tactic.SplitIfs
import PlotPage.Proofs.Files.AtomicWrite

/-!
# What a write leaves alone

A write that succeeds changes two places and makes directories.  At the target stands the data.  The
temporary file has its name from the target, so it is the same for every write of this target, and
whatever file stood under that name is overwritten and moved away: nothing is left there.

* `Ready`: what a write needs when the directory of its target is there.  It depends on the device
  and on directories alone, so files that others write neither help nor hinder it.
* `Replaced`: what a write then does.
* `Replaced.alike_iff`: two writes may change their order, unless the target of one of them is the
  temporary file of the other.
-/

namespace PlotPage

namespace FilePath

theorem suffixChars_isSuffix (name : List Char) : suffixChars name <:+ name := by
  unfold suffixChars
  dsimp only
  split
  · exact List.nil_suffix
  · next hlong =>
    rw [Bool.or_eq_true, not_or, decide_eq_true_eq, List.length_reverse] at hlong
    obtain ⟨hbefore, -⟩ := hlong
    have hsplit := List.takeWhile_append_dropWhile (p := (· ≠ '.')) (l := name.reverse)
    cases hrest : name.reverse.dropWhile (· ≠ '.') with
    | nil =>
      -- without a dot nothing stands before the tail
      rw [hrest, List.append_nil] at hsplit
      rw [hsplit, List.length_reverse] at hbefore
      omega
    | cons c rest =>
      have hdot : c = '.' := by
        have hhead := List.head?_dropWhile_not (fun x => decide (x ≠ '.')) name.reverse
        rw [hrest] at hhead
        simpa using hhead
      refine ⟨rest.reverse, ?_⟩
      rw [hrest, hdot] at hsplit
      simpa using congrArg List.reverse hsplit

/-- What stands before the suffix of a name, and its suffix, are the name. -/
theorem take_append_suffixChars (name : List Char) :
    name.take (name.length - (suffixChars name).length) ++ suffixChars name = name :=
  List.suffix_iff_eq_append.mp (suffixChars_isSuffix name)

end FilePath

namespace AtomicWrite

open FileSystem

variable {trouble : Trouble} {fs fs' : FileSystem} {temporary target : FilePath}
  {data : List UInt8} {p q : Place}

/-- The path whose name is that of the target with the suffix of temporary files behind it. -/
def beside (target : FilePath) : FilePath :=
  { target with parts := target.parts.dropLast ++ [target.name ++ defaultSuffix] }

theorem temporary_eq_beside (h : temporary? target defaultSuffix = some temporary) :
    temporary = beside target := by
  unfold temporary? FilePath.withSuffix? at h
  split at h
  · cases h
  · obtain rfl := Option.some.inj h
    rw [FilePath.suffix, ← String.append_assoc, ← String.ofList_append,
      FilePath.take_append_suffixChars, String.ofList_toList]
    rfl

/-! ### What a write needs -/

/-- The device refuses none of the steps from the opening of the temporary file to its move. -/
structure Allows (trouble : Trouble) : Prop where
  create : trouble.onCreate = none
  write : trouble.onWrite = none
  sync : trouble.onSync = none
  move : trouble.onMove = none

/-- The target and its temporary file have places, where no directories stand, and the device lets
the write pass. -/
structure Ready (trouble : Trouble) (fs : FileSystem) (target : FilePath) (p q : Place) : Prop where
  allows : Allows trouble
  named : temporary? target defaultSuffix = some (beside target)
  aside : fs.place (beside target) = .ok p
  place : fs.place target = .ok q
  asideFree : fs.node? p ≠ some .directory
  free : fs.node? q ≠ some .directory

theorem Ready.ne (h : Ready trouble fs target p q) : p ≠ q :=
  temporary_place_ne h.named h.aside h.place

theorem Ready.of_differsAt {S : Place → Prop} (h : Ready trouble fs target p q)
    (hdiff : DiffersAt S fs fs') : Ready trouble fs' target p q where
  allows := h.allows
  named := h.named
  aside := hdiff.toExtends.place h.aside
  place := hdiff.toExtends.place h.place
  asideFree := fun hdir => h.asideFree (hdiff.symm.toExtends.directory p hdir)
  free := fun hdir => h.free (hdiff.symm.toExtends.directory q hdir)

/-! ### What a write does -/

/-- The data stands at `q`, nothing stands at `p`, and everything else is as it was. -/
structure Replaced (fs : FileSystem) (p q : Place) (data : List UInt8) (fs' : FileSystem) :
    Prop where
  working : fs'.working = fs.working
  written : fs'.node? q = some (.file data)
  vacated : fs'.node? p = none
  others : ∀ r, r ≠ p → r ≠ q → fs'.node? r = fs.node? r

theorem Replaced.node_eq (h : Replaced fs p q data fs') (r : Place) :
    fs'.node? r = if r = q then some (.file data) else if r = p then none else fs.node? r := by
  split_ifs with hq hp
  · rw [hq, h.written]
  · rw [hp, h.vacated]
  · exact h.others r hp hq

theorem Replaced.differsAt (h : Replaced fs p q data fs') (hready : Ready trouble fs target p q) :
    DiffersAt (fun r => r = p ∨ r = q) fs fs' := by
  refine ⟨h.working, fun r => ?_⟩
  by_cases hp : r = p
  · subst hp
    exact Or.inr ⟨Or.inl rfl, hready.asideFree, by rw [h.vacated]; simp⟩
  · by_cases hq : r = q
    · subst hq
      exact Or.inr ⟨Or.inr rfl, hready.free, by rw [h.written]; simp⟩
    · exact Or.inl (h.others r hp hq)

/-- The steps of a write all succeed when it is ready for them. -/
theorem Ready.attempt (h : Ready trouble fs target p q) (data : List UInt8) :
    ∃ states final, attempt trouble fs (beside target) target data = (states, final, none) ∧
      Replaced fs p q data final := by
  have hcreate : fs.create (beside target) = .ok (fs.put p (.file [])) := by
    rw [create, h.aside, ok_bind]
    have hfree := h.asideFree
    split
    · next hdir => exact absurd hdir hfree
    · rfl
  have hcreated := DiffersAt.put_file h.asideFree []
  have hwrite : (fs.put p (.file [])).write (beside target) data =
      .ok ((fs.put p (.file [])).append p data) := by
    rw [FileSystem.write, hcreated.toExtends.place h.aside]
    rfl
  have happend := hcreated.trans (DiffersAt.append (fs.put p (.file [])) p data)
  have hcontent : ((fs.put p (.file [])).append p data).node? p = some (.file data) := by
    simp [FileSystem.append]
  generalize (fs.put p (.file [])).append p data = written at hwrite happend hcontent
  have hfree : written.node? q ≠ some .directory := by
    rw [happend.node_eq h.ne.symm]
    exact h.free
  have hrename : written.rename (beside target) target =
      .ok ((written.erase p).put q (.file data)) := by
    rw [rename, happend.toExtends.place h.aside, ok_bind, happend.toExtends.place h.place, ok_bind]
    simp only [hcontent]
    rfl
  refine ⟨[fs.put p (.file []), written, (written.erase p).put q (.file data)],
    (written.erase p).put q (.file data), ?_, ?_⟩
  · simp only [AtomicWrite.attempt, h.allows.create, h.allows.write, h.allows.sync, h.allows.move,
      guarded, hcreate, hwrite, hrename]
  · refine ⟨happend.working, node?_put_self _ q _, ?_, fun r hrp hrq => ?_⟩
    · rw [node?_put_of_ne _ _ h.ne.symm, node?_erase_self]
    · rw [node?_put_of_ne _ _ hrq.symm, node?_erase_of_ne _ hrp.symm, happend.node_eq hrp]

/-- Only a write that is ready for all steps gets through them. -/
theorem ready_of_attempt {states : List FileSystem} {final : FileSystem}
    (hnamed : temporary? target defaultSuffix = some (beside target))
    (h : attempt trouble fs (beside target) target data = (states, final, none)) :
    ∃ p q, Ready trouble fs target p q := by
  unfold AtomicWrite.attempt at h
  split at h
  · cases h
  · next created hcreate =>
    obtain ⟨hallowCreate, hcreate⟩ := guarded_eq_ok_iff.mp hcreate
    split at h
    · split at h <;> cases h
    · next hallowWrite =>
      split at h
      · cases h
      · next written hwrite =>
        split at h
        · cases h
        · next hallowSync =>
          split at h
          · cases h
          · next renamed hmove =>
            obtain ⟨hallowMove, hrename⟩ := guarded_eq_ok_iff.mp hmove
            obtain ⟨p, hp, hpfree, -⟩ := create_eq_ok hcreate
            obtain ⟨_, -, -, hdiff⟩ := (filled_of_create hcreate).write hwrite
            obtain ⟨_, q, _, -, hq, -, hqfree, -⟩ := rename_eq_ok hrename
            refine ⟨p, q, ⟨hallowCreate, hallowWrite, hallowSync, hallowMove⟩, hnamed, hp,
              hdiff.place_eq_ok_iff.mp hq, hpfree, fun hdir => ?_⟩
            exact hqfree (hdiff.toExtends.directory q hdir)

/-! ### Whole writes -/

theorem attempt_of_run (h : (run trouble fs target data defaultSuffix).result = .ok ()) :
    temporary? target defaultSuffix = some (beside target) ∧
      ∃ states, attempt trouble (prepared trouble fs target) (beside target) target data =
        (states, (run trouble fs target data defaultSuffix).final, none) := by
  revert h
  unfold run prepared
  rcases fs.ensureDirectory target.parent trouble.onMake with ⟨ensured, made⟩
  cases ensured with
  | error cause => simp
  | ok =>
    cases htemporary : temporary? target defaultSuffix with
    | none => simp
    | some temporary =>
      obtain rfl := temporary_eq_beside htemporary
      by_cases hnull : (beside target).isNullFree
      · rcases hattempt : attempt trouble made (beside target) target data with ⟨states, final, f⟩
        cases f with
        | some cause => simp [hnull, hattempt]
        | none => simp [hnull, hattempt]
      · simp [hnull]

/-- A write that succeeds is ready once the directories are there, and then it only replaces. -/
theorem replaced_of_writeBytes
    (h : fs.writeBytes target data defaultSuffix trouble = (.ok (), fs')) :
    ∃ p q, Ready trouble (prepared trouble fs target) target p q ∧
      Replaced (prepared trouble fs target) p q data fs' := by
  obtain ⟨hresult, hfinal⟩ := Prod.mk.inj h
  obtain ⟨hnamed, states, hattempt⟩ := attempt_of_run hresult
  obtain ⟨p, q, hready⟩ := ready_of_attempt hnamed hattempt
  obtain ⟨_, final, hsame, hreplaced⟩ := hready.attempt data
  rw [hattempt, hfinal] at hsame
  obtain rfl : fs' = final := congrArg (fun t => t.2.1) hsame
  exact ⟨p, q, hready, hreplaced⟩

/-- A write that is ready succeeds where its directory is there already. -/
theorem Ready.writeBytes (h : Ready trouble fs target p q)
    (hdirectory : fs.isDirectory target.parent = true) (data : List UInt8) :
    ∃ fs', fs.writeBytes target data defaultSuffix trouble = (.ok (), fs') ∧
      Replaced fs p q data fs' := by
  obtain ⟨states, final, hattempt, hreplaced⟩ := h.attempt data
  have hnull : (beside target).isNullFree = true := (place_eq_ok_iff.mp h.aside).1
  refine ⟨final, ?_, hreplaced⟩
  simp [FileSystem.writeBytes, run, ensureDirectory_of_isDirectory trouble.onMake hdirectory,
    h.named, hnull, hattempt]

theorem prepared_of_isDirectory (hdirectory : fs.isDirectory target.parent = true) :
    prepared trouble fs target = fs := by
  rw [prepared, ensureDirectory_of_isDirectory trouble.onMake hdirectory]

/-! ### Two writes -/

/-- The same stands at every place. -/
structure Alike (fs fs' : FileSystem) : Prop where
  working : fs'.working = fs.working
  node : ∀ r, fs'.node? r = fs.node? r

section

variable {p₁ p₂ q₁ q₂ : Place} {data₁ data₂ : List UInt8} {fs₁ fs₂ fs₁' fs₂' : FileSystem}

/-- In either order two replacements come to the same, unless one of them moves the file of the
other away. -/
theorem Replaced.alike_iff (h₁ : Replaced fs p₁ q₁ data₁ fs₁) (h₂ : Replaced fs₁ p₂ q₂ data₂ fs₂)
    (h₂' : Replaced fs p₂ q₂ data₂ fs₂') (h₁' : Replaced fs₂' p₁ q₁ data₁ fs₁') (hq : q₁ ≠ q₂) :
    Alike fs₂ fs₁' ↔ p₁ ≠ q₂ ∧ p₂ ≠ q₁ := by
  constructor
  · intro h
    refine ⟨?_, ?_⟩
    · rintro rfl
      have hnode := h.node p₁
      rw [h₁'.vacated, h₂.written] at hnode
      cases hnode
    · rintro rfl
      have hnode := h.node p₂
      rw [h₁'.written, h₂.vacated] at hnode
      cases hnode
  · rintro ⟨hpq, hqp⟩
    refine ⟨?_, fun r => ?_⟩
    · rw [h₁'.working, h₂'.working, h₂.working, h₁.working]
    · rw [h₁'.node_eq, h₂'.node_eq, h₂.node_eq, h₁.node_eq]
      by_cases hr₁ : r = q₁
      · have hr₂ : r ≠ q₂ := hr₁ ▸ hq
        have hr₃ : r ≠ p₂ := hr₁ ▸ hqp.symm
        rw [if_pos hr₁, if_neg hr₂, if_neg hr₃, if_pos hr₁]
      · rw [if_neg hr₁, if_neg hr₁]
        by_cases hr₂ : r = q₂
        · have hr₃ : r ≠ p₁ := hr₂ ▸ hpq.symm
          rw [if_pos hr₂, if_neg hr₃, if_pos hr₂]
        · rw [if_neg hr₂, if_neg hr₂]
          split_ifs <;> rfl

/-- Where the files of two writes are apart, each holds its own data after both. -/
theorem Replaced.both (h₁ : Replaced fs p₁ q₁ data₁ fs₁) (h₂ : Replaced fs₁ p₂ q₂ data₂ fs₂)
    (hq : q₁ ≠ q₂) (hqp : p₂ ≠ q₁) :
    fs₂.node? q₁ = some (.file data₁) ∧ fs₂.node? q₂ = some (.file data₂) :=
  ⟨(h₂.others q₁ hqp.symm hq).trans h₁.written, h₂.written⟩

end

/-- What a write has done when it succeeds: it has replaced, and directories were made on the way of
its target where nothing stood. -/
structure Wrote (fs : FileSystem) (target : FilePath) (data : List UInt8) (fs' : FileSystem)
    (p q : Place) : Prop where
  aside : fs'.place (beside target) = .ok p
  place : fs'.place target = .ok q
  ne : p ≠ q
  working : fs'.working = fs.working
  written : fs'.node? q = some (.file data)
  vacated : fs'.node? p = none
  others : ∀ r, r ≠ p → r ≠ q → fs'.node? r = fs.node? r ∨
    (fs.node? r = none ∧ fs'.node? r = some .directory ∧ fs'.Passes target.parent r)

theorem wrote_of_writeBytes (h : fs.writeBytes target data defaultSuffix trouble = (.ok (), fs')) :
    ∃ p q, Wrote fs target data fs' p q := by
  obtain ⟨p, q, hready, hreplaced⟩ := replaced_of_writeBytes h
  have hmade : MadeAlong target.parent fs (prepared trouble fs target) :=
    ensureDirectory_madeAlong fs target.parent trouble.onMake
  have hext := (hreplaced.differsAt hready).toExtends
  refine ⟨p, q, hext.place hready.aside, hext.place hready.place, hready.ne,
    hreplaced.working.trans hmade.working, hreplaced.written, hreplaced.vacated, fun r hp hq => ?_⟩
  rw [hreplaced.others r hp hq]
  exact (hmade.node r).imp_right fun ⟨hnone, hdir, hpass⟩ => ⟨hnone, hdir, hpass.mono hext⟩

/-- **A write that succeeds leaves everything alone but its target, the name of its temporary file
and the directories that it makes.**  So two writes to different files in directories that are there
can change their order, exactly when neither of the files is the temporary one of the other. -/
theorem writeBytes_leaves_others (fs : FileSystem) :
    (∀ (trouble : Trouble) (fs' : FileSystem) (target : FilePath) (data : List UInt8),
      fs.writeBytes target data defaultSuffix trouble = (.ok (), fs') →
      ∃ p q, Wrote fs target data fs' p q) ∧
    ∀ (fs₁ fs₂ : FileSystem) (trouble₁ trouble₂ : Trouble) (target₁ target₂ : FilePath)
      (data₁ data₂ : List UInt8) (q₁ q₂ : Place),
      fs.isDirectory target₁.parent = true → fs.isDirectory target₂.parent = true →
      fs.place target₁ = .ok q₁ → fs.place target₂ = .ok q₂ → q₁ ≠ q₂ →
      fs.writeBytes target₁ data₁ defaultSuffix trouble₁ = (.ok (), fs₁) →
      fs₁.writeBytes target₂ data₂ defaultSuffix trouble₂ = (.ok (), fs₂) →
      ∃ fs₂' fs₁', fs.writeBytes target₂ data₂ defaultSuffix trouble₂ = (.ok (), fs₂') ∧
        fs₂'.writeBytes target₁ data₁ defaultSuffix trouble₁ = (.ok (), fs₁') ∧
        (Alike fs₂ fs₁' ↔
          fs.place (beside target₁) ≠ .ok q₂ ∧ fs.place (beside target₂) ≠ .ok q₁) ∧
        (Alike fs₂ fs₁' → fs₂.read target₁ = .ok data₁ ∧ fs₂.read target₂ = .ok data₂) := by
  refine ⟨fun _ _ _ _ => wrote_of_writeBytes, ?_⟩
  intro fs₁ fs₂ trouble₁ trouble₂ target₁ target₂ data₁ data₂ q₁ q₂ hdir₁ hdir₂ hq₁ hq₂ hne h₁ h₂
  obtain ⟨p₁, q, hready₁, hreplaced₁⟩ := replaced_of_writeBytes h₁
  rw [prepared_of_isDirectory hdir₁] at hready₁ hreplaced₁
  obtain rfl : q = q₁ := Except.ok.inj (hready₁.place.symm.trans hq₁)
  have hdiff₁ := hreplaced₁.differsAt hready₁
  obtain ⟨p₂, q', hready, hreplaced₂⟩ := replaced_of_writeBytes h₂
  rw [prepared_of_isDirectory (hdiff₁.toExtends.isDirectory hdir₂)] at hready hreplaced₂
  have hready₂ := hready.of_differsAt hdiff₁.symm
  obtain rfl : q' = q₂ := Except.ok.inj (hready₂.place.symm.trans hq₂)
  -- the second write comes first: it is ready before the other one, which is still ready after it
  obtain ⟨fs₂', h₂', hreplaced₂'⟩ := hready₂.writeBytes hdir₂ data₂
  have hdiff₂ := hreplaced₂'.differsAt hready₂
  obtain ⟨fs₁', h₁', hreplaced₁'⟩ := (hready₁.of_differsAt hdiff₂).writeBytes
    (hdiff₂.toExtends.isDirectory hdir₁) data₁
  have hiff := hreplaced₁.alike_iff hreplaced₂ hreplaced₂' hreplaced₁' hne
  refine ⟨fs₂', fs₁', h₂', h₁', ?_, fun halike => ?_⟩
  · rw [hiff, hready₁.aside, hready₂.aside]
    simp only [ne_eq, Except.ok.injEq]
  · obtain ⟨hdata₁, hdata₂⟩ := hreplaced₁.both hreplaced₂ hne (hiff.mp halike).2
    have hext := hdiff₁.toExtends.trans (hreplaced₂.differsAt hready).toExtends
    exact ⟨read_eq_ok_iff.mpr ⟨q, hext.place hq₁, hdata₁⟩,
      read_eq_ok_iff.mpr ⟨q', hext.place hq₂, hdata₂⟩⟩

/-- Two files in the working directory. -/
theorem writeBytes_leaves_others_two_files :
    ∃ fs₁ fs₂ fs₂' fs₁' : FileSystem,
      FileSystem.empty.writeBytes (FilePath.read "a") [0] defaultSuffix = (.ok (), fs₁) ∧
      fs₁.writeBytes (FilePath.read "b") [1] defaultSuffix = (.ok (), fs₂) ∧
      FileSystem.empty.writeBytes (FilePath.read "b") [1] defaultSuffix = (.ok (), fs₂') ∧
      fs₂'.writeBytes (FilePath.read "a") [0] defaultSuffix = (.ok (), fs₁') ∧
      Alike fs₂ fs₁' ∧ fs₂.read (FilePath.read "a") = .ok [0] ∧
      fs₂.read (FilePath.read "b") = .ok [1] ∧
      ∃ p q, Wrote FileSystem.empty (FilePath.read "a") [0] fs₁ p q := by
  obtain ⟨hwrote, hswap⟩ := writeBytes_leaves_others FileSystem.empty
  obtain ⟨fs₁, fs₂, h₁, h₂⟩ : ∃ fs₁ fs₂ : FileSystem,
      FileSystem.empty.writeBytes (FilePath.read "a") [0] defaultSuffix = (.ok (), fs₁) ∧
      fs₁.writeBytes (FilePath.read "b") [1] defaultSuffix = (.ok (), fs₂) := ⟨_, _, rfl, rfl⟩
  obtain ⟨fs₂', fs₁', h₂', h₁', hiff, hread⟩ := hswap fs₁ fs₂ .never .never
    (FilePath.read "a") (FilePath.read "b") [0] [1] ["tmp", "work", "a"] ["tmp", "work", "b"]
    (by decide +kernel) (by decide +kernel) rfl rfl (by decide) h₁ h₂
  have haside : FileSystem.empty.place (beside (FilePath.read "a")) =
      .ok ["tmp", "work", "a.tmp"] := rfl
  have hbside : FileSystem.empty.place (beside (FilePath.read "b")) =
      .ok ["tmp", "work", "b.tmp"] := rfl
  have halike : Alike fs₂ fs₁' := by
    rw [hiff, haside, hbside]
    simp
  obtain ⟨ha, hb⟩ := hread halike
  exact ⟨fs₁, fs₂, fs₂', fs₁', h₁, h₂, h₂', h₁', halike, ha, hb, hwrote _ _ _ _ h₁⟩

/-- **A file that has the name of the temporary file is lost.**  So the order of two writes matters
when the second file has this name. -/
theorem writeBytes_loses_temporary :
    ∃ fs fs' : FileSystem, fs.read (FilePath.read "a.tmp") = .ok [120] ∧
      fs.writeBytes (FilePath.read "a") [0] defaultSuffix = (.ok (), fs') ∧
      fs'.read (FilePath.read "a.tmp") = .error .noFile :=
  ⟨FileSystem.empty.install "a.tmp" [120], _, rfl, rfl, rfl⟩

end AtomicWrite

end PlotPage
