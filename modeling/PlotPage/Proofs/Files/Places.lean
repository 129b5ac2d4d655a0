import PlotPage.Files.System
import PlotPage.Proofs.Result

/-!
# Places in a changing file system

A path is followed through directories only, so it leads to the same place as long as no directory
disappears.

* `Extends.place`: what a path leads to in one file system, it leads to in every extension.
* `DiffersAt S fs fs'`: the two file systems differ only in the files at the places of `S`.  This
  is an equivalence, and each operation on one file stays inside it.
* `MadeAlong p fs fs'`: only directories have been made, at places that `p` passes.
* `ensureDirectory_madeAlong`: this is all that making a directory does, also when it fails.
-/

namespace PlotPage

namespace FileSystem

variable {fs fs' fs'' : FileSystem} {p : FilePath} {q r : Place}

/-! ### Following a path -/

/-- Every directory of the first file system is one of the second. -/
structure Extends (fs fs' : FileSystem) : Prop where
  working : fs'.working = fs.working
  directory : ∀ r, fs.node? r = some .directory → fs'.node? r = some .directory

theorem Extends.refl (fs : FileSystem) : Extends fs fs := ⟨rfl, fun _ h => h⟩

theorem Extends.trans (h : Extends fs fs') (h' : Extends fs' fs'') : Extends fs fs'' :=
  ⟨h'.working.trans h.working, fun r hr => h'.directory r (h.directory r hr)⟩

theorem follow_cons_eq_ok {start : Place} {name : String} {names : List String} :
    fs.follow start (name :: names) = .ok q ↔
      fs.node? start = some .directory ∧
        ((name = ".." ∧ fs.follow start.dropLast names = .ok q) ∨
          (name ≠ ".." ∧ name.utf8ByteSize ≤ maxNameSize ∧
            fs.follow (start ++ [name]) names = .ok q)) := by
  rw [follow]
  cases hn : fs.node? start with
  | none => simp
  | some n =>
    cases n with
    | file content => simp
    | directory =>
      by_cases hup : name = ".."
      · simp [hup]
      · by_cases hlong : maxNameSize < name.utf8ByteSize
        · have hnot : ¬name.utf8ByteSize ≤ maxNameSize := by omega
          simp [hup, hlong, hnot]
        · have hshort : name.utf8ByteSize ≤ maxNameSize := by omega
          simp [hup, hlong, hshort]

theorem Extends.follow (h : Extends fs fs') {start : Place} {names : List String}
    (hf : fs.follow start names = .ok q) : fs'.follow start names = .ok q := by
  induction names generalizing start with
  | nil => exact hf
  | cons name names ih =>
    rw [follow_cons_eq_ok] at hf ⊢
    obtain ⟨hdir, hf⟩ := hf
    refine ⟨h.directory start hdir, ?_⟩
    rcases hf with ⟨hup, hf⟩ | ⟨hup, hsize, hf⟩
    · exact Or.inl ⟨hup, ih hf⟩
    · exact Or.inr ⟨hup, hsize, ih hf⟩

theorem follow_append_eq_ok {start : Place} {names rest : List String} :
    fs.follow start (names ++ rest) = .ok q ↔
      ∃ r, fs.follow start names = .ok r ∧ fs.follow r rest = .ok q := by
  induction names generalizing start with
  | nil => simp [follow]
  | cons name names ih =>
    rw [List.cons_append, follow_cons_eq_ok]
    simp only [follow_cons_eq_ok, ih]
    constructor
    · rintro ⟨hdir, ⟨hup, r, hr, hq⟩ | ⟨hup, hsize, r, hr, hq⟩⟩
      · exact ⟨r, ⟨hdir, Or.inl ⟨hup, hr⟩⟩, hq⟩
      · exact ⟨r, ⟨hdir, Or.inr ⟨hup, hsize, hr⟩⟩, hq⟩
    · rintro ⟨r, ⟨hdir, ⟨hup, hr⟩ | ⟨hup, hsize, hr⟩⟩, hq⟩
      · exact ⟨hdir, Or.inl ⟨hup, r, hr, hq⟩⟩
      · exact ⟨hdir, Or.inr ⟨hup, hsize, r, hr, hq⟩⟩

/-- Without a step upwards, a path leads to the place that its names spell. -/
theorem eq_append_of_follow {start : Place} {names : List String} (hup : ".." ∉ names)
    (hf : fs.follow start names = .ok q) : q = start ++ names := by
  induction names generalizing start with
  | nil =>
    rw [List.append_nil]
    exact (Except.ok.inj hf).symm
  | cons name names ih =>
    rw [List.mem_cons, not_or] at hup
    rcases (follow_cons_eq_ok.mp hf).2 with ⟨hname, _⟩ | ⟨_, _, hf⟩
    · exact absurd hname.symm hup.1
    · rw [ih hup.2 hf, List.append_assoc, List.singleton_append]

/-- The place from which a path starts. -/
def startOf (fs : FileSystem) (p : FilePath) : Place := if p.root = "" then fs.working else []

theorem place_eq_ok_iff :
    fs.place p = .ok q ↔ p.isNullFree = true ∧ fs.follow (fs.startOf p) p.parts = .ok q := by
  unfold place startOf
  by_cases hp : p.isNullFree
  · simp [hp]
  · simp [hp]

theorem Extends.place (h : Extends fs fs') (hq : fs.place p = .ok q) : fs'.place p = .ok q := by
  rw [place_eq_ok_iff] at hq ⊢
  have hstart : fs'.startOf p = fs.startOf p := by
    unfold startOf
    rw [h.working]
  rw [hstart]
  exact ⟨hq.1, h.follow hq.2⟩

theorem read_eq_ok_iff {content : List UInt8} :
    fs.read p = .ok content ↔ ∃ q, fs.place p = .ok q ∧ fs.node? q = some (.file content) := by
  simp only [read, bind_eq_ok_iff]
  refine exists_congr fun q => and_congr_right fun _ => ?_
  split
  · next c hc => rw [hc, pure_eq_ok_iff, Option.some.injEq, Node.file.injEq]
  · next hc => simp [hc]
  · next hc => simp [hc]

/-! ### Files that differ -/

/-- The file systems differ at most at the places of `S`, and there neither has a directory. -/
structure DiffersAt (S : Place → Prop) (fs fs' : FileSystem) : Prop where
  working : fs'.working = fs.working
  node : ∀ r, fs'.node? r = fs.node? r ∨
    (S r ∧ fs.node? r ≠ some .directory ∧ fs'.node? r ≠ some .directory)

namespace DiffersAt

variable {S T : Place → Prop}

theorem refl (fs : FileSystem) : DiffersAt S fs fs := ⟨rfl, fun _ => Or.inl rfl⟩

theorem symm (h : DiffersAt S fs fs') : DiffersAt S fs' fs := by
  refine ⟨h.working.symm, fun r => ?_⟩
  rcases h.node r with heq | ⟨hS, hfs, hfs'⟩
  · exact Or.inl heq.symm
  · exact Or.inr ⟨hS, hfs', hfs⟩

theorem trans (h : DiffersAt S fs fs') (h' : DiffersAt S fs' fs'') : DiffersAt S fs fs'' := by
  refine ⟨h'.working.trans h.working, fun r => ?_⟩
  rcases h.node r with heq | ⟨hS, hfs, hfs'⟩
  · rcases h'.node r with heq' | ⟨hS, hfs', hfs''⟩
    · exact Or.inl (heq'.trans heq)
    · exact Or.inr ⟨hS, heq ▸ hfs', hfs''⟩
  · rcases h'.node r with heq' | ⟨_, _, hfs''⟩
    · exact Or.inr ⟨hS, hfs, heq'.symm ▸ hfs'⟩
    · exact Or.inr ⟨hS, hfs, hfs''⟩

theorem mono (h : DiffersAt S fs fs') (hST : ∀ r, S r → T r) : DiffersAt T fs fs' :=
  ⟨h.working, fun r => (h.node r).imp_right fun ⟨hS, hrest⟩ => ⟨hST r hS, hrest⟩⟩

theorem toExtends (h : DiffersAt S fs fs') : Extends fs fs' := by
  refine ⟨h.working, fun r hr => ?_⟩
  rcases h.node r with heq | ⟨_, hfs, _⟩
  · exact heq.trans hr
  · exact absurd hr hfs

theorem place_eq_ok_iff (h : DiffersAt S fs fs') : fs'.place p = .ok q ↔ fs.place p = .ok q :=
  ⟨h.symm.toExtends.place, h.toExtends.place⟩

theorem node_eq (h : DiffersAt S fs fs') (hr : ¬S r) : fs'.node? r = fs.node? r := by
  rcases h.node r with heq | ⟨hS, _⟩
  · exact heq
  · exact absurd hS hr

theorem put_file (hq : fs.node? q ≠ some .directory) (content : List UInt8) :
    DiffersAt (· = q) fs (fs.put q (.file content)) := by
  refine ⟨rfl, fun r => ?_⟩
  by_cases hr : r = q
  · subst hr
    refine Or.inr ⟨rfl, hq, ?_⟩
    rw [node?_put_self]
    simp
  · exact Or.inl (node?_put_of_ne fs _ (Ne.symm hr))

theorem erase (hq : fs.node? q ≠ some .directory) : DiffersAt (· = q) fs (fs.erase q) := by
  refine ⟨rfl, fun r => ?_⟩
  by_cases hr : r = q
  · subst hr
    refine Or.inr ⟨rfl, hq, ?_⟩
    rw [node?_erase_self]
    simp
  · exact Or.inl (node?_erase_of_ne fs (Ne.symm hr))

theorem append (fs : FileSystem) (q : Place) (data : List UInt8) :
    DiffersAt (· = q) fs (fs.append q data) := by
  unfold FileSystem.append
  split
  · next content hq => exact put_file (by rw [hq]; simp) (content ++ data)
  · exact refl fs

end DiffersAt

/-! ### Operations on one file -/

theorem create_eq_ok (h : fs.create p = .ok fs') :
    ∃ q, fs.place p = .ok q ∧ fs.node? q ≠ some .directory ∧ fs' = fs.put q (.file []) := by
  simp only [create, bind_eq_ok_iff] at h
  obtain ⟨q, hq, h⟩ := h
  split at h
  · exact absurd h throw_ne_ok
  · next hn => exact ⟨q, hq, hn, (pure_eq_ok_iff.mp h).symm⟩

theorem write_eq_ok {data : List UInt8} (h : fs.write p data = .ok fs') :
    ∃ q, fs.place p = .ok q ∧ fs' = fs.append q data := by
  simp only [write, bind_eq_ok_iff, pure_eq_ok_iff] at h
  obtain ⟨q, hq, h⟩ := h
  exact ⟨q, hq, h.symm⟩

theorem rename_eq_ok {source target : FilePath} (h : fs.rename source target = .ok fs') :
    ∃ s t content, fs.place source = .ok s ∧ fs.place target = .ok t ∧
      fs.node? s = some (.file content) ∧ fs.node? t ≠ some .directory ∧
        fs' = (fs.erase s).put t (.file content) := by
  simp only [rename, bind_eq_ok_iff] at h
  obtain ⟨s, hs, t, ht, h⟩ := h
  split at h
  · next content hsource =>
    split at h
    · exact absurd h throw_ne_ok
    · next htarget =>
      exact ⟨s, t, content, hs, ht, hsource, htarget, (pure_eq_ok_iff.mp h).symm⟩
  · exact absurd h throw_ne_ok
  · exact absurd h throw_ne_ok

theorem remove_eq_ok (h : fs.remove p = .ok fs') :
    ∃ q, fs.place p = .ok q ∧ fs.node? q ≠ some .directory ∧ fs' = fs.erase q := by
  simp only [remove, bind_eq_ok_iff] at h
  obtain ⟨q, hq, h⟩ := h
  split at h
  · next hn => exact ⟨q, hq, by rw [hn]; simp, (pure_eq_ok_iff.mp h).symm⟩
  · exact absurd h throw_ne_ok
  · exact absurd h throw_ne_ok

theorem openAtEnd_eq_ok (h : fs.openAtEnd p = .ok (q, fs')) :
    fs.place p = .ok q ∧ DiffersAt (· = q) fs fs' ∧
      ∃ content, fs'.node? q = some (.file content) := by
  simp only [openAtEnd, bind_eq_ok_iff] at h
  obtain ⟨q', hq, h⟩ := h
  split at h
  · exact absurd h throw_ne_ok
  · next content hfile =>
    obtain ⟨rfl, rfl⟩ := Prod.mk.inj (pure_eq_ok_iff.mp h)
    exact ⟨hq, DiffersAt.refl fs, content, hfile⟩
  · next hnone =>
    obtain ⟨rfl, rfl⟩ := Prod.mk.inj (pure_eq_ok_iff.mp h)
    exact ⟨hq, DiffersAt.put_file (by rw [hnone]; simp) [], [], node?_put_self fs q' _⟩

/-- A file that has been opened can be opened again, and this changes nothing. -/
theorem openAtEnd_again (h : fs.openAtEnd p = .ok (q, fs')) : fs'.openAtEnd p = .ok (q, fs') := by
  obtain ⟨hq, hdiff, content, hfile⟩ := openAtEnd_eq_ok h
  simp only [openAtEnd, hdiff.toExtends.place hq, ok_bind, hfile]
  rfl

/-! ### Directories on the way -/

/-- A nonempty initial part of the path leads to the place. -/
def Passes (fs : FileSystem) (p : FilePath) (r : Place) : Prop :=
  ∃ names, names ≠ [] ∧ names <+: p.parts ∧ fs.place ⟨p.root, names⟩ = .ok r

theorem Passes.mono (h : fs.Passes p r) (hext : Extends fs fs') : fs'.Passes p r := by
  obtain ⟨names, hne, hpre, hplace⟩ := h
  exact ⟨names, hne, hpre, hext.place hplace⟩

theorem Passes.widen {root : String} {names parts : List String}
    (h : fs.Passes ⟨root, names⟩ r) (hpre : names <+: parts) : fs.Passes ⟨root, parts⟩ r := by
  obtain ⟨initial, hne, hinitial, hplace⟩ := h
  exact ⟨initial, hne, hinitial.trans hpre, hplace⟩

/-- Nothing has happened but that directories were made where nothing was, on the way of `p`. -/
structure MadeAlong (p : FilePath) (fs fs' : FileSystem) : Prop where
  working : fs'.working = fs.working
  node : ∀ r, fs'.node? r = fs.node? r ∨
    (fs.node? r = none ∧ fs'.node? r = some .directory ∧ fs'.Passes p r)

namespace MadeAlong

theorem refl (p : FilePath) (fs : FileSystem) : MadeAlong p fs fs := ⟨rfl, fun _ => Or.inl rfl⟩

theorem toExtends (h : MadeAlong p fs fs') : Extends fs fs' := by
  refine ⟨h.working, fun r hr => ?_⟩
  rcases h.node r with heq | ⟨hnone, _⟩
  · exact heq.trans hr
  · rw [hnone] at hr
    cases hr

theorem trans (h : MadeAlong p fs fs') (h' : MadeAlong p fs' fs'') : MadeAlong p fs fs'' := by
  refine ⟨h'.working.trans h.working, fun r => ?_⟩
  rcases h.node r with heq | ⟨hnone, hdir, hpass⟩
  · rcases h'.node r with heq' | ⟨hnone', hdir', hpass'⟩
    · exact Or.inl (heq'.trans heq)
    · exact Or.inr ⟨heq ▸ hnone', hdir', hpass'⟩
  · exact Or.inr ⟨hnone, h'.toExtends.directory r hdir, hpass.mono h'.toExtends⟩

theorem widen {root : String} {names parts : List String} (h : MadeAlong ⟨root, names⟩ fs fs')
    (hpre : names <+: parts) : MadeAlong ⟨root, parts⟩ fs fs' :=
  ⟨h.working, fun r => (h.node r).imp_right fun ⟨hnone, hdir, hpass⟩ =>
    ⟨hnone, hdir, hpass.widen hpre⟩⟩

end MadeAlong

variable {refusal : Option Outside}

theorem makeDirectory_madeAlong (h : fs.makeDirectory p refusal = .ok fs') :
    MadeAlong p fs fs' := by
  simp only [makeDirectory, bind_eq_ok_iff] at h
  obtain ⟨q, hq, h⟩ := h
  split at h
  · exact absurd h throw_ne_ok
  · next hnone =>
    split at h
    · exact absurd h throw_ne_ok
    · next hparts =>
      split at h
      · exact absurd h throw_ne_ok
      · obtain rfl := pure_eq_ok_iff.mp h
        have hkept : ∀ r, r ≠ q → (fs.put q .directory).node? r = fs.node? r :=
          fun r hr => node?_put_of_ne fs _ (Ne.symm hr)
        have hext : Extends fs (fs.put q .directory) := by
          refine ⟨rfl, fun r hr => ?_⟩
          by_cases hrq : r = q
          · rw [hrq, node?_put_self]
          · rw [hkept r hrq, hr]
        refine ⟨rfl, fun r => ?_⟩
        by_cases hrq : r = q
        · subst hrq
          exact Or.inr ⟨hnone, node?_put_self fs r _,
            p.parts, hparts, List.prefix_refl _, hext.place hq⟩
        · exact Or.inl (hkept r hrq)

theorem ensureSingle_madeAlong (h : fs.ensureSingle p refusal = .ok fs') : MadeAlong p fs fs' := by
  unfold ensureSingle at h
  split at h
  · next made hmade =>
    cases h
    exact makeDirectory_madeAlong hmade
  · cases h
  · split at h
    · cases h
      exact MadeAlong.refl p fs
    · cases h

/-- Making a directory with those above it does nothing else, whether or not it succeeds. -/
theorem ensureNames_madeAlong (refusal : FilePath → Option Outside) (root : String)
    (names : List String) (fs : FileSystem) :
    MadeAlong ⟨root, names.reverse⟩ fs (fs.ensureNames refusal root names).2 := by
  induction names generalizing fs with
  | nil =>
    unfold ensureNames
    split
    · next hmade => exact ensureSingle_madeAlong hmade
    · exact MadeAlong.refl _ fs
  | cons name above ih =>
    have habove : MadeAlong ⟨root, (name :: above).reverse⟩ fs
        (fs.ensureNames refusal root above).2 :=
      (ih fs).widen (by simp)
    simp only [ensureNames]
    cases hfirst : fs.ensureSingle ⟨root, (name :: above).reverse⟩
        (refusal ⟨root, (name :: above).reverse⟩) with
    | ok made => exact ensureSingle_madeAlong hfirst
    | error cause =>
      by_cases hmissing : cause = .noFile
      · subst hmissing
        rcases hrest : fs.ensureNames refusal root above with ⟨result, made⟩
        rw [hrest] at habove
        cases result with
        | error cause => exact habove
        | ok =>
          simp only
          split
          · next hmade => exact habove.trans (ensureSingle_madeAlong hmade)
          · exact habove
      · have hgiven := MadeAlong.refl ⟨root, (name :: above).reverse⟩ fs
        cases cause <;> first | exact hgiven | exact absurd rfl hmissing

theorem ensureDirectory_madeAlong (fs : FileSystem) (p : FilePath)
    (refusal : FilePath → Option Outside) : MadeAlong p fs (fs.ensureDirectory p refusal).2 := by
  have h := ensureNames_madeAlong refusal p.root p.parts.reverse fs
  rw [List.reverse_reverse] at h
  exact h

/-! ### Directories that are there -/

theorem isDirectory_iff :
    fs.isDirectory p = true ↔ ∃ q, fs.place p = .ok q ∧ fs.node? q = some .directory := by
  unfold isDirectory
  split
  · next q hq => simp [hq]
  · next hq => simp [hq]

theorem Extends.isDirectory (h : Extends fs fs') (hp : fs.isDirectory p = true) :
    fs'.isDirectory p = true := by
  obtain ⟨q, hq, hdir⟩ := isDirectory_iff.mp hp
  exact isDirectory_iff.mpr ⟨q, h.place hq, h.directory q hdir⟩

theorem ensureSingle_of_isDirectory (h : fs.isDirectory p = true) :
    fs.ensureSingle p refusal = .ok fs := by
  obtain ⟨q, hq, hdir⟩ := isDirectory_iff.mp h
  have hmake : fs.makeDirectory p refusal = .error .fileInTheWay := by
    simp only [makeDirectory, hq, ok_bind, hdir]
    rfl
  simp only [ensureSingle, hmake, h]
  rfl

theorem isDirectory_of_ensureSingle (h : fs.ensureSingle p refusal = .ok fs') :
    fs'.isDirectory p = true := by
  unfold ensureSingle at h
  split at h
  · next made hmade =>
    cases h
    have hext := (makeDirectory_madeAlong hmade).toExtends
    simp only [makeDirectory, bind_eq_ok_iff] at hmade
    obtain ⟨q, hq, hmade⟩ := hmade
    refine isDirectory_iff.mpr ⟨q, hext.place hq, ?_⟩
    split at hmade
    · exact absurd hmade throw_ne_ok
    · split at hmade
      · exact absurd hmade throw_ne_ok
      · split at hmade
        · exact absurd hmade throw_ne_ok
        · obtain rfl := pure_eq_ok_iff.mp hmade
          exact node?_put_self fs q _
  · cases h
  · split at h
    · next hdir =>
      cases h
      rw [Bool.and_eq_true] at hdir
      exact hdir.2
    · cases h

theorem ensureDirectory_of_isDirectory (refusal : FilePath → Option Outside)
    (h : fs.isDirectory p = true) : fs.ensureDirectory p refusal = (.ok (), fs) := by
  unfold ensureDirectory
  cases hnames : p.parts.reverse with
  | nil =>
    have hp : p = ⟨p.root, []⟩ := by rw [← List.reverse_eq_nil_iff.mp hnames]
    rw [ensureNames, ← hp, ensureSingle_of_isDirectory h]
  | cons name above =>
    have hp : (⟨p.root, (name :: above).reverse⟩ : FilePath) = p := by
      rw [← hnames, List.reverse_reverse]
    simp only [ensureNames, hp, ensureSingle_of_isDirectory h]

theorem isDirectory_of_ensureNames (refusal : FilePath → Option Outside) {root : String}
    {names : List String} (h : fs.ensureNames refusal root names = (.ok (), fs')) :
    fs'.isDirectory ⟨root, names.reverse⟩ = true := by
  cases names with
  | nil =>
    unfold ensureNames at h
    split at h
    · next hsingle =>
      cases h
      exact isDirectory_of_ensureSingle hsingle
    · cases h
  | cons name above =>
    simp only [ensureNames] at h
    split at h
    · next hsingle =>
      cases h
      exact isDirectory_of_ensureSingle hsingle
    · split at h
      · cases h
      · split at h
        · next hsingle =>
          cases h
          exact isDirectory_of_ensureSingle hsingle
        · cases h
    · cases h

theorem isDirectory_of_ensureDirectory {refusal : FilePath → Option Outside}
    (h : fs.ensureDirectory p refusal = (.ok (), fs')) : fs'.isDirectory p = true := by
  have hdir := isDirectory_of_ensureNames refusal h
  rw [List.reverse_reverse] at hdir
  exact hdir

end FileSystem

end PlotPage
