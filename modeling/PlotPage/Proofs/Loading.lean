import PlotPage.Loading
import PlotPage.Proofs.Description.Faults
import PlotPage.Proofs.Settings.TimeLimit

/-!
# What keeps a file from being loaded

Settings and descriptions are loaded in the same way: a file is read as YAML, and something is built
from its value.  A file that is missing, holds nothing or holds the wrong things is a fault of the
user's, which the loading names.  What is left is a file that is there and of which nothing can be
made (`Unusable`): it is no YAML, or it cannot be read, or a number in it has no double.
-/

namespace PlotPage

/-- A fault of a file that says itself that the file is missing or invalid. -/
def Fault.Named (f : Fault) : Prop := f.kind = .settings ∨ f.kind = .fileMissing

/-- A file is there and nothing can be made of it: it cannot be read, it holds no YAML, or a number
in it is too large. -/
inductive Unusable {α : Type} (fs : FileSystem) (p : FilePath) (halves : Halves)
    (build : Value → Except Fault α) : Fault → Prop where
  | unread {cause : Outside} (read : fs.readYaml p halves = .error (.outside cause))
      (unnamed : cause.kind ≠ .fileMissing) : Unusable fs p halves build (.outside cause)
  | noMarkup (read : fs.readYaml p halves = .error (.badMarkup p.text)) :
      Unusable fs p halves build (.badMarkup p.text)
  | tooLarge {v : Value} (read : fs.readYaml p halves = .ok v) (filled : v ≠ .null)
      (built : build v = .error (.outside .tooLarge)) :
      Unusable fs p halves build (.outside .tooLarge)

/-! ### Reading -/

theorem refused_failsWith {α : Type} (r : Except Outside α) :
    FailsWith Log.Foreign (FileSystem.refused r) := by
  cases r with
  | ok a => exact .ok a
  | error cause => exact .error ⟨cause, rfl⟩

/-- What reading a YAML file can fail with. -/
theorem readYaml_failsWith (fs : FileSystem) (p : FilePath) (halves : Halves) :
    FailsWith (fun f => f = .missingMarkup p.text ∨ f = .badMarkup p.text ∨ Log.Foreign f)
      (fs.readYaml p halves) := by
  have hrefused : ∀ {α : Type} (r : Except Outside α),
      FailsWith (fun f => f = .missingMarkup p.text ∨ f = .badMarkup p.text ∨ Log.Foreign f)
        (FileSystem.refused r) :=
    fun r => (refused_failsWith r).mono fun f hf => Or.inr (Or.inr hf)
  unfold FileSystem.readYaml
  refine (hrefused _).bind fun there _ => ?_
  split
  · exact .throw (Or.inl rfl)
  · refine (hrefused _).bind fun content _ => ?_
    split
    · exact .throw (Or.inr (Or.inr ⟨_, rfl⟩))
    · split
      · exact .pure _
      · exact .throw (Or.inr (Or.inl rfl))
      · exact .throw (Or.inr (Or.inr ⟨_, rfl⟩))

/-- A text that is no YAML is told apart from a file that cannot be read. -/
theorem readYaml_of_malformed {fs : FileSystem} {p : FilePath} {halves : Halves}
    {content : List UInt8} {s : String} (hthere : fs.exists? p = .ok true)
    (hread : fs.read p = .ok content)
    (htext : String.fromUTF8? ⟨content.toArray⟩ = some s)
    (hmalformed : Yaml.read s halves = .error .malformed) :
    fs.readYaml p halves = .error (.badMarkup p.text) := by
  have hexists : FileSystem.refused (fs.exists? p) = .ok true := by
    rw [hthere]
    rfl
  have hcontent : FileSystem.refused (fs.read p) = .ok content := by
    rw [hread]
    rfl
  rw [FileSystem.readYaml, hexists, ok_bind, if_neg (by decide), hcontent]
  simp only [ok_bind, htext, hmalformed]
  rfl

/-! ### Building -/

/-- Settings fail as invalid, or a number in them is too large. -/
theorem Settings.build_rejects (v : Value) :
    FailsWith (fun f => f.kind = .settings ∨ f = .outside .tooLarge) (build v) :=
  (fault_of_build v).mono fun _ hf => hf.imp_right And.left

/-- Descriptions fail as invalid, or a number in them is too large. -/
theorem Description.build_rejects (v : Value) (b : Bool) :
    FailsWith (fun f => f.kind = .settings ∨ f = .outside .tooLarge) (build v b).1 := by
  cases v with
  | map fields mark =>
    rw [build_map]
    exact (buildEntries_failsWith fields mark b).mapError fun f hf => hf.nameFault.imp_right And.left
  | _ => exact .error (Or.inl rfl)

/-! ### Loading -/

section

variable {α : Type} {fs : FileSystem} {p : FilePath} {halves : Halves}
  {build : Value → Except Fault α} {f : Fault}

/-- What is built from the value of a file; a file that holds nothing is a fault of its own. -/
def buildFile (fs : FileSystem) (p : FilePath) (halves : Halves) (empty : Fault)
    (build : Value → Except Fault α) : Except Fault α :=
  match fs.readYaml p halves with
  | .error f => .error f
  | .ok .null => .error empty
  | .ok v => build v

theorem Unusable.not_named (h : Unusable fs p halves build f) : ¬f.Named := by
  cases h with
  | @unread cause _ hcause =>
    rintro (h | h)
    · cases cause <;> cases h
    · exact hcause h
  | noMarkup => rintro (h | h) <;> cases h
  | tooLarge => rintro (h | h) <;> cases h

/-- The faults of a file that are not named are those of a file that nothing can be made of. -/
theorem buildFile_eq_error_iff {empty : Fault} (hempty : empty.kind = .settings)
    (hbuild : ∀ v, FailsWith (fun f => f.kind = .settings ∨ f = .outside .tooLarge) (build v)) :
    (buildFile fs p halves empty build = .error f ∧ ¬f.Named) ↔ Unusable fs p halves build f := by
  unfold buildFile
  constructor
  · rintro ⟨h, hnamed⟩
    split at h
    · next g hread =>
      obtain rfl := Except.error.inj h
      rcases readYaml_failsWith fs p halves g hread with rfl | rfl | ⟨cause, rfl⟩
      · exact absurd (Or.inr rfl) hnamed
      · exact .noMarkup hread
      · exact .unread hread fun hkind => hnamed (Or.inr hkind)
    · obtain rfl := Except.error.inj h
      exact absurd (Or.inl hempty) hnamed
    · next v hfilled hread =>
      rcases hbuild v f h with hkind | rfl
      · exact absurd (Or.inl hkind) hnamed
      · exact .tooLarge hread (fun hnull => hfilled hnull) h
  · intro h
    refine ⟨?_, h.not_named⟩
    cases h with
    | unread hread => simp only [hread]
    | noMarkup hread => simp only [hread]
    | @tooLarge v hread hfilled hbuilt =>
      rw [hread]
      cases v with
      | null => exact absurd rfl hfilled
      | _ => exact hbuilt

end

theorem readYaml_of_exists_error {fs : FileSystem} {p : FilePath} {cause : Outside}
    (h : fs.exists? p = .error cause) (halves : Halves) :
    fs.readYaml p halves = .error (.outside cause) := by
  simp only [FileSystem.readYaml, h]
  rfl

theorem readYaml_of_missing {fs : FileSystem} {p : FilePath} (h : fs.exists? p = .ok false)
    (halves : Halves) : fs.readYaml p halves = .error (.missingMarkup p.text) := by
  simp only [FileSystem.readYaml, h]
  rfl

/-- The settings of a file that is there. -/
theorem Settings.load_of_exists {fs : FileSystem} {p : FilePath} (h : fs.exists? p = .ok true)
    (halves : Halves) : (load fs (some p) halves).1 =
      (buildFile fs p halves (.emptySettings p.text) fun v => build v).map Prod.fst := by
  simp only [load, buildFile, h, FileSystem.refused, Except.mapError]
  generalize fs.readYaml p halves = r
  cases r with
  | error f => rfl
  | ok v =>
    cases v with
    | map entries mark =>
      dsimp only
      cases build (.map entries mark) <;> rfl
    | _ => rfl

/-- When loading settings fails, the fault is named, or nothing can be made of their file. -/
theorem Settings.load_eq_error_iff {fs : FileSystem} {path : Option FilePath} {halves : Halves}
    {f : Fault} : ((load fs path halves).1 = .error f ∧ ¬f.Named) ↔
      ∃ p, path = some p ∧ Unusable fs p halves (fun v => build v) f := by
  cases path with
  | none => exact iff_of_false (fun h => absurd h.1 (by simp [load])) (by simp)
  | some p =>
    have hbuild : (buildFile fs p halves (.emptySettings p.text) (fun v => build v) = .error f ∧
        ¬f.Named) ↔ Unusable fs p halves (fun v => build v) f :=
      buildFile_eq_error_iff rfl build_rejects
    simp only [Option.some.injEq, exists_eq_left', ← hbuild]
    refine and_congr_left fun hnamed => ?_
    cases hthere : fs.exists? p with
    | error cause =>
      simp only [load, buildFile, hthere, readYaml_of_exists_error hthere, FileSystem.refused,
        Except.mapError, Except.error.injEq]
    | ok there =>
      cases there with
      | false =>
        simp only [load, buildFile, hthere, readYaml_of_missing hthere, FileSystem.refused,
          Except.mapError]
        refine iff_of_false (fun h => hnamed ?_) fun h => hnamed ?_
        · exact Or.inr (Except.error.inj h ▸ rfl)
        · exact Or.inr (Except.error.inj h ▸ rfl)
      | true => rw [load_of_exists hthere, map_eq_error_iff]

/-- When loading a description fails, the fault is named, or nothing can be made of its file. -/
theorem Description.readFile_eq_error_iff {fs : FileSystem} {p : FilePath} {b : Bool}
    {halves : Halves} {f : Fault} : ((readFile fs p b halves).1 = .error f ∧ ¬f.Named) ↔
      Unusable fs p halves (fun v => (build v b).1) f := by
  have hread : (readFile fs p b halves).1 =
      buildFile fs p halves (.emptyDescription p.text) fun v => (build v b).1 := by
    unfold readFile buildFile
    generalize fs.readYaml p halves = r
    cases r with
    | error f => rfl
    | ok v => cases v <;> rfl
  rw [hread, buildFile_eq_error_iff rfl fun v => build_rejects v b]

end PlotPage
