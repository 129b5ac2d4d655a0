import PlotPage.Document.Writing
import PlotPage.Proofs.Files.AtomicWrite

/-!
# Writing the script of a page

A page is compiled before anything is written, and what it compiles to replaces the script as a
whole.  So a script is never cut short, and a page that does not compile leaves the old one.
-/

namespace PlotPage

open FileSystem AtomicWrite

theorem encodeNamed_utf8 (text : String) :
    Encoding.encodeNamed "utf-8" text = .ok text.toUTF8.toList := by
  have hname : Encoding.ofName? "utf-8" = some .utf8 := by decide
  unfold Encoding.encodeNamed
  rw [hname]
  rfl

/-- What writing a script does to the file at the target. -/
structure ScriptWrite.Keeps (w : ScriptWrite) (fs : FileSystem) (target : FilePath)
    (compiled : Except Fault String) : Prop where
  /-- A page that does not compile changes nothing at all. -/
  uncompiled : ∀ f, compiled = .error f → w.result = .error f ∧ w.files = fs
  written : ∀ r, w.result = .ok r → r = target ∧
    ∃ script, compiled = .ok script ∧ w.files.read target = .ok script.toUTF8.toList
  /-- After a fault the target holds what it held. -/
  refused : ∀ f, w.result = .error f → ∀ content, fs.read target = .ok content →
    w.files.read target = .ok content
  /-- After a fault nothing else stands at the target either, but for a directory on the way. -/
  left : ∀ f, w.result = .error f → ∀ q, w.files.place target = .ok q →
    w.files.node? q = fs.node? q ∨
      (fs.node? q = none ∧ w.files.node? q = some .directory ∧ ".." ∈ target.parts)

namespace WriteTrace

variable {t : WriteTrace} {fs : FileSystem} {target : FilePath} {data : List UInt8} {f : Fault}

theorem Replaces.final_mem (h : t.Replaces fs target data) : t.final ∈ t.states :=
  List.mem_of_getLast? h.last

theorem Replaces.first_mem (h : t.Replaces fs target data) : fs ∈ t.states :=
  List.mem_of_mem_head? h.first

/-- A write that failed leaves the target as it was, but for a directory on the way. -/
theorem Replaces.left (h : t.Replaces fs target data) (hf : t.result = .error f) {q : Place}
    (hq : t.final.place target = .ok q) : t.final.node? q = fs.node? q ∨
      (fs.node? q = none ∧ t.final.node? q = some .directory ∧ ".." ∈ target.parts) := by
  rcases h.whole q hq with hwhole | ⟨hoccupied, hup⟩
  · exact Or.inl (hwhole.refused f hf)
  · rcases hoccupied.states t.final h.final_mem with hnone | hdir
    · exact Or.inl (hnone.trans hoccupied.before.symm)
    · exact Or.inr ⟨hoccupied.before, hdir, hup⟩

theorem Replaces.refused (h : t.Replaces fs target data) (hf : t.result = .error f)
    {content : List UInt8} (hread : fs.read target = .ok content) :
    t.final.read target = .ok content := by
  rw [read_eq_ok_iff] at hread ⊢
  obtain ⟨q, hq, hcontent⟩ := hread
  have hq' := h.settled fs h.first_mem q hq
  refine ⟨q, hq', ?_⟩
  rcases h.left hf hq' with hsame | ⟨hnone, _⟩
  · exact hsame.trans hcontent
  · rw [hnone] at hcontent
    cases hcontent

end WriteTrace

theorem writeScript_keeps (trouble : Trouble) (fs : FileSystem) (p : Page) (path : String)
    (t : Terminal) :
    (p.writeScript fs path t trouble).Keeps fs (FilePath.read path) (p.compile t).1 := by
  unfold Page.writeScript
  rcases p.compile t with ⟨compiled, notices⟩
  cases compiled with
  | error f =>
    refine ⟨fun f' hf' => ?_, nofun, fun _ _ _ h => h, fun _ _ _ _ => Or.inl rfl⟩
    obtain rfl := Except.error.inj hf'
    exact ⟨rfl, rfl⟩
  | ok script =>
    have hreplaces := run_replaces trouble fs (FilePath.read path) script.toUTF8.toList
    simp only [writeText, encodeNamed_utf8, writeBytes]
    generalize run trouble fs (FilePath.read path) script.toUTF8.toList defaultSuffix = w
      at hreplaces
    cases hresult : w.result with
    | error f =>
      refine ⟨nofun, nofun, fun _ _ content hread => ?_, fun _ _ q hq => ?_⟩
      · exact hreplaces.refused hresult hread
      · exact hreplaces.left hresult hq
    | ok =>
      refine ⟨nofun, fun r hr => ?_, nofun, nofun⟩
      exact ⟨(Except.ok.inj hr).symm, script, rfl, hreplaces.written hresult⟩

/-- The target of an atomic write is whole at every step of the write, whatever the device
refuses: it holds the old content or the new one, and after a fault the old one.  The one exception
is a target that nothing stood at and that its own path passes on the way upwards; it may become a
directory, and then the write fails.  The script of a page is written so as a whole or not at all,
and a page that does not compile or a text that cannot be encoded changes nothing. -/
theorem target_whole (trouble : Trouble) (fs : FileSystem) :
    (∀ target data, (run trouble fs target data defaultSuffix).Replaces fs target data) ∧
    (∀ target text encoding f, Encoding.encodeNamed encoding text = .error f →
      fs.writeText target text encoding trouble = (.error f, fs)) ∧
    (∀ (p : Page) path t, (p.writeScript fs path t trouble).Keeps fs (FilePath.read path)
      (p.compile t).1) := by
  refine ⟨run_replaces trouble fs, ?_, writeScript_keeps trouble fs⟩
  intro target text encoding f hf
  unfold writeText
  rw [hf]

/-- A missing target that lies on its own way becomes a directory, although the write fails. -/
theorem target_made_directory :
    let target : FilePath := FilePath.read "a/../a"
    let t := run .never FileSystem.empty target [0] defaultSuffix
    let q := ["tmp", "work", "a"]
    t.final.place target = .ok q ∧ FileSystem.empty.node? q = none ∧
      t.final.node? q = some .directory ∧
        t.result = .error (.writeFailed "a/../a" .directoryInTheWay) := by
  refine ⟨?_, ?_, ?_, ?_⟩ <;> rfl

end PlotPage
