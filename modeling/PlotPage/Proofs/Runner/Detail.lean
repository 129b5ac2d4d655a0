import PlotPage.Proofs.Result
import PlotPage.Proofs.Text.Lines
import PlotPage.Runner.Basic

/-!
# The line that a fault quotes

The fault of a program that has exited with an error quotes one line of what the program wrote, or
says that there was none.  The line is the last one of the trimmed errors.  That there is such a
line whenever the trimmed errors are not empty, and that it shows something, rests on every line
break being a blank (`Text.lineChars_trimChars`).
-/

namespace PlotPage.Runner

open Text

variable {errors : String}

theorem trimChars_of_isBlankLine {cs : List Char} (h : IsBlankLine cs) : trimChars cs = [] := by
  rw [trimChars, dropEndWhile_eq_nil_iff]
  exact fun c hc => h c ((List.dropWhile_sublist isBlank).subset hc)

/-- There is no line to quote when the errors are blank. -/
theorem lastLine_of_isBlankText (h : isBlankText errors = true) :
    lastLine errors.toList = none := by
  rw [lastLine, trimChars_of_isBlankLine (isBlankText_iff.mp h)]
  rfl

/-- There is a line to quote when they are not. -/
theorem exists_lastLine (h : isBlankText errors = false) :
    ∃ line, lastLine errors.toList = some line ∧ Quotes errors.toList line :=
  lineChars_trimChars (mt isBlankText_iff.mpr (ne_true_of_eq_false h))

theorem errorDetail_of_lastLine {line : List Char} (h : lastLine errors.toList = some line) :
    errorDetail errors = String.ofList line := by
  rw [errorDetail, h]

theorem errorDetail_of_isBlankText (h : isBlankText errors = true) :
    errorDetail errors = "no error output" := by
  rw [errorDetail, lastLine_of_isBlankText h]

/-- **A fault of the program quotes the last line of its errors that shows something.**  Whatever
the program wrote, a failed exit has its fault.  The words for a lack of errors stand in the place
of a line exactly when the errors are blank; otherwise they are read there only if the program wrote
them itself.  What stands there is always one line that shows something. -/
theorem errorDetail_quotes (errors : String) :
    (lastLine errors.toList = none ↔ isBlankText errors = true) ∧
    (isBlankText errors = true → errorDetail errors = "no error output") ∧
    (isBlankText errors = false → lastLine errors.toList = some (errorDetail errors).toList ∧
      Quotes errors.toList (errorDetail errors).toList) ∧
    (errorDetail errors = "no error output" ↔ isBlankText errors = true ∨
      lastLine errors.toList = some "no error output".toList) ∧
    isBlankText (errorDetail errors) = false ∧
    (∀ c ∈ (errorDetail errors).toList, isLineBreak c = false) ∧
    ∀ (r : Runner) (script : String) (status : Int) (output : Option String), status ≠ 0 →
      ∃ f, (r.run script (.exited status output (some errors))).result = .error f ∧
        f = .programFailed status errors (errorDetail errors) ∧
        f.message? = some
          ("gnuplot exited with status " ++ toString status ++ ": " ++ errorDetail errors) := by
  have hrun : ∀ (r : Runner) (script : String) (status : Int) (output : Option String),
      status ≠ 0 → ∃ f, (r.run script (.exited status output (some errors))).result = .error f ∧
        f = .programFailed status errors (errorDetail errors) ∧
        f.message? = some
          ("gnuplot exited with status " ++ toString status ++ ": " ++ errorDetail errors) := by
    intro r script status output hstatus
    refine ⟨.programFailed status errors (errorDetail errors), ?_, rfl, rfl⟩
    simp only [run, conclude, if_pos hstatus, Option.getD_some]
  cases hblank : isBlankText errors with
  | true =>
    have hone : "no error output".toList.all (fun c => !isLineBreak c) = true := by decide +kernel
    rw [errorDetail_of_isBlankText hblank] at hrun ⊢
    refine ⟨iff_of_true (lastLine_of_isBlankText hblank) rfl, fun _ => rfl, nofun,
      iff_of_true rfl (Or.inl rfl), by decide, fun c hc => ?_, hrun⟩
    rw [← Bool.not_eq_true']
    exact List.all_eq_true.mp hone c hc
  | false =>
    obtain ⟨line, hline, hquotes⟩ := exists_lastLine hblank
    have hdetail := errorDetail_of_lastLine hline
    have hlist : (errorDetail errors).toList = line := by rw [hdetail, String.toList_ofList]
    obtain ⟨hshown, hone⟩ := hquotes.isLine
    refine ⟨iff_of_false (by rw [hline]; simp) (by simp), nofun, fun _ => ?_, ?_, ?_, ?_, hrun⟩
    · rw [hlist]
      exact ⟨hline, hquotes⟩
    · rw [hline, Option.some.injEq, ← hlist, String.toList_inj, or_iff_right (by simp)]
    · rw [Bool.eq_false_iff, ne_eq, isBlankText_iff, hlist]
      exact hshown
    · rw [hlist]
      exact hone

/-- A warning, an indented error and a form feed: the error is quoted without the blanks after it.
-/
theorem errorDetail_quotes_form_feed :
    let errors := "warning: empty x range\n  line 3: undefined function \x0c\u2028 \t"
    errorDetail errors = "  line 3: undefined function" ∧
      Quotes errors.toList (errorDetail errors).toList ∧
      ∃ f, ((⟨"gnuplot", .int 30⟩ : Runner).run "quit\n" (.exited 1 none (some errors))).result =
        .error f ∧ f.message? = some
          "gnuplot exited with status 1:   line 3: undefined function" := by
  intro errors
  obtain ⟨-, -, hquotes, -, -, -, hrun⟩ := errorDetail_quotes errors
  have hdetail : errorDetail errors = "  line 3: undefined function" := by decide +kernel
  obtain ⟨f, hresult, -, hmessage⟩ :=
    hrun ⟨"gnuplot", .int 30⟩ "quit\n" 1 none (by decide)
  refine ⟨hdetail, (hquotes (by decide +kernel)).2, f, hresult, ?_⟩
  rw [hmessage, hdetail]
  decide +kernel

end PlotPage.Runner
