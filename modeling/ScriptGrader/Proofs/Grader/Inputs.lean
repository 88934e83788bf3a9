import ScriptGrader.Proofs.Grader.Outputs

/-!
# What becomes of the inputs

A grading reads a submission and data that is passed on, and its grader was
set up from a configuration. Nothing in it writes to these files, but a
report that goes to the place of one of them takes it away. Everything else
stays, however the grading ends.
-/

namespace ScriptGrader.Grader

open Configuration (CurrentDirectory)

variable {g : Grader} {before after : Outside} {cwd : CurrentDirectory} {p : Path} {options : Options}
  {connection : Connection}

/-- The files that a grader and its gradings read. -/
inductive IsInput (cwd : CurrentDirectory) (options : Options) (g : Grader) : Path → Prop
  | submission : IsInput cwd options g g.submission
  | customData {p : Path} (h : g.customData = some p) : IsInput cwd options g p
  | configuration {p : Path} (hname : options.configuration ≠ "")
      (h : Configuration.asked? cwd options.configuration = .ok p) : IsInput cwd options g p

theorem IsInput.isResolved (h : IsInput cwd options g p) (hcwd : CurrentDirectory.IsSound cwd)
    (hg : g.IsSettled) : p.IsResolved := by
  cases h with
  | submission => exact hg.submission
  | customData h => exact hg.customData p h
  | configuration _ h => exact Configuration.isResolved_of_asked? hcwd h

/-- **A grading keeps its inputs**: the submission, the data that is passed
on and the configuration hold what they held before, unless a report goes
to the same path. -/
theorem inputs_kept (hcwd : CurrentDirectory.IsSound cwd)
    (hsetUp : Work.on before (setUp cwd options connection) = (.ok g, after))
    (hinput : IsInput cwd options g p) (hreports : p ∉ g.reportPaths) (o : Outside) (bytes : List UInt8) :
    (Work.on o g.grade).2.files.read? p = .ok bytes ↔ o.files.read? p = .ok bytes := by
  have hg := isSettled_of_setUp hcwd hsetUp
  have hchanged : Files.DifferAt g.reportPaths o.files (Work.on o g.grade).2.files := keeps_grade hg o
  exact hchanged.read?_eq_ok_iff hg.isResolved_reports (hinput.isResolved hcwd hg) hreports

theorem full_inputs_kept : ∃ g after,
    Work.on fullOutside (setUp (.ok ⟨true, ["w"]⟩) ⟨"c", "s", "id"⟩ .own) = (.ok g, after) ∧
    (Work.on fullOutside g.grade).2.files.read? ⟨true, ["w", "s"]⟩ = .ok (Text.encode "function f(){}") ∧
    ∃ bytes, fullOutside.files.read? ⟨true, ["w", "c"]⟩ = .ok bytes ∧
      (Work.on fullOutside g.grade).2.files.read? ⟨true, ["w", "c"]⟩ = .ok bytes := by
  obtain ⟨g, after, hsetUp, -, hfull⟩ := exists_full
  have hapart : ⟨true, ["w", "s"]⟩ ∉ g.reportPaths := hfull.submission ▸ hfull.apart.submission
  have hapart' : ⟨true, ["w", "c"]⟩ ∉ g.reportPaths := by
    rw [reportPaths, hfull.reports]
    decide
  have hcwd : CurrentDirectory.IsSound (.ok ⟨true, ["w"]⟩) := Configuration.CurrentDirectory.isSound_ok (by decide)
  refine ⟨g, after, hsetUp, ?_, _, rfl, ?_⟩
  · exact (inputs_kept hcwd hsetUp (hfull.submission ▸ .submission) hapart fullOutside _).2 rfl
  · exact (inputs_kept hcwd hsetUp (.configuration (by decide) rfl) hapart' fullOutside _).2 rfl

/-- A report that goes to the place of the submission. -/
def overlappingOutside : Outside := sampleOutside "reports:\n functional: s\n" []

/-- What is tested of a run that takes its submission away. -/
def losesSubmission (g : Grader) : Bool :=
  decide (g.submission = ⟨true, ["w", "s"]⟩) &&
    !((Work.on overlappingOutside g.grade).2.files.read? ⟨true, ["w", "s"]⟩).isOk

/-- **A report may go to the path of an input**, and then the input is lost. -/
theorem not_forall_inputs_kept : ¬ ∀ (cwd : CurrentDirectory) (options : Options) (connection : Connection)
    (before after o : Outside) (g : Grader) (p : Path) (bytes : List UInt8), CurrentDirectory.IsSound cwd →
    Work.on before (setUp cwd options connection) = (.ok g, after) → IsInput cwd options g p →
    o.files.read? p = .ok bytes → (Work.on o g.grade).2.files.read? p = .ok bytes := by
  intro hall
  obtain ⟨g, after, hsetUp, -, htest⟩ := @exists_setUp_of_sample overlappingOutside losesSubmission (by decide +kernel)
  simp only [losesSubmission, Bool.and_eq_true, decide_eq_true_eq, Bool.not_eq_true'] at htest
  obtain ⟨hsubmission, hlost⟩ := htest
  have hkept := hall _ _ _ _ _ overlappingOutside g ⟨true, ["w", "s"]⟩ (Text.encode "function f(){}")
    (Configuration.CurrentDirectory.isSound_ok (by decide)) hsetUp (hsubmission ▸ .submission) rfl
  rw [hkept] at hlost
  cases hlost

end ScriptGrader.Grader
