import ScriptGrader.CommandLine.Run
import ScriptGrader.Proofs.Grader.Outputs
import ScriptGrader.Proofs.Grader.SetupFailure

/-!
# What the status of a run tells

A run that comes to a status has a result, or it has stopped at one of four
things that it is prepared for. Each of these bounds what the run has done
by then: setting up only looks at files, and grading takes reports away
before it reads anything. The error of the system that a run is prepared for
is one of taking reports away, or of a current directory that is gone; the
line that is noted tells of reports either way.
-/

namespace ScriptGrader

open Work (Keeps FailsOnly)
open Configuration (CurrentDirectory)

namespace Grader

variable {cwd : CurrentDirectory} {options : Options} {connection : Connection}

/-- **Setting up** a grader only takes notes. -/
theorem keeps_setUp : Keeps OnlyNoted (setUp cwd options connection) := by
  have hnoted := Outside.isFrame_onlyNoted
  have hgiven : ∀ {α : Type} (r : Except SetupError α), Keeps OnlyNoted (Work.given r) := fun r =>
    Work.keeps_given hnoted r
  have hnote : ∀ lines, Keeps OnlyNoted (Work.note lines : Work SetupError Unit) := fun lines =>
    Work.keeps_note hnoted lines
  have hconfiguration : Keeps OnlyNoted (configuration cwd options.configuration) := by
    rw [configuration]
    split
    · exact Keeps.bind hnoted (hgiven _) fun base => hgiven (.ok _)
    · refine Keeps.bind hnoted (hgiven _) fun path => Keeps.bind hnoted (Work.keeps_files hnoted) fun fs => ?_
      exact Keeps.bind hnoted (hgiven _) fun c => Keeps.bind hnoted (hnote _) fun _ => hgiven (.ok _)
  rw [setUp]
  refine Keeps.bind hnoted hconfiguration fun found => ?_
  rcases found with ⟨c, base⟩
  simp only
  split
  · exact hgiven (.error _)
  refine Keeps.bind hnoted (hnote _) fun _ => Keeps.bind hnoted (hgiven _) fun submission => ?_
  refine Keeps.bind hnoted (hgiven _) fun sourceType => Keeps.bind hnoted (hgiven _) fun customData => ?_
  refine Keeps.bind hnoted (hnote _) fun _ => Keeps.bind hnoted (hgiven _) fun rubric => ?_
  refine Keeps.bind hnoted (hnote _) fun _ => Keeps.bind hnoted (hgiven _) fun reports => ?_
  refine Keeps.bind hnoted (hgiven _) fun publishing => ?_
  split
  · exact Keeps.bind hnoted (hnote _) fun _ => Keeps.bind hnoted (hgiven _) fun publisher => hgiven (.ok _)
  · exact Keeps.bind hnoted (hgiven _) fun publisher => hgiven (.ok _)

/-- An error that tells of the current directory is the one that asking for it comes to. -/
def TellsOfDirectory (cwd : CurrentDirectory) (e : SetupError) : Prop := ∀ d, e = .noDirectory d → cwd = .error d

theorem failsOnly_of_sparesDirectory {α : Type} {r : Except SetupError α} (h : SparesDirectory r) :
    FailsOnly (TellsOfDirectory cwd) (Work.given r) := by
  refine Work.failsOnly_given ?_
  rintro e rfl d rfl
  exact absurd rfl (h d)

theorem failsOnly_asked? (s : String) :
    FailsOnly (TellsOfDirectory cwd) (Work.given (Configuration.asked? cwd s)) :=
  Work.failsOnly_given fun _ he _ hd => Configuration.eq_error_of_asked? (hd ▸ he)

theorem failsOnly_configuration (name : String) : FailsOnly (TellsOfDirectory cwd) (configuration cwd name) := by
  have hdone : ∀ x : Configuration × Path, FailsOnly (TellsOfDirectory cwd) (pure x : Work SetupError _) := fun x =>
    failsOnly_of_sparesDirectory (sparesDirectory_ok x)
  rw [configuration]
  split
  · refine FailsOnly.bind (Work.failsOnly_given ?_) fun base => hdone _
    rintro e he d rfl
    obtain ⟨d', hd', hd⟩ := Except.mapError_eq_error_iff.1 he
    cases hd
    exact hd'
  · refine FailsOnly.bind (failsOnly_asked? _) fun path => FailsOnly.bind (Work.failsOnly_files _) fun fs => ?_
    refine FailsOnly.bind (failsOnly_of_sparesDirectory Configuration.sparesDirectory_load?) fun c => ?_
    exact FailsOnly.bind (Work.failsOnly_note _ _) fun _ => hdone _

/-- **The error of the current directory** comes of asking for it. -/
theorem failsOnly_setUp : FailsOnly (TellsOfDirectory cwd) (setUp cwd options connection) := by
  have hspares : ∀ {α : Type} {r : Except SetupError α}, SparesDirectory r →
      FailsOnly (TellsOfDirectory cwd) (Work.given r) := failsOnly_of_sparesDirectory
  have hnote : ∀ lines, FailsOnly (TellsOfDirectory cwd) (Work.note lines : Work SetupError Unit) :=
    Work.failsOnly_note _
  rw [setUp]
  refine FailsOnly.bind (failsOnly_configuration _) fun found => ?_
  rcases found with ⟨c, base⟩
  simp only
  split
  · exact hspares (r := .error .tooManyDigits) (by rintro d ⟨⟩)
  refine FailsOnly.bind (hnote _) fun _ => FailsOnly.bind ?_ fun submission => ?_
  · split
    · exact hspares Configuration.sparesDirectory_path?
    · exact failsOnly_asked? _
  refine FailsOnly.bind (hspares (sparesDirectory_of_not_strays Configuration.not_strays_sourceType?)) fun sourceType => ?_
  refine FailsOnly.bind (hspares Configuration.sparesDirectory_customData?) fun customData => ?_
  refine FailsOnly.bind (hnote _) fun _ => ?_
  refine FailsOnly.bind (hspares (sparesDirectory_of_not_strays Configuration.not_strays_rubric)) fun rubric => ?_
  refine FailsOnly.bind (hnote _) fun _ => ?_
  refine FailsOnly.bind (hspares Configuration.sparesDirectory_reports?) fun reports => ?_
  refine FailsOnly.bind (hspares (sparesDirectory_of_not_strays Configuration.not_strays_publishing?)) fun publishing => ?_
  have hlast : FailsOnly (TellsOfDirectory cwd) (Work.given (publishing.publisher? connection)) :=
    hspares Configuration.sparesDirectory_publisher?
  split
  · exact FailsOnly.bind (hnote _) fun _ => FailsOnly.bind hlast fun publisher => hspares (sparesDirectory_ok _)
  · exact FailsOnly.bind hlast fun publisher => hspares (sparesDirectory_ok _)

end Grader

namespace CommandLine

variable {cwd : CurrentDirectory} {connection : Connection} {a : Arguments} {o o' : Outside} {status : Nat}
  {g : Grader}

/-- What is outside when a run sets its grader up. -/
def begun (a : Arguments) (o : Outside) : Outside := { o with log := o.log ++ [a.levelLine, welcomeLine] }

/-- **A run**, by what becomes of setting up and grading. -/
theorem on_run (cwd : CurrentDirectory) (connection : Connection) (a : Arguments) (o : Outside) :
    Work.on o (run cwd connection a) =
      match Work.on (begun a o) (gradeOnce cwd connection a) with
      | (.ok _, o₁) => (.ok 0, o₁)
      | (.error e, o₁) => Work.on o₁ (recover e) := by
  rw [run, Work.on_bind_ok (Work.on_note _ _), Work.on_tryCatch, begun]
  rcases hrun : Work.on { o with log := o.log ++ [a.levelLine, welcomeLine] } (gradeOnce cwd connection a) with
    ⟨e | b, o₁⟩
  · rw [Work.on_bind_error hrun]
  · rw [Work.on_bind_ok hrun]
    rfl

/-- A run that goes on to a status in spite of an error was prepared for it. -/
theorem recover_eq_ok {e : RunError} (h : Work.on o (recover e) = (.ok status, o')) :
    status = 1 ∧ OnlyNoted o o' ∧ e.line?.isSome = true := by
  rw [recover] at h
  split at h
  · next line hline =>
    rw [Work.on_bind_ok (Work.on_note _ _)] at h
    cases h
    exact ⟨rfl, .note o _, by rw [hline]; rfl⟩
  · cases h

/-- What a grading has done when it fails over its submission or a report. -/
theorem bounds_of_grade_error {o₁ o₂ : Outside} {e : GradeError} (hg : g.IsSettled)
    (h : Work.on o₁ g.grade = (.error e, o₂)) (hline : (RunError.grade e).line?.isSome = true) :
    o₂.sent = o₁.sent ∧
    ((∃ s, e = .submission s ∧ o₁.files.Emptied o₂.files g.reportPaths ∧
        ∀ p ∈ g.reportPaths, o₂.files.isFile? p = .ok false) ∨
      ∃ f p before rest, e = .report f p ∧
        (Work.on o₁ (clean .grader g.reportPaths)).1 = .error (.fault f p) ∧
        g.reportPaths = before ++ p :: rest ∧ o₁.files.Emptied o₂.files before) := by
  rcases Grader.on_grade_of_error hg h with ⟨f, hfault, rfl, hcleared⟩ | ⟨hfault, hassessment, hcleared⟩ |
    ⟨b, o₃, hdeliver⟩
  · refine ⟨hcleared.sent, .inr ?_⟩
    obtain ⟨p, rest, hpaths, hp⟩ := Files.exists_eq_append_of_firstFault? hfault
    obtain ⟨f, rfl⟩ := Files.exists_fault_of_fault? hp
    obtain ⟨deleted, o₃, hclean, -⟩ := on_clean hg.flat_reports .grader o₁
    refine ⟨f, p, _, rest, rfl, ?_, hpaths, hcleared.files⟩
    rw [hclean, hfault]
    rfl
  · have hemptied := hcleared.emptied hfault
    refine ⟨hcleared.sent, .inl ?_⟩
    cases e with
    | submission s =>
      refine ⟨s, rfl, hemptied, fun p hp => hemptied.isFile?_eq_false hg.flat_reports hp ?_⟩
      exact Files.isFile?_of_fault? (Files.fault?_eq_none_of_mem hfault hp)
    | report f p => exact absurd rfl (Grader.ne_report_of_assessment hassessment f p)
    | _ => cases hline
  · -- a sink or a sum is nothing that a run is prepared for
    rcases Grader.failsOnly_deliver g b o₃ e o₂ hdeliver with ⟨s, rfl⟩ | ⟨c, rfl⟩
    · cases hline
    · cases hline

/-- A command line that asks for a submission which is not there. -/
def absentSubmission : Arguments := ⟨⟨"c", "none", "id"⟩, false⟩

/-- What is tested of a run that stops at its submission, once its grader is set up. -/
def stopsAtSubmission : Except SetupError Grader × Outside → Bool
  | (.ok g, o) => decide (g.reportPaths = [⟨true, ["w", "f"]⟩, ⟨true, ["w", "x"]⟩]) &&
    match (Work.on o g.grade).1 with
    | .error (.submission _) => true
    | _ => false
  | (.error _, _) => false

/-- It has such a grader, and comes to the status one. -/
theorem exists_run_of_stopsAtSubmission
    (h : stopsAtSubmission (Work.on (begun a o) (Grader.setUp cwd a.options connection)) = true) :
    ∃ g o₁ s o₂ o', Work.on (begun a o) (Grader.setUp cwd a.options connection) = (.ok g, o₁) ∧
      g.reportPaths = [⟨true, ["w", "f"]⟩, ⟨true, ["w", "x"]⟩] ∧
      Work.on o₁ g.grade = (.error (.submission s), o₂) ∧ Work.on o (run cwd connection a) = (.ok 1, o') := by
  rcases hsetUp : Work.on (begun a o) (Grader.setUp cwd a.options connection) with ⟨e | g, o₁⟩
  · rw [hsetUp] at h
    cases h
  · rw [hsetUp, stopsAtSubmission, Bool.and_eq_true, decide_eq_true_iff] at h
    obtain ⟨hpaths, hgraded⟩ := h
    rcases hgrade : Work.on o₁ g.grade with ⟨e | b, o₂⟩
    · rw [hgrade] at hgraded
      cases e with
      | submission s =>
        obtain ⟨o', hrun⟩ : ∃ o', Work.on o (run cwd connection a) = (.ok 1, o') := by
          rw [on_run, gradeOnce, Work.on_bind, Work.on_failingWith, hsetUp]
          simp only [Work.on_failingWith, hgrade]
          exact ⟨_, rfl⟩
        exact ⟨g, o₁, s, o₂, o', rfl, hpaths, hgrade, hrun⟩
      | _ => cases hgraded
    · rw [hgrade] at hgraded
      cases hgraded

/-- The error of the system that a run has come to, if it is one. -/
def RunError.system? : RunError → Option SystemError
  | .setup (.noDirectory e) => some e
  | .grade (.report f _) => some f.error
  | _ => none

end CommandLine
end ScriptGrader
