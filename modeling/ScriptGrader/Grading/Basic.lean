import ScriptGrader.Rubric.Basic
import ScriptGrader.Report.Bundle

/-!
# Grading

A submission is graded against a rubric entry by entry. What comes out of
a check is judged on its own: it passes, it fails with messages, or it is
broken, and a broken check costs its own points and nothing else. The
records are bundled under the keys of their checks.

There is one thing that a check can do to the others. What is noted about a
broken check shows its error, and where showing it is an error again, that
one ends the grading.
-/

namespace ScriptGrader

/-- Why a grading yields no bundle. -/
inductive GradingError
  /-- The base of the keys is missing. -/
  | noBase
  | bundle (e : BundleError)
  | score (e : ScoreError)
  /-- Showing the error of a check fails with this one. -/
  | telling (f : Fault)
  deriving DecidableEq, Repr

namespace GradingError

def message : GradingError → String
  | .noBase => "Base identifier is required"
  | .bundle e => e.message
  | .score e => e.message
  | .telling f => f.text

end GradingError

namespace Grading

/-- The texts of messages; the first one that is no text is named by its place. -/
def texts? (place : Nat) : List Value → Except Fault (List String)
  | [] => .ok []
  | .text s :: vs => (texts? (place + 1) vs).map (s :: ·)
  | v :: _ =>
    .error (.wrongType s!"sequence item {place}: expected str instance, {v.fullKind} found")

/-- Messages as one text. -/
def joined (messages : List String) : String := ", ".intercalate messages

/-- The record of a check that answered whether it passed, with one message. -/
def answered (e : Entry) (passed : Bool) (feedback : String) : Except RecordError Record :=
  Record.make? e.name e.category e.maxScore (if passed then .full else .points (.whole 0))
    (if passed then .pass else .fail) e.mandatory feedback

/-- The record that an evaluation leads to, or the fault it comes down to. -/
def judge (e : Entry) : Evaluation → Except Fault Record
  | .raised f => .error f
  | .other _ => .error (.wrongType s!"Check {e.name} did not return a CheckOutcome instance")
  | .outcome o => close (answered e o.passed.isTrue (joined o.feedback))
  | .unchecked passed feedback =>
    match texts? 0 feedback with
    | .error f => .error f
    | .ok ts => close (answered e passed.isTrue (joined ts))
where
  close : Except RecordError Record → Except Fault Record
    | .ok r => .ok r
    | .error err => .error (.told "ValueError" err.message)

/-- What the learner reads about a broken check. -/
def brokenFeedback (name : String) : String :=
  "Internal grading error occurred while running check '" ++ (name ++ "'.")

/-- A score that can be reached is not zero. -/
theorem zero_same_eq_false {s : Score} (h : s.atMostZero = false) :
    (Score.whole 0).same s = false := by
  cases s with
  | flag b => cases b <;> simp_all [Score.atMostZero, Score.same, Score.integer?]
  | whole n =>
    simp only [Score.atMostZero, decide_eq_false_iff_not] at h
    simp only [Score.same, Score.integer?, Option.some.injEq, decide_eq_false_iff_not]
    omega
  | binary x =>
    cases x with
    | finite v =>
      simp only [Score.atMostZero, Binary64.atMostZero, decide_eq_false_iff_not] at h
      simp only [Score.same, Score.integer?, Binary64.isInt, Binary64.rational?, Option.map_some,
        Option.getD_some, decide_eq_false_iff_not]
      intro hv
      exact h (by rw [hv]; exact Rat.le_refl)
    | nan => rfl
    | infinity s => rfl
    | zero s => simp [Score.atMostZero, Binary64.atMostZero] at h

theorem brokenFeedback_ne (name : String) : brokenFeedback name ≠ "" := by
  intro h
  unfold brokenFeedback at h
  have end_eq := (String.append_eq_empty_iff.1 (String.append_eq_empty_iff.1 h).2).2
  revert end_eq
  decide

/-- The record of a broken check. -/
def brokenRecord (e : Entry) : Record where
  checkName := e.name
  category := e.category
  maxScore := e.maxScore
  earned := .points (.whole 0)
  status := .fail
  mandatory := e.mandatory
  feedback := brokenFeedback e.name
  earned_allowed := by simp [Earned.isAllOrNothing, Score.isZero, Score.same]
  status_eq := by simp [Earned.score, zero_same_eq_false e.maxScore_pos]
  feedback_eq := by simp [brokenFeedback_ne]

/-- The record of an entry, as far as a record of it is built. -/
def record (e : Entry) (p : Program) : Record :=
  match judge e (e.evaluate p).result with
  | .ok r => r
  | .error _ => brokenRecord e

/-- The error that a grading ends with at an entry: that of telling what is wrong with its check. -/
def interruption? (e : Entry) (p : Program) : Option Fault :=
  match judge e (e.evaluate p).result with
  | .error (.untold _ telling) => some telling
  | _ => none

/-- The record that is built of an entry. -/
def record? (e : Entry) (p : Program) : Except Fault Record :=
  match interruption? e p with
  | some f => .error f
  | none => .ok (record e p)

/-- The line about a broken check. -/
def faultLine (e : Entry) (kind text : String) : LogLine :=
  .error .engine s!"Check '{e.name}' raised {kind}: {text}"

/-- The line about a finished check. -/
def resultLine (r : Record) : LogLine :=
  if r.passed then .info .engine s!"{r.checkName}: Pass"
  else .warning .engine s!"{r.checkName}: Fail ({r.feedback})"

/-- What is logged about what an evaluation came to. -/
def verdictLog (e : Entry) : Except Fault Record → List LogLine
  | .ok r => [resultLine r]
  | .error (.told kind text) => [faultLine e kind text, resultLine (brokenRecord e)]
  | .error (.untold _ _) => []

/-- What is logged while an entry is graded. -/
def entryLog (e : Entry) (p : Program) : List LogLine :=
  let run := e.evaluate p
  .debug .engine s!"Running check: '{e.name}'" :: run.notes.map (.debug .checks) ++
    verdictLog e (judge e run.result)

/-- Go through entries in order: what is logged, and the error that ends it early. -/
def course (p : Program) : List Entry → List LogLine × Option Fault
  | [] => ([], none)
  | e :: es =>
    match record? e p with
    | .error f => (entryLog e p, some f)
    | .ok _ =>
      let (log, f) := course p es
      (entryLog e p ++ log, f)

/-- The keyed record of an entry. -/
def item (base : String) (p : Program) (e : Entry) : String × Record :=
  (Rubric.resultKey base e.name, record e p)

/-- The bundle of a grading, before its scores are added up. -/
def bundle (base : String) (p : Program) (r : Rubric) (metadata : String) :
    Except BundleError Bundle :=
  Bundle.ofList? (r.entries.map (item base p)) metadata

/-- The line that sums up a grading. -/
def summaryLine (base : String) (b : Bundle) : Except ScoreError LogLine := do
  let total ← (← b.totalScore).text?
  let max ← (← b.maxScore).text?
  return .info .engine s!"Graded {b.size} checks for {base}: score {total}/{max}"

/-- **Grade a program.** The log, and the bundle unless an error cannot be
told or the scores cannot be added up. -/
def run (base : String) (p : Program) (r : Rubric) (metadata : String) :
    List LogLine × Except GradingError Bundle :=
  match course p r.entries with
  | (log, some f) => (log, .error (.telling f))
  | (log, none) =>
    match bundle base p r metadata with
    | .error e => (log, .error (.bundle e))
    | .ok b =>
      match summaryLine base b with
      | .error e => (log, .error (.score e))
      | .ok line => (log ++ [line], .ok b)

/-- The base of the keys: the text of any value that holds. -/
def base? (v : Value) : Except GradingError String :=
  if v.isTrue then .ok v.plain else .error .noBase

end Grading
end ScriptGrader
