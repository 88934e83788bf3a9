import ScriptGrader.Report.Score

/-!
# Result records

The graded result of one check. A record tells one story in three ways:
its status is Pass exactly when it earned its full score, and exactly when
it has no feedback; and it earned nothing or everything. `Record.make?`
refuses everything else and says which of the three does not fit.
-/

namespace ScriptGrader

/-- The part of the report that a check belongs to. -/
inductive Category
  | functional
  | boundary
  | exception
  deriving DecidableEq, Repr, Inhabited

namespace Category

def all : List Category := [functional, boundary, exception]

def name : Category → String
  | functional => "functional"
  | boundary => "boundary"
  | exception => "exception"

def ofName? (s : String) : Option Category := all.find? (·.name = s)

/-- The literal form of a category. -/
def literal (c : Category) : String := s!"<Category.{c.name.toUpper}: '{c.name}'>"

end Category

/-- Whether a check was passed. -/
inductive Status
  | pass
  | fail
  deriving DecidableEq, Repr, Inhabited

namespace Status

def name : Status → String
  | pass => "Pass"
  | fail => "Fail"

def ofName? (s : String) : Option Status := [pass, fail].find? (·.name = s)

/-- The literal form of a status. -/
def literal (s : Status) : String := s!"<Status.{s.name.toUpper}: '{s.name}'>"

end Status

/-- What a check earned: the very score it could reach, or points counted
apart. The difference shows only for a score without a value, which is
itself and yet equal to nothing. -/
inductive Earned
  | full
  | points (s : Score)
  deriving DecidableEq, Repr

namespace Earned

def score (max : Score) : Earned → Score
  | full => max
  | points s => s

/-- Nothing or everything. -/
def isAllOrNothing (max : Score) : Earned → Bool
  | full => true
  | points s => s.isZero || s.same max

end Earned

/-- The graded result of one check. -/
structure Record where
  checkName : String
  category : Category
  maxScore : Score
  earned : Earned
  status : Status
  mandatory : Bool
  feedback : String
  earned_allowed : earned.isAllOrNothing maxScore = true
  status_eq : decide (status = .pass) = (earned.score maxScore).same maxScore
  feedback_eq : decide (status = .pass) = decide (feedback = "")
  deriving DecidableEq

/-- Why a record is refused. -/
inductive RecordError
  | earned (name : String) (max earned : Score)
  | status (name : String)
  | feedback (name : String)
  deriving DecidableEq, Repr

namespace RecordError

def message : RecordError → String
  | .earned name max given =>
    s!"Earned score for '{name}' must be 0 or {max.text}, got {given.text}"
  | .status name => s!"Status of '{name}' does not match its score"
  | .feedback name => s!"Feedback of '{name}' does not match its status"

end RecordError

namespace Record

/-- The record of given parts, if they tell one story. -/
def make? (checkName : String) (category : Category) (maxScore : Score) (earned : Earned)
    (status : Status) (mandatory : Bool) (feedback : String) : Except RecordError Record :=
  if h₁ : earned.isAllOrNothing maxScore = true then
    if h₂ : decide (status = .pass) = (earned.score maxScore).same maxScore then
      if h₃ : decide (status = .pass) = decide (feedback = "") then
        .ok ⟨checkName, category, maxScore, earned, status, mandatory, feedback, h₁, h₂, h₃⟩
      else .error (.feedback checkName)
    else .error (.status checkName)
  else .error (.earned checkName maxScore (earned.score maxScore))

def passed (r : Record) : Bool := r.status = .pass

def earnedScore (r : Record) : Score := r.earned.score r.maxScore

/-- Equality of what the records say; scores are compared as numbers. -/
def same (a b : Record) : Bool :=
  a.checkName = b.checkName && a.category = b.category && a.maxScore.same b.maxScore &&
    a.earnedScore.same b.earnedScore && a.status = b.status && a.mandatory = b.mandatory &&
    a.feedback = b.feedback

/-- The literal form of a record. -/
def literal (r : Record) : String :=
  s!"ResultRecord(check_name={Text.quoted r.checkName}, category={r.category.literal}, " ++
  s!"max_score={r.maxScore.text}, earned_score={r.earnedScore.text}, " ++
  s!"status={r.status.literal}, mandatory={(Value.bool r.mandatory).literal}, " ++
  s!"feedback={Text.quoted r.feedback})"

end Record
end ScriptGrader
