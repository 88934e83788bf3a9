import Mathlib.Tactic.ByContra
import ScriptGrader.Grading.Basic

/-!
# Records of entries

A check may do anything, and its entry still gets a record: one that
carries what the entry says and tells one story. `record_fields` reads off
what grading builds, `exists_judge_eq_ok_iff` says when the evaluation
decides it, and `Evaluation.Misbehaves` is the rest. The one entry
that is refused although its check did nothing wrong is one whose score
has no value.
-/

namespace ScriptGrader

/-- A record that carries the data of an entry. -/
structure Record.Carries (r : Record) (e : Entry) : Prop where
  checkName : r.checkName = e.name
  category : r.category = e.category
  maxScore : r.maxScore = e.maxScore
  mandatory : r.mandatory = e.mandatory

/-- The three ways in which a record tells whether its check was passed,
and that it earned nothing or everything. -/
structure Record.TellsOneStory (r : Record) : Prop where
  pass_iff_score : r.status = .pass ↔ r.earnedScore.same r.maxScore = true
  pass_iff_feedback : r.status = .pass ↔ r.feedback = ""
  nothing_or_all : r.earnedScore = .whole 0 ∨ r.earnedScore = r.maxScore

namespace Record

variable {name : String} {category : Category} {maxScore : Score} {earned : Earned}
variable {status : Status} {mandatory : Bool} {feedback : String} {r : Record}

/-- What is built is what was asked for. -/
theorem eq_of_make?_eq_ok
    (h : make? name category maxScore earned status mandatory feedback = .ok r) :
    r.checkName = name ∧ r.category = category ∧ r.maxScore = maxScore ∧ r.earned = earned ∧
      r.status = status ∧ r.mandatory = mandatory ∧ r.feedback = feedback := by
  unfold make? at h
  split at h
  · split at h
    · split at h
      · cases h
        exact ⟨rfl, rfl, rfl, rfl, rfl, rfl, rfl⟩
      · cases h
    · cases h
  · cases h

/-- A record is built exactly when its parts tell one story. -/
theorem exists_make?_eq_ok_iff :
    (∃ r, make? name category maxScore earned status mandatory feedback = .ok r) ↔
      earned.isAllOrNothing maxScore = true ∧
        decide (status = .pass) = (earned.score maxScore).same maxScore ∧
        decide (status = .pass) = decide (feedback = "") := by
  unfold make?
  constructor
  · rintro ⟨r, h⟩
    split at h
    · next h₁ =>
      split at h
      · next h₂ =>
        split at h
        · next h₃ => exact ⟨h₁, h₂, h₃⟩
        · cases h
      · cases h
    · cases h
  · rintro ⟨h₁, h₂, h₃⟩
    rw [dif_pos h₁, dif_pos h₂, dif_pos h₃]
    exact ⟨_, rfl⟩

/-- A record tells one story as soon as it earned nothing or everything. -/
theorem tellsOneStory_of_earned (h : r.earned = .full ∨ r.earned = .points (.whole 0)) :
    r.TellsOneStory where
  pass_iff_score := by
    have := r.status_eq
    simp only [earnedScore]
    rw [← this]
    simp
  pass_iff_feedback := by
    have := r.feedback_eq
    simpa using this
  nothing_or_all := by
    rcases h with h | h
    · exact .inr (by rw [earnedScore, h, Earned.score])
    · exact .inl (by rw [earnedScore, h, Earned.score])

end Record

namespace Evaluation

/-- **Misbehaviour of a check.** It raises, it answers with something that
is no outcome, or it answers with an outcome that was never tested and
whose messages are no texts or do not go with its verdict. -/
inductive Misbehaves : Evaluation → Prop
  | raised (f : Fault) : Misbehaves (.raised f)
  | other (v : Value) : Misbehaves (.other v)
  | notTexts {passed : Value} {feedback : List Value} {f : Fault}
      (h : Grading.texts? 0 feedback = .error f) : Misbehaves (.unchecked passed feedback)
  | contradiction {passed : Value} {feedback : List Value} {ts : List String}
      (h : Grading.texts? 0 feedback = .ok ts)
      (hne : passed.isTrue ≠ decide (Grading.joined ts = "")) :
      Misbehaves (.unchecked passed feedback)

/-- The check says that it was passed. -/
def claimsPass : Evaluation → Bool
  | outcome o => o.passed.isTrue
  | unchecked passed _ => passed.isTrue
  | _ => false

end Evaluation

/-- A score is the same number as itself unless it has no value. -/
theorem Score.same_self_iff (s : Score) : s.same s = true ↔ s ≠ .binary .nan := by
  cases s with
  | flag b => simp [Score.same]
  | whole n => simp [Score.same]
  | binary x => simp [Score.same, Binary64.same_self_iff]

namespace Grading

variable {e : Entry} {p : Program}

/-! ## What is built -/

/-- What grading accepts carries the entry's data and earned nothing or
everything. -/
theorem carries_of_answered {passed : Bool} {feedback : String} {r : Record}
    (h : answered e passed feedback = .ok r) :
    r.Carries e ∧ (r.earned = .full ∨ r.earned = .points (.whole 0)) := by
  obtain ⟨hname, hcategory, hmax, hearned, -, hmandatory, -⟩ := Record.eq_of_make?_eq_ok h
  refine ⟨⟨hname, hcategory, hmax, hmandatory⟩, ?_⟩
  cases passed with
  | true => exact .inl hearned
  | false => exact .inr hearned

theorem close_eq_ok_iff {x : Except RecordError Record} {r : Record} :
    judge.close x = .ok r ↔ x = .ok r := by
  cases x <;> simp [judge.close]

theorem judge_unchecked_of_error {passed : Value} {feedback : List Value} {f : Fault}
    (h : texts? 0 feedback = .error f) : judge e (.unchecked passed feedback) = .error f := by
  simp only [judge, h]

theorem judge_unchecked_of_ok {passed : Value} {feedback : List Value} {ts : List String}
    (h : texts? 0 feedback = .ok ts) :
    judge e (.unchecked passed feedback) = judge.close (answered e passed.isTrue (joined ts)) := by
  simp only [judge, h]

/-- The two kinds of evaluation that can lead to a record of their own. -/
theorem answered_of_judge {ev : Evaluation} {r : Record} (h : judge e ev = .ok r) :
    ∃ passed feedback, answered e passed feedback = .ok r := by
  cases ev with
  | raised f => cases h
  | other v => cases h
  | outcome o => exact ⟨_, _, close_eq_ok_iff.1 h⟩
  | unchecked passed feedback =>
    cases ht : texts? 0 feedback with
    | error f => rw [judge_unchecked_of_error ht] at h; cases h
    | ok ts =>
      rw [judge_unchecked_of_ok ht] at h
      exact ⟨_, _, close_eq_ok_iff.1 h⟩

/-- The record of an entry, whatever its check does. -/
theorem record_fields (e : Entry) (p : Program) :
    (record e p).Carries e ∧
      ((record e p).earned = .full ∨ (record e p).earned = .points (.whole 0)) := by
  unfold record
  split
  · next r h =>
    obtain ⟨passed, feedback, hr⟩ := answered_of_judge h
    exact carries_of_answered hr
  · exact ⟨⟨rfl, rfl, rfl, rfl⟩, .inr rfl⟩

theorem carries_record (e : Entry) (p : Program) : (record e p).Carries e := (record_fields e p).1

theorem tellsOneStory_record (e : Entry) (p : Program) : (record e p).TellsOneStory :=
  Record.tellsOneStory_of_earned (record_fields e p).2

/-! ## What is accepted -/

/-- Messages with something in them join to something. -/
theorem joined_eq_empty_iff {messages : List String} (h : "" ∉ messages) :
    joined messages = "" ↔ messages = [] := by
  cases messages with
  | nil => simp [joined]
  | cons m ms =>
    have hm : m ≠ "" := fun he => h (by rw [he]; exact List.mem_cons_self)
    cases ms with
    | nil => simpa [joined] using hm
    | cons n ns => simp [joined, String.intercalate_cons_cons, hm]

/-- What an outcome that was tested says fits together. -/
theorem outcome_fits (o : Outcome) : o.passed.isTrue = decide (joined o.feedback = "") := by
  rw [o.feedback_eq, Bool.eq_iff_iff, decide_eq_true_iff, joined_eq_empty_iff o.empty_notMem,
    List.isEmpty_iff]

/-- An answer makes a record unless it contradicts itself, or claims a
score that has no value. -/
theorem exists_answered_eq_ok_iff {passed : Bool} {feedback : String} :
    (∃ r, answered e passed feedback = .ok r) ↔
      passed = decide (feedback = "") ∧ (passed = true → e.maxScore ≠ .binary .nan) := by
  unfold answered
  rw [Record.exists_make?_eq_ok_iff]
  cases passed with
  | true =>
    have hself := Score.same_self_iff e.maxScore
    rw [eq_comm] at hself
    simp [Earned.isAllOrNothing, Earned.score, hself, and_comm]
  | false =>
    -- nothing was earned, and nothing is not the full score, which is more than zero
    have hzero := zero_same_eq_false e.maxScore_pos
    have hsame : (Score.whole 0).same (.whole 0) = true := rfl
    simp [Earned.isAllOrNothing, Earned.score, Score.isZero, hzero, hsame]

/-- **An entry gets a record of its own** exactly when its check behaves
and does not claim a score that has no value. -/
theorem exists_judge_eq_ok_iff {ev : Evaluation} :
    (∃ r, judge e ev = .ok r) ↔
      ¬ ev.Misbehaves ∧ (ev.claimsPass = true → e.maxScore ≠ .binary .nan) := by
  cases ev with
  | raised f =>
    refine ⟨?_, fun h => absurd (.raised f) h.1⟩
    rintro ⟨r, h⟩
    cases h
  | other v =>
    refine ⟨?_, fun h => absurd (.other v) h.1⟩
    rintro ⟨r, h⟩
    cases h
  | outcome o =>
    have hbehaves : ¬ (Evaluation.outcome o).Misbehaves := nofun
    simp only [judge, close_eq_ok_iff, exists_answered_eq_ok_iff, Evaluation.claimsPass]
    exact ⟨fun h => ⟨hbehaves, h.2⟩, fun h => ⟨outcome_fits o, h.2⟩⟩
  | unchecked passed feedback =>
    cases ht : texts? 0 feedback with
    | error f =>
      rw [judge_unchecked_of_error ht]
      refine ⟨?_, fun h => absurd (.notTexts ht) h.1⟩
      rintro ⟨r, h⟩
      cases h
    | ok ts =>
      simp only [judge_unchecked_of_ok ht, close_eq_ok_iff, exists_answered_eq_ok_iff,
        Evaluation.claimsPass]
      -- the messages are texts, so a contradiction is all that is left
      refine and_congr_left fun _ => ⟨?_, fun h => ?_⟩
      · rintro hverdict (_ | _ | ⟨h⟩ | ⟨h, hne⟩)
        · rw [ht] at h; cases h
        · rw [ht] at h; cases h; exact hne hverdict
      · by_contra hne
        exact h (.contradiction ht hne)

end Grading
end ScriptGrader
