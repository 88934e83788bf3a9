import ScriptGrader.Proofs.Grading.Bundle

/-!
# Verdicts of gradings

A rubric accepts every score that is not at most zero, and a score without
a value is not. Such a score cannot be earned: nothing is equal to it. It
is the only score that stands between a successful check and its verdict,
and the only one that makes a check look broken which is not.
-/

namespace ScriptGrader

/-- A record of a passed check: the full score, and nothing to say. -/
structure Record.IsFull (r : Record) : Prop where
  passed : r.status = .pass
  full : r.earnedScore.same r.maxScore = true
  silent : r.feedback = ""

/-- A check counts as broken although it behaves: it claims a score that
has no value. -/
def Evaluation.ClaimsNoValue (ev : Evaluation) (s : Score) : Prop :=
  ev.claimsPass = true ∧ s = .binary .nan

namespace Grading

variable {e : Entry} {p : Program}

theorem record_eq_of_judge {r : Record} (h : judge e (e.evaluate p).result = .ok r) :
    record e p = r := by
  unfold record
  rw [h]

theorem record_eq_broken {f : Fault} (h : judge e (e.evaluate p).result = .error f) :
    record e p = brokenRecord e := by
  unfold record
  rw [h]

/-- **When a check counts as broken.** -/
theorem exists_judge_eq_error_iff {ev : Evaluation} :
    (∃ f, judge e ev = .error f) ↔ ev.Misbehaves ∨ ev.ClaimsNoValue e.maxScore := by
  have hswap : (∃ f, judge e ev = .error f) ↔ ¬ ∃ r, judge e ev = .ok r := by
    cases judge e ev <;> simp
  rw [hswap, exists_judge_eq_ok_iff, Evaluation.ClaimsNoValue]
  tauto

/-- What a check that succeeds is answered with. -/
theorem answered_of_success {r : Record} (h : judge e (.outcome .success) = .ok r) :
    r.status = .pass ∧ r.earned = .full ∧ r.feedback = "" := by
  obtain ⟨-, -, -, hearned, hstatus, -, hfeedback⟩ := Record.eq_of_make?_eq_ok (close_eq_ok_iff.1 h)
  exact ⟨hstatus, hearned, hfeedback⟩

/-- **The verdict on success.** A check that succeeds is recorded so
exactly when its score has a value. -/
theorem isFull_record_iff (h : (e.evaluate p).result = .outcome .success) :
    (record e p).IsFull ↔ e.maxScore ≠ .binary .nan := by
  have hbehaves : ¬ (Evaluation.outcome .success).Misbehaves := by
    rintro ⟨⟩
  have hok := @exists_judge_eq_ok_iff e (.outcome .success)
  cases hj : judge e (.outcome .success) with
  | ok r =>
    have hvalue := (hok.1 ⟨r, hj⟩).2 rfl
    obtain ⟨hstatus, -, hfeedback⟩ := answered_of_success hj
    rw [record_eq_of_judge (h ▸ hj)]
    have hsame : r.earnedScore.same r.maxScore = true := by
      rw [Record.earnedScore, ← r.status_eq, hstatus]
      rfl
    exact iff_of_true ⟨hstatus, hsame, hfeedback⟩ hvalue
  | error f =>
    -- the record of a broken check is never full, so the score must be to blame
    have hno : ¬ ∃ r, judge e (.outcome .success) = .ok r := by simp [hj]
    rw [hok] at hno
    have hfail : ¬ (brokenRecord e).IsFull := by
      rintro ⟨hpass, -, -⟩
      cases hpass
    rw [record_eq_broken (h ▸ hj)]
    exact iff_of_false hfail fun hvalue => hno ⟨hbehaves, fun _ => hvalue⟩

/-- A check that counts as broken gets the record of a broken check. -/
theorem exists_broken_iff :
    (∃ f, judge e (e.evaluate p).result = .error f ∧ record e p = brokenRecord e) ↔
      (e.evaluate p).result.Misbehaves ∨ (e.evaluate p).result.ClaimsNoValue e.maxScore := by
  rw [← exists_judge_eq_error_iff]
  exact exists_congr fun f => and_iff_left_of_imp record_eq_broken

/-- **What a rubric's scores decide.** The records of every rubric are
bundled. The record of a check that succeeded says so exactly when its
score has a value, and a check counts as broken exactly when it misbehaved
or claimed a score without a value. -/
theorem verdicts_of_bundle (base : String) (p : Program) (r : Rubric) (metadata : String) :
    ∃ b, bundle base p r metadata = .ok b ∧
      List.Forall₂ (fun e record =>
        ((e.evaluate p).result = .outcome .success →
          (record.IsFull ↔ e.maxScore ≠ .binary .nan)) ∧
        ((∃ f, judge e (e.evaluate p).result = .error f ∧ record = brokenRecord e) ↔
          (e.evaluate p).result.Misbehaves ∨ (e.evaluate p).result.ClaimsNoValue e.maxScore))
        r.entries b.records := by
  refine ⟨_, bundle_eq_ok, ?_⟩
  rw [records_bundleOf, List.forall₂_map_right_iff, List.forall₂_same]
  exact fun e _ => ⟨isFull_record_iff, exists_broken_iff⟩

/-- The first check of the catalog, worth a given score. -/
def functionDefined (s : Score) (h : s.atMostZero = false) : Entry where
  name := Catalog.functionDefinition.name
  family := Catalog.functionDefinition.family
  category := .functional
  evaluate := Catalog.functionDefinition.ask
  mandatory := true
  maxScore := s
  slug_ne := by decide
  maxScore_pos := h

/-- A rubric of this one check. -/
def functionRubric (s : Score) (h : s.atMostZero = false) : Rubric where
  entries := [functionDefined s h]
  nodup := by simp

/-- A program of one function. -/
def oneFunction : Program := ⟨[.function ⟨some "f", [], [], .declaration⟩]⟩

theorem verdict_of_functionDefined :
    ∃ b record, bundle "base" oneFunction (functionRubric (.whole 1) rfl) "" = .ok b ∧
      b.records = [record] ∧ record.IsFull := by
  obtain ⟨b, hb, h⟩ := verdicts_of_bundle "base" oneFunction (functionRubric (.whole 1) rfl) ""
  obtain ⟨record, rest, hrecord, hnil, heq⟩ := List.forall₂_cons_left_iff.1 h
  rw [List.forall₂_nil_left_iff.1 hnil] at heq
  exact ⟨b, record, hb, heq, (hrecord.1 rfl).2 nofun⟩

/-- Not every success is recorded. -/
theorem not_forall_success_passes :
    ¬ ∀ (r : Rubric) (p : Program), ∀ e ∈ r.entries,
      (e.evaluate p).result = .outcome .success → (record e p).status = .pass := by
  intro h
  have hstatus := h (functionRubric (.binary .nan) rfl) oneFunction _ List.mem_cons_self rfl
  revert hstatus
  decide

end Grading
end ScriptGrader
