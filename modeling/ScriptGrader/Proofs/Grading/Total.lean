import ScriptGrader.Proofs.Grading.Bundle
import ScriptGrader.Proofs.Report.Total

/-!
# Gradings that yield a bundle

A check that misbehaves does not make a grading fail, as long as its error
can be told. The line that sums the grading up can: it adds up what was
earned and what could have been earned. A grading yields its bundle exactly
when it is not interrupted and both sums have a value and a text.
-/

namespace ScriptGrader

namespace Grading

variable {base : String} {p : Program} {r : Rubric} {metadata : String}

/-- Whatever is made of the texts of the two sums of a bundle, it is there
exactly when both sums can be added up and written. -/
theorem exists_ofTotals_eq_ok_iff {α : Type} {b : Bundle} (f : String → String → α) :
    (∃ a, (do
        let total ← (← b.totalScore).text?
        let max ← (← b.maxScore).text?
        return f total max) = Except.ok a) ↔
      Score.HasTotal (b.records.map Record.earnedScore) ∧
        Score.HasTotal (b.records.map Record.maxScore) := by
  rw [← Score.exists_totalText_eq_ok_iff, ← Score.exists_totalText_eq_ok_iff, ← Bundle.totalScore,
    ← Bundle.maxScore]
  rcases b.totalScore with e | total
  · simp [bind, Except.bind]
  rcases htext : total.text? with e | text
  · simp [htext, bind, Except.bind]
  rcases b.maxScore with e | max
  · simp [htext, bind, Except.bind]
  rcases hmax : max.text? with e | maxText
  · simp [htext, hmax, bind, Except.bind]
  · simp [htext, hmax, bind, Except.bind, pure, Except.pure]

theorem exists_summaryLine_eq_ok_iff {b : Bundle} :
    (∃ line, summaryLine base b = .ok line) ↔
      Score.HasTotal (b.records.map Record.earnedScore) ∧
        Score.HasTotal (b.records.map Record.maxScore) :=
  exists_ofTotals_eq_ok_iff _

/-- What the records could have earned is what the entries are worth. -/
theorem maxScores_bundleOf :
    (bundleOf base p r metadata).records.map Record.maxScore = r.entries.map Entry.maxScore := by
  rw [records_bundleOf, List.map_map]
  exact List.map_congr_left fun e _ => (carries_record e p).maxScore

theorem earnedScores_bundleOf :
    (bundleOf base p r metadata).records.map Record.earnedScore =
      r.entries.map fun e => (record e p).earnedScore := by
  rw [records_bundleOf, List.map_map]
  rfl

/-- The bundle depends on the errors that cannot be told, on the two sums and on nothing else. -/
theorem exists_run_eq_ok_iff :
    (∃ b, (run base p r metadata).2 = .ok b) ↔
      r.IsTold p ∧ Score.HasTotal (r.entries.map fun e => (record e p).earnedScore) ∧
        Score.HasTotal (r.entries.map Entry.maxScore) := by
  rw [run_snd_eq, ← maxScores_bundleOf, ← earnedScores_bundleOf, ← exists_summaryLine_eq_ok_iff,
    ← findSome?_interruption?_eq_none_iff]
  cases r.entries.findSome? (interruption? · p) with
  | some f => simp
  | none => cases summaryLine base (bundleOf base p r metadata) <;> simp

/-- **The scores of a bundle that a grading yields** are not too long to be
written, since their sums are not. -/
theorem isWritable_of_run {b : Bundle} (h : (run base p r metadata).2 = .ok b) {x : Record}
    (hx : x ∈ b.records) :
    x.maxScore.toValue.isWritable = true ∧ x.earnedScore.toValue.isWritable = true := by
  have htotal := (exists_run_eq_ok_iff.1 ⟨b, h⟩).2.2
  obtain rfl := eq_bundleOf_of_run h
  rw [records_bundleOf] at hx
  obtain ⟨e, he, rfl⟩ := List.mem_map.1 hx
  have hpos : ∀ s ∈ r.entries.map Entry.maxScore, s.atMostZero = false := by
    intro s hs
    obtain ⟨f, -, rfl⟩ := List.mem_map.1 hs
    exact f.maxScore_pos
  obtain ⟨hcarries, hearned⟩ := record_fields e p
  have hmax : (record e p).maxScore.toValue.isWritable = true := by
    rw [hcarries.maxScore]
    exact htotal.isWritable_of_mem hpos (List.mem_map_of_mem he)
  refine ⟨hmax, ?_⟩
  rcases hearned with hfull | hzero
  · rwa [Record.earnedScore, hfull, Earned.score]
  · rw [Record.earnedScore, hzero, Earned.score]
    simpa using Nat.pos_of_ne_zero Value.unwritten_ne_zero

/-- A grading fails only over its sums, or over an error that cannot be told. -/
theorem score_or_telling_of_run_eq_error {e : GradingError}
    (h : (run base p r metadata).2 = .error e) :
    (∃ cause, e = .score cause) ∨
      ∃ entry ∈ r.entries, ∃ kind f, (entry.evaluate p).result = .raised (.untold kind f) ∧ e = .telling f := by
  rw [run_snd_eq] at h
  split at h
  · next f hf =>
    obtain ⟨entry, hentry, hinterruption⟩ := List.exists_of_findSome?_eq_some hf
    obtain ⟨kind, hraised⟩ := interruption?_eq_some_iff.1 hinterruption
    exact .inr ⟨entry, hentry, kind, f, hraised, (Except.error.inj h).symm⟩
  · split at h
    · next cause _ => exact .inl ⟨cause, (Except.error.inj h).symm⟩
    · cases h

/-- **When a grading yields its bundle.** Whatever the checks do, it does
so exactly when each error of a check can be told, and the earned scores and
the greatest scores can both be added up and written. Otherwise it fails over
one of the two sums, or with the error that came of telling a check's error. -/
theorem run_returns_iff (base : String) (p : Program) (r : Rubric) (metadata : String) :
    ((∃ b, (run base p r metadata).2 = .ok b) ↔
      r.IsTold p ∧ Score.HasTotal (r.entries.map fun e => (record e p).earnedScore) ∧
        Score.HasTotal (r.entries.map Entry.maxScore)) ∧
      ∀ e, (run base p r metadata).2 = .error e → (∃ cause, e = .score cause) ∨
        ∃ entry ∈ r.entries, ∃ kind f,
          (entry.evaluate p).result = .raised (.untold kind f) ∧ e = .telling f :=
  ⟨exists_run_eq_ok_iff, fun _ => score_or_telling_of_run_eq_error⟩

/-- A rubric of two checks that every program passes: one is worth an
integer that no double is near, the other half a point. -/
def mixedRubric : Rubric where
  entries :=
    [{ name := "C0", family := "ScriptedCheck", category := .functional
       evaluate := fun _ => ⟨[], .outcome .success⟩, mandatory := true
       maxScore := .whole (10 ^ 400), slug_ne := by decide, maxScore_pos := by decide +kernel },
     halfPoint "C1" (by decide) (.outcome .success)]
  nodup := by decide

/-- Not every grading yields a bundle. -/
theorem not_forall_run_returns :
    ¬ ∀ base p r metadata, base ≠ "" → ∃ b, (run base p r metadata).2 = .ok b := by
  intro h
  -- the integer comes first, so it would have to become a double
  have hmax := (exists_run_eq_ok_iff.1 (h "base" ⟨[]⟩ mixedRubric "" (by decide))).2.2
  have hfits := hmax.leading_fits (by decide)
  revert hfits
  unfold Binary64.Fits
  decide +kernel

end Grading
end ScriptGrader
