import Mathlib.Algebra.Order.BigOperators.Group.List
import ScriptGrader.Proofs.Grading.Answer
import ScriptGrader.Proofs.Grading.Total

/-!
# Points of a grading

Where every check of a rubric is worth a whole number of points, its
bundle tells three times how the submission did: by the points that were
earned, by the status of each record, and by whether it is accepted. The
three agree (`PointsAgree`), since a record earned all of its points if it
was passed and none otherwise, and no check is worth nothing.
-/

namespace ScriptGrader

/-- What an entry is worth, as an integer. -/
def Entry.points (e : Entry) : Int := e.maxScore.integer?.getD 0

/-- The scores of all entries are integers. -/
def Rubric.IsWhole (r : Rubric) : Prop := ∀ e ∈ r.entries, ∃ n : Int, e.maxScore = .whole n

namespace Entry

variable {e : Entry}

theorem maxScore_eq_points (h : ∃ n : Int, e.maxScore = .whole n) : e.maxScore = .whole e.points := by
  obtain ⟨n, hn⟩ := h
  rw [points, hn]
  rfl

theorem points_pos (h : ∃ n : Int, e.maxScore = .whole n) : 0 < e.points := by
  have hpos := e.maxScore_pos
  rw [maxScore_eq_points h] at hpos
  simpa [Score.atMostZero] using hpos

theorem ne_nan_of_whole (h : ∃ n : Int, e.maxScore = .whole n) : e.maxScore ≠ .binary .nan := by
  obtain ⟨n, hn⟩ := h
  rw [hn]
  nofun

end Entry

/-- The points of the entries that a bundle records as passed. -/
def Rubric.pointsPassed (r : Rubric) (b : Bundle) : Int :=
  (((r.entries.zip b.records).filter (·.2.status = .pass)).map (·.1.points)).sum

/-- **What a bundle of a rubric with whole scores tells**: its records are
those of the rubric's entries, and what they earned together, what they
could have earned, and whether they are accepted fits their status. -/
structure PointsAgree (r : Rubric) (b : Bundle) : Prop where
  carries : List.Forall₂ (fun e record => record.Carries e) r.entries b.records
  totalScore_eq : b.totalScore = .ok (.whole (r.pointsPassed b))
  maxScore_eq : b.maxScore = .ok (.whole (r.entries.map Entry.points).sum)
  nonneg : 0 ≤ r.pointsPassed b
  le : r.pointsPassed b ≤ (r.entries.map Entry.points).sum
  eq_iff : r.pointsPassed b = (r.entries.map Entry.points).sum ↔ ∀ record ∈ b.records, record.status = .pass
  accepted_iff : b.accepted = true ↔ ∀ q ∈ r.entries.zip b.records, q.1.mandatory = true → q.2.status = .pass
  accepted_iff_eq : (∀ e ∈ r.entries, e.mandatory = true) →
    (b.accepted = true ↔ r.pointsPassed b = (r.entries.map Entry.points).sum)

namespace Grading

variable {base : String} {p : Program} {r : Rubric} {metadata : String} {e : Entry}

/-- The full score for a pass, and zero otherwise. -/
theorem earnedScore_record (hvalue : e.maxScore ≠ .binary .nan) :
    (record e p).earnedScore = if (record e p).status = .pass then e.maxScore else .whole 0 := by
  have hfails {text : String} (h : (record e p).FailsWith text) :
      (record e p).earnedScore =
        if (record e p).status = .pass then e.maxScore else .whole 0 := by
    rw [h.earned, h.status, if_neg nofun]
  rcases record_cases hvalue with ⟨-, -, h⟩ | ⟨_, -, -, -, h⟩ | ⟨-, -, h⟩
  · rw [h.earned, if_pos h.status]
  · exact hfails h
  · exact hfails h

/-! ## Points of a record, and their sums -/

/-- The points that an entry is given for a program. -/
def earnedPoints (p : Program) (e : Entry) : Int :=
  if (record e p).status = .pass then e.points else 0

theorem earnedScore_eq_points (h : ∃ n : Int, e.maxScore = .whole n) :
    (record e p).earnedScore = .whole (earnedPoints p e) := by
  rw [earnedScore_record (Entry.ne_nan_of_whole h), Entry.maxScore_eq_points h, earnedPoints]
  split <;> rfl

theorem earnedScores_eq (h : r.IsWhole) :
    (r.entries.map fun e => (record e p).earnedScore) =
      (r.entries.map (earnedPoints p)).map .whole := by
  rw [List.map_map]
  exact List.map_congr_left fun e he => earnedScore_eq_points (h e he)

theorem totalScore_bundleOf (h : r.IsWhole) :
    (bundleOf base p r metadata).totalScore =
      .ok (.whole (r.entries.map (earnedPoints p)).sum) := by
  rw [Bundle.totalScore, earnedScores_bundleOf, earnedScores_eq h, Score.total_whole]

theorem maxScores_eq (h : r.IsWhole) :
    r.entries.map Entry.maxScore = (r.entries.map Entry.points).map .whole := by
  rw [List.map_map]
  exact List.map_congr_left fun e he => Entry.maxScore_eq_points (h e he)

theorem maxScore_bundleOf (h : r.IsWhole) :
    (bundleOf base p r metadata).maxScore = .ok (.whole (r.entries.map Entry.points).sum) := by
  rw [Bundle.maxScore, maxScores_bundleOf, maxScores_eq h, Score.total_whole]

/-- Points are given up to what an entry is worth. -/
theorem earnedPoints_bounds (h : r.IsWhole) (p : Program) (he : e ∈ r.entries) :
    0 ≤ earnedPoints p e ∧ earnedPoints p e ≤ e.points := by
  have hpos := Entry.points_pos (h e he)
  unfold earnedPoints
  split <;> omega

theorem earnedPoints_le (h : r.IsWhole) (p : Program) :
    0 ≤ (r.entries.map (earnedPoints p)).sum ∧
      (r.entries.map (earnedPoints p)).sum ≤ (r.entries.map Entry.points).sum := by
  refine ⟨List.sum_nonneg fun x hx => ?_, List.sum_le_sum fun e he => (earnedPoints_bounds h p he).2⟩
  obtain ⟨e, he, rfl⟩ := List.mem_map.1 hx
  exact (earnedPoints_bounds h p he).1

/-- Whether a grading with integer scores that is not interrupted yields its
bundle is decided by its rubric alone. -/
theorem exists_run_eq_ok_iff_points (h : r.IsWhole) :
    (∃ b, (run base p r metadata).2 = .ok b) ↔
      r.IsTold p ∧ (r.entries.map Entry.points).sum.natAbs < Value.unwritten := by
  rw [exists_run_eq_ok_iff, earnedScores_eq h, maxScores_eq h, Score.hasTotal_whole_iff,
    Score.hasTotal_whole_iff]
  refine and_congr_right fun _ => ?_
  -- what is earned is at most what can be earned, so its sum is no longer
  have hle := earnedPoints_le h p
  omega

/-! ## What the bundle tells -/

/-- Everything is earned exactly if everything is passed, since nothing is worth nothing. -/
theorem sum_earnedPoints_eq_iff (h : r.IsWhole) :
    (r.entries.map (earnedPoints p)).sum = (r.entries.map Entry.points).sum ↔
      ∀ e ∈ r.entries, (record e p).status = .pass := by
  constructor
  · intro heq e he
    by_contra hfail
    refine (List.sum_lt_sum _ _ (fun e he => (earnedPoints_bounds h p he).2) ⟨e, he, ?_⟩).ne heq
    rw [earnedPoints, if_neg hfail]
    exact Entry.points_pos (h e he)
  · intro hpass
    rw [List.map_congr_left fun e he => by rw [earnedPoints, if_pos (hpass e he)]]

/-- The entries of a rubric beside their records. -/
theorem zip_records_bundleOf :
    r.entries.zip (bundleOf base p r metadata).records = r.entries.map fun e => (e, record e p) := by
  rw [records_bundleOf, ← List.zip_map', List.map_id']

theorem pointsPassed_bundleOf :
    r.pointsPassed (bundleOf base p r metadata) = (r.entries.map (earnedPoints p)).sum := by
  have hsplit := List.sum_map_ite (fun e => (record e p).status = .pass) Entry.points (fun _ => 0) r.entries
  rw [List.map_const', List.sum_replicate, nsmul_zero, add_zero] at hsplit
  rw [Rubric.pointsPassed, zip_records_bundleOf, List.filter_map, List.map_map]
  exact hsplit.symm

/-- A bundle is accepted if each mandatory entry of its rubric was passed. -/
theorem accepted_bundleOf_iff :
    (bundleOf base p r metadata).accepted = true ↔
      ∀ e ∈ r.entries, e.mandatory = true → (record e p).status = .pass := by
  rw [Bundle.accepted, records_bundleOf]
  simp [(carries_record _ p).mandatory, Record.passed]

theorem pointsAgree_bundleOf (h : r.IsWhole) : PointsAgree r (bundleOf base p r metadata) where
  carries := by
    rw [records_bundleOf, List.forall₂_map_right_iff, List.forall₂_same]
    exact fun e _ => carries_record e p
  totalScore_eq := by rw [pointsPassed_bundleOf, totalScore_bundleOf h]
  maxScore_eq := maxScore_bundleOf h
  nonneg := by
    rw [pointsPassed_bundleOf]
    exact (earnedPoints_le h p).1
  le := by
    rw [pointsPassed_bundleOf]
    exact (earnedPoints_le h p).2
  eq_iff := by
    rw [pointsPassed_bundleOf, sum_earnedPoints_eq_iff h, records_bundleOf, List.forall_mem_map]
  accepted_iff := by
    rw [accepted_bundleOf_iff, zip_records_bundleOf, List.forall_mem_map]
  accepted_iff_eq := by
    intro hmandatory
    rw [accepted_bundleOf_iff, pointsPassed_bundleOf, sum_earnedPoints_eq_iff h]
    exact forall₂_congr fun e he => forall_prop_of_true (hmandatory e he)

/-- **Whole points agree.** In every grading of a rubric whose checks are
worth whole points, whatever they do, the bundle has earned the points of
the entries that are recorded as passed: no less than nothing, no more than
all, and all exactly if every record is passed. It is accepted exactly if
every mandatory entry is recorded as passed, so where all are mandatory, if
it has earned all. The grading yields its bundle unless the error of a check
cannot be told, or all points together have too many digits to be written. -/
theorem whole_points_agree (base : String) (p : Program) (r : Rubric) (metadata : String) (hwhole : r.IsWhole) :
    ((∃ b, (run base p r metadata).2 = .ok b) ↔
        r.IsTold p ∧ (r.entries.map Entry.points).sum.natAbs < Value.unwritten) ∧
      ∀ b, (run base p r metadata).2 = .ok b → PointsAgree r b := by
  refine ⟨exists_run_eq_ok_iff_points hwhole, fun b h => ?_⟩
  obtain rfl := eq_bundleOf_of_run h
  exact pointsAgree_bundleOf hwhole

/-- An entry that is worth three points. -/
def threePoints (name : String) (slug_ne : Rubric.slug name ≠ "") (mandatory : Bool) (result : Evaluation) : Entry :=
  { halfPoint name slug_ne result with mandatory := mandatory, maxScore := .whole 3, maxScore_pos := rfl }

/-- A mandatory check that every program passes, and two others: one that
raises, and one that contradicts itself. -/
def leniencyRubric : Rubric where
  entries :=
    [threePoints "Crashes" (by decide) false (.raised (.told "ValueError" "no")),
     threePoints "Succeeds" (by decide) true (.outcome .success),
     threePoints "Disagrees" (by decide) false (.unchecked (.bool true) [.text "no"])]
  nodup := by decide

theorem leniency_points_agree :
    ∃ b, (run "base" ⟨[]⟩ leniencyRubric "").2 = .ok b ∧ b.totalScore = .ok (.whole 3) ∧
      b.maxScore = .ok (.whole 9) ∧ b.accepted = true := by
  have hwhole : leniencyRubric.IsWhole := by
    simp [Rubric.IsWhole, leniencyRubric, threePoints]
  obtain ⟨hreturns, hagree⟩ := whole_points_agree "base" ⟨[]⟩ leniencyRubric "" hwhole
  have hpoints : (leniencyRubric.entries.map Entry.points).sum = 9 := rfl
  have hshort : (leniencyRubric.entries.map Entry.points).sum.natAbs < Value.unwritten :=
    Score.natAbs_lt_unwritten (by rw [hpoints]; unfold Binary64.Fits; decide +kernel)
  have htold : leniencyRubric.IsTold ⟨[]⟩ := findSome?_interruption?_eq_none_iff.1 (by decide +kernel)
  obtain ⟨b, hb⟩ := hreturns.2 ⟨htold, hshort⟩
  have hall := hagree b hb
  obtain rfl := eq_bundleOf_of_run hb
  have hpassed : leniencyRubric.pointsPassed (bundleOf "base" ⟨[]⟩ leniencyRubric "") = 3 := by decide +kernel
  refine ⟨_, hb, ?_, ?_, hall.accepted_iff.2 (by decide +kernel)⟩
  · rw [hall.totalScore_eq, hpassed]
  · rw [hall.maxScore_eq, hpoints]

end Grading
end ScriptGrader
