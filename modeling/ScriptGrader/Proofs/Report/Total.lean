import Mathlib.Algebra.BigOperators.Group.List.Basic
import Mathlib.Algebra.Order.BigOperators.Group.List
import ScriptGrader.Proofs.Number.Overflow
import ScriptGrader.Report.Score

/-!
# Sums of scores

Scores are added from left to right, and a sum stays an integer until the
first double joins it. From there on everything has to become a double:
the integer that was summed up so far, and every later integer on its own.
`exists_totalText_eq_ok_iff` says which lists can be added up and written.
-/

namespace ScriptGrader

/-- The integer has a nearest double. -/
def Binary64.Fits (n : Int) : Prop := n.natAbs + 2 ^ 970 < 2 ^ 1024

theorem Binary64.ofInt?_eq_some_iff {n : Int} : (∃ x, ofInt? n = some x) ↔ Fits n := by
  rw [← Option.ne_none_iff_exists', Ne, ofInt?_eq_none_iff, Nat.not_le]
  rfl

theorem Value.unwritten_ne_zero : Value.unwritten ≠ 0 := by
  unfold Value.unwritten
  generalize Layout.digitLimit = n
  exact pow_ne_zero n (by decide)

namespace Score

open Binary64 (Fits)

/-- The score is no double. -/
def isInteger (s : Score) : Bool := s.integer?.isSome

/-- The sum of the integers before the first double. -/
def leadingSum (scores : List Score) : Int :=
  ((scores.takeWhile isInteger).filterMap integer?).sum

/-- The scores from the first double on. -/
def fromDouble (scores : List Score) : List Score := scores.dropWhile isInteger

/-- **Scores that can be added up and written.** Without a double among
them their sum has few enough digits. Otherwise the sum up to the first
double has a nearest double, and so has every integer behind it. -/
structure HasTotal (scores : List Score) : Prop where
  written : fromDouble scores = [] → (leadingSum scores).natAbs < Value.unwritten
  leading_fits : fromDouble scores ≠ [] → Fits (leadingSum scores)
  fits_behind : ∀ n, .whole n ∈ fromDouble scores → Fits n

theorem leadingSum_cons {s : Score} {n : Int} (h : s.integer? = some n) (l : List Score) :
    leadingSum (s :: l) = n + leadingSum l := by
  have hs : s.isInteger = true := by rw [isInteger, h]; rfl
  simp [leadingSum, hs, h]

theorem fromDouble_cons {s : Score} {n : Int} (h : s.integer? = some n) (l : List Score) :
    fromDouble (s :: l) = fromDouble l := by
  have hs : s.isInteger = true := by rw [isInteger, h]; rfl
  simp [fromDouble, hs]

@[simp]
theorem leadingSum_binary (x : Binary64) (l : List Score) : leadingSum (.binary x :: l) = 0 := rfl

@[simp]
theorem fromDouble_binary (x : Binary64) (l : List Score) :
    fromDouble (.binary x :: l) = .binary x :: l := rfl

/-! ## One addition -/

/-- Two integers are added exactly. -/
theorem add_integer {m n : Int} {s : Score} (h : s.integer? = some n) :
    (whole m).add s = .ok (whole (m + n)) := by
  have hm : (whole m).integer? = some m := rfl
  rw [add, hm, h]

/-- A double makes a double of what it joins. -/
theorem binary_add (x : Binary64) (s : Score) :
    (binary x).add s = s.binary?.map fun y => binary (x + y) := by
  have hadd : (binary x).add s = s.binary? >>= fun y => .ok (binary (x + y)) := by cases s <;> rfl
  rw [hadd]
  cases s.binary? <;> rfl

theorem add_binary (m : Int) (x : Binary64) :
    (whole m).add (binary x) = (whole m).binary?.map fun y => binary (y + x) := by
  have hadd : (whole m).add (binary x) = (whole m).binary? >>= fun y => .ok (binary (y + x)) := rfl
  rw [hadd]
  cases (whole m).binary? <;> rfl

/-- Only an integer without a nearest double cannot become a double. -/
theorem exists_binary?_eq_ok_iff {s : Score} :
    (∃ x, s.binary? = .ok x) ↔ ∀ n, s = whole n → Fits n := by
  cases s with
  | flag b => simp [binary?]
  | whole n =>
    have hfits := Binary64.ofInt?_eq_some_iff (n := n)
    cases h : Binary64.ofInt? n <;> simp_all [binary?]
  | binary x => simp [binary?]

/-! ## Whole sums -/

/-- Behind a double every integer has to fit on its own, and the sum is a
double, which can be written. -/
theorem exists_total_behind_iff (x : Binary64) (l : List Score) :
    (∃ t, (l.foldlM add (binary x) >>= text?) = .ok t) ↔ ∀ n, .whole n ∈ l → Fits n := by
  induction l generalizing x with
  | nil =>
    rw [List.foldlM_nil, pure_bind, exists_text?_eq_ok_iff]
    simp
  | cons s l ih =>
    rw [List.foldlM_cons, binary_add]
    cases hs : s.binary? with
    | error e =>
      -- only an integer is refused, and it is one of those behind the double
      have hnot : ¬ ∃ x, s.binary? = .ok x := by simp [hs]
      rw [exists_binary?_eq_ok_iff] at hnot
      refine ⟨by rintro ⟨t, ⟨⟩⟩, fun h => absurd ?_ hnot⟩
      rintro n rfl
      exact h n List.mem_cons_self
    | ok y =>
      have hfits := exists_binary?_eq_ok_iff.1 ⟨y, hs⟩
      refine (ih (x + y)).trans ⟨fun h n hn => ?_, fun h n hn => h n (List.mem_cons_of_mem s hn)⟩
      rcases List.mem_cons.1 hn with rfl | hn
      · exact hfits n rfl
      · exact h n hn

/-- The sum from an integer on. -/
theorem exists_total_from_iff (m : Int) (l : List Score) :
    (∃ t, (l.foldlM add (whole m) >>= text?) = .ok t) ↔
      (fromDouble l = [] → (m + leadingSum l).natAbs < Value.unwritten) ∧
        (fromDouble l ≠ [] → Fits (m + leadingSum l)) ∧ ∀ n, .whole n ∈ fromDouble l → Fits n := by
  induction l generalizing m with
  | nil =>
    rw [List.foldlM_nil, pure_bind, exists_text?_eq_ok_iff]
    simp [fromDouble, leadingSum]
  | cons s l ih =>
    rw [List.foldlM_cons]
    cases hs : s.integer? with
    | some n =>
      rw [add_integer hs, leadingSum_cons hs, fromDouble_cons hs, ← Int.add_assoc]
      exact ih (m + n)
    | none =>
      cases s with
      | flag b => cases hs
      | whole n => cases hs
      | binary x =>
        -- the first double: the sum so far becomes one, and stays one
        rw [add_binary]
        cases hm : (whole m).binary? with
        | error e =>
          have hnot : ¬ ∃ x, (whole m).binary? = .ok x := by simp [hm]
          rw [exists_binary?_eq_ok_iff] at hnot
          refine ⟨by rintro ⟨t, ⟨⟩⟩, fun h => absurd ?_ hnot⟩
          rintro _ ⟨⟩
          simpa using h.2.1
        | ok y =>
          have hfits := exists_binary?_eq_ok_iff.1 ⟨y, hm⟩
          refine (exists_total_behind_iff (y + x) l).trans ?_
          simpa using fun _ => hfits m rfl

/-- Integers are added up exactly. -/
theorem total_whole (l : List Int) : total (l.map whole) = .ok (whole l.sum) := by
  have hfrom (m : Int) : (l.map whole).foldlM add (whole m) = .ok (whole (m + l.sum)) := by
    induction l generalizing m with
    | nil => simp [pure, Except.pure]
    | cons n l ih =>
      rw [List.map_cons, List.foldlM_cons, add_integer rfl, List.sum_cons, ← Int.add_assoc]
      exact ih (m + n)
  rw [total, hfrom, Int.zero_add]

/-- **Which scores can be added up and written.** -/
theorem exists_totalText_eq_ok_iff (scores : List Score) :
    (∃ t, (total scores >>= text?) = .ok t) ↔ HasTotal scores := by
  rw [total, exists_total_from_iff, Int.zero_add]
  exact ⟨fun ⟨h₁, h₂, h₃⟩ => ⟨h₁, h₂, h₃⟩, fun ⟨h₁, h₂, h₃⟩ => ⟨h₁, h₂, h₃⟩⟩

/-- An integer that has a nearest double is not too long to be written. -/
theorem natAbs_lt_unwritten {n : Int} (h : Fits n) : n.natAbs < Value.unwritten := by
  have hpow (k : Nat) (hk : k ≤ Layout.digitLimit) : 2 ^ k ≤ Value.unwritten := by
    unfold Value.unwritten
    generalize Layout.digitLimit = limit at hk ⊢
    exact (Nat.pow_le_pow_left (by decide) k).trans (Nat.pow_le_pow_right (by decide) hk)
  exact ((Nat.le_add_right _ _).trans_lt h).trans_le (hpow 1024 (by decide))

/-- An integer of positive ones is at most their sum. -/
theorem le_leadingSum {l : List Score} (hpos : ∀ s ∈ l, s.atMostZero = false) {s : Score} {n : Int}
    (hs : s ∈ l.takeWhile isInteger) (hn : s.integer? = some n) : n ≤ leadingSum l := by
  have hmem : n ∈ (l.takeWhile isInteger).filterMap integer? := List.mem_filterMap.2 ⟨s, hs, hn⟩
  refine List.single_le_sum (fun m hm => ?_) n hmem
  obtain ⟨t, ht, htm⟩ := List.mem_filterMap.1 hm
  have ht' := hpos t ((List.takeWhile_sublist _).subset ht)
  cases t with
  | flag b =>
    cases htm
    split <;> decide
  | whole k =>
    cases htm
    simp only [atMostZero, decide_eq_false_iff_not] at ht'
    omega
  | binary x => cases htm

/-- Positive scores whose sum can be written can be written themselves. -/
theorem HasTotal.isWritable_of_mem {l : List Score} (h : HasTotal l)
    (hpos : ∀ s ∈ l, s.atMostZero = false) {s : Score} (hs : s ∈ l) : s.toValue.isWritable = true := by
  cases s with
  | flag b => rfl
  | binary x => rfl
  | whole n =>
    suffices hn : n.natAbs < Value.unwritten by rw [isWritable_toValue_whole, decide_eq_true hn]
    have hpos' := hpos _ hs
    simp only [atMostZero, decide_eq_false_iff_not] at hpos'
    rw [← List.takeWhile_append_dropWhile (p := isInteger) (l := l), List.mem_append] at hs
    rcases hs with hs | hs
    · have hle := le_leadingSum hpos hs rfl
      have hsum : (leadingSum l).natAbs < Value.unwritten := by
        by_cases hnone : fromDouble l = []
        · exact h.written hnone
        · exact natAbs_lt_unwritten (h.leading_fits hnone)
      omega
    · exact natAbs_lt_unwritten (h.fits_behind n hs)

/-- Integers can be added up and written when their sum has few enough digits. -/
theorem hasTotal_whole_iff (l : List Int) :
    HasTotal (l.map whole) ↔ l.sum.natAbs < Value.unwritten := by
  have hpure : (.ok (whole l.sum) : Except ScoreError Score) = pure (whole l.sum) := rfl
  rw [← exists_totalText_eq_ok_iff, total_whole, hpure, pure_bind, exists_text?_eq_ok_iff,
    isWritable_toValue_whole, decide_eq_true_iff]

end Score
end ScriptGrader
