import ScriptGrader.Proofs.Number.Decimal
import ScriptGrader.Proofs.Number.Rounding

/-!
# The shortest decimal of a double

Seventeen digits are enough to tell a double from every other one: the grid
of so many digits is finer than the interval of the double is wide
(`exists_gridPoint?`). The search for a short decimal therefore ends with
one that rounds to the double it was made for (`round_value_shortest`).
-/

namespace ScriptGrader

namespace Decimal

theorem value_eq (d : Decimal) : d.value = d.digits * (10 : Rat) ^ d.exponent := tenPow_eq _ _

/-- **The leading exponent** of a number is not too small. -/
theorem lt_tenPow_leadingExponent {q : Rat} (hq : 0 < q) : q < 10 ^ (leadingExponent q + 1) := by
  have hden : (0 : Rat) < q.den := by exact_mod_cast q.den_pos
  rw [leadingExponent]
  split
  · have hlow : (10 : Rat) ^ (digitCount q.den - 1) ≤ q.den := by
      exact_mod_cast pow_le_of_digitCount q.den_ne_zero
    have hhigh : (q.num.natAbs : Rat) < 10 ^ digitCount q.num.natAbs := by
      exact_mod_cast lt_pow_digitCount q.num.natAbs
    have hpos : 0 < digitCount q.den := Nat.length_toDigits_pos
    nth_rewrite 1 [← Binary64.natAbs_num_div_den hq]
    rw [div_lt_iff₀ hden]
    calc (q.num.natAbs : Rat) < 10 ^ digitCount q.num.natAbs := hhigh
      _ = 10 ^ ((digitCount q.num.natAbs : Int) - digitCount q.den + 1) *
          10 ^ (digitCount q.den - 1) := by
        rw [← zpow_natCast, ← zpow_natCast, ← zpow_add₀ (by norm_num)]
        congr 1
        omega
      _ ≤ 10 ^ ((digitCount q.num.natAbs : Int) - digitCount q.den + 1) * q.den := by gcongr
  · next hguess =>
    rw [tenPow_eq, Nat.cast_one, one_mul, not_le] at hguess
    rwa [sub_add_cancel]

/-- **Zeros at the end** do not count. -/
theorem value_trim (d : Decimal) : d.trim.value = d.value ∧ d.exponent ≤ d.trim.exponent := by
  have hgo : ∀ (n : Nat) (d : Decimal), (trim.go n d).value = d.value ∧ d.exponent ≤ (trim.go n d).exponent := by
    intro n
    induction n with
    | zero => exact fun d => ⟨rfl, le_rfl⟩
    | succ n ih =>
      intro d
      rw [trim.go]
      split
      · next hzero =>
        obtain ⟨hvalue, hexponent⟩ := ih ⟨d.digits / 10, d.exponent + 1⟩
        refine ⟨hvalue.trans ?_, (Int.le_add_one le_rfl).trans hexponent⟩
        -- a zero goes from the digits to the exponent
        have hdigits : (d.digits : Rat) = (d.digits / 10 : Nat) * 10 := by
          exact_mod_cast (Nat.div_mul_cancel (Nat.dvd_of_mod_eq_zero hzero.2)).symm
        rw [value_eq, value_eq, hdigits, zpow_add_one₀ (by norm_num)]
        ring
      · exact ⟨rfl, le_rfl⟩
  exact hgo _ d

end Decimal

namespace Binary64

open Decimal (tenPow tenPow_eq leadingExponent)

variable {v q : Rat}

/-! ## The grid -/

/-- The exponent of the grid of so many digits. -/
def gridExponent (v : Rat) (count : Nat) : Int := leadingExponent v - (count - 1 : Nat)

/-- The point of the grid at or below a number, in units. -/
def gridFloor (v : Rat) (count : Nat) : Nat := (v / tenPow 1 (gridExponent v count)).floor.toNat

/-- **A point of the grid** is one of the two next to the number, and lies
in its interval; there is none only if neither of them does. -/
theorem gridPoint?_cases (v : Rat) (count : Nat) :
    (∃ k, (k = gridFloor v count ∨ k = gridFloor v count + 1) ∧
        gridPoint? v count = some ⟨k, gridExponent v count⟩ ∧
        InInterval v (tenPow k (gridExponent v count))) ∨
      (gridPoint? v count = none ∧ ¬ InInterval v (tenPow (gridFloor v count) (gridExponent v count)) ∧
        ¬ InInterval v (tenPow (gridFloor v count + 1) (gridExponent v count))) := by
  unfold gridPoint? InInterval
  rcases interval v with ⟨low, high, closed⟩
  simp only [← gridExponent.eq_1, ← gridFloor.eq_1]
  generalize gridFloor v count = m
  generalize gridExponent v count = e
  -- the test for the interval is used as a Boolean and stated as a proposition
  obtain ⟨inside, hbool, hinside⟩ : ∃ inside : Rat → Bool,
      (∀ q, (if closed = true then decide (low ≤ q) && decide (q ≤ high)
        else decide (low < q) && decide (q < high)) = inside q) ∧
      ∀ q, (if closed = true then low ≤ q ∧ q ≤ high else low < q ∧ q < high) ↔ inside q = true := by
    refine ⟨_, fun q => rfl, fun q => ?_⟩
    cases closed <;> simp
  simp only [hbool, hinside]
  cases hdown : inside (tenPow m e) with
  | true =>
    cases hup : inside (tenPow (m + 1) e) with
    | true =>
      -- the nearer one of the two, or the even one
      have hboth : ∀ k, k = m ∨ k = m + 1 → inside (tenPow k e) = true := by
        rintro k (rfl | rfl)
        · exact hdown
        · exact hup
      refine .inl ?_
      dsimp only
      split_ifs
      · exact ⟨m, .inl rfl, rfl, hdown⟩
      · exact ⟨m + 1, .inr rfl, rfl, hup⟩
      · exact ⟨m, .inl rfl, rfl, hdown⟩
      · exact ⟨m + 1, .inr rfl, rfl, hup⟩
    | false => exact .inl ⟨m, .inl rfl, rfl, hdown⟩
  | false =>
    cases hup : inside (tenPow (m + 1) e) with
    | true => exact .inl ⟨m + 1, .inr rfl, rfl, hup⟩
    | false => exact .inr ⟨rfl, by simp, by simp⟩

/-- A number that is close enough to a double is in its interval. -/
theorem inInterval_of_near (hv : IsMagnitude v) (hlow : v - v / 2 ^ 54 < q) (hhigh : q < v + v / 2 ^ 54) :
    InInterval v q := by
  have hbit := isLastBit_of_pos hv.pos
  obtain ⟨m, hval, -, -⟩ := hv.exists_eq_mul
  rw [InInterval, interval_eq hv rfl hval]
  generalize lastBit v.num.natAbs v.den = e at hbit hval
  have hhalf : v / 2 ^ 54 ≤ 2 ^ (e - 1) := by
    have := hbit.below
    rw [two_zpow_sub_one]
    linarith
  have hbelow : v / 2 ^ 54 ≤ belowOf m e := by
    rw [belowOf]
    split
    · next hpower =>
      rw [hval, hpower.1, two_zpow_sub_two]
      push_cast
      linarith
    · exact hhalf
  have hlow' : v - belowOf m e < q := by linarith
  have hhigh' : q < v + 2 ^ (e - 1) := by linarith
  dsimp only
  split
  · exact ⟨hlow'.le, hhigh'.le⟩
  · exact ⟨hlow', hhigh'⟩

/-- A number in the interval of a double is less than twice as large. -/
theorem lt_of_inInterval (hv : IsMagnitude v) (hq : InInterval v q) : q < 2 * v := by
  obtain ⟨m, hval, hpos, -⟩ := hv.exists_eq_mul
  rw [InInterval, interval_eq hv rfl hval] at hq
  generalize lastBit v.num.natAbs v.den = e at hval hq
  have hm : (1 : Rat) ≤ m := by exact_mod_cast hpos
  have hu : (0 : Rat) < 2 ^ e := by positivity
  have hhigh : q ≤ v + 2 ^ e / 2 := by
    rw [← two_zpow_sub_one]
    split at hq
    · exact hq.2
    · exact hq.2.le
  nlinarith only [hhigh, hval, hm, hu]

/-- A number lies between two points of the grid, which are one unit apart. -/
theorem gridFloor_spec (hv : 0 < v) (count : Nat) :
    tenPow (gridFloor v count) (gridExponent v count) ≤ v ∧
      v < tenPow (gridFloor v count + 1) (gridExponent v count) := by
  have hunit : (0 : Rat) < 10 ^ gridExponent v count := by positivity
  rw [gridFloor, tenPow_eq, tenPow_eq, tenPow_eq, Nat.cast_one, one_mul]
  generalize gridExponent v count = e at hunit
  have hfloor : (0 : Int) ≤ (v / 10 ^ e).floor := Rat.le_floor_iff.2 (by positivity)
  have hcast : (((v / 10 ^ e).floor.toNat : Nat) : Rat) = ((v / 10 ^ e).floor : Rat) := by
    exact_mod_cast Int.toNat_of_nonneg hfloor
  push_cast
  rw [hcast, ← le_div_iff₀ hunit, ← div_lt_iff₀ hunit]
  exact ⟨Rat.floor_le _, by exact_mod_cast Rat.lt_floor_add_one (v / 10 ^ e)⟩

/-- **Seventeen digits always suffice**: one of the two points next to a
double is no further away than half a unit, which is less than the interval
of the double reaches. -/
theorem exists_gridPoint? (hv : IsMagnitude v) : ∃ d, gridPoint? v 17 = some d := by
  rcases gridPoint?_cases v 17 with ⟨k, -, hk, -⟩ | ⟨-, hdown, hup⟩
  · exact ⟨_, hk⟩
  · exfalso
    obtain ⟨hfloor, hceil⟩ := gridFloor_spec hv.pos 17
    have hlead := Decimal.tenPow_leadingExponent_le hv.pos
    rw [tenPow_eq, Nat.cast_one, one_mul] at hlead
    -- sixteen digits behind the leading one: a unit is tiny against the number
    have hunit : (10 : Rat) ^ gridExponent v 17 * 10 ^ 16 ≤ v := by
      refine le_of_eq_of_le ?_ hlead
      rw [gridExponent, ← zpow_natCast, ← zpow_add₀ (by norm_num)]
      congr 1
      push_cast
      omega
    rw [tenPow_eq] at hfloor hceil hdown hup
    push_cast at hceil hup
    have hpos := hv.pos
    -- whichever point is nearer is no further away than half a unit
    rcases le_or_gt (v - gridFloor v 17 * 10 ^ gridExponent v 17) (10 ^ gridExponent v 17 / 2) with hnear | hfar
    · refine hdown (inInterval_of_near hv ?_ ?_)
      · linarith
      · linarith
    · refine hup (inInterval_of_near hv ?_ ?_)
      · linarith
      · linarith

/-! ## The shortest decimal -/

/-- **The shortest decimal of a double** lies in its interval, and its
exponent is that of a double. -/
theorem shortest_spec (hv : IsMagnitude v) :
    InInterval v (shortest v).value ∧ leadingExponent v - 16 ≤ (shortest v).exponent := by
  obtain ⟨d, hd⟩ := exists_gridPoint? hv
  -- the search ends at the latest with all seventeen digits
  have hsome : ((List.range 17).findSome? fun k => gridPoint? v (k + 1)).isSome = true := by
    rw [List.isSome_findSome?, List.any_eq_true]
    exact ⟨16, by simp, by rw [hd]; rfl⟩
  obtain ⟨d, hfound⟩ := Option.isSome_iff_exists.1 hsome
  obtain ⟨k, hk, hpoint⟩ := List.exists_of_findSome?_eq_some hfound
  rw [shortest, hfound, Option.getD_some, (Decimal.value_trim d).1]
  rcases gridPoint?_cases v (k + 1) with ⟨m, -, hm, hinside⟩ | ⟨hnone, -, -⟩
  · rw [hpoint] at hm
    cases hm
    refine ⟨hinside, le_trans ?_ (Decimal.value_trim _).2⟩
    have := List.mem_range.1 hk
    simp only [gridExponent]
    omega
  · rw [hpoint] at hnone
    cases hnone

/-- Doubles are no smaller than the least bit. -/
theorem zpow_minExponent_le (hv : IsMagnitude v) : (2 : Rat) ^ minExponent ≤ v := by
  obtain ⟨m, e, hval, -, hleast⟩ := hv.bits
  have hpos := hv.pos
  have hu : (0 : Rat) < 2 ^ e := by positivity
  rw [hval] at hpos ⊢
  calc (2 : Rat) ^ minExponent ≤ 2 ^ e := zpow_le_zpow_right₀ (by norm_num) hleast
    _ ≤ m * 2 ^ e := le_mul_of_one_le_left hu.le (one_le_of_mul_pos hpos)

/-- The digits and the exponent of the shortest decimal of a double. -/
theorem shortest_bounds (hv : IsMagnitude v) :
    (shortest v).digits ≠ 0 ∧ -400 ≤ (shortest v).exponent ∧ (shortest v).exponent ≤ 400 := by
  obtain ⟨hinside, hexponent⟩ := shortest_spec hv
  have hpos := (round_of_inInterval hv hinside false).1
  have hhigh := lt_of_inInterval hv hinside
  rw [Decimal.value_eq] at hpos hhigh
  have hten : (0 : Rat) < 10 ^ (shortest v).exponent := by positivity
  have hdigits : 0 < (shortest v).digits := by exact_mod_cast pos_of_mul_pos_left hpos hten.le
  refine ⟨hdigits.ne', ?_, ?_⟩
  · -- the leading exponent of the least bit is known
    have hleast : (10 : Rat) ^ (-324 : Int) ≤ 2 ^ minExponent := by
      have hpow : 2 ^ 1074 ≤ 10 ^ 324 := by decide +kernel
      rw [minExponent, zpow_neg, zpow_neg]
      exact inv_anti₀ (by positivity) (by exact_mod_cast hpow)
    have hlead := (hleast.trans (zpow_minExponent_le hv)).trans_lt
      (Decimal.lt_tenPow_leadingExponent hv.pos)
    rw [zpow_lt_zpow_iff_right₀ (by norm_num)] at hlead
    omega
  · have hone : (1 : Rat) ≤ (shortest v).digits := by exact_mod_cast hdigits
    have hpow : 2 * Nat.pow 2 1024 ≤ 10 ^ 400 := by decide +kernel
    have hbound : (10 : Rat) ^ (shortest v).exponent < 10 ^ (400 : Int) := by
      calc (10 : Rat) ^ (shortest v).exponent
          ≤ (shortest v).digits * 10 ^ (shortest v).exponent := le_mul_of_one_le_left hten.le hone
        _ < 2 * v := hhigh
        _ < 2 * overflowBound := by linarith [hv.bound]
        _ ≤ 10 ^ (400 : Int) := by
          rw [overflowBound]
          exact_mod_cast hpow
    rw [zpow_lt_zpow_iff_right₀ (by norm_num)] at hbound
    omega

/-- **The shortest decimal of a double rounds to it.** -/
theorem round_value_shortest (hv : IsMagnitude v) (negative : Bool) :
    round (shortest v).value negative = .finite v :=
  (round_of_inInterval hv (shortest_spec hv).1 negative).2

end Binary64
end ScriptGrader
