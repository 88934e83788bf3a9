import Mathlib.Tactic.Ring
import Mathlib.Tactic.NormNum
import ScriptGrader.Number.Binary64

/-!
# Integers that are too large for a double

An integer has a nearest double unless it is at least halfway from the
largest finite double to the next power of two: the tie there goes to the
power of two, whose last digit is even. `ofInt?_eq_none_iff` is that
bound. It rests on when rounding reaches an even bound
(`le_roundHalfEven_iff`) and on which last bit an integer is rounded at
(`lastBit_eq`).
-/

namespace ScriptGrader.Binary64

/-- **Rounding reaches an even bound from half a unit below it.** -/
theorem le_roundHalfEven_iff {n d k : Nat} (hd : 0 < d) (hk : k % 2 = 0) :
    k ≤ roundHalfEven n d ↔ (2 * k - 1) * d ≤ 2 * n := by
  have hn : d * (n / d) + n % d = n := Nat.div_add_mod n d
  have hr : n % d < d := Nat.mod_lt n hd
  generalize hq : n / d = q at hn
  generalize hm : n % d = r at hn hr
  have hround : roundHalfEven n d =
      if 2 * r < d then q else if d < 2 * r then q + 1 else if q % 2 = 0 then q else q + 1 := by
    rw [roundHalfEven, hq, hm]
  have hexpand : (2 * k - 1) * d = 2 * (k * d) - d := by
    rw [Nat.sub_mul, Nat.mul_assoc, Nat.one_mul]
  rw [hround, hexpand, ← hn]
  have hcomm : d * q = q * d := Nat.mul_comm d q
  rcases Nat.lt_trichotomy (q + 1) k with hlt | heq | hgt
  · -- two units short: neither side can hold
    have hle : (q + 2) * d ≤ k * d := Nat.mul_le_mul_right d hlt
    rw [Nat.add_mul] at hle
    constructor
    · intro h
      split at h
      · omega
      · split at h
        · omega
        · split at h <;> omega
    · omega
  · -- one unit short: the remainder decides, and a tie goes up as `q` is odd
    have hle : k * d = q * d + d := by rw [← heq, Nat.succ_mul]
    have hodd : q % 2 ≠ 0 := by omega
    rw [if_neg hodd]
    constructor
    · intro h
      split at h <;> omega
    · intro h
      rw [if_neg (by omega)]
      split <;> omega
  · have hle : k * d ≤ q * d := Nat.mul_le_mul_right d (by omega)
    constructor
    · omega
    · intro _
      split
      · omega
      · split
        · omega
        · split <;> omega

/-- The last bit of the doubles next to a positive integer. -/
theorem lastBit_eq {n : Nat} (hn : n ≠ 0) : lastBit n 1 = (n.log2 : Int) - 52 := by
  have hlow : 2 ^ n.log2 ≤ n := Nat.log2_self_le hn
  have hlog : Nat.log2 1 = 0 := by decide
  -- the first guess always leaves one bit too many
  have hguess : 2 ^ 53 * (scaled n 1 ((n.log2 : Int) - 53)).2 ≤ (scaled n 1 ((n.log2 : Int) - 53)).1 := by
    simp only [scaled, Nat.pow_eq]
    split
    · next h =>
      have hpow : 2 ^ 53 * 2 ^ ((n.log2 : Int) - 53).toNat = 2 ^ n.log2 := by
        rw [← Nat.pow_add]
        congr 1
        omega
      rw [Nat.one_mul, hpow]
      exact hlow
    · next h =>
      have hpow : 2 ^ 53 = 2 ^ n.log2 * 2 ^ (-((n.log2 : Int) - 53)).toNat := by
        rw [← Nat.pow_add]
        congr 1
        omega
      rw [Nat.mul_one, hpow]
      exact Nat.mul_le_mul_right _ hlow
  unfold lastBit
  simp only [hlog, Nat.cast_zero, Int.sub_zero, Nat.pow_eq]
  rw [if_pos hguess]
  simp only [minExponent]
  omega

/-- The number that a positive integer is rounded to. -/
def nearest (n : Nat) : Rat :=
  twoPow (roundHalfEven (scaled n 1 (lastBit n 1)).1 (scaled n 1 (lastBit n 1)).2) (lastBit n 1)

/-- An integer that needs no more bits than a double has stays what it is. -/
theorem nearest_eq_self {n : Nat} (hn : n ≠ 0) (h : n.log2 < 52) : nearest n = (n : Rat) := by
  have hneg : ¬ (0 : Int) ≤ (n.log2 : Int) - 52 := by omega
  have hpos : 2 ^ (-((n.log2 : Int) - 52)).toNat ≠ 0 := by positivity
  have hexact : roundHalfEven (n * 2 ^ (-((n.log2 : Int) - 52)).toNat) 1 =
      n * 2 ^ (-((n.log2 : Int) - 52)).toNat := by
    simp [roundHalfEven, Nat.mod_one]
  have hcancel := Rat.mkRat_mul_right (n := (n : Int)) (d := 1) hpos
  rw [nearest, lastBit_eq hn]
  simp only [scaled, twoPow, if_neg hneg, Nat.pow_eq]
  rw [hexact]
  rw [Nat.one_mul] at hcancel
  push_cast at hcancel ⊢
  rw [hcancel, Rat.mkRat_one]
  rfl

/-- A larger integer becomes a multiple of its last bit. -/
theorem nearest_eq_mul {n e : Nat} (hn : n ≠ 0) (h : n.log2 = 52 + e) :
    nearest n = ((roundHalfEven n (2 ^ e) * 2 ^ e : Nat) : Rat) := by
  have hexp : (n.log2 : Int) - 52 = e := by omega
  rw [nearest, lastBit_eq hn, hexp]
  simp [scaled, twoPow]

/-- **The bound.** What an integer is rounded to reaches a power of two
from half a last bit below that power on. -/
theorem le_nearest_iff {n : Nat} (hn : n ≠ 0) (p : Nat) :
    ((2 ^ (54 + p) : Nat) : Rat) ≤ nearest n ↔ 2 ^ (54 + p) ≤ n + 2 ^ p := by
  have hlow : 2 ^ n.log2 ≤ n := Nat.log2_self_le hn
  have hhigh : n < 2 ^ (n.log2 + 1) := Nat.lt_log2_self
  have hbound : 2 ^ (54 + p) = 2 ^ 54 * 2 ^ p := Nat.pow_add 2 54 p
  rcases Nat.lt_or_ge n.log2 52 with hsmall | hlarge
  · have hle : 2 ^ (n.log2 + 1) ≤ 2 ^ (52 + p) := Nat.pow_le_pow_right (by decide) (by omega)
    have hmax : 2 ^ (52 + p) = 2 ^ 52 * 2 ^ p := Nat.pow_add 2 52 p
    rw [nearest_eq_self hn hsmall, Nat.cast_le]
    omega
  obtain ⟨e, he⟩ := Nat.exists_eq_add_of_le hlarge
  rw [nearest_eq_mul hn he, Nat.cast_le]
  have hd : 0 < 2 ^ e := Nat.two_pow_pos e
  rcases Nat.lt_or_ge (p + 1) e with hover | hunder
  · -- the integer is beyond the bound, and so is what it is rounded to
    have hpow : 2 ^ n.log2 = 2 ^ 52 * 2 ^ e := by rw [he, Nat.pow_add]
    have hbeyond : 2 ^ (54 + p) ≤ 2 ^ n.log2 := Nat.pow_le_pow_right (by decide) (by omega)
    have hround : 2 ^ 52 ≤ roundHalfEven n (2 ^ e) := by
      rw [le_roundHalfEven_iff hd (by decide)]
      omega
    have hmul := Nat.mul_le_mul_right (2 ^ e) hround
    omega
  · obtain ⟨j, hj⟩ := Nat.exists_eq_add_of_le hunder
    have hsplit : 2 ^ (54 + p) = 2 ^ (53 + j) * 2 ^ e := by
      rw [← Nat.pow_add]
      congr 1
      omega
    have heven : 2 ^ (53 + j) % 2 = 0 := by
      rw [show 53 + j = 52 + j + 1 by omega, Nat.pow_succ, Nat.mul_mod_left]
    rw [hsplit, Nat.mul_le_mul_right_iff hd, le_roundHalfEven_iff hd heven, Nat.sub_mul,
      Nat.mul_assoc, ← hsplit, Nat.one_mul]
    rcases Nat.eq_zero_or_pos j with rfl | hpos
    · have htop : 2 ^ e = 2 * 2 ^ p := by rw [← Nat.pow_succ', Nat.succ_eq_add_one, hj, Nat.add_zero]
      omega
    · -- both sides fail: the integer stays below half the bound
      have hle : 2 ^ e ≤ 2 ^ p := Nat.pow_le_pow_right (by decide) (by omega)
      have hmax : 2 ^ (n.log2 + 1) ≤ 2 ^ (53 + p) := Nat.pow_le_pow_right (by decide) (by omega)
      have hhalf : 2 ^ (53 + p) = 2 ^ 53 * 2 ^ p := Nat.pow_add 2 53 p
      omega

/-- Rounding a nonzero integer. -/
theorem round_intCast {n : Int} (hn : n ≠ 0) :
    round (n : Rat) false =
      if nearest n.natAbs = 0 then .zero (decide ((n : Rat) < 0))
      else if overflowBound ≤ nearest n.natAbs then .infinity (decide ((n : Rat) < 0))
      else .finite (if (n : Rat) < 0 then -nearest n.natAbs else nearest n.natAbs) := by
  have hne : (n : Rat).num.natAbs ≠ 0 := Int.natAbs_ne_zero.2 hn
  have hround : round (n : Rat) false = if (n : Rat).num.natAbs = 0 then .zero false
      else if nearest n.natAbs = 0 then .zero (decide ((n : Rat) < 0))
      else if overflowBound ≤ nearest n.natAbs then .infinity (decide ((n : Rat) < 0))
      else .finite (if (n : Rat) < 0 then -nearest n.natAbs else nearest n.natAbs) := rfl
  rw [hround, if_neg hne]

/-- **An integer has no nearest double** exactly from halfway between the
largest finite double and the next power of two on. -/
theorem ofInt?_eq_none_iff (n : Int) : ofInt? n = none ↔ 2 ^ 1024 ≤ n.natAbs + 2 ^ 970 := by
  rcases eq_or_ne n 0 with rfl | hn
  · have hlt : ¬ 2 ^ 1024 ≤ Int.natAbs 0 + 2 ^ 970 := by
      rw [Int.natAbs_zero, Nat.zero_add, Nat.not_le, Nat.pow_lt_pow_iff_right (by decide)]
      decide
    have hzero : round ((0 : Int) : Rat) false = .zero false := rfl
    simp only [ofInt?, hzero, reduceCtorEq, hlt]
  have hne : n.natAbs ≠ 0 := Int.natAbs_ne_zero.2 hn
  have hpos : 0 < overflowBound := by decide +kernel
  have hbound : overflowBound ≤ nearest n.natAbs ↔ 2 ^ 1024 ≤ n.natAbs + 2 ^ 970 :=
    le_nearest_iff hne 970
  rw [← hbound, ofInt?, round_intCast hn]
  split_ifs with hzero hover
  · rw [hzero]
    simpa using hpos
  · simpa using hover
  · simpa using hover

end ScriptGrader.Binary64
