import Mathlib.Tactic.FieldSimp
import Mathlib.Tactic.Linarith
import Mathlib.Tactic.NormNum
import Mathlib.Tactic.Positivity
import Mathlib.Tactic.Ring
import Mathlib.Algebra.Order.Field.Power
import Mathlib.Algebra.Order.Field.Rat
import ScriptGrader.Number.Shortest

/-!
# Rounding to the nearest double

A positive number has a last bit, the one that a double next to it ends
with (`IsLastBit`), and is rounded to the nearest multiple of it
(`round_eq`). Every double is such a multiple itself, so the numbers that
round to it are those within half a bit on either side, where the bit below
a power of two is only half as wide: `round_of_inInterval`.
-/

namespace ScriptGrader.Binary64

theorem twoPow_eq (m : Nat) (e : Int) : twoPow m e = m * (2 : Rat) ^ e := by
  rw [twoPow]
  split
  · next he =>
    obtain ⟨k, rfl⟩ := Int.eq_ofNat_of_zero_le he
    simp
  · next he =>
    obtain ⟨k, hk⟩ := Int.eq_ofNat_of_zero_le (by omega : 0 ≤ -e)
    obtain rfl : e = -(k : Int) := by omega
    simp [Rat.mkRat_eq_div, zpow_neg, div_eq_mul_inv]

/-! ## To the nearest integer -/

/-- The integer nearest to a number, the even one of two. -/
def IsNearest (x : Rat) (k : Nat) : Prop :=
  (x - 1 / 2 < k ∧ (k : Rat) < x + 1 / 2) ∨ (x - 1 / 2 ≤ k ∧ (k : Rat) ≤ x + 1 / 2 ∧ k % 2 = 0)

/-- **A quotient is rounded to the nearest integer.** -/
theorem roundHalfEven_eq {n d k : Nat} (hd : 0 < d) (h : IsNearest (n / d) k) :
    roundHalfEven n d = k := by
  have hd' : (0 : Rat) < d := by exact_mod_cast hd
  have hlow : (n : Rat) / d - 1 / 2 ≤ k ↔ 2 * n ≤ 2 * (k * d) + d := by
    rw [sub_le_iff_le_add, div_le_iff₀ hd', ← @Nat.cast_le Rat]
    push_cast
    constructor <;> intro h <;> linarith
  have hhigh : (k : Rat) ≤ n / d + 1 / 2 ↔ 2 * (k * d) ≤ 2 * n + d := by
    rw [← sub_le_iff_le_add, le_div_iff₀ hd', ← @Nat.cast_le Rat]
    push_cast
    constructor <;> intro h <;> linarith
  have hlow' : (n : Rat) / d - 1 / 2 < k ↔ 2 * n < 2 * (k * d) + d := by
    rw [sub_lt_iff_lt_add, div_lt_iff₀ hd', ← @Nat.cast_lt Rat]
    push_cast
    constructor <;> intro h <;> linarith
  have hhigh' : (k : Rat) < n / d + 1 / 2 ↔ 2 * (k * d) < 2 * n + d := by
    rw [← sub_lt_iff_lt_add, lt_div_iff₀ hd', ← @Nat.cast_lt Rat]
    push_cast
    constructor <;> intro h <;> linarith
  rw [IsNearest, hlow, hhigh, hlow', hhigh'] at h
  have hn : d * (n / d) + n % d = n := Nat.div_add_mod n d
  have hr : n % d < d := Nat.mod_lt n hd
  unfold roundHalfEven
  generalize n / d = q at hn
  generalize n % d = r at hn hr
  have hcomm : d * q = q * d := Nat.mul_comm d q
  -- the integer is one of the two next to the quotient
  have hk : k = q ∨ k = q + 1 := by
    rcases Nat.lt_trichotomy k q with hlt | heq | hgt
    · have := Nat.mul_le_mul_right d (Nat.succ_le_of_lt hlt)
      rw [Nat.succ_mul] at this
      omega
    · exact .inl heq
    · rcases Nat.lt_or_ge (q + 1) k with hlt | hge
      · have := Nat.mul_le_mul_right d (Nat.succ_le_of_lt hlt)
        rw [Nat.succ_mul, Nat.succ_mul] at this
        omega
      · exact .inr (by omega)
  rcases hk with rfl | rfl
  · dsimp only
    split_ifs <;> omega
  · rw [Nat.add_mul] at h
    dsimp only
    split_ifs <;> omega

theorem scaled_eq (num : Nat) {den : Nat} (hden : 0 < den) (e : Int) :
    0 < (scaled num den e).2 ∧
      ((scaled num den e).1 : Rat) / (scaled num den e).2 = (num / den : Rat) / (2 : Rat) ^ e := by
  unfold scaled
  split
  · next he =>
    obtain ⟨k, rfl⟩ := Int.eq_ofNat_of_zero_le he
    refine ⟨by simp only [Nat.pow_eq]; positivity, ?_⟩
    simp only [Nat.pow_eq, Int.toNat_natCast, zpow_natCast]
    push_cast
    rw [div_div]
  · next he =>
    obtain ⟨k, hk⟩ := Int.eq_ofNat_of_zero_le (by omega : 0 ≤ -e)
    obtain rfl : e = -(k : Int) := by omega
    refine ⟨hden, ?_⟩
    simp only [Nat.pow_eq, neg_neg, Int.toNat_natCast, zpow_neg, zpow_natCast, div_inv_eq_mul]
    push_cast
    rw [div_mul_eq_mul_div]

/-! ## The last bit -/

/-- The last bit of the doubles next to a positive number: with 53 bits up
to it, and with no fewer unless it is the least bit of all. -/
structure IsLastBit (q : Rat) (e : Int) : Prop where
  least : minExponent ≤ e
  below : q < 2 ^ 53 * (2 : Rat) ^ e
  above : minExponent < e → 2 ^ 52 * (2 : Rat) ^ e ≤ q

theorem two_pow_mul_zpow (n : Nat) (e : Int) : (2 : Rat) ^ n * 2 ^ e = 2 ^ ((n : Int) + e) := by
  rw [← zpow_natCast, ← zpow_add₀ (by norm_num)]

/-- A positive multiple of a bit is one bit at least. -/
theorem one_le_of_mul_pos {m : Nat} {e : Int} (h : 0 < m * (2 : Rat) ^ e) : (1 : Rat) ≤ m := by
  have hm : 0 < m := by exact_mod_cast pos_of_mul_pos_left h (by positivity)
  exact_mod_cast hm

/-- A number has one last bit. -/
theorem IsLastBit.unique {q : Rat} {e e' : Int} (h : IsLastBit q e) (h' : IsLastBit q e') : e = e' := by
  -- with a finer last bit the number would have more than 53 bits
  have hle {e e' : Int} (h : IsLastBit q e) (h' : IsLastBit q e') : e ≤ e' := by
    by_contra hlt
    have hleast := h'.least
    have hpow := (h.above (by omega)).trans_lt h'.below
    rw [two_pow_mul_zpow, two_pow_mul_zpow, zpow_lt_zpow_iff_right₀ (by norm_num)] at hpow
    push_cast at hpow
    omega
  exact le_antisymm (hle h h') (hle h' h)

theorem isLastBit_lastBit {num den : Nat} (hnum : num ≠ 0) (hden : 0 < den) :
    IsLastBit (num / den) (lastBit num den) := by
  have hden' : (0 : Rat) < den := by exact_mod_cast hden
  have hnum_low : (2 : Rat) ^ num.log2 ≤ num := by exact_mod_cast Nat.log2_self_le hnum
  have hnum_high : (num : Rat) < 2 ^ (num.log2 + 1) := by exact_mod_cast Nat.lt_log2_self
  have hden_low : (2 : Rat) ^ den.log2 ≤ den := by exact_mod_cast Nat.log2_self_le hden.ne'
  have hden_high : (den : Rat) < 2 ^ (den.log2 + 1) := by exact_mod_cast Nat.lt_log2_self
  generalize hguess : (num.log2 : Int) - den.log2 - 53 = g
  -- the lengths of the parts tell the length of the quotient up to one bit
  have hlow : (2 : Rat) ^ (52 + g) ≤ num / den := by
    rw [le_div_iff₀ hden']
    calc (2 : Rat) ^ (52 + g) * den ≤ 2 ^ (52 + g) * 2 ^ (den.log2 + 1) := by gcongr
      _ = 2 ^ num.log2 := by
        rw [← zpow_natCast, ← zpow_natCast, ← zpow_add₀ (by norm_num)]
        congr 1
        push_cast
        omega
      _ ≤ num := hnum_low
  have hhigh : (num : Rat) / den < 2 ^ (54 + g) := by
    rw [div_lt_iff₀ hden']
    calc (num : Rat) < 2 ^ (num.log2 + 1) := hnum_high
      _ = 2 ^ (54 + g) * 2 ^ den.log2 := by
        rw [← zpow_natCast, ← zpow_natCast, ← zpow_add₀ (by norm_num)]
        congr 1
        push_cast
        omega
      _ ≤ 2 ^ (54 + g) * den := by gcongr
  obtain ⟨hpos, hscaled⟩ := scaled_eq num hden g
  have hpos' : (0 : Rat) < (scaled num den g).2 := by exact_mod_cast hpos
  -- whether the guess leaves one bit too many
  have hcond : 2 ^ 53 * (scaled num den g).2 ≤ (scaled num den g).1 ↔
      (2 : Rat) ^ (53 + g) ≤ num / den := by
    rw [← @Nat.cast_le Rat, Nat.cast_mul, Nat.cast_pow, Nat.cast_ofNat, ← le_div_iff₀ hpos',
      hscaled, le_div_iff₀ (by positivity), two_pow_mul_zpow]
    rfl
  have hexact : ∃ e, lastBit num den = max e minExponent ∧ (2 : Rat) ^ (52 + e) ≤ num / den ∧
      (num : Rat) / den < 2 ^ (53 + e) := by
    refine ⟨if 2 ^ 53 * (scaled num den g).2 ≤ (scaled num den g).1 then g + 1 else g, ?_, ?_⟩
    · unfold lastBit
      simp only [hguess, Nat.pow_eq]
    split_ifs with h
    · rw [hcond] at h
      exact ⟨by convert h using 2; omega, by convert hhigh using 2; omega⟩
    · rw [hcond, not_le] at h
      exact ⟨hlow, h⟩
  obtain ⟨e, he, hlow, hhigh⟩ := hexact
  rw [he]
  refine ⟨le_max_right _ _, ?_, fun hlt => ?_⟩
  · rw [two_pow_mul_zpow]
    refine hhigh.trans_le (zpow_le_zpow_right₀ (by norm_num) ?_)
    push_cast
    omega
  · rw [max_eq_left (by omega), two_pow_mul_zpow]
    exact hlow

/-- A positive number as the quotient of its parts. -/
theorem natAbs_num_div_den {q : Rat} (hq : 0 < q) : (q.num.natAbs : Rat) / q.den = q := by
  rw [Nat.cast_natAbs, abs_of_pos (Rat.num_pos.2 hq), Rat.num_div_den]

theorem natAbs_num_ne_zero {q : Rat} (hq : 0 < q) : q.num.natAbs ≠ 0 := by
  simpa using hq.ne'

theorem isLastBit_of_pos {q : Rat} (hq : 0 < q) : IsLastBit q (lastBit q.num.natAbs q.den) := by
  have h := isLastBit_lastBit (natAbs_num_ne_zero hq) q.den_pos
  rwa [natAbs_num_div_den hq] at h

/-- **Rounding a positive number**: to the nearest multiple of its last bit. -/
theorem round_eq {q v : Rat} (hq : 0 < q) {e : Int} (he : IsLastBit q e) {m : Nat}
    (hval : v = m * 2 ^ e) (hm : IsNearest (q / 2 ^ e) m) (hv : 0 < v) (hover : v < overflowBound)
    (negative : Bool) : round q negative = .finite v := by
  obtain ⟨hden, hscaled⟩ := scaled_eq q.num.natAbs q.den_pos e
  rw [natAbs_num_div_den hq] at hscaled
  rw [← hscaled] at hm
  have hround := roundHalfEven_eq hden hm
  unfold round
  simp only [(isLastBit_of_pos hq).unique he, hround, twoPow_eq, ← hval,
    if_neg (natAbs_num_ne_zero hq), if_neg hv.ne', if_neg hover.not_ge, if_neg hq.not_gt]

/-! ## Doubles -/

/-- The positive number of a double: a multiple of at most 53 bits of a
power of two, which is no smaller than the least bit, and not too large. -/
structure IsMagnitude (v : Rat) : Prop where
  pos : 0 < v
  bits : ∃ (m : Nat) (e : Int), v = m * 2 ^ e ∧ m < 2 ^ 53 ∧ minExponent ≤ e
  bound : v < overflowBound

/-- A number of the format. -/
def IsDouble : Binary64 → Prop
  | finite v => IsMagnitude |v|
  | _ => True

theorem roundHalfEven_le {n d k : Nat} (hd : 0 < d) (h : n < k * d) : roundHalfEven n d ≤ k := by
  have hq : n / d < k := (Nat.div_lt_iff_lt_mul hd).2 h
  unfold roundHalfEven
  dsimp only
  split_ifs <;> omega

/-- What a positive number is rounded to has at most 53 bits. -/
theorem isMagnitude_twoPow {num den : Nat} (hnum : num ≠ 0) (hden : 0 < den) {e : Int}
    (he : lastBit num den = e) {m : Nat}
    (hm : roundHalfEven (scaled num den e).1 (scaled num den e).2 = m)
    (hnone : twoPow m e ≠ 0) (hover : ¬ overflowBound ≤ twoPow m e) : IsMagnitude (twoPow m e) := by
  have hbit := isLastBit_lastBit hnum hden
  rw [he] at hbit
  obtain ⟨hden, hscaled⟩ := scaled_eq num hden e
  have hden' : (0 : Rat) < (scaled num den e).2 := by exact_mod_cast hden
  have hbelow := hbit.below
  rw [← div_lt_iff₀ (by positivity), ← hscaled, div_lt_iff₀ hden'] at hbelow
  have hle : m ≤ 2 ^ 53 := hm ▸ roundHalfEven_le hden (by exact_mod_cast hbelow)
  rw [twoPow_eq] at hnone hover ⊢
  refine ⟨lt_of_le_of_ne (by positivity) (Ne.symm hnone), ?_, not_le.1 hover⟩
  rcases hle.lt_or_eq with hlt | rfl
  · exact ⟨m, e, rfl, hlt, hbit.least⟩
  · -- a carry into one more bit
    refine ⟨2 ^ 52, e + 1, ?_, by decide, hbit.least.trans (by omega)⟩
    rw [zpow_add_one₀ (by norm_num)]
    push_cast
    ring

/-- **What is rounded is a double.** -/
theorem isDouble_round (q : Rat) (negative : Bool) : (round q negative).IsDouble := by
  unfold round
  dsimp only
  split_ifs with hzero hnone hover hneg
  · trivial
  · trivial
  · trivial
  · have hv := isMagnitude_twoPow hzero q.den_pos rfl rfl hnone hover
    rwa [IsDouble, abs_neg, abs_of_pos hv.pos]
  · have hv := isMagnitude_twoPow hzero q.den_pos rfl rfl hnone hover
    rwa [IsDouble, abs_of_pos hv.pos]

/-- A double is a multiple of its last bit. -/
theorem IsMagnitude.exists_eq_mul {v : Rat} (hv : IsMagnitude v) :
    ∃ m : Nat, v = m * 2 ^ lastBit v.num.natAbs v.den ∧ 0 < m ∧ m < 2 ^ 53 := by
  have hbit := isLastBit_of_pos hv.pos
  generalize lastBit v.num.natAbs v.den = e at hbit
  have hm {m : Nat} (h : v = m * 2 ^ e) : 0 < m ∧ m < 2 ^ 53 := by
    have hpow : (0 : Rat) < 2 ^ e := by positivity
    have hpos := hv.pos
    have hbelow := hbit.below
    rw [h] at hpos hbelow
    exact ⟨by exact_mod_cast pos_of_mul_pos_left hpos hpow.le,
      by exact_mod_cast lt_of_mul_lt_mul_right hbelow hpow.le⟩
  obtain ⟨m, e', hval, hlt, hleast⟩ := hv.bits
  rcases Int.le_total e e' with hle | hle
  · obtain ⟨k, hk⟩ := Int.eq_ofNat_of_zero_le (by omega : 0 ≤ e' - e)
    obtain rfl : e' = k + e := by omega
    have heq : v = (m * 2 ^ k : Nat) * 2 ^ e := by
      rw [hval, ← two_pow_mul_zpow]
      push_cast
      ring
    exact ⟨m * 2 ^ k, heq, hm heq⟩
  · -- a coarser last bit would leave too few bits up to it
    rcases hle.eq_or_lt with rfl | hlt'
    · exact ⟨m, hval, hm hval⟩
    · have habove := hbit.above (by omega)
      have hlt : (m : Rat) < 2 ^ 53 := by exact_mod_cast hlt
      have hbelow : v < 2 ^ 53 * 2 ^ e' := by
        rw [hval]
        gcongr
      have hpow := habove.trans_lt hbelow
      rw [two_pow_mul_zpow, two_pow_mul_zpow, zpow_lt_zpow_iff_right₀ (by norm_num)] at hpow
      push_cast at hpow
      omega

/-- How far the interval of a double reaches down. -/
def belowOf (m : Nat) (e : Int) : Rat :=
  if m = 2 ^ 52 ∧ minExponent < e then 2 ^ (e - 2) else 2 ^ (e - 1)

/-- The interval of a double that is so many times its last bit. -/
theorem interval_eq {v : Rat} (hv : IsMagnitude v) {m : Nat} {e : Int}
    (he : lastBit v.num.natAbs v.den = e) (hval : v = m * 2 ^ e) :
    interval v = (v - belowOf m e, v + 2 ^ (e - 1), decide (m % 2 = 0)) := by
  obtain ⟨hden, hscaled⟩ := scaled_eq v.num.natAbs v.den_pos e
  have hden' : (0 : Rat) < (scaled v.num.natAbs v.den e).2 := by exact_mod_cast hden
  have hdiv : v / 2 ^ e = m := by
    rw [hval]
    exact mul_div_cancel_right₀ _ (by positivity)
  rw [natAbs_num_div_den hv.pos, hdiv, div_eq_iff hden'.ne'] at hscaled
  -- the quotient that the search looks at is exact
  have hquotient : (scaled v.num.natAbs v.den e).1 / (scaled v.num.natAbs v.den e).2 = m := by
    rw [show (scaled v.num.natAbs v.den e).1 = m * (scaled v.num.natAbs v.den e).2 by
      exact_mod_cast hscaled]
    exact Nat.mul_div_cancel m hden
  unfold interval
  simp only [he, hquotient, twoPow_eq, Nat.cast_one, one_mul, Nat.pow_eq, belowOf]

/-- A number within the interval of a double. -/
def InInterval (v q : Rat) : Prop :=
  if (interval v).2.2 then (interval v).1 ≤ q ∧ q ≤ (interval v).2.1
  else (interval v).1 < q ∧ q < (interval v).2.1

theorem isNearest_div {q u : Rat} (hu : 0 < u) {m : Nat}
    (h : (m * u - u / 2 < q ∧ q < m * u + u / 2) ∨
      (m * u - u / 2 ≤ q ∧ q ≤ m * u + u / 2 ∧ m % 2 = 0)) : IsNearest (q / u) m := by
  have hlow : m * u - u / 2 = (m - 1 / 2) * u := by ring
  have hhigh : m * u + u / 2 = (m + 1 / 2) * u := by ring
  rw [hlow, hhigh, ← lt_div_iff₀ hu, ← div_lt_iff₀ hu, ← le_div_iff₀ hu, ← div_le_iff₀ hu] at h
  rcases h with ⟨h₁, h₂⟩ | ⟨h₁, h₂, heven⟩
  · exact .inl ⟨by linarith, by linarith⟩
  · exact .inr ⟨by linarith, by linarith, heven⟩

theorem two_zpow_sub_one (e : Int) : (2 : Rat) ^ (e - 1) = 2 ^ e / 2 := zpow_sub_one₀ (by norm_num) e

theorem two_zpow_sub_two (e : Int) : (2 : Rat) ^ (e - 2) = 2 ^ e / 4 := by
  rw [show e - 2 = e - 1 - 1 by omega, two_zpow_sub_one, two_zpow_sub_one]
  ring

/-- Below a power of two the bits are half as wide. -/
theorem round_below_power {v q : Rat} (hv : IsMagnitude v) {e : Int}
    (hval : v = (2 ^ 52 : Nat) * 2 ^ e) (hleast : minExponent < e) (hlow : v - 2 ^ e / 4 ≤ q)
    (hbelow : q < v) (negative : Bool) : 0 < q ∧ round q negative = .finite v := by
  have hu : (0 : Rat) < 2 ^ e := by positivity
  have hval' : v = (2 ^ 53 : Nat) * 2 ^ (e - 1) := by
    rw [hval, two_zpow_sub_one]
    push_cast
    ring
  rw [hval] at hlow
  push_cast at hlow
  have hq : 0 < q := by linarith
  have hbit : IsLastBit q (e - 1) := by
    refine ⟨by omega, ?_, fun _ => ?_⟩
    · rw [hval'] at hbelow
      exact_mod_cast hbelow
    · rw [two_zpow_sub_one]
      linarith
  have hnear : IsNearest (q / 2 ^ (e - 1)) (2 ^ 53) := by
    refine isNearest_div (by positivity) (.inr ⟨?_, ?_, by decide⟩)
    · rw [two_zpow_sub_one]
      push_cast
      linarith
    · rw [← hval']
      have : (0 : Rat) < 2 ^ (e - 1) := by positivity
      linarith
  exact ⟨hq, round_eq hq hbit hval' hnear hv.pos hv.bound negative⟩

/-- Everywhere else they are as wide as those of the double. -/
theorem round_near {v q : Rat} (hv : IsMagnitude v) {m : Nat} {e : Int} (hbit : IsLastBit v e)
    (hval : v = m * 2 ^ e) (hlow : m = 2 ^ 52 ∧ minExponent < e → v ≤ q)
    (hnear : (v - 2 ^ e / 2 < q ∧ q < v + 2 ^ e / 2) ∨
      (v - 2 ^ e / 2 ≤ q ∧ q ≤ v + 2 ^ e / 2 ∧ m % 2 = 0))
    (negative : Bool) : 0 < q ∧ round q negative = .finite v := by
  have hu : (0 : Rat) < 2 ^ e := by positivity
  have hends : v - 2 ^ e / 2 ≤ q ∧ q ≤ v + 2 ^ e / 2 := by
    rcases hnear with h | h
    · exact ⟨h.1.le, h.2.le⟩
    · exact ⟨h.1, h.2.1⟩
  have hbounds := hbit.below
  have hv_pos := hv.pos
  rw [hval] at hends hbounds hv_pos
  have hm_pos := one_le_of_mul_pos hv_pos
  have hm_lt : (m : Rat) + 1 ≤ 2 ^ 53 := by
    have : m < 2 ^ 53 := by exact_mod_cast lt_of_mul_lt_mul_right hbounds hu.le
    exact_mod_cast this
  have hq : 0 < q := by nlinarith only [hends.1, hm_pos, hu]
  have hbit' : IsLastBit q e := by
    refine ⟨hbit.least, by nlinarith only [hends.2, hm_lt, hu], fun hleast => ?_⟩
    have habove := hbit.above hleast
    by_cases hm : m = 2 ^ 52
    · exact habove.trans (hlow ⟨hm, hleast⟩)
    · -- the next multiple up is more than half a bit away
      rw [hval] at habove
      have hm_ge : 2 ^ 52 ≤ m := by exact_mod_cast le_of_mul_le_mul_right habove hu
      have hm_gt : (2 ^ 52 : Rat) + 1 ≤ m := by exact_mod_cast lt_of_le_of_ne hm_ge (Ne.symm hm)
      nlinarith only [hends.1, hm_gt, hu]
  rw [hval] at hnear
  exact ⟨hq, round_eq hq hbit' hval (isNearest_div hu hnear) hv.pos hv.bound negative⟩

/-- **The interval of a double** consists of positive numbers that round to it. -/
theorem round_of_inInterval {v q : Rat} (hv : IsMagnitude v) (hq : InInterval v q)
    (negative : Bool) : 0 < q ∧ round q negative = .finite v := by
  have hbit := isLastBit_of_pos hv.pos
  obtain ⟨m, hval, hpos, hlt⟩ := hv.exists_eq_mul
  rw [InInterval, interval_eq hv rfl hval] at hq
  generalize lastBit v.num.natAbs v.den = e at hbit hval hq
  rw [two_zpow_sub_one] at hq
  by_cases hpower : m = 2 ^ 52 ∧ minExponent < e
  · rw [belowOf, if_pos hpower, two_zpow_sub_two] at hq
    obtain ⟨rfl, hleast⟩ := hpower
    obtain ⟨hlow, hhigh⟩ : v - 2 ^ e / 4 ≤ q ∧ q ≤ v + 2 ^ e / 2 := hq
    rcases lt_or_ge q v with hbelow | hge
    · exact round_below_power hv hval hleast hlow hbelow negative
    · have hu : (0 : Rat) < 2 ^ e := by positivity
      exact round_near hv hbit hval (fun _ => hge) (.inr ⟨by linarith, hhigh, rfl⟩) negative
  · rw [belowOf, if_neg hpower, two_zpow_sub_one] at hq
    refine round_near hv hbit hval (fun h => absurd h hpower) ?_ negative
    by_cases heven : m % 2 = 0
    · simp only [heven, decide_true, if_true] at hq
      exact .inr ⟨hq.1, hq.2, heven⟩
    · simp only [heven, decide_false, Bool.false_eq_true, if_false] at hq
      exact .inl hq

end ScriptGrader.Binary64
