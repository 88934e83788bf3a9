import Mathlib.Tactic.Positivity
import Mathlib.Tactic.Linarith
import Mathlib.Data.Nat.Digits.Defs
import Mathlib.Algebra.Order.Field.Rat
import Mathlib.Algebra.Order.Field.Power
import ScriptGrader.Number.Layout

/-!
# The parts of a written number

However a double is laid out, its text has a whole part without needless
zeros, and a fraction or an exponent behind it. That there are no needless
zeros rests on the first digit, which is no zero since the leading exponent
of a number is never too large (`tenPow_leadingExponent_le`).
-/

namespace ScriptGrader

namespace Numeral

/-- One digit or more. -/
def IsDigits (ds : List Char) : Prop := ds ≠ [] ∧ ∀ c ∈ ds, c.isDigit = true

/-- Digits that begin with a zero only if that is all. -/
def IsWhole (ds : List Char) : Prop := IsDigits ds ∧ (ds.head? = some '0' → ds = ['0'])

/-- Digits behind a point. -/
def IsFraction (cs : List Char) : Prop := ∃ ds, cs = '.' :: ds ∧ IsDigits ds

/-- Digits behind an `e` and a sign. -/
def IsExponent (cs : List Char) : Prop := ∃ sign ds, cs = 'e' :: sign :: ds ∧ (sign = '+' ∨ sign = '-') ∧ IsDigits ds

instance (ds : List Char) : Decidable (IsDigits ds) :=
  decidable_of_iff (ds ≠ [] ∧ ds.all Char.isDigit = true) (and_congr_right fun _ => List.all_eq_true)

instance (ds : List Char) : Decidable (IsWhole ds) :=
  inferInstanceAs (Decidable (IsDigits ds ∧ (ds.head? = some '0' → ds = ['0'])))

/-- The parts of a number that is no integer. -/
structure IsParts (whole fraction exponent : List Char) : Prop where
  isWhole : IsWhole whole
  isFraction : fraction = [] ∨ IsFraction fraction
  isExponent : exponent = [] ∨ IsExponent exponent
  notInteger : fraction ≠ [] ∨ exponent ≠ []

/-- The exponent that an `e`, a sign and digits stand for. -/
def exponentOf : List Char → Int
  | _ :: '-' :: ds => -(Nat.ofDigitChars 10 ds 0 : Int)
  | _ :: _ :: ds => Nat.ofDigitChars 10 ds 0
  | _ => 0

/-- The digits of a number before and behind its point, as an integer. -/
def digitsOf (whole fraction : List Char) : Nat := Nat.ofDigitChars 10 (whole ++ fraction.tail) 0

/-- The exponent of its last digit. -/
def lastExponent (fraction exponent : List Char) : Int := exponentOf exponent - fraction.tail.length

/-- Parts that stand for a decimal: they have its digits and its exponent,
or they have zeros up to the point and one behind it. -/
def StandFor (whole fraction exponent : List Char) (d : Decimal) : Prop :=
  (digitsOf whole fraction = d.digits ∧ lastExponent fraction exponent = d.exponent) ∨
    (0 ≤ d.exponent ∧ digitsOf whole fraction = d.digits * 10 ^ (d.exponent.toNat + 1) ∧
      lastExponent fraction exponent = -1)

theorem IsDigits.append {ds es : List Char} (hds : IsDigits ds) (hes : ∀ c ∈ es, c.isDigit = true) :
    IsDigits (ds ++ es) := by
  refine ⟨by simp [hds.1], fun c hc => ?_⟩
  rcases List.mem_append.1 hc with hc | hc
  · exact hds.2 c hc
  · exact hes c hc

end Numeral

open Numeral (IsDigits IsWhole IsFraction IsExponent IsParts StandFor exponentOf digitsOf lastExponent)

namespace Layout

theorem isDigits_nat (n : Nat) : IsDigits (nat n) :=
  ⟨Nat.toDigits_ne_nil, fun _ hc => Nat.isDigit_of_mem_toDigits (by decide) (by decide) hc⟩

/-- A positive number does not begin with a zero. -/
theorem head?_nat_ne {n : Nat} (hn : n ≠ 0) : (nat n).head? ≠ some '0' := by
  induction n using Nat.strong_induction_on with
  | _ n ih =>
    rw [nat, Nat.toDigits_eq_if (by decide)]
    split
    · next hlt =>
      have hdigit : ∀ m < 10, m ≠ 0 → m.digitChar ≠ '0' := by decide
      simpa using hdigit n hlt hn
    · next hge =>
      have hhead := ih (n / 10) (by omega) (by omega)
      rwa [List.head?_append_of_ne_nil _ Nat.toDigits_ne_nil]

theorem isWhole_nat (n : Nat) : IsWhole (nat n) := by
  refine ⟨isDigits_nat n, fun hzero => ?_⟩
  by_cases hn : n = 0
  · subst hn
    rfl
  · exact absurd hzero (head?_nat_ne hn)

theorem isDigits_padLeft (width n : Nat) : IsDigits (padLeft width (nat n)) := by
  obtain ⟨hne, hdigits⟩ := isDigits_nat n
  refine ⟨by simp [padLeft, hne], fun c hc => ?_⟩
  rcases List.mem_append.1 hc with hc | hc
  · rw [List.eq_of_mem_replicate hc]
    rfl
  · exact hdigits c hc

/-- Further digits behind a whole part that does not begin with a zero. -/
theorem isWhole_append {ds es : List Char} (hds : IsDigits ds) (hhead : ds.head? ≠ some '0')
    (hes : ∀ c ∈ es, c.isDigit = true) : IsWhole (ds ++ es) := by
  refine ⟨hds.append hes, fun hzero => ?_⟩
  rw [List.head?_append_of_ne_nil _ hds.1] at hzero
  exact absurd hzero hhead

theorem isDigit_of_mem_zeros {n : Nat} {c : Char} (hc : c ∈ List.replicate n '0') : c.isDigit = true := by
  rw [List.eq_of_mem_replicate hc]
  rfl

/-- An exponent that is filled up with zeros. -/
theorem exponentOf_eq (width : Nat) (lead : Int) :
    exponentOf ('e' :: (if lead < 0 then '-' else '+') :: padLeft width (nat lead.natAbs)) = lead := by
  have hdigits : Nat.ofDigitChars 10 (padLeft width (nat lead.natAbs)) 0 = lead.natAbs := by
    rw [padLeft, Nat.ofDigitChars_append, Nat.ofDigitChars_replicate_zero, Nat.mul_zero]
    exact Nat.ofDigitChars_ten_toDigits
  split
  · rw [exponentOf, hdigits]
    omega
  · rw [exponentOf.eq_2 _ _ _ (by decide), hdigits]
    omega

/-- **The parts of a decimal** whose digits are those of a positive number. -/
theorem exists_parts_decimal (l : Layout) {d : Decimal} (hd : d.digits ≠ 0) :
    ∃ whole fraction exponent, l.decimal d = whole ++ fraction ++ exponent ∧
      IsParts whole fraction exponent ∧ StandFor whole fraction exponent d := by
  have hdigits := isDigits_nat d.digits
  have hhead := head?_nat_ne hd
  have hvalue : Nat.ofDigitChars 10 (nat d.digits) 0 = d.digits := Nat.ofDigitChars_ten_toDigits
  have hzero : IsWhole ['0'] := by decide
  have hpoint : IsFraction ['.', '0'] := ⟨['0'], rfl, by decide⟩
  simp only [decimal]
  generalize nat d.digits = ds at hdigits hhead hvalue
  split
  · next hplain =>
    split
    · next hexponent =>
      -- zeros up to the point
      refine ⟨ds ++ List.replicate d.exponent.toNat '0', ['.', '0'], [], by simp, ?_, .inr ⟨hexponent, ?_, rfl⟩⟩
      · exact ⟨isWhole_append hdigits hhead fun c hc => isDigit_of_mem_zeros hc, .inr hpoint, .inl rfl,
          .inl (by simp)⟩
      · have hzeros : ds ++ List.replicate d.exponent.toNat '0' ++ ['0'] =
            ds ++ List.replicate (d.exponent.toNat + 1) '0' := by
          rw [List.replicate_succ', List.append_assoc]
        rw [digitsOf, List.tail_cons, hzeros, Nat.ofDigitChars_append, Nat.ofDigitChars_replicate_zero, hvalue,
          Nat.mul_comm]
    · next hexponent =>
      split
      · next hlead =>
        -- zeros behind the point
        have hfraction : ∀ n, IsFraction ('.' :: (List.replicate n '0' ++ ds)) := by
          refine fun n => ⟨_, rfl, by simp [hdigits.1], fun c hc => ?_⟩
          rcases List.mem_append.1 hc with hc | hc
          · exact isDigit_of_mem_zeros hc
          · exact hdigits.2 c hc
        generalize hn : (-(d.exponent + (ds.length - 1 : Nat)) - 1).toNat = n
        have hlength : 0 < ds.length := List.length_pos_iff.2 hdigits.1
        refine ⟨['0'], _, [], ?_, ⟨hzero, .inr (hfraction n), .inl rfl, .inl (List.cons_ne_nil _ _)⟩, .inl ⟨?_, ?_⟩⟩
        · rw [List.append_nil]
          rfl
        · have hzeros : ['0'] ++ (List.replicate n '0' ++ ds) = List.replicate (n + 1) '0' ++ ds := rfl
          rw [digitsOf, List.tail_cons, hzeros, Nat.ofDigitChars_append, Nat.ofDigitChars_replicate_zero,
            Nat.mul_zero, hvalue]
        · simp only [lastExponent, exponentOf, List.tail_cons, List.length_append, List.length_replicate]
          omega
      · next hlead =>
        -- the point stands among the digits
        generalize hn : (d.exponent + (ds.length - 1 : Nat)).toNat + 1 = n
        have hn_lt : n < ds.length := by omega
        have hwhole : IsWhole (ds.take n) := by
          refine ⟨⟨?_, fun c hc => hdigits.2 c (List.mem_of_mem_take hc)⟩, fun hfirst => ?_⟩
          · rw [Ne, List.take_eq_nil_iff, not_or]
            exact ⟨by omega, hdigits.1⟩
          · rw [List.head?_take, if_neg (by omega)] at hfirst
            exact absurd hfirst hhead
        have hfraction : IsFraction ('.' :: ds.drop n) := by
          refine ⟨_, rfl, ?_, fun c hc => hdigits.2 c (List.mem_of_mem_drop hc)⟩
          rw [Ne, List.drop_eq_nil_iff]
          omega
        refine ⟨ds.take n, '.' :: ds.drop n, [], by simp, ⟨hwhole, .inr hfraction, .inl rfl,
          .inl (List.cons_ne_nil _ _)⟩, .inl ⟨?_, ?_⟩⟩
        · rw [digitsOf, List.tail_cons, List.take_append_drop, hvalue]
        · simp only [lastExponent, exponentOf, List.tail_cons, List.length_drop]
          omega
  · -- one digit before the point, and an exponent
    generalize hlead : d.exponent + (ds.length - 1 : Nat) = lead
    obtain ⟨c, r, rfl⟩ := List.exists_cons_of_ne_nil hdigits.1
    have hwhole : IsWhole [c] :=
      @isWhole_append [c] [] ⟨by simp, fun x hx => hdigits.2 x (by simp_all)⟩ (by simpa using hhead) (by simp)
    have hexponent : IsExponent
        ('e' :: (if lead < 0 then '-' else '+') :: padLeft l.exponentDigits (nat lead.natAbs)) := by
      refine ⟨_, _, rfl, ?_, isDigits_padLeft _ _⟩
      split
      · exact .inr rfl
      · exact .inl rfl
    have hlast : exponentOf ('e' :: (if lead < 0 then '-' else '+') :: padLeft l.exponentDigits (nat lead.natAbs)) =
        lead := exponentOf_eq _ lead
    rw [List.length_cons, Nat.add_sub_cancel] at hlead
    cases r with
    | nil =>
      refine ⟨[c], [], _, by simp, ⟨hwhole, .inl rfl, .inr hexponent, .inr (List.cons_ne_nil _ _)⟩, .inl ⟨hvalue, ?_⟩⟩
      rw [lastExponent, hlast]
      simpa using hlead.symm
    | cons c' r =>
      have hfraction : IsFraction ('.' :: c' :: r) :=
        ⟨_, rfl, List.cons_ne_nil _ _, fun x hx => hdigits.2 x (List.mem_cons_of_mem c hx)⟩
      refine ⟨[c], '.' :: c' :: r, _, by simp, ⟨hwhole, .inr hfraction, .inr hexponent,
        .inl (List.cons_ne_nil _ _)⟩, .inl ⟨hvalue, ?_⟩⟩
      rw [lastExponent, hlast, List.tail_cons]
      omega

end Layout

namespace Decimal

/-- A decimal as an exact number. -/
theorem tenPow_eq (m : Nat) (e : Int) : tenPow m e = m * (10 : Rat) ^ e := by
  rw [tenPow]
  split
  · next he =>
    obtain ⟨k, rfl⟩ := Int.eq_ofNat_of_zero_le he
    simp
  · next he =>
    obtain ⟨k, hk⟩ := Int.eq_ofNat_of_zero_le (by omega : 0 ≤ -e)
    obtain rfl : e = -(k : Int) := by omega
    simp [Rat.mkRat_eq_div, zpow_neg, div_eq_mul_inv]

theorem pow_le_of_digitCount {n : Nat} (hn : n ≠ 0) : 10 ^ (digitCount n - 1) ≤ n := by
  rcases Nat.eq_zero_or_pos (digitCount n - 1) with hone | hpos
  · rw [hone]
    omega
  · by_contra hlt
    have hlength := (Nat.length_toDigits_le_iff (by decide) hpos).2 (Nat.not_le.1 hlt)
    rw [← digitCount] at hlength
    omega

theorem lt_pow_digitCount (n : Nat) : n < 10 ^ digitCount n :=
  (Nat.length_toDigits_le_iff (by decide) Nat.length_toDigits_pos).1 (Nat.le_refl _)

/-- **The leading exponent** of a number is not too large. -/
theorem tenPow_leadingExponent_le {q : Rat} (hq : 0 < q) : tenPow 1 (leadingExponent q) ≤ q := by
  have hnum : q.num.natAbs ≠ 0 := by simpa using hq.ne'
  have hden : (0 : Rat) < q.den := by exact_mod_cast q.den_pos
  have hq_eq : q = q.num.natAbs / q.den := by
    rw [Nat.cast_natAbs, abs_of_pos (Rat.num_pos.2 hq), Rat.num_div_den]
  rw [leadingExponent]
  split
  · next hguess => exact hguess
  · -- the guess is at most one too large
    have hlow : (10 : Rat) ^ (digitCount q.num.natAbs - 1) ≤ q.num.natAbs := by
      exact_mod_cast pow_le_of_digitCount hnum
    have hhigh : (q.den : Rat) ≤ 10 ^ digitCount q.den := by exact_mod_cast (lt_pow_digitCount q.den).le
    have hpos : 0 < digitCount q.num.natAbs := Nat.length_toDigits_pos
    rw [tenPow_eq, Nat.cast_one, one_mul]
    nth_rewrite 3 [hq_eq]
    rw [le_div_iff₀ hden]
    calc (10 : Rat) ^ ((digitCount q.num.natAbs : Int) - digitCount q.den - 1) * q.den
        ≤ 10 ^ ((digitCount q.num.natAbs : Int) - digitCount q.den - 1) * 10 ^ digitCount q.den := by gcongr
      _ = 10 ^ (digitCount q.num.natAbs - 1) := by
        rw [← zpow_natCast, ← zpow_natCast, ← zpow_add₀ (by norm_num)]
        congr 1
        omega
      _ ≤ q.num.natAbs := hlow

/-- Taking zeros away from the end leaves a digit. -/
theorem digits_trim_ne_zero {d : Decimal} (hd : d.digits ≠ 0) : d.trim.digits ≠ 0 := by
  have hgo : ∀ (n : Nat) (d : Decimal), d.digits ≠ 0 → (trim.go n d).digits ≠ 0 := by
    intro n
    induction n with
    | zero => exact fun d hd => hd
    | succ n ih =>
      intro d hd
      rw [trim.go]
      split
      · next hzero =>
        refine ih _ ?_
        simp only
        omega
      · exact hd
  exact hgo _ d hd

end Decimal

namespace Binary64

/-- A point of a grid next to a positive number is positive. -/
theorem digits_gridPoint?_ne_zero {v : Rat} (hv : 0 < v) {count : Nat} {d : Decimal}
    (h : gridPoint? v count = some d) : d.digits ≠ 0 := by
  have hfloor : (v / Decimal.tenPow 1 (Decimal.leadingExponent v - (count - 1 : Nat))).floor.toNat ≠ 0 := by
    have hlead := Decimal.tenPow_leadingExponent_le hv
    rw [Decimal.tenPow_eq, Nat.cast_one, one_mul] at hlead ⊢
    generalize Decimal.leadingExponent v = lead at hlead ⊢
    have hunit : (10 : Rat) ^ (lead - (count - 1 : Nat)) ≤ v :=
      (zpow_le_zpow_right₀ (by norm_num) (by omega)).trans hlead
    have hone : 1 ≤ v / (10 : Rat) ^ (lead - (count - 1 : Nat)) := (one_le_div₀ (by positivity)).2 hunit
    have hle : (1 : Int) ≤ (v / (10 : Rat) ^ (lead - (count - 1 : Nat))).floor :=
      Rat.le_floor_iff.2 (by exact_mod_cast hone)
    omega
  rw [gridPoint?] at h
  simp only at h
  generalize (v / Decimal.tenPow 1 (Decimal.leadingExponent v - (count - 1 : Nat))).floor.toNat = m at h hfloor
  split at h
  · split at h
    · cases h
      exact hfloor
    · split at h
      · cases h
        exact Nat.succ_ne_zero m
      · cases h
        simp only
        split
        · exact hfloor
        · exact Nat.succ_ne_zero m
  · cases h
    exact hfloor
  · cases h
    exact Nat.succ_ne_zero m
  · cases h

/-- **The shortest decimal** of a positive number has a digit, unless there is none. -/
theorem digits_shortest {v : Rat} (hv : 0 < v) : (shortest v).digits ≠ 0 ∨ shortest v = ⟨0, 0⟩ := by
  rw [shortest]
  rcases hfound : (List.range 17).findSome? fun k => gridPoint? v (k + 1) with _ | d
  · exact .inr rfl
  · obtain ⟨k, -, hk⟩ := List.exists_of_findSome?_eq_some hfound
    exact .inl (Decimal.digits_trim_ne_zero (digits_gridPoint?_ne_zero hv hk))

end Binary64

namespace Layout

/-- **The parts of a finite double** in JSON, behind its sign. -/
theorem exists_parts_binary64 {x : Binary64} (hx : x.isFinite = true) :
    ∃ (negative : Bool) (whole fraction exponent : List Char), (json.binary64 x).toList =
      (if negative then ['-'] else []) ++ whole ++ fraction ++ exponent ∧ IsParts whole fraction exponent := by
  have hparts : IsParts ['0'] ['.', '0'] [] :=
    ⟨by decide, .inr ⟨['0'], rfl, by decide⟩, .inl rfl, .inl (by decide)⟩
  have hshortest : ∀ {v : Rat}, 0 < v → ∃ whole fraction exponent,
      json.decimal (Binary64.shortest v) = whole ++ fraction ++ exponent ∧ IsParts whole fraction exponent := by
    intro v hv
    rcases Binary64.digits_shortest hv with hd | hnone
    · obtain ⟨whole, fraction, exponent, heq, hparts, -⟩ := exists_parts_decimal json hd
      exact ⟨whole, fraction, exponent, heq, hparts⟩
    · rw [hnone]
      exact ⟨['0'], ['.', '0'], [], by decide, hparts⟩
  cases x with
  | nan => cases hx
  | infinity => cases hx
  | zero negative =>
    refine ⟨negative, ['0'], ['.', '0'], [], ?_, hparts⟩
    cases negative <;> rfl
  | finite v =>
    rw [binary64]
    split
    · next hneg =>
      obtain ⟨whole, fraction, exponent, heq, hparts⟩ := hshortest (neg_pos.2 hneg)
      refine ⟨true, whole, fraction, exponent, ?_, hparts⟩
      rw [String.toList_append, String.toList_ofList, heq]
      simp
    · next hneg =>
      rcases (not_lt.1 hneg).eq_or_lt with rfl | hpos
      · exact ⟨false, ['0'], ['.', '0'], [], by decide +kernel, hparts⟩
      · obtain ⟨whole, fraction, exponent, heq, hparts⟩ := hshortest hpos
        refine ⟨false, whole, fraction, exponent, ?_, hparts⟩
        rw [String.toList_ofList, heq]
        simp

end Layout
end ScriptGrader
