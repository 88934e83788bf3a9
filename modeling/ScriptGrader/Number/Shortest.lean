import ScriptGrader.Number.Binary64

/-!
# The shortest decimal that reads back

A finite double owns the interval of numbers that round to it. Its short
form is the decimal of fewest digits inside that interval, and the one
nearest to the double among those. The search asks, for one digit, two
digits and so on, whether one of the double's two neighbours on that
decimal grid lies in the interval: if any point of the grid does, one of
these two does.
-/

namespace ScriptGrader

/-- `digits * 10 ^ exponent`. -/
structure Decimal where
  digits : Nat
  exponent : Int
  deriving DecidableEq, Repr, Inhabited

namespace Decimal

/-- `m * 10 ^ exp` as a rational. -/
def tenPow (m : Nat) (exp : Int) : Rat :=
  if 0 ≤ exp then ((m * Nat.pow 10 exp.toNat : Nat) : Rat) else mkRat m (Nat.pow 10 (-exp).toNat)

/-- The number that a decimal stands for. -/
def value (d : Decimal) : Rat := tenPow d.digits d.exponent

/-- How many decimal digits a natural number has; zero has one. -/
def digitCount (n : Nat) : Nat := (Nat.toDigits 10 n).length

/-- The exponent of the first digit of a positive number. -/
def leadingExponent (q : Rat) : Int :=
  let num := q.num.natAbs
  let guess : Int := (digitCount num : Int) - digitCount q.den
  if tenPow 1 guess ≤ q then guess else guess - 1

/-- The same number without zeros at the end of its digits. -/
def trim (d : Decimal) : Decimal :=
  go (digitCount d.digits) d
where
  go : Nat → Decimal → Decimal
    | 0, d => d
    | n + 1, d =>
      if d.digits ≠ 0 ∧ d.digits % 10 = 0 then go n ⟨d.digits / 10, d.exponent + 1⟩ else d

end Decimal

namespace Binary64

/-- The numbers that round to the positive double `v`: the two ends, and
whether the ends belong to it. -/
def interval (v : Rat) : Rat × Rat × Bool :=
  let exp := lastBit v.num.natAbs v.den
  let (n, d) := scaled v.num.natAbs v.den exp
  let m := n / d
  let half := twoPow 1 (exp - 1)
  let below := if m = Nat.pow 2 52 ∧ minExponent < exp then twoPow 1 (exp - 2) else half
  (v - below, v + half, m % 2 = 0)

/-- The neighbour of `v` on the grid of `count` digits that lies in the
interval, the nearer one of two, the even one of two at one distance. -/
def gridPoint? (v : Rat) (count : Nat) : Option Decimal :=
  let (low, high, closed) := interval v
  let exp := Decimal.leadingExponent v - (count - 1 : Nat)
  let unit := Decimal.tenPow 1 exp
  let m := (v / unit).floor.toNat
  let inside (q : Rat) : Bool := if closed then low ≤ q && q ≤ high else low < q && q < high
  let down := Decimal.tenPow m exp
  let up := Decimal.tenPow (m + 1) exp
  match inside down, inside up with
  | true, true =>
    if v - down < up - v then some ⟨m, exp⟩
    else if up - v < v - down then some ⟨m + 1, exp⟩
    else some ⟨if m % 2 = 0 then m else m + 1, exp⟩
  | true, false => some ⟨m, exp⟩
  | false, true => some ⟨m + 1, exp⟩
  | false, false => none

/-- The shortest decimal of a positive double; seventeen digits always suffice. -/
def shortest (v : Rat) : Decimal :=
  (((List.range 17).findSome? fun k => gridPoint? v (k + 1)).getD ⟨0, 0⟩).trim

end Binary64
end ScriptGrader
