/-!
# Double-precision numbers, exactly

A double is a special value, a signed zero, or the nonzero rational that
it stands for. Arithmetic is exact arithmetic on rationals followed by
one rounding to the nearest double, so that no operation here depends on
a machine. Comparison is comparison of the rationals: a double and an
integer are equal exactly when they are the same number.
-/

namespace ScriptGrader

/-- A number of the IEEE double-precision format. -/
inductive Binary64
  /-- The result of an operation without a value. -/
  | nan
  /-- What is too large for a finite double. -/
  | infinity (negative : Bool)
  /-- Zero keeps its sign. -/
  | zero (negative : Bool)
  /-- A nonzero finite double, as the number it is. -/
  | finite (value : Rat)
  deriving DecidableEq, Repr, Inhabited

namespace Binary64

/-- The quotient rounded to the nearest integer, a half to the even one. -/
def roundHalfEven (num den : Nat) : Nat :=
  let q := num / den
  let r := num % den
  if 2 * r < den then q
  else if den < 2 * r then q + 1
  else if q % 2 = 0 then q else q + 1

/-- `num / den` divided by `2 ^ exp`, as a quotient of naturals. -/
def scaled (num den : Nat) (exp : Int) : Nat × Nat :=
  if 0 ≤ exp then (num, den * Nat.pow 2 exp.toNat) else (num * Nat.pow 2 (-exp).toNat, den)

/-- The least exponent of a double's last bit. -/
def minExponent : Int := -1074

/-- The exponent of the last bit of the doubles next to `num / den`: the
one that leaves 53 bits before the point, but never below the least. -/
def lastBit (num den : Nat) : Int :=
  let guess : Int := (num.log2 : Int) - den.log2 - 53
  let (n, d) := scaled num den guess
  let exact := if Nat.pow 2 53 * d ≤ n then guess + 1 else guess
  max exact minExponent

/-- `m * 2 ^ exp`. -/
def twoPow (m : Nat) (exp : Int) : Rat :=
  if 0 ≤ exp then ((m * Nat.pow 2 exp.toNat : Nat) : Rat) else mkRat m (Nat.pow 2 (-exp).toNat)

/-- The first power of two above all finite doubles. -/
def overflowBound : Rat := ((Nat.pow 2 1024 : Nat) : Rat)

/-- The double nearest to a number, the even one of two; what rounds to
`2 ^ 1024` or more becomes an infinity. `negative` is the sign of zero
when the number itself is zero. -/
def round (q : Rat) (negative : Bool) : Binary64 :=
  let num := q.num.natAbs
  if num = 0 then .zero negative
  else
    let exp := lastBit num q.den
    let (n, d) := scaled num q.den exp
    let v := twoPow (roundHalfEven n d) exp
    if v = 0 then .zero (decide (q < 0))
    else if overflowBound ≤ v then .infinity (decide (q < 0))
    else .finite (if q < 0 then -v else v)

/-- The number that a finite double stands for. -/
def rational? : Binary64 → Option Rat
  | .zero _ => some 0
  | .finite v => some v
  | _ => none

/-- The double nearest to an integer, unless the integer is too large. -/
def ofInt? (n : Int) : Option Binary64 :=
  match round (n : Rat) false with
  | .infinity _ => none
  | x => some x

/-- The sign bit; a number without a value has none. -/
def isNegative : Binary64 → Bool
  | .nan => false
  | .infinity s => s
  | .zero s => s
  | .finite v => decide (v < 0)

def neg : Binary64 → Binary64
  | .nan => .nan
  | .infinity s => .infinity (!s)
  | .zero s => .zero (!s)
  | .finite v => .finite (-v)

def add : Binary64 → Binary64 → Binary64
  | .nan, _ => .nan
  | _, .nan => .nan
  | .infinity s, .infinity t => if s = t then .infinity s else .nan
  | .infinity s, _ => .infinity s
  | _, .infinity s => .infinity s
  | .zero s, .zero t => .zero (s && t)
  | .zero _, y => y
  | x, .zero _ => x
  | .finite v, .finite w => round (v + w) false

def mul : Binary64 → Binary64 → Binary64
  | .nan, _ => .nan
  | _, .nan => .nan
  | .infinity _, .zero _ => .nan
  | .zero _, .infinity _ => .nan
  | .infinity s, y => .infinity (s != y.isNegative)
  | x, .infinity s => .infinity (x.isNegative != s)
  | .zero s, y => .zero (s != y.isNegative)
  | x, .zero s => .zero (x.isNegative != s)
  | .finite v, .finite w => round (v * w) false

instance : Neg Binary64 := ⟨neg⟩
instance : Add Binary64 := ⟨add⟩
instance : Mul Binary64 := ⟨mul⟩

/-- **Numeric equality.** A number without a value equals nothing, and
the two zeros are equal. -/
def same : Binary64 → Binary64 → Bool
  | .infinity s, .infinity t => s = t
  | x, y =>
    match x.rational?, y.rational? with
    | some v, some w => v = w
    | _, _ => false

/-- A double equals an integer when it is that integer. -/
def isInt (x : Binary64) (n : Int) : Bool :=
  match x.rational? with
  | some v => v = (n : Rat)
  | none => false

/-- At most zero; a number without a value is not. -/
def atMostZero : Binary64 → Bool
  | .nan => false
  | .infinity s => s
  | .zero _ => true
  | .finite v => decide (v ≤ 0)

/-- The strict order of numbers; a number without a value is in no relation. -/
def less : Binary64 → Binary64 → Bool
  | .nan, _ => false
  | _, .nan => false
  | .infinity s, .infinity t => s && !t
  | .infinity s, _ => s
  | _, .infinity s => !s
  | x, y =>
    match x.rational?, y.rational? with
    | some v, some w => decide (v < w)
    | _, _ => false

/-- Neither infinite nor without a value. -/
def isFinite (x : Binary64) : Bool := x.rational?.isSome

theorem same_self_iff (x : Binary64) : x.same x = true ↔ x ≠ .nan := by
  cases x <;> simp [same, rational?]

end Binary64
end ScriptGrader
