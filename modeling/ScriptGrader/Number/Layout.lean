import ScriptGrader.Number.Digit
import ScriptGrader.Number.Shortest

/-!
# How numbers are written and read

The digits of a double come from its shortest decimal; where the point
stands, when an exponent is written and what the special values are
called is one `Layout`. Reading accepts what a person may type: blanks
around the number, a sign, single underscores between digits, a point, an
exponent, and the names of the special values.
-/

namespace ScriptGrader

/-- The decisions of a textual number format. -/
structure Layout where
  /-- The least exponent of a first digit that is written without an exponent. -/
  positionalFrom : Int
  /-- The first exponent of a first digit that is written with an exponent. -/
  positionalTo : Int
  /-- The least number of digits of an exponent. -/
  exponentDigits : Nat
  nan : String
  infinity : String
  deriving Repr

namespace Layout

/-- Values shown to people: an exponent below `1e-4` and from `1e+16` on. -/
def plain : Layout := ⟨-4, 16, 2, "nan", "inf"⟩

/-- Numbers in JSON text differ only in the names of the special values. -/
def json : Layout := { plain with nan := "NaN", infinity := "Infinity" }

/-- A natural number in decimal digits. -/
def nat (n : Nat) : List Char := Nat.toDigits 10 n

/-- Digits filled up with zeros on the left. -/
def padLeft (width : Nat) (cs : List Char) : List Char :=
  List.replicate (width - cs.length) '0' ++ cs

/-- The digits of a positive decimal, laid out. -/
def decimal (l : Layout) (d : Decimal) : List Char :=
  let ds := nat d.digits
  let lead : Int := d.exponent + (ds.length - 1 : Nat)
  if l.positionalFrom ≤ lead ∧ lead < l.positionalTo then
    if d.exponent ≥ 0 then ds ++ List.replicate d.exponent.toNat '0' ++ ['.', '0']
    else if lead < 0 then ['0', '.'] ++ List.replicate (-lead - 1).toNat '0' ++ ds
    else ds.take (lead.toNat + 1) ++ ['.'] ++ ds.drop (lead.toNat + 1)
  else
    let mantissa := match ds with
      | [] => []
      | [c] => [c]
      | c :: r => c :: '.' :: r
    let sign := if lead < 0 then '-' else '+'
    mantissa ++ ['e', sign] ++ padLeft l.exponentDigits (nat lead.natAbs)

/-- The text of a double. -/
def binary64 (l : Layout) : Binary64 → String
  | .nan => l.nan
  | .infinity s => (if s then "-" else "") ++ l.infinity
  | .zero s => (if s then "-" else "") ++ "0.0"
  | .finite v =>
    if v < 0 then "-" ++ String.ofList (l.decimal (Binary64.shortest (-v)))
    else String.ofList (l.decimal (Binary64.shortest v))

/-- The most digits that an integer is written or read with. -/
def digitLimit : Nat := 4300

/-- What is said of an integer that would be written with more digits. -/
def tooManyDigits : String :=
  s!"Exceeds the limit ({digitLimit} digits) for integer string conversion; use sys.set_int_max_str_digits() to increase the limit"

/-- The text of an integer. -/
def int (n : Int) : String :=
  if n < 0 then "-" ++ String.ofList (nat n.natAbs) else String.ofList (nat n.natAbs)

end Layout

namespace Numeral

/-- The value of a digit in a base of at most 36; beyond nine, letters are digits. -/
def digitIn? (base : Nat) (c : Char) : Option Nat :=
  let v? :=
    if 'a' ≤ c ∧ c ≤ 'z' then some (c.toNat - 'a'.toNat + 10)
    else if 'A' ≤ c ∧ c ≤ 'Z' then some (c.toNat - 'A'.toNat + 10)
    else digit? c
  v?.filter (· < base)

/-- Blanks of any script around a number are skipped. -/
def isBlank (c : Char) : Bool :=
  let n := c.toNat
  (0x09 ≤ n && n ≤ 0x0d) || n == 0x20 || n == 0x85 || n == 0xa0 || n == 0x1680 ||
  (0x2000 ≤ n && n ≤ 0x200a) || n == 0x2028 || n == 0x2029 || n == 0x202f || n == 0x205f ||
  n == 0x3000

/-- The text without blanks at its ends. -/
def strip (cs : List Char) : List Char :=
  ((cs.dropWhile isBlank).reverse.dropWhile isBlank).reverse

/-- A run of digits with single underscores between digits: the digits
and the rest. -/
def digitRun (isDigit : Char → Bool) : List Char → List Char × List Char
  | [] => ([], [])
  | c :: rest =>
    if isDigit c then
      let (ds, r) := digitRun isDigit rest
      (c :: ds, r)
    else
      match c, rest with
      | '_', d :: _ =>
        if isDigit d then digitRun isDigit rest else ([], c :: rest)
      | _, _ => ([], c :: rest)

/-- As `digitRun`, but not starting with an underscore. -/
def digits (isDigit : Char → Bool) (cs : List Char) : List Char × List Char :=
  match cs with
  | '_' :: _ => ([], cs)
  | _ => digitRun isDigit cs

def natOf (ds : List Char) : Nat :=
  ds.foldl (fun n c => n * 10 + (digit? c).getD 0) 0

/-- A sign at the front: whether it is a minus, and the rest. -/
def sign : List Char → Bool × List Char
  | '-' :: r => (true, r)
  | '+' :: r => (false, r)
  | r => (false, r)

def lower (cs : List Char) : List Char := cs.map Char.toLower

/-- The largest power of ten whose size matters: beyond it every nonzero
number of the given digits is infinite, or zero. -/
def clampExponent (digitCount : Nat) (e : Int) : Int :=
  max (-(digitCount : Int) - 400) (min e 400)

/-- The double nearest to a number in decimal notation. -/
def binary64? (text : String) : Option Binary64 :=
  let (negative, body) := sign (strip text.toList)
  let special := lower body
  if special = "inf".toList ∨ special = "infinity".toList then some (.infinity negative)
  else if special = "nan".toList then some .nan
  else
    let (whole, r₁) := digits isDigit body
    let (fraction, r₂) := match r₁ with
      | '.' :: r => digits isDigit r
      | r => ([], r)
    if whole.isEmpty ∧ fraction.isEmpty then none
    else
      let exponent? : Option (Int × List Char) := match r₂ with
        | c :: r =>
          if c = 'e' ∨ c = 'E' then
            let (minus, r) := sign r
            let (ds, r) := digits isDigit r
            if ds.isEmpty then none
            else some (if minus then -(natOf ds : Int) else natOf ds, r)
          else some (0, r₂)
        | [] => some (0, [])
      match exponent? with
      | some (e, []) =>
        let m := natOf (whole ++ fraction)
        let count := whole.length + fraction.length
        let q := Decimal.tenPow m (clampExponent count (e - fraction.length))
        some (Binary64.round (if negative then -q else q) negative)
      | _ => none

/-- An integer in a base, with single underscores between its digits and,
after the sign, an optional mark `0b`, `0o` or `0x` that agrees with the
base. -/
def int? (base : Nat) (text : String) : Option Int :=
  let (negative, body) := sign (strip text.toList)
  let mark := match base with
    | 2 => some 'b'
    | 8 => some 'o'
    | 16 => some 'x'
    | _ => none
  let body := match body, mark with
    | '0' :: c :: r, some m =>
      if c.toLower = m then (match r with | '_' :: d :: r' => d :: r' | _ => r) else body
    | _, _ => body
  let isDigit := fun c => (digitIn? base c).isSome
  match digits isDigit body with
  | ([], _) => none
  | (ds, []) =>
    let n := ds.foldl (fun n c => n * base + (digitIn? base c).getD 0) 0
    some (if negative then -(n : Int) else n)
  | _ => none

end Numeral
end ScriptGrader
