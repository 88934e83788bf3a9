/-!
# Punycode

A text as letters, digits and hyphens. The ASCII characters come first;
behind a hyphen stand the others, in the order of their codes, as numbers
that say how many steps lie between them. Small numbers get few digits: the
bounds between digits follow the numbers seen so far.
-/

namespace ScriptGrader.Text.Punycode

/-- A digit: letters, then decimal digits. -/
def digit (n : Nat) : Char := if n < 26 then Char.ofNat (97 + n) else Char.ofNat (22 + n)

/-- The first value of a digit at a position that does not end a number. -/
def bound (bias position : Nat) : Nat := max 1 (min 26 (position - bias))

theorem one_le_bound (bias position : Nat) : 1 ≤ bound bias position := Nat.le_max_left _ _

/-- The digits of a number, the lowest first. -/
def number (bias position n : Nat) : List Char :=
  let t := bound bias position
  if n < t then [digit n]
  else digit (t + (n - t) % (36 - t)) :: number bias (position + 36) ((n - t) / (36 - t))
termination_by n
decreasing_by
  have h₁ := one_le_bound bias position
  have h₂ : (n - bound bias position) / (36 - bound bias position) ≤ n - bound bias position :=
    Nat.div_le_self _ _
  omega

/-- Halve a number's weight until it is small, and count the digits that this takes. -/
def adaptFrom (delta position : Nat) : Nat :=
  if 455 < delta then adaptFrom (delta / 35) (position + 36)
  else position + 36 * delta / (delta + 38)
termination_by delta
decreasing_by exact Nat.div_lt_self (by omega) (by omega)

/-- The bias after a number, of which `written` characters are known. -/
def adapt (delta written : Nat) (isFirst : Bool) : Nat :=
  let d := if isFirst then delta / 700 else delta / 2
  adaptFrom (d + d / written) 0

/-- What is known while characters are written. -/
structure State where
  done : List Char
  delta : Nat
  bias : Nat
  written : Nat
  deriving Repr

/-- Pass a character of the text while those with a code are written. -/
def pass (ascii code : Nat) (s : State) (c : Char) : State :=
  if c.toNat < code then { s with delta := s.delta + 1 }
  else if c.toNat = code then
    ⟨s.done ++ number s.bias 36 s.delta, 0, adapt s.delta (s.written + 1) (s.written = ascii),
      s.written + 1⟩
  else s

/-- Write the characters of the codes, in order. -/
def insert (text : List Char) (ascii : Nat) : List Nat → Nat → State → State
  | [], _, s => s
  | code :: codes, next, s =>
    let s := { s with delta := s.delta + (code - next) * (s.written + 1) }
    let s := text.foldl (pass ascii code) s
    insert text ascii codes (code + 1) { s with delta := s.delta + 1 }

/-- The Punycode of a text. -/
def encode (text : List Char) : List Char :=
  let basic := text.filter fun c => c.toNat < 0x80
  let codes := ((text.filter fun c => 0x80 ≤ c.toNat).map Char.toNat).mergeSort.eraseDups
  let s := insert text basic.length codes 0x80 ⟨[], 0, 72, basic.length⟩
  basic ++ (if basic.isEmpty then [] else ['-']) ++ s.done

/-! ## Reading -/

/-- The value of a digit. -/
def value? (c : Char) : Option Nat :=
  let n := c.toNat
  if 'a' ≤ c ∧ c ≤ 'z' then some (n - 97)
  else if 'A' ≤ c ∧ c ≤ 'Z' then some (n - 65)
  else if '0' ≤ c ∧ c ≤ '9' then some (n - 22)
  else none

/-- The number in front of a text, whose digits so far make up `total` with
the next digit's weight `weight`, and the rest. -/
def number? (bias : Nat) : (position weight total : Nat) → List Char → Option (Nat × List Char)
  | _, _, _, [] => none
  | position, weight, total, c :: r => do
    let digit ← value? c
    let total := total + digit * weight
    let t := bound bias position
    if digit < t then return (total, r) else number? bias (position + 36) (weight * (36 - t)) total r

/-- Put the characters of the numbers in their places. `code` is the code
of the last one and `place` the place behind it; every number takes a
character at least, so the text's length bounds the steps. If numbers are
not `exact`, what is wrong with one ends the text, and a code that is too
high is that of a question mark. -/
def insertions? (exact : Bool) : Nat → (done : List Char) → (code place bias : Nat) →
    (isFirst : Bool) → List Char → Option (List Char)
  | 0, done, _, _, _, _, _ => some done
  | _, done, _, _, _, _, [] => some done
  | steps + 1, done, code, place, bias, isFirst, text =>
    match number? bias 36 1 0 text with
    | none => if exact then none else some done
    | some (delta, rest) =>
      let size := done.length + 1
      let code := code + (place + delta) / size
      let place := (place + delta) % size
      let code := if exact || code < 0x110000 then code else '?'.toNat
      if exact && !code.isValidChar then none
      else
        let c := if code.isValidChar then Char.ofNat code else '\ufffd'
        let done := done.take place ++ c :: done.drop place
        insertions? exact steps done code (place + 1) (adapt delta size isFirst) false rest

/-- A text with the characters of numbers, as far as these can be read. -/
def insertAll (basic numbers : List Char) : List Char :=
  (insertions? false numbers.length basic 0x80 0 72 true numbers).getD basic

/-- The text that a Punycode stands for. -/
def decode? (written : List Char) : Option (List Char) :=
  let numbers := (written.reverse.takeWhile (· ≠ '-')).reverse
  let basic := (written.take (written.length - numbers.length)).dropLast
  insertions? true numbers.length basic 0x80 0 72 true numbers

end ScriptGrader.Text.Punycode
