import ScriptGrader.Text.Charset
import ScriptGrader.Text.Utf8

/-!
# Texts in Unicode encodings

Reading bytes so that nothing fails: for bytes that are no character, there
is one replacement character for as many of them as could begin one.
-/

namespace ScriptGrader.Text

/-- What stands for bytes that are no character. -/
def replacement : Char := '\ufffd'

/-- The character with a code, or what stands for it. -/
def charOf (code : Nat) : Char := if code.isValidChar then Char.ofNat code else replacement

/-- The number that bytes stand for. -/
def ByteOrder.number (order : ByteOrder) (bytes : List UInt8) : Nat :=
  (match order with
    | .little => bytes.reverse
    | .big => bytes).foldl (fun n (b : UInt8) => n * 256 + b.toNat) 0

namespace Charset

/-! ## UTF-8 -/

/-- The text of bytes in UTF-8. -/
def ofUtf8 (bytes : List UInt8) : List Char :=
  go bytes.length bytes []
where
  go : Nat → List UInt8 → List Char → List Char
    | 0, _, done => done.reverse
    | _, [], done => done.reverse
    | fuel + 1, b :: r, done =>
      if b.toNat < 0x80 then go fuel r (Char.ofNat b.toNat :: done)
      else
        match leadByte? b with
        | none => go fuel r (replacement :: done)
        | some (more, low, high, bits) =>
          match continuation more low high bits 1 r with
          | .ok (code, rest) => go fuel rest (Char.ofNat code :: done)
          | .error count => go fuel (r.drop (count - 1)) (replacement :: done)

/-- The text of bytes in UTF-8 behind a mark. A mark that is cut off is no text either. -/
def ofMarkedUtf8 : List UInt8 → List Char
  | [0xef] | [0xef, 0xbb] => []
  | 0xef :: 0xbb :: 0xbf :: r => ofUtf8 r
  | r => ofUtf8 r

/-! ## UTF-16 and UTF-32 -/

/-- The text of bytes in UTF-16. -/
def ofUtf16 (order : ByteOrder) : List UInt8 → List Char
  | [] => []
  | [_] => [replacement]
  | a :: b :: r =>
    let n := ByteOrder.number order [a, b]
    if n < 0xd800 ∨ 0xe000 ≤ n then charOf n :: ofUtf16 order r
    else if 0xdc00 ≤ n then replacement :: ofUtf16 order r
    else
      match r with
      | c :: d :: rest =>
        let m := ByteOrder.number order [c, d]
        if 0xdc00 ≤ m ∧ m < 0xe000 then
          charOf (0x10000 + (n - 0xd800) * 0x400 + (m - 0xdc00)) :: ofUtf16 order rest
        else replacement :: ofUtf16 order (c :: d :: rest)
      | _ => [replacement]

/-- The text of bytes in UTF-32. -/
def ofUtf32 (order : ByteOrder) : List UInt8 → List Char
  | [] => []
  | a :: b :: c :: d :: r => charOf (ByteOrder.number order [a, b, c, d]) :: ofUtf32 order r
  | _ => [replacement]

/-! ## UTF-7 -/

/-- The value of a digit in base 64. -/
def digit64? (b : UInt8) : Option Nat :=
  let n := b.toNat
  if 65 ≤ n ∧ n ≤ 90 then some (n - 65)
  else if 97 ≤ n ∧ n ≤ 122 then some (n - 71)
  else if 48 ≤ n ∧ n ≤ 57 then some (n + 4)
  else if n = 43 then some 62
  else if n = 47 then some 63
  else none

/-- What is known of a run of digits: bits that are no character yet, their
count, and the first half of a pair. -/
structure Shift where
  value : Nat
  count : Nat
  half : Option Nat
  deriving Repr

namespace Shift

def start : Shift := ⟨0, 0, none⟩

/-- The first half of a pair that gets no second half. -/
def single (s : Shift) : List Char := if s.half.isSome then [replacement] else []

/-- One digit more, and the characters that it completes. -/
def push (s : Shift) (digit : Nat) : Shift × List Char :=
  let value := s.value * 64 + digit
  let count := s.count + 6
  if count < 16 then (⟨value, count, s.half⟩, [])
  else
    let unit := value / Nat.pow 2 (count - 16)
    let rest (half : Option Nat) : Shift := ⟨value % Nat.pow 2 (count - 16), count - 16, half⟩
    let isLow := 0xdc00 ≤ unit && unit < 0xe000
    match s.half, isLow with
    | some high, true => (rest none, [charOf (0x10000 + (high - 0xd800) * 0x400 + (unit - 0xdc00))])
    | _, _ =>
      if 0xd800 ≤ unit ∧ unit < 0xdc00 then (rest (some unit), s.single)
      else (rest none, s.single ++ [charOf unit])

/-- Is something left that does not belong to a character? -/
def isRagged (s : Shift) : Bool := 6 ≤ s.count || (0 < s.count && s.value ≠ 0)

end Shift

/-- The text of bytes in UTF-7; `shift` is the run of digits, if one is open. -/
def ofUtf7 : Option Shift → List UInt8 → List Char
  | none, [] => []
  | some s, [] => if s.half.isSome || s.isRagged then [replacement] else []
  | some s, b :: r =>
    match digit64? b with
    | some d =>
      let (s, cs) := s.push d
      cs ++ ofUtf7 (some s) r
    | none =>
      if s.isRagged then replacement :: ofUtf7 none r
      else if b = 45 then s.single ++ ofUtf7 none r
      else if 0x80 ≤ b.toNat then replacement :: ofUtf7 none r
      else s.single ++ Char.ofNat b.toNat :: ofUtf7 none r
  | none, b :: r =>
    if b = 43 then
      match r with
      | 45 :: r => '+' :: ofUtf7 none r
      | [] => []
      | c :: rest =>
        if (digit64? c).isSome then ofUtf7 (some .start) (c :: rest)
        else replacement :: ofUtf7 none rest
    else (if b.toNat < 0x80 then Char.ofNat b.toNat else replacement) :: ofUtf7 none r

end Charset
end ScriptGrader.Text
