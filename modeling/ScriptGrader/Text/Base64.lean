/-!
# Bytes in base 64

Four characters stand for three bytes. Characters outside the alphabet
are passed over; two or three characters at the end must be filled up by
signs `=`, behind which nothing is read.
-/

namespace ScriptGrader.Text.Base64

/-- Why a text is not in base 64. -/
inductive Error
  /-- One character is left over; the number of characters is given. -/
  | single (count : Nat)
  | padding
  deriving DecidableEq, Repr

namespace Error

def message : Error → String
  | single n =>
    s!"Invalid base64-encoded string: number of data characters ({n}) cannot be 1 more than a multiple of 4"
  | padding => "Incorrect padding"

end Error

/-- The number that a character stands for. -/
def digit? (c : Char) : Option Nat :=
  let n := c.toNat
  if 'A' ≤ c && c ≤ 'Z' then some (n - 65)
  else if 'a' ≤ c && c ≤ 'z' then some (n - 71)
  else if '0' ≤ c && c ≤ '9' then some (n + 4)
  else if c = '+' then some 62
  else if c = '/' then some 63
  else none

/-- The whole bytes in a group of up to four digits. -/
def groupBytes : List Nat → List UInt8
  | [a, b] => [UInt8.ofNat (a * 4 + b / 16)]
  | [a, b, c] => [UInt8.ofNat (a * 4 + b / 16), UInt8.ofNat (b % 16 * 16 + c / 4)]
  | [a, b, c, d] =>
    [UInt8.ofNat (a * 4 + b / 16), UInt8.ofNat (b % 16 * 16 + c / 4), UInt8.ofNat (c % 4 * 64 + d)]
  | _ => []

/-- Decode characters after `groups` whole groups; `group` holds the
digits of the open one and `fill` counts the signs since the last digit. -/
def decodeFrom (groups : Nat) (group : List Nat) (fill : Nat) :
    List Char → Except Error (List UInt8)
  | [] =>
    match group with
    | [] => .ok []
    | [_] => .error (.single (groups * 4 + 1))
    | _ => .error .padding
  | c :: r =>
    if c = '=' then
      if 2 ≤ group.length then
        if 4 ≤ group.length + fill + 1 then .ok (groupBytes group)
        else decodeFrom groups group (fill + 1) r
      else decodeFrom groups group fill r
    else
      match digit? c with
      | none => decodeFrom groups group fill r
      | some d =>
        if group.length = 3 then
          (decodeFrom (groups + 1) [] 0 r).map (groupBytes (group ++ [d]) ++ ·)
        else decodeFrom groups (group ++ [d]) 0 r

/-- The bytes that a text stands for. -/
def decode (s : String) : Except Error (List UInt8) := decodeFrom 0 [] 0 s.toList

end ScriptGrader.Text.Base64
