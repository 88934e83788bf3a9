import ScriptGrader.Script.Character

/-!
# Pieces of a regular expression

The body of a regular expression is read in two steps. First the codes
that are written as `\uXXXX` or between braces become the characters
themselves, wherever they stand and whatever stands before them, so a code
may well give a bracket or a backslash that counts as one. Then a backslash
and the character after it become one piece.
-/

namespace ScriptGrader.Script.RegexPattern

/-! ## Codes -/

/-- The code between braces after a backslash and a `u`, which stand before `cs`. -/
def bracedCode? (cs : List Char) : Option (Nat × List Char) :=
  let digits := cs.takeWhile isHexDigit
  match digits, cs.dropWhile isHexDigit with
  | _ :: _, '\x7d' :: r => some (digits.foldl (fun n c => n * 16 + (hexValue? c).getD 0) 0, r)
  | _, _ => none

def fourDigits? (cs : List Char) : Option (Nat × List Char) :=
  let digits := cs.take 4
  if digits.length = 4 && digits.all isHexDigit then
    some (digits.foldl (fun n c => n * 16 + (hexValue? c).getD 0) 0, cs.drop 4)
  else none

/-- Stands for every code beyond the first plane. -/
def beyond : Nat := 0xffff

/-- The codes of a body. There are none if a written code is too large. -/
def codes? (body : List Char) : Option (List Nat) := go body.length body
where
  go : Nat → List Char → Option (List Nat)
    | _, [] => some []
    | 0, cs => some (cs.map Char.toNat)
    | fuel + 1, c :: r =>
      let written? :=
        match c, r with
        | '\\', 'u' :: '\x7b' :: r => bracedCode? r
        | '\\', 'u' :: r => fourDigits? r
        | _, _ => none
      match written? with
      | none => (go fuel r).map (c.toNat :: ·)
      | some (code, rest) =>
        if 0x10ffff < code then none
        else (go fuel rest).map ((if code < 0x10000 then code else beyond) :: ·)

/-- Two halves of a character beyond the first plane become one code. -/
def joinHalves : List Nat → List Nat
  | a :: b :: r =>
    if 0xd800 ≤ a ∧ a < 0xdc00 ∧ 0xdc00 ≤ b ∧ b < 0xe000 then beyond :: joinHalves r
    else a :: joinHalves (b :: r)
  | r => r

/-! ## Pieces -/

/-- A character, a character after a backslash, or a code that is no character. -/
inductive Piece
  | plain (c : Char)
  | escaped (c : Char)
  | half (code : Nat)
  deriving DecidableEq, Repr

namespace Piece

def isPlain (p : Char → Bool) : Piece → Bool
  | plain c => p c
  | _ => false

/-- The character of a piece that has no backslash. -/
def char? : Piece → Option Char
  | plain c => some c
  | _ => none

end Piece

/-- A code as a piece, made by `make` if it is a character. -/
def piece (make : Char → Piece) (code : Nat) : Piece :=
  if h : code.isValidChar then make (Char.ofNatAux code h) else .half code

/-- The pieces of a body; a backslash needs something after it. -/
def pieces? : List Nat → Option (List Piece)
  | [] => some []
  | [c] => if c = 0x5c then none else some [piece .plain c]
  | c :: d :: r =>
    if c = 0x5c then (pieces? r).map (piece .escaped d :: ·)
    else (pieces? (d :: r)).map (piece .plain c :: ·)

/-- The pieces of a body as it is written. -/
def read? (body : List Char) : Option (List Piece) := (codes? body).bind fun cs => pieces? (joinHalves cs)

/-- The text of pieces without backslashes, up to a mark, and what stands behind the mark. -/
def textUpTo? (mark : Char) (us : List Piece) : Option (List Char × List Piece) :=
  match us.dropWhile (· ≠ .plain mark) with
  | [] => none
  | _ :: rest => ((us.takeWhile (· ≠ .plain mark)).mapM Piece.char?).map (·, rest)

end ScriptGrader.Script.RegexPattern
