import ScriptGrader.Script.RegexPattern.Group
import ScriptGrader.Text.CharacterName

/-!
# Escapes and sets

What a backslash and the characters behind it stand for, outside and
inside of brackets. An escape that has no meaning is refused if its
character is an ASCII letter, and stands for its character otherwise.
-/

namespace ScriptGrader.Script.RegexPattern

/-! ## Codes -/

/-- So many hexadecimal digits. -/
def hexPieces? : Nat → Nat → List Piece → Option (Nat × List Piece)
  | 0, value, r => some (value, r)
  | count + 1, value, .plain c :: r =>
    match hexValue? c with
    | some d => hexPieces? count (value * 16 + d) r
    | none => none
  | _ + 1, _, _ => none

/-- At most so many octal digits after those read. -/
def octalPieces : Nat → Nat → List Piece → Nat × List Piece
  | count + 1, value, .plain c :: r =>
    if isOctalDigit c then octalPieces count (value * 8 + octalValue c) r else (value, .plain c :: r)
  | _, value, r => (value, r)

/-- The character that has a name between braces. -/
def named? : List Piece → Option (Nat × List Piece)
  | .plain '\x7b' :: r => do
    let (name, rest) ← textUpTo? '\x7d' r
    return ((← Text.CharacterName.code? (String.ofList name)), rest)
  | _ => none

/-- A character given by its code or its name, if the letter begins such an escape. -/
def codeEscape? (c : Char) (r : List Piece) : Option (Option (Nat × List Piece)) :=
  match c with
  | 'x' => some (hexPieces? 2 0 r)
  | 'u' => some (hexPieces? 4 0 r)
  | 'U' => some ((hexPieces? 8 0 r).filter (·.1 ≤ 0x10ffff))
  | 'N' => some (named? r)
  | _ => none

/-- The letters that stand for one character. -/
def isControlLetter (c : Char) : Bool := ['a', 'f', 'n', 'r', 't', 'v'].contains c

/-- The letters that stand for a set of characters. -/
def isSetLetter (c : Char) : Bool := ['d', 'D', 's', 'S', 'w', 'W'].contains c

/-! ## Outside of sets -/

/-- What a repetition may follow. -/
inductive ItemKind
  /-- A place between characters. -/
  | place
  | repetition
  | other
  deriving DecidableEq, Repr

/-- A part of a body that stands for itself. -/
structure Item where
  kind : ItemKind
  width : Width

namespace Item

def single : Item := ⟨.other, .one⟩

end Item

/-- The item that a decimal digit after a backslash begins: a code of three
octal digits, or else the number of a group. -/
def numberEscape? (g : Groups) (c : Char) (r : List Piece) : Option (Item × List Piece) :=
  let reference (n : Nat) (rest : List Piece) : Option (Item × List Piece) :=
    (g.closed? n).map fun w => (⟨.other, w⟩, rest)
  match r with
  | .plain d :: r₁ =>
    if isDecimalDigit d then
      let two := octalValue c * 10 + octalValue d
      match r₁ with
      | .plain e :: r₂ =>
        if isOctalDigit c && isOctalDigit d && isOctalDigit e then
          if '3' < c then none else some (.single, r₂)
        else reference two r₁
      | _ => reference two r₁
    else reference (octalValue c) r
  | _ => reference (octalValue c) r

/-- The item that an escape outside of a set stands for. -/
def escape? (g : Groups) (c : Char) (r : List Piece) : Option (Item × List Piece) :=
  if ['A', 'b', 'B', 'Z'].contains c then some (⟨.place, .zero⟩, r)
  else if isSetLetter c || isControlLetter c then some (.single, r)
  else
    match codeEscape? c r with
    | some code => code.map fun (_, rest) => (.single, rest)
    | none =>
      if c = '0' then some (.single, (octalPieces 2 0 r).2)
      else if isDecimalDigit c then numberEscape? g c r
      else if isAsciiLetter c then none
      else some (.single, r)

/-! ## Sets -/

/-- The code of a control letter; `b` is one in sets only. -/
def controlCode : Char → Nat
  | 'a' => 7
  | 'b' => 8
  | 't' => 9
  | 'n' => 10
  | 'v' => 11
  | 'f' => 12
  | _ => 13

/-- A member of a set: one character, by its code, or a set of them. -/
def member? : List Piece → Option (Option Nat × List Piece)
  | [] => none
  | .plain c :: r => some (some c.toNat, r)
  | .half n :: r => some (some n, r)
  | .escaped c :: r =>
    if isSetLetter c then some (none, r)
    else if isControlLetter c || c = 'b' then some (some (controlCode c), r)
    else
      match codeEscape? c r with
      | some code => code.map fun (n, rest) => (some n, rest)
      | none =>
        if isOctalDigit c then
          let (n, rest) := octalPieces 2 (octalValue c) r
          if n ≤ 0o377 then some (some n, rest) else none
        else if isAsciiLetter c || isDecimalDigit c then none
        else some (some c.toNat, r)

/-- What comes after a set. Its first member may be a closing bracket. -/
def setRest? : Nat → Bool → List Piece → Option (List Piece)
  | 0, _, _ => none
  | fuel + 1, hasMember, us =>
    match us with
    | [] => none
    | u :: r =>
      if u = .plain ']' && hasMember then some r
      else
        match member? us with
        | none => none
        | some (low, rest) =>
          match rest with
          | .plain '-' :: .plain ']' :: r => some r
          | .plain '-' :: r =>
            match low, member? r with
            | some a, some (some b, rest) => if b < a then none else setRest? fuel true rest
            | _, _ => none
          | _ => setRest? fuel true rest

end ScriptGrader.Script.RegexPattern
