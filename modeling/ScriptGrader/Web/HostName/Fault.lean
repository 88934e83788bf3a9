import ScriptGrader.Text.Quoted

/-!
# Faults of labels

Why a label of a host name may not be registered.
-/

namespace ScriptGrader.Web.HostName

/-- Why a label may not be registered. Positions are counted from one. -/
inductive LabelFault
  | empty
  | tooLong
  | nameTooLong
  | notComposed
  | hyphensInside
  | hyphenAtEnd
  | startsWithMark
  | letter (c : Char) (position : Nat) (label : List Char)
  /-- A sign that may stand beside others only. -/
  | sign (c : Char) (position : Nat) (label : List Char)
  /-- A sign that joins letters or keeps them apart. -/
  | joiner (c : Char) (position : Nat) (label : List Char)
  | unknownDirection (label : List Char) (position : Nat)
  | firstDirection (label : List Char)
  | wrongDirection (position : Nat) (isRight : Bool)
  | mixedNumbers
  | lastDirection
  | emptyCode
  | codeEndsWithHyphen
  | code
  deriving DecidableEq, Repr

namespace LabelFault

/-- A character by its number. -/
def number (c : Char) : String :=
  let digits := (Nat.toDigits 16 c.toNat).map Char.toUpper
  "U+" ++ String.ofList (List.replicate (4 - digits.length) '0' ++ digits)

def quoted (label : List Char) : String := Text.quoted (String.ofList label)

def message : LabelFault → String
  | empty => "Empty Label"
  | tooLong => "Label too long"
  | nameTooLong => "Domain too long"
  | notComposed => "Label must be in Normalization Form C"
  | hyphensInside => "Label has disallowed hyphens in 3rd and 4th position"
  | hyphenAtEnd => "Label must not start or end with a hyphen"
  | startsWithMark => "Label begins with an illegal combining character"
  | letter c n l => s!"Codepoint {number c} at position {n} of {quoted l} not allowed"
  | sign c n l => s!"Codepoint {number c} not allowed at position {n} in {quoted l}"
  | joiner c n l => s!"Unknown codepoint adjacent to joiner {number c} at position {n} in {quoted l}"
  | unknownDirection l n => s!"Unknown directionality in label {quoted l} at position {n}"
  | firstDirection l => s!"First codepoint in label {quoted l} must be directionality L, R or AL"
  | wrongDirection n isRight =>
    let order := if isRight then "right-to-left" else "left-to-right"
    s!"Invalid direction for codepoint at position {n} in a {order} label"
  | mixedNumbers => "Can not mix numeral types in a right-to-left label"
  | lastDirection => "Label ends with illegal codepoint directionality"
  | emptyCode => "Malformed A-label, no Punycode eligible content found"
  | codeEndsWithHyphen => "A-label must not end with a hyphen"
  | code => "Invalid A-label"

end LabelFault

/-- What checking a label yields. -/
abbrev Checked := Except LabelFault Unit

/-- Refuse a label if something is wrong. -/
def refuseIf (isWrong : Bool) (f : LabelFault) : Checked := if isWrong then .error f else .ok ()

end ScriptGrader.Web.HostName
