import ScriptGrader.Document.Node
import ScriptGrader.Document.Tag
import ScriptGrader.Text.Quoted
import ScriptGrader.Text.Base64
import ScriptGrader.Text.LowerCase
import ScriptGrader.Value.Basic

/-!
# The values of texts

What a text stands for when its tag says that it is a number, a truth
value, a timestamp or bytes. A plain text that got its tag by the way it
is written nearly always has a value; a text that was given a tag may not.
-/

namespace ScriptGrader.Document.ScalarValue

/-- The text with all lines between digits left out. -/
def withoutLines (s : String) : List Char := s.toList.filter (· ≠ '_')

/-- A sign at the front: whether it is a minus, and the rest. -/
def signed : List Char → Bool × List Char
  | '-' :: r => (true, r)
  | '+' :: r => (false, r)
  | r => (false, r)

/-- An integer in a base. Decimal integers may not have too many digits. -/
def integer (base : Nat) (cs : List Char) : Except ScalarFault Int :=
  let text := String.ofList cs
  let body := (Numeral.sign (Numeral.strip cs)).2
  let count := (Numeral.digits Numeral.isDigit body).1.length
  if base = 10 ∧ Layout.digitLimit < count then .error (.tooManyDigits count)
  else
    match Numeral.int? base text with
    | some n => .ok n
    | none => .error (.notInteger base text)

/-- Integers in sixties: each counts sixty times what the next one does. -/
def sixties (parts : List Int) : Int := parts.foldl (fun n d => n * 60 + d) 0

/-- The integer that a text without sign stands for. -/
def magnitude (cs : List Char) : Except ScalarFault Int :=
  match cs with
  | [] => .error .noDigits
  | ['0'] => .ok 0
  | '0' :: 'b' :: r => integer 2 r
  | '0' :: 'x' :: r => integer 16 r
  | '0' :: _ => integer 8 cs
  | _ =>
    if cs.contains ':' then ((Tag.colonParts cs).mapM (integer 10)).map sixties
    else integer 10 cs

def int (s : String) : Except ScalarFault Int :=
  match withoutLines s with
  | [] => .error .noDigits
  | cs =>
    let (negative, body) := signed cs
    (magnitude body).map fun n => if negative then -n else n

def double (cs : List Char) : Except ScalarFault Binary64 :=
  match Numeral.binary64? (String.ofList cs) with
  | some x => .ok x
  | none => .error (.notFloat (String.ofList cs))

/-- Doubles in sixties, added from the last one on. -/
def sixtyFloats : Nat → Binary64 → List Binary64 → Except ScalarFault Binary64
  | _, sum, [] => .ok sum
  | base, sum, d :: r =>
    match Binary64.ofInt? base with
    | none => .error .tooLarge
    | some b => sixtyFloats (base * 60) (sum + d * b) r

/-- The text of a double as it is read: in lower case and without lines. -/
def floatText (s : String) : List Char := (Text.lower (String.ofList (withoutLines s))).toList

/-- Is the text the name that a document has for numbers without a value? -/
def isNamedNan (s : String) : Bool := (signed (floatText s)).2 = ".nan".toList

def float (s : String) : Except ScalarFault Binary64 :=
  match floatText s with
  | [] => .error .noDigits
  | cs =>
    let (negative, body) := signed cs
    let size :=
      if body = ".inf".toList then .ok (.infinity false)
      else if body = ".nan".toList then .ok .nan
      else if body.contains ':' then do
        let ds ← (Tag.colonParts body).mapM double
        sixtyFloats 1 (.zero false) ds.reverse
      else double body
    size.map fun x => if negative then -x else x

def bool (s : String) : Except ScalarFault Bool :=
  let t := Text.lower s
  if ["yes", "true", "on"].contains t then .ok true
  else if ["no", "false", "off"].contains t then .ok false
  else .error (.notBool t)

def timestamp (s : String) : Except ScalarFault Value :=
  let cs := match s.toList.reverse with
    | '\n' :: r => r.reverse
    | _ => s.toList
  match Timestamp.parse? cs with
  | none => .error .notTimestamp
  | some t =>
    let date := Date.ofNumbers? t.year (Timestamp.number t.month) (Timestamp.number t.day)
    let value :=
      match t.time with
      | none => date.map Value.date
      | some time =>
        (Moment.ofNumbers? date time.hour time.minute time.second time.microsecond
          time.zone.minutes?).map Value.moment
    value.mapError .calendar

def binary (s : String) : Except Problem (List UInt8) :=
  match Text.beyondAscii s.toList with
  | (_, []) => (Text.Base64.decode s).mapError fun e => .notBase64 e.message
  | (position, run) => .error (.notAscii (Text.asciiDetail position run))

end ScriptGrader.Document.ScalarValue
