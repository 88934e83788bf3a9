import ScriptGrader.Document.Timestamp
import ScriptGrader.Number.Layout

/-!
# Tags

The tags of the values that a document may hold, and the tag that a plain
text gets by the way it is written: `yes` is a truth value, `0x1f` and
`1:30` are integers, `2020-01-01` is a date. A line feed at the end of the
text does not count, unless there is nothing else. No text is written in
two of these ways.
-/

namespace ScriptGrader.Document.Tag

/-- What `!!` stands for. -/
def standard : String := "tag:yaml.org,2002:"

def ofName (name : String) : String := standard ++ name

def null : String := ofName "null"
def bool : String := ofName "bool"
def int : String := ofName "int"
def float : String := ofName "float"
def text : String := ofName "str"
def binary : String := ofName "binary"
def timestamp : String := ofName "timestamp"
def sequence : String := ofName "seq"
def mapping : String := ofName "map"
def set : String := ofName "set"
def orderedMap : String := ofName "omap"
def pairs : String := ofName "pairs"
def merge : String := ofName "merge"
def value : String := ofName "value"
def indicator : String := ofName "yaml"

/-! ## Ways of writing -/

def isDigit (c : Char) : Bool := Timestamp.isDigit c

def isHex (c : Char) : Bool := isDigit c || ('a' ≤ c && c ≤ 'f') || ('A' ≤ c && c ≤ 'F')

def isDigitOrLine (c : Char) : Bool := isDigit c || c = '_'

/-- The text without a sign at the front. -/
def unsigned (cs : List Char) : List Char :=
  match cs with
  | '+' :: r => r
  | '-' :: r => r
  | r => r

def isNull (cs : List Char) : Bool :=
  ["", "~", "null", "Null", "NULL"].contains (String.ofList cs)

def isBool (cs : List Char) : Bool :=
  ["yes", "Yes", "YES", "no", "No", "NO", "true", "True", "TRUE", "false", "False", "FALSE",
    "on", "On", "ON", "off", "Off", "OFF"].contains (String.ofList cs)

/-- The parts of a text between colons. -/
def colonParts (cs : List Char) : List (List Char) := cs.splitOn ':'

/-- A place of a number in sixties after the first one. -/
def isSixtieth : List Char → Bool
  | [a] => isDigit a
  | [a, b] => '0' ≤ a && a ≤ '5' && isDigit b
  | _ => false

/-- Digits that do not begin with zero. -/
def isWholeFromOne : List Char → Bool
  | c :: r => '1' ≤ c && c ≤ '9' && r.all isDigitOrLine
  | [] => false

def isInt (cs : List Char) : Bool :=
  match unsigned cs with
  | ['0'] => true
  | '0' :: 'b' :: c :: r => (c :: r).all fun c => c = '0' || c = '1' || c = '_'
  | '0' :: 'x' :: c :: r => (c :: r).all fun c => isHex c || c = '_'
  | '0' :: c :: r => (c :: r).all fun c => ('0' ≤ c && c ≤ '7') || c = '_'
  | u =>
    match colonParts u with
    | [w] => isWholeFromOne w
    | w :: r => isWholeFromOne w && r.all isSixtieth
    | [] => false

/-- Nothing, or an exponent, which must have a sign. -/
def isExponent : List Char → Bool
  | [] => true
  | e :: s :: r => (e = 'e' || e = 'E') && (s = '+' || s = '-') && !r.isEmpty && r.all isDigit
  | _ => false

/-- Digits after a point, and an exponent. -/
def isFraction (cs : List Char) : Bool := isExponent (cs.dropWhile isDigitOrLine)

/-- Digits and lines that begin with a digit. -/
def isWhole : List Char → Bool
  | c :: r => isDigit c && r.all isDigitOrLine
  | [] => false

/-- Whole sixties, the last of which has a fraction. -/
def isSixtiesFloat (u : List Char) : Bool :=
  let before := u.takeWhile (· ≠ '.')
  match colonParts before, u.dropWhile (· ≠ '.') with
  | w :: p :: r, '.' :: f => isWhole w && (p :: r).all isSixtieth && f.all isDigitOrLine
  | _, _ => false

def isFloat (cs : List Char) : Bool :=
  let u := unsigned cs
  let pointed :=
    match u.takeWhile isDigitOrLine, u.dropWhile isDigitOrLine with
    | w, '.' :: f => isWhole w && isFraction f
    | _, _ => false
  let fraction :=
    match cs with
    | '.' :: d :: r => isDigit d && isFraction r
    | _ => false
  pointed || fraction || isSixtiesFloat u ||
    [".inf", ".Inf", ".INF"].contains (String.ofList u) ||
    [".nan", ".NaN", ".NAN"].contains (String.ofList cs)

/-- The tag of a plain text. -/
def ofPlain (s : String) : String :=
  let cs := match s.toList.reverse with
    | '\n' :: c :: r => (c :: r).reverse
    | _ => s.toList
  if isBool cs then bool
  else if isFloat cs then float
  else if isInt cs then int
  else if cs = ['<', '<'] then merge
  else if isNull cs then null
  else if Timestamp.isPlain cs then timestamp
  else if cs = ['='] then value
  else if cs = ['!'] || cs = ['&'] || cs = ['*'] then indicator
  else text

end ScriptGrader.Document.Tag
