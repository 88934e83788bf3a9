import ScriptGrader.Text.Charset.Decoding
import ScriptGrader.Web.Host

/-!
# Content types

A content type is followed by parameters, which semicolons part. A value
may stand between quotes. It may also be written in pieces that are
numbered, and with a character set and percent signs; then the name of the
parameter ends in asterisks. Main definition: `charset?`.
-/

namespace ScriptGrader.Web.ContentType

/-! ## Parameters -/

/-- The blanks of any script, with the signs that part lists. -/
def isBlank (c : Char) : Bool :=
  let n := c.toNat
  (0x1c ≤ n && n ≤ 0x1f) || Numeral.isBlank c

def trim (cs : List Char) : List Char :=
  ((cs.dropWhile isBlank).reverse.dropWhile isBlank).reverse

/-- How many quotes a text has that stand behind no backslash, if these are
counted on their own. -/
def quoteCount (cs : List Char) : Int := Int.ofNat (cs.count '"') - Int.ofNat (escaped cs)
where
  escaped : List Char → Nat
    | '\\' :: '"' :: r => escaped r + 1
    | _ :: r => escaped r
    | [] => 0

/-- A parameter in front of a text, up to a semicolon outside of quotes,
and what is behind that. -/
def splitParameter : (done rest : List Char) → List Char × Option (List Char)
  | done, [] => (done.reverse, none)
  | done, c :: r =>
    if c = ';' ∧ (done.isEmpty ∨ quoteCount done.reverse % 2 = 0) then (done.reverse, some r)
    else splitParameter (c :: done) r

/-- The parts of a content type between its semicolons. -/
def parts : Nat → List Char → List (List Char)
  | 0, _ => []
  | fuel + 1, cs =>
    match splitParameter [] cs with
    | (part, none) => [part]
    | (part, some r) => part :: parts fuel r

/-- A part as a name and a value. A name with a value is in lower case. -/
def parameter (part : List Char) : List Char × List Char :=
  let name := part.takeWhile (· ≠ '=')
  match part.drop name.length with
  | [] => (trim name, [])
  | _ :: value => ((trim name).map Char.toLower, trim value)

/-- A text without the quotes or brackets around it. -/
def unquote (cs : List Char) : List Char :=
  if 2 ≤ cs.length ∧ cs.head? = some '"' ∧ cs.getLast? = some '"' then
    unescape '"' (unescape '\\' cs.tail.dropLast)
  else if 2 ≤ cs.length ∧ cs.head? = some '<' ∧ cs.getLast? = some '>' then cs.tail.dropLast
  else cs
where
  /-- A text in which a backslash in front of a character is left out. -/
  unescape (c : Char) : List Char → List Char
    | '\\' :: d :: r => if d = c then c :: unescape c r else '\\' :: unescape c (d :: r)
    | d :: r => d :: unescape c r
    | [] => []

/-! ## Pieces -/

/-- A piece of a value. -/
structure Piece where
  number : Option Nat
  text : List Char
  /-- Percent signs in it count. -/
  isEncoded : Bool
  deriving DecidableEq, Repr

/-- A name that tells of a piece: the name of the parameter, and the number. -/
def pieceName? (name : List Char) : Option (List Char × Option Nat) :=
  let isWordChar := fun c : Char => c.toNat < 0x80 && (c.isAlphanum || c = '_')
  let word := name.takeWhile isWordChar
  match name.dropWhile isWordChar with
  | '*' :: r =>
    let digits := r.takeWhile Host.isDecimal
    if word.isEmpty then none
    else some (word, if digits.isEmpty then none else some (Numeral.natOf digits))
  | _ => none

/-- Does a piece come in front of another one? Pieces with and without numbers have no order. -/
def Piece.le (a b : Piece) : Bool :=
  if a.number ≠ b.number then a.number.getD 0 < b.number.getD 0
  else if a.text ≠ b.text then decide (a.text < b.text)
  else !a.isEncoded || b.isEncoded

/-- A text in which a percent sign and the number of a character stand for the character. -/
def percentChars : List Char → List Char
  | '%' :: a :: b :: r =>
    match Numeral.digitIn? 16 a, Numeral.digitIn? 16 b with
    | some m, some n => Char.ofNat (m * 16 + n) :: percentChars r
    | _, _ => '%' :: percentChars (a :: b :: r)
  | c :: r => c :: percentChars r
  | [] => []

/-- A value: a text, or a text that tells its character set. -/
inductive Content
  | plain (text : List Char)
  | marked (charset text : List Char)
  deriving DecidableEq, Repr

/-- The value that pieces make up. With a percent sign in them, a character
set and a language may stand in front, each behind a tick. -/
def ofPieces (pieces : List Piece) : Content :=
  let sorted := pieces.mergeSort Piece.le
  let text := sorted.flatMap fun p => if p.isEncoded then percentChars p.text else p.text
  if pieces.any (·.isEncoded) then
    match text.splitOn '\'' with
    | charset :: _ :: c :: r => .marked charset (['\''].intercalate (c :: r))
    | _ => .marked [] text
  else .plain text

/-- Why the parameters of a content type cannot be read. -/
inductive Error
  /-- Numbered pieces stand among others. -/
  | mixedPieces (isNumberFirst : Bool)
  /-- The name of a character set holds a character of number zero. -/
  | zeroInName
  deriving DecidableEq, Repr

namespace Error

def message : Error → String
  | mixedPieces isNumberFirst =>
    let (a, b) := if isNumberFirst then ("NoneType", "int") else ("int", "NoneType")
    s!"'<' not supported between instances of '{a}' and '{b}'"
  | zeroInName => "embedded null character"

end Error

/-- The first change between pieces with numbers and without. -/
def mixed? : List Piece → Option Error
  | a :: b :: r =>
    if a.number.isSome = b.number.isSome then mixed? (b :: r) else some (.mixedPieces a.number.isSome)
  | _ => none

/-- The pieces of each parameter that has some, in the order of the first ones. -/
def pieces (parameters : List (List Char × List Char)) : List (List Char × List Piece) :=
  let found := parameters.filterMap fun (name, value) =>
    (pieceName? name).map fun (word, number) =>
      (word, (⟨number, unquote value, name.getLast? = some '*'⟩ : Piece))
  (found.map (·.1)).eraseDups.map fun word => (word, (found.filter (·.1 = word)).map (·.2))

/-- The value of a parameter. The first part is looked at first, then those
whose values are whole, then those with pieces. -/
def content? (contentType name : List Char) : Except Error (Option Content) := do
  match (parts (contentType.length + 1) contentType).map parameter with
  | [] => return none
  | first :: rest =>
    let whole := (rest.filter fun p => (pieceName? p.1).isNone).map fun (n, v) => (n, unquote v)
    let made := pieces rest
    if let some e := made.findSome? fun p => mixed? p.2 then throw e
    let all := (first.1, Content.plain (unquote first.2)) ::
      whole.map (fun (n, v) => (n, .plain v)) ++ made.map fun (n, ps) => (n, ofPieces ps)
    return (all.find? fun p => p.1.map Char.toLower = name).map (·.2)

/-! ## Character sets -/

/-- The character set of a name. -/
def named? (name : String) : Except Error (Option Text.Charset) :=
  if name.toList.contains '\x00' then .error .zeroInName else .ok (Text.Charset.ofName? name)

/-- The byte of a character, or its number as an escape if it has none. -/
def rawBytes (c : Char) : List UInt8 :=
  if c.toNat < 0x100 then [UInt8.ofNat c.toNat] else Text.encode (Text.codeText c)

/-- The text that bytes stand for, if they are whole. -/
def exactly? (charset : String) (bytes : List UInt8) : Except Error (Option (List Char)) := do
  match ← named? charset with
  | none => return none
  | some c =>
    match c.decode bytes with
    | .ok s => return if s.toList.contains Text.replacement then none else some s.toList
    | .error _ => return none

/-- The name of the character set that a content type tells, in lower case. -/
def charset? (contentType : String) : Except Error (Option String) := do
  let name ← match ← content? contentType.toList "charset".toList with
    | none => pure none
    | some (.plain text) => pure (some text)
    | some (.marked charset text) =>
      let charset := if charset.isEmpty then "us-ascii" else String.ofList charset
      let exact ← exactly? charset (text.flatMap rawBytes)
      pure (some (exact.getD text))
  return match name with
    | some cs => if cs.all (·.toNat < 0x80) then some (String.ofList (cs.map Char.toLower)) else none
    | none => none

end ScriptGrader.Web.ContentType
