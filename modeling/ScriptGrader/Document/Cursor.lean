import ScriptGrader.Document.Error

/-!
# Going through a document

A cursor stands in the text of a document and knows line and column. A
scan is a step that looks at the characters in front and passes over some
of them; asking for a character that cannot be had fails. Behind the last
character of a complete document stands the character zero, which no
document holds.
-/

namespace ScriptGrader.Document

/-- A key that needs no mark in front: the token that it begins with, and
whether a colon must follow. -/
structure SimpleKey where
  token : Nat
  required : Bool
  place : Mark
  deriving DecidableEq, Repr

/-- How far a document was read into tokens. -/
structure Scanner where
  rest : List Char
  ending : Ending
  place : Mark
  /-- The last token was taken from the text. -/
  done : Bool
  /-- How many flow collections are open. -/
  flowLevel : Nat
  /-- The tokens that were read and not yet taken. -/
  queue : List Token
  taken : Nat
  /-- The column of the innermost open block collection, or one before the first. -/
  indent : Int
  indents : List Int
  /-- May a key begin here that has no mark in front? -/
  allowsKey : Bool
  /-- What may turn out to be a key, by flow level. -/
  keys : List (Nat × SimpleKey)
  deriving Repr

abbrev Scan := StateT Scanner (Except Error)

namespace Scanner

def start (s : Source) : Scanner :=
  { rest := s.text, ending := s.ending, place := ⟨0, 0, 0⟩, done := false, flowLevel := 0,
    queue := [], taken := 0, indent := -1, indents := [], allowsKey := true, keys := [] }

end Scanner

/-- The end of a document, as a character. -/
def endMark : Char := '\x00'

def isBreak (c : Char) : Bool := c = '\n' || c = '\u0085' || c = '\u2028' || c = '\u2029'

def isBreakOrEnd (c : Char) : Bool := c = endMark || isBreak c

/-- A blank, the end of a line or the end of the document. -/
def isGap (c : Char) : Bool := c = ' ' || isBreakOrEnd c

/-- A gap or a tab. -/
def isWideGap (c : Char) : Bool := c = '\t' || isGap c

def isDecimalDigit (c : Char) : Bool := '0' ≤ c && c ≤ '9'

def isHexDigit (c : Char) : Bool :=
  isDecimalDigit c || ('a' ≤ c && c ≤ 'f') || ('A' ≤ c && c ≤ 'F')

/-- A character of a name: of an anchor, a directive or a tag's handle. -/
def isNameChar (c : Char) : Bool :=
  isDecimalDigit c || ('a' ≤ c && c ≤ 'z') || ('A' ≤ c && c ≤ 'Z') || c = '-' || c = '_'

namespace Ending

/-- What asking for more characters than there are leads to. -/
def beyond : Ending → Except Error Char
  | complete => .ok endMark
  | unacceptable c p => .error (.unacceptable c p)
  | undecodable e => .error (.undecodable e)

end Ending

namespace Mark

/-- The place after a character. A byte order mark has no width. -/
def after (m : Mark) (c : Char) : Mark :=
  if isBreak c then ⟨m.index + 1, m.line + 1, 0⟩
  else if c = '\uFEFF' then ⟨m.index + 1, m.line, m.column⟩
  else ⟨m.index + 1, m.line, m.column + 1⟩

end Mark

namespace Scan

/-- The place where the cursor stands. -/
def place : Scan Mark := return (← get).place

/-- The character after the next `n`. -/
def peekAt (n : Nat) : Scan Char := do
  let s ← get
  match s.rest[n]? with
  | some c => return c
  | none => s.ending.beyond

/-- The next character. -/
def peek : Scan Char := peekAt 0

/-- Pass over `n` characters, up to one that can be had. -/
def forward (n : Nat) : Scan Unit := do
  modify fun s => { s with
    rest := s.rest.drop n, place := (s.rest.take n).foldl Mark.after s.place }
  let _ ← peek

/-- Pass over the characters in front that satisfy a condition. -/
def span (p : Char → Bool) : Scan (List Char) := do
  let cs := (← get).rest.takeWhile p
  forward cs.length
  return cs

/-- A problem where the cursor stands. -/
def failHere {α : Type} (during : Option (Activity × Option Mark)) (problem : Problem) : Scan α := do
  throw (.marked during problem (← place))

/-- Something else should stand where the cursor stands. -/
def expected {α : Type} (during : Activity) (start : Mark) (what : Expectation) : Scan α := do
  failHere (some (during, some start)) (.expected what (← peek))

/-- Steps that are enough for a loop that passes over a character each time. -/
def fuel : Scan Nat := return (← get).rest.length + 1

/-- Pass over the end of a line, and give what it counts for in a text. -/
def lineBreak : Scan (List Char) := do
  let c ← peek
  if c = '\n' || c = '\u0085' then
    forward 1
    return ['\n']
  else if c = '\u2028' || c = '\u2029' then
    forward 1
    return [c]
  else return []

/-- Pass over blanks, and a comment if one follows. -/
def blanksAndComment : Scan Unit := do
  let _ ← span (· = ' ')
  if (← peek) = '#' then
    let _ ← span fun c => !isBreakOrEnd c

/-- Does a document mark of three characters stand here? -/
def atDocumentMark (marks : List String) : Scan Bool := do
  let _ ← peekAt 2
  let three := String.ofList ((← get).rest.take 3)
  if marks.contains three then return isWideGap (← peekAt 3)
  else return false

end Scan
end ScriptGrader.Document
