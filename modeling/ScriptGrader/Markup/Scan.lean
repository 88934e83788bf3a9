import ScriptGrader.Markup.Character
import ScriptGrader.Markup.Error

/-!
# The pieces of markup

Each function here takes a piece of markup from the front of a text and
gives what comes after it. A character that does not fit is told by the
text that begins with it; where the text ends inside a piece, what is to
be reported depends on why it ends, and that is left to the caller.
-/

namespace ScriptGrader.Markup

/-- Why reading stops. -/
inductive Halt
  /-- Something is wrong at the front of the given rest. -/
  | fault (cause : Cause) (rest : List Char)
  /-- The text ended in something that began with the given rest. -/
  | ended (cause : Cause) (start : List Char)
  /-- The same where one certain character was due. -/
  | due (start : List Char)
  deriving Repr

/-- What was taken from the front of a text, and the rest. -/
abbrev Taken (α : Type) := α × List Char

namespace Scan

/-- Is there nothing more than half a character? -/
def isEnd (rest : List Char) : Bool := rest = [] || rest = [half]

/-- The character in front does not fit into the piece that began at `start`. -/
def refuse {α : Type} (start rest : List Char) : Except Halt α :=
  .error (if isEnd rest then .ended .unclosedToken start else .fault .invalidToken rest)

/-- The character in front is not the one that was due in the piece that began at `start`. -/
def miss {α : Type} (start rest : List Char) : Except Halt α :=
  .error (if isEnd rest then .due start else .fault .invalidToken rest)

/-- A given character. -/
def char (start : List Char) (c : Char) (rest : List Char) : Except Halt (List Char) :=
  if rest.head? = some c then .ok rest.tail else miss start rest

/-- A given character behind a name, which could go on. -/
def charAfterName (start : List Char) (c : Char) (rest : List Char) : Except Halt (List Char) :=
  if rest.head? = some c then .ok rest.tail else refuse start rest

/-- A given character behind a name and blanks. -/
def charAfterBlanks (start : List Char) (c : Char) (rest : List Char) : Except Halt (List Char) :=
  let left := rest.dropWhile isSpace
  if left.length < rest.length then char start c left else charAfterName start c rest

/-- A name without colons. -/
def name [Alphabet] (start : List Char) : List Char → Except Halt (Taken String)
  | c :: r =>
    if isNameStart c then .ok (String.ofList (c :: r.takeWhile isNameChar), r.dropWhile isNameChar)
    else refuse start (c :: r)
  | [] => refuse start []

end Scan

/-- A name as it is written, with what stands before its colon. -/
structure Label where
  space : Option String
  name : String
  deriving DecidableEq, Repr

namespace Label

def text (l : Label) : String :=
  match l.space with
  | none => l.name
  | some s => s ++ ":" ++ l.name

end Label

namespace Scan

/-- A name that may have one colon inside. -/
def label [Alphabet] (start rest : List Char) : Except Halt (Taken Label) := do
  let (first, r) ← name start rest
  match r with
  | ':' :: r =>
    let (second, r) ← name start r
    return (⟨some first, second⟩, r)
  | r => return (⟨none, first⟩, r)

/-! ## References -/

end Scan

/-- What stands for a character or for a longer text. -/
inductive Reference
  | code (n : Nat)
  | entity (name : String)
  deriving DecidableEq, Repr

namespace Scan

def isHexDigit (c : Char) : Bool := isDigit c || ('a' ≤ c && c ≤ 'f') || ('A' ≤ c && c ≤ 'F')

def hexValue (c : Char) : Nat :=
  if isDigit c then c.toNat - 48
  else if 'a' ≤ c then c.toNat - 87
  else c.toNat - 55

/-- A number up to a semicolon. -/
def number (start : List Char) (base : Nat) (isDigit : Char → Bool) : List Char → Except Halt (Taken Nat)
  | c :: r =>
    if isDigit c then do
      let ds := c :: r.takeWhile isDigit
      let r ← char start ';' (r.dropWhile isDigit)
      return (ds.foldl (fun n d => n * base + hexValue d) 0, r)
    else miss start (c :: r)
  | [] => miss start []

/-- A reference, after its ampersand. -/
def reference [Alphabet] (start : List Char) : List Char → Except Halt (Taken Reference)
  | '#' :: 'x' :: r => do
    let (n, r) ← number start 16 isHexDigit r
    return (.code n, r)
  | '#' :: r => do
    let (n, r) ← number start 10 isDigit r
    return (.code n, r)
  | r => do
    let (n, r) ← name start r
    return (.entity n, ← charAfterName start ';' r)

/-- The character with a code, if a document may hold it. -/
def charOfCode? (n : Nat) : Option Char :=
  if n.isValidChar ∧ isAllowed (Char.ofNat n) then some (Char.ofNat n) else none

/-- The entities that every document has. -/
def standardEntity? : String → Option Char
  | "lt" => some '<'
  | "gt" => some '>'
  | "amp" => some '&'
  | "quot" => some '"'
  | "apos" => some '\''
  | _ => none

/-! ## Comments and instructions -/

/-- A comment, after its first hyphen. -/
def comment (start : List Char) (rest : List Char) : Except Halt (List Char) := do
  go (← char start '-' rest)
where
  go : List Char → Except Halt (List Char)
    | '-' :: '-' :: '>' :: r => .ok r
    | '-' :: '-' :: r => miss start r
    | _ :: r => go r
    | [] => refuse start []

/-- An instruction's text up to its end. -/
def instructionText (start : List Char) : List Char → List Char → Except Halt (Taken (List Char))
  | done, '?' :: '>' :: r => .ok (done.reverse, r)
  | done, c :: r => instructionText start (c :: done) r
  | _, [] => refuse start []

/-- The target of an instruction, after its question mark, and all that
follows it. A target `xml` begins a declaration; it is not allowed in other
letter cases. -/
def instruction [Alphabet] (start rest : List Char) : Except Halt (Taken (String × List Char)) := do
  let (target, r) ← name start rest
  if target.toLower = "xml" ∧ target ≠ "xml" then refuse start r
  else
    match r with
    | '?' :: r =>
      let r ← char start '>' r
      return ((target, []), r)
    | c :: _ =>
      if isSpace c then
        let (text, r) ← instructionText start [] r
        return ((target, text), r)
      else refuse start r
    | [] => refuse start []

/-! ## Tags -/

end Scan

/-- A piece of an attribute's value. -/
inductive ValuePiece
  | char (c : Char)
  /-- A reference, with the rest of the text that it begins. -/
  | reference (r : Reference) (rest : List Char)
  deriving Repr

/-- An attribute as it is written, with the rest of the text that it begins. -/
structure RawAttribute where
  label : Label
  pieces : List ValuePiece
  rest : List Char
  deriving Repr

/-- A start tag as it is written. -/
structure StartTag where
  label : Label
  attributes : List RawAttribute
  /-- The element has no content and no end tag. -/
  isEmpty : Bool
  deriving Repr

namespace Scan

/-- A value up to its closing quote. Ends of lines and tabs are blanks. -/
def value [Alphabet] (start : List Char) (quote : Char) :
    Nat → List ValuePiece → List Char → Except Halt (Taken (List ValuePiece))
  | 0, _, _ => refuse start []
  | fuel + 1, done, rest =>
    match rest with
    | [] => refuse start []
    | '<' :: _ => refuse start rest
    | '&' :: r => do
      let (ref, r) ← reference start r
      value start quote fuel (.reference ref rest :: done) r
    | '\r' :: '\n' :: r => value start quote fuel (.char ' ' :: done) r
    | c :: r =>
      if c = quote then .ok (done.reverse, r)
      else value start quote fuel (.char (if isSpace c then ' ' else c) :: done) r

/-- An attribute. -/
def rawAttribute [Alphabet] (fuel : Nat) (start rest : List Char) : Except Halt (Taken RawAttribute) := do
  let (l, r) ← label start rest
  let r ← charAfterBlanks start '=' r
  match r.dropWhile isSpace with
  | q :: r =>
    if q = '"' ∨ q = '\'' then
      let (pieces, r) ← value start q fuel [] r
      return (⟨l, pieces, rest⟩, r)
    else miss start (q :: r)
  | [] => miss start []

/-- The attributes of a tag, and whether it is of an empty element. -/
def attributes [Alphabet] (fuel : Nat) (start : List Char) :
    Nat → List RawAttribute → List Char → Except Halt (Taken (List RawAttribute × Bool))
  | 0, _, _ => refuse start []
  | steps + 1, done, rest =>
    match rest, rest.dropWhile isSpace with
    | _, '>' :: r => .ok ((done.reverse, false), r)
    | _, '/' :: r => do
      let r ← char start '>' r
      return ((done.reverse, true), r)
    | c :: _, r =>
      if isSpace c then do
        let (a, r) ← rawAttribute fuel start r
        attributes fuel start steps (a :: done) r
      else if done.isEmpty then refuse start rest
      else miss start rest
    | [], _ => if done.isEmpty then refuse start [] else miss start []

/-- A start tag, after its angle bracket. -/
def startTag [Alphabet] (fuel : Nat) (start rest : List Char) : Except Halt (Taken StartTag) := do
  let (l, r) ← label start rest
  let ((as, isEmpty), r) ← attributes fuel start fuel [] r
  return (⟨l, as, isEmpty⟩, r)

/-- A colon or a character of a name. -/
def isEndTagChar [Alphabet] (c : Char) : Bool := isNameChar c || c = ':'

/-- The name in an end tag, after its slash. -/
def endTag [Alphabet] (start : List Char) : List Char → Except Halt (Taken String)
  | c :: r =>
    if isNameStart c then do
      let rest ← charAfterBlanks start '>' (r.dropWhile isEndTagChar)
      return (String.ofList (c :: r.takeWhile isEndTagChar), rest)
    else refuse start (c :: r)
  | [] => refuse start []

end Scan
end ScriptGrader.Markup
