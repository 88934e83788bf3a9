import ScriptGrader.Script.Character
import ScriptGrader.Script.RegexPattern
import ScriptGrader.Script.Token

/-!
# The tokens of a script

`Cursor.skip` passes over blanks and comments, `Cursor.token` takes the
next token, and `Cursor.regex` takes a regular expression where the reader
knows that one begins. Which of them stands at a slash only the reader can
tell; whether a closing brace goes on with a template is told by the
braces that are open.
-/

namespace ScriptGrader.Script

/-- An opened brace: of a block, or of a place in a template. -/
inductive Brace
  | block
  | template
  deriving DecidableEq, Repr

/-- A place in a script. -/
structure Cursor where
  rest : List Char
  line : Nat
  /-- The open braces, the innermost first. -/
  braces : List Brace
  /-- Nothing was read yet. -/
  first : Bool
  /-- In a module the mark `<!--` does not begin a comment. -/
  inModule : Bool
  deriving Repr

namespace Cursor

/-- The start of a script. A script without text begins on no line. -/
def start (source : String) : Cursor :=
  ⟨source.toList, if source.isEmpty then 0 else 1, [], true, false⟩

def fail {α : Type} (c : Cursor) (cause : Cause) : Except Error α := .error (.onLine c.line cause)

def illegal {α : Type} (c : Cursor) : Except Error α := c.fail (.unexpected .illegal)

def moved (c : Cursor) (rest : List Char) : Cursor := { c with rest := rest, first := false }

/-- One end of a line: what comes after it. -/
def afterLineEnd (ch : Char) (rest : List Char) : List Char :=
  match ch, rest with
  | '\r', '\n' :: r => r
  | _, r => r

/-! ## Blanks and comments -/

/-- The rest of a line with its end, and whether there is an end. -/
def dropLine : List Char → List Char × Bool
  | [] => ([], false)
  | ch :: r => if isLineEnd ch then (afterLineEnd ch r, true) else dropLine r

/-- The text after a comment of several lines, and how many lines it ends;
the number of lines alone if it is not closed. -/
def dropBlock : List Char → Nat → Except Nat (List Char × Nat)
  | [], lines => .error lines
  | '*' :: '/' :: r, lines => .ok (r, lines)
  | '\r' :: '\n' :: r, lines => dropBlock r (lines + 1)
  | ch :: r, lines => dropBlock r (if isLineEnd ch then lines + 1 else lines)

/-- Blanks, ends of lines and comments are passed over. The mark `-->`
begins a comment when nothing but blanks and comments of one line stand
before it on its line. -/
def skipFrom : Nat → Bool → Cursor → Except Error Cursor
  | 0, _, c => .ok c
  | fuel + 1, fresh, c =>
    let line (r : List Char) : Except Error Cursor :=
      let (rest, ended) := dropLine r
      skipFrom fuel fresh { c with rest := rest, line := if ended then c.line + 1 else c.line }
    match c.rest with
    | '/' :: '/' :: r =>
      let (rest, ended) := dropLine r
      skipFrom fuel true { c with rest := rest, line := if ended then c.line + 1 else c.line }
    | '/' :: '*' :: r =>
      match dropBlock r 0 with
      | .ok (rest, lines) => skipFrom fuel fresh { c with rest := rest, line := c.line + lines }
      | .error lines => illegal { c with line := c.line + lines }
    | '-' :: '-' :: '>' :: r => if fresh then line r else .ok c
    | '<' :: '!' :: '-' :: '-' :: r => if c.inModule then .ok c else line r
    | ch :: r =>
      if isBlank ch then skipFrom fuel fresh { c with rest := r }
      else if isLineEnd ch then
        skipFrom fuel true { c with rest := afterLineEnd ch r, line := c.line + 1 }
      else .ok c
    | [] => .ok c

def skip (c : Cursor) : Except Error Cursor := skipFrom (c.rest.length + 1) c.first c

/-! ## Escapes -/

/-- A character by its code. Half of a pair stands for no character. -/
def charOf (code : Nat) : Char := if code.isValidChar then Char.ofNat code else '\uFFFD'

/-- A number of `count` hexadecimal digits. -/
def hexDigits? : Nat → Nat → List Char → Option (Nat × List Char)
  | 0, value, r => some (value, r)
  | count + 1, value, ch :: r =>
    match hexValue? ch with
    | some d => hexDigits? count (value * 16 + d) r
    | none => none
  | _ + 1, _, [] => none

/-- Hexadecimal digits up to a closing brace. -/
def bracedCode? (cs : List Char) : Option (Char × List Char) :=
  let digits := cs.takeWhile isHexDigit
  match digits, cs.dropWhile isHexDigit with
  | [], _ => none
  | _, '\x7d' :: r =>
    let code := digits.foldl (fun n ch => n * 16 + (hexValue? ch).getD 0) 0
    if code ≤ 0x10ffff then some (charOf code, r) else none
  | _, _ => none

/-- The character after a backslash and a `u`. -/
def unicodeEscape? : List Char → Option (Char × List Char)
  | '\x7b' :: r => bracedCode? r
  | r => (hexDigits? 4 0 r).map fun (code, rest) => (charOf code, rest)

/-- An octal number that begins with the given digit: its value, whether
it counts as octal, and the rest. A lone zero does not. -/
def octalEscape (digit : Char) (r : List Char) : Nat × Bool × List Char :=
  match r with
  | d :: r₁ =>
    if isOctalDigit d then
      let two := octalValue digit * 8 + octalValue d
      match r₁ with
      | e :: r₂ =>
        if digit ≤ '3' && isOctalDigit e then (two * 8 + octalValue e, true, r₂) else (two, true, r₁)
      | [] => (two, true, [])
    else (octalValue digit, digit ≠ '0', r)
  | [] => (octalValue digit, digit ≠ '0', [])

/-! ## Words -/

/-- A character written as an escape in a word. In braces any character
may stand; without them it must fit its place. -/
def wordEscape? (fits : Char → Bool) : List Char → Option (Char × List Char)
  | 'u' :: '\x7b' :: r => bracedCode? r
  | 'u' :: r =>
    match unicodeEscape? r with
    | some (ch, rest) => if ch ≠ '\\' && fits ch then some (ch, rest) else none
    | none => none
  | _ => none

/-- The rest of a word: its characters, whether one is escaped, and what
comes after it. -/
def wordRest : Nat → List Char → Bool → List Char → Option (List Char × Bool × List Char)
  | 0, done, escaped, r => some (done.reverse, escaped, r)
  | fuel + 1, done, escaped, r =>
    match r with
    | '\\' :: r =>
      match wordEscape? isIdentifierPart r with
      | some (ch, rest) => wordRest fuel (ch :: done) true rest
      | none => none
    | ch :: rest =>
      if isIdentifierPart ch then wordRest fuel (ch :: done) escaped rest
      else some (done.reverse, escaped, r)
    | [] => some (done.reverse, escaped, [])

/-- The word at the front. -/
def word? (cs : List Char) : Option (List Char × Bool × List Char) :=
  match cs with
  | '\\' :: r =>
    match wordEscape? isIdentifierStart r with
    | some (ch, rest) => wordRest (rest.length + 1) [ch] true rest
    | none => none
  | ch :: rest => wordRest (rest.length + 1) [ch] false rest
  | [] => none

/-- A token that ends where the cursor stands. -/
def give (c : Cursor) (kind : TokenKind) (text : String) (raw : String := "") :
    Except Error (Token × Cursor) :=
  .ok (⟨kind, text, c.line, raw⟩, c)

/-- A word: a name, a keyword, or one of the words for values. -/
def wordToken (c : Cursor) : Except Error (Token × Cursor) :=
  match word? c.rest with
  | none => c.illegal
  | some (cs, escaped, rest) =>
    let text := String.ofList cs
    let kind := wordKind text
    if kind ≠ .identifier && escaped then c.fail .escapedKeyword
    else (c.moved rest).give kind text

/-! ## Numbers -/

/-- The text of a number: whole numbers without a point. -/
def decimalText (written : List Char) : String :=
  let x := (Numeral.binary64? (String.ofList written)).getD .nan
  match x.rational? with
  | some q => if q.den = 1 then Layout.int q.num else Layout.plain.binary64 x
  | none => Layout.plain.binary64 x

/-- A number in a base that is a power of two, after its mark. -/
def baseNumber (c : Cursor) (base : Nat) (isDigit : Char → Bool) (refusesDigits : Bool)
    (octal : Bool) (cs : List Char) : Except Error (Token × Cursor) :=
  let digits := cs.takeWhile isDigit
  let rest := cs.dropWhile isDigit
  let goesOn := match rest with
    | ch :: _ => isIdentifierStart ch || (refusesDigits && isDecimalDigit ch)
    | [] => false
  if digits.isEmpty || goesOn then c.illegal
  else
    let value := digits.foldl (fun n ch => n * base + (hexValue? ch).getD 0) 0
    (c.moved rest).give (.number octal) (Layout.int value)

/-- A number that begins with zero is octal unless an eight or nine is
among its digits. -/
def isOctalByZero : List Char → Bool
  | [] => true
  | ch :: r => if ch = '8' || ch = '9' then false else if isOctalDigit ch then isOctalByZero r else true

/-- A decimal number. -/
def decimalNumber (c : Cursor) : Except Error (Token × Cursor) :=
  let whole := c.rest.takeWhile isDecimalDigit
  let r₁ := c.rest.dropWhile isDecimalDigit
  let (fraction, r₂) := match r₁ with
    | '.' :: r => ('.' :: r.takeWhile isDecimalDigit, r.dropWhile isDecimalDigit)
    | r => ([], r)
  let ended (written r : List Char) : Except Error (Token × Cursor) :=
    match r with
    | ch :: _ =>
      if isIdentifierStart ch then c.illegal
      else (c.moved r).give (.number false) (decimalText written)
    | [] => (c.moved r).give (.number false) (decimalText written)
  let exponent (mark : Char) (r : List Char) : Except Error (Token × Cursor) :=
    let (sign, r) := match r with
      | '+' :: r => (['+'], r)
      | '-' :: r => (['-'], r)
      | r => ([], r)
    let digits := r.takeWhile isDecimalDigit
    if digits.isEmpty then c.illegal
    else ended (whole ++ fraction ++ mark :: sign ++ digits) (r.dropWhile isDecimalDigit)
  match r₂ with
  | 'e' :: r => exponent 'e' r
  | 'E' :: r => exponent 'E' r
  | r => ended (whole ++ fraction) r

/-- A number. -/
def numberToken (c : Cursor) : Except Error (Token × Cursor) :=
  let isBit (ch : Char) := ch = '0' || ch = '1'
  match c.rest with
  | '0' :: 'x' :: r | '0' :: 'X' :: r => c.baseNumber 16 isHexDigit false false r
  | '0' :: 'b' :: r | '0' :: 'B' :: r => c.baseNumber 2 isBit true false r
  | '0' :: 'o' :: r | '0' :: 'O' :: r => c.baseNumber 8 isOctalDigit true false r
  | '0' :: d :: r =>
    if isOctalDigit d && isOctalByZero (d :: r) then
      c.baseNumber 8 isOctalDigit true true (d :: r)
    else c.decimalNumber
  | _ => c.decimalNumber

/-! ## Strings and templates -/

/-- The characters for which a letter after a backslash stands. -/
def letterEscape? (ch : Char) : Option Char :=
  match ch with
  | 'n' => some '\n'
  | 'r' => some '\r'
  | 't' => some '\t'
  | 'b' => some '\x08'
  | 'v' => some '\x0b'
  | 'f' => some '\x0c'
  | _ => none

/-- The rest of a string up to its quote: its characters, whether an octal
number is among them, and what is written. -/
def stringRest (quote : Char) : Nat → Cursor → List Char → Bool →
    Except Error (List Char × Bool × Cursor)
  | 0, c, _, _ => c.illegal
  | fuel + 1, c, done, octal =>
    match c.rest with
    | [] => c.illegal
    | ['\\'] => c.illegal
    | '\\' :: ch :: r =>
      if isLineEnd ch then
        stringRest quote fuel { c with rest := afterLineEnd ch r, line := c.line + 1 } done octal
      else if ch = 'u' then
        match unicodeEscape? r with
        | some (x, rest) => stringRest quote fuel { c with rest := rest } (x :: done) octal
        | none => c.illegal
      else if ch = 'x' then
        match hexDigits? 2 0 r with
        | some (code, rest) => stringRest quote fuel { c with rest := rest } (charOf code :: done) octal
        | none => c.fail .hexEscape
      else if ch = '8' || ch = '9' then c.illegal
      else if isOctalDigit ch then
        let (code, isOctal, rest) := octalEscape ch r
        stringRest quote fuel { c with rest := rest } (charOf code :: done) (isOctal || octal)
      else stringRest quote fuel { c with rest := r } ((letterEscape? ch).getD ch :: done) octal
    | ch :: r =>
      if ch = quote then .ok (done.reverse, octal, c.moved r)
      else if isLineEnd ch then c.illegal
      else stringRest quote fuel { c with rest := r } (ch :: done) octal

/-- A string that begins with the given quote. -/
def stringToken (c : Cursor) (quote : Char) (r : List Char) : Except Error (Token × Cursor) :=
  match stringRest quote (r.length + 1) { c with rest := r } [] false with
  | .ok (cs, octal, after) =>
    let raw := r.take (r.length - after.rest.length - 1)
    after.give (.string octal) (String.ofList cs) (String.ofList raw)
  | .error e => .error e

/-- The rest of a stretch of a template, and whether the template ends with it. -/
def templateRest : Nat → Cursor → Except Error (Bool × Cursor)
  | 0, c => c.illegal
  | fuel + 1, c =>
    let next (r : List Char) := templateRest fuel { c with rest := r }
    match c.rest with
    | [] => c.illegal
    | '`' :: r => .ok (true, c.moved r)
    | '$' :: '\x7b' :: r => .ok (false, c.moved r)
    | ['\\'] => c.illegal
    | '\\' :: ch :: r =>
      if isLineEnd ch then
        templateRest fuel { c with rest := afterLineEnd ch r, line := c.line + 1 }
      else
        match ch, r with
        | 'u', '\x7b' :: r' =>
          match bracedCode? r' with
          | some (_, rest) => next rest
          | none => c.illegal
        | 'u', _ => next (((hexDigits? 4 0 r).map (·.2)).getD r)
        | 'x', _ =>
          match hexDigits? 2 0 r with
          | some (_, rest) => next rest
          | none => c.fail .hexEscape
        | '0', d :: _ => if isDecimalDigit d then c.fail .templateOctal else next r
        | '0', [] => next r
        | _, _ => if isOctalDigit ch then c.fail .templateOctal else next r
    | ch :: r =>
      if isLineEnd ch then
        templateRest fuel { c with rest := afterLineEnd ch r, line := c.line + 1 }
      else next r

/-- A stretch of a template, after the mark with which it begins. -/
def templateToken (c : Cursor) (head : Bool) (r : List Char) : Except Error (Token × Cursor) :=
  match templateRest (r.length + 1) { c with rest := r } with
  | .ok (tail, after) =>
    let raw := r.take (r.length - after.rest.length - (if tail then 1 else 2))
    let opened := if tail then c.braces else .template :: c.braces
    let braces := if head then opened else opened.drop 1
    { after with braces := braces }.give (.template head tail) (String.ofList raw)
  | .error e => .error e

/-! ## Regular expressions -/

/-- The body of a regular expression, and what comes after its slash. -/
def regexBody : Nat → Bool → List Char → List Char → Option (List Char × List Char)
  | 0, _, _, _ => none
  | fuel + 1, inClass, done, r =>
    match r with
    | [] | ['\\'] => none
    | '\\' :: ch :: r => if isLineEnd ch then none else regexBody fuel inClass (ch :: '\\' :: done) r
    | ch :: r =>
      if isLineEnd ch then none
      else if inClass then regexBody fuel (ch ≠ ']') (ch :: done) r
      else if ch = '/' then some (done.reverse, r)
      else regexBody fuel (ch = '[') (ch :: done) r

/-- The regular expression at the front. No flag may be escaped. -/
def regex (c : Cursor) : Except Error (Token × Cursor) :=
  match regexBody (c.rest.length + 1) false [] (c.rest.drop 1) with
  | none => c.fail .unterminatedRegex
  | some (body, r) =>
    let flags := r.takeWhile isIdentifierPart
    let rest := r.dropWhile isIdentifierPart
    if (flags ++ rest.take 1).dropLast.contains '\\' then c.illegal
    else if RegexPattern.isValid body then (c.moved rest).give .regex ""
    else c.fail .invalidRegex

/-! ## The next token -/

/-- A punctuator. -/
def punctuatorToken (c : Cursor) : Except Error (Token × Cursor) :=
  match punctuators.find? fun p => p.toList.isPrefixOf c.rest with
  | none => c.illegal
  | some p =>
    let after := c.moved (c.rest.drop p.length)
    let braces :=
      if p = "\x7b" then .block :: c.braces else if p = "\x7d" then c.braces.drop 1 else c.braces
    { after with braces := braces }.give .punctuator p

/-- The token at the front; no blank or comment stands before it. -/
def token (c : Cursor) : Except Error (Token × Cursor) :=
  match c.rest with
  | [] => c.give .endOfInput ""
  | ch :: r =>
    if isIdentifierStart ch then c.wordToken
    else if ch = '\'' || ch = '"' then c.stringToken ch r
    else if ch = '.' then
      match r with
      | d :: _ => if isDecimalDigit d then c.decimalNumber else c.punctuatorToken
      | [] => c.punctuatorToken
    else if isDecimalDigit ch then c.numberToken
    else if ch = '`' then c.templateToken true r
    else if ch = '\x7d' && c.braces.head? = some .template then c.templateToken false r
    else c.punctuatorToken

end Cursor
end ScriptGrader.Script
