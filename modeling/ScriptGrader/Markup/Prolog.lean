import ScriptGrader.Markup.Scan

/-!
# Pieces outside the root

In front of the root, behind it, and inside a document type, a text is
made of other pieces than content is: names and words, quoted texts,
brackets, and the beginnings of declarations. Blanks only part them.
-/

namespace ScriptGrader.Markup

/-- A piece of a text outside the root. -/
inductive Piece
  | name (text : String)
  /-- A name with a colon inside. -/
  | labelled (text : String)
  /-- Characters of names that are no name. -/
  | word (text : String)
  /-- A name with a sign behind it that says how often it may occur. -/
  | counted
  /-- What stands between quotes, with the rest that it begins. -/
  | quoted (inside rest : List Char)
  | hash (name : String)
  | percent
  | parameter
  | comma
  | bar
  | openGroup
  /-- The end of a group, with the sign behind it. -/
  | closeGroup (count : Option Char)
  | openBracket
  | closeBracket
  | openSection
  | closeSection
  /-- The end of a declaration. -/
  | close
  /-- The beginning of a declaration. -/
  | opening (keyword : String)
  | comment
  | instruction
  /-- An instruction `xml`. -/
  | declaration
  /-- The beginning of the root. -/
  | root
  deriving Repr

namespace Piece

/-- A piece whose text could go on, up to the end of a text. Half a character belongs to it. -/
def atEnd (ending : Ending) (start : List Char) (p : String → Piece) (text : String) (rest : List Char) :
    Except Halt (Taken Piece) :=
  if !ending.isWhole then Scan.refuse start []
  else .ok (p (String.ofList (text.toList ++ rest)), [])

/-- May the character follow a name or a word? -/
def endsName (c : Char) : Bool :=
  isSpace c || c = '>' || c = ')' || c = ',' || c = '|' || c = '[' || c = '%'

/-- A name or a word, of which some characters were taken; `make` makes
the piece, and tells whether it is a word and whether it has a colon. -/
def nameOrWord [Alphabet] (ending : Ending) (start : List Char) :
    (isWord hasColon : Bool) → List Char → List Char → Except Halt (Taken Piece)
  | isWord, hasColon, done, rest =>
    let piece := if isWord then word else if hasColon then labelled else name
    let text := String.ofList done.reverse
    if Scan.isEnd rest then atEnd ending start piece text rest
    else
    match rest with
    | [] => .ok (piece text, [])
    | ':' :: r =>
      if isWord then nameOrWord ending start true hasColon (':' :: done) r
      else if hasColon then nameOrWord ending start true true (':' :: done) r
      else
        if Scan.isEnd r then Scan.refuse start []
        else nameOrWord ending start (!(r.head?.any isNameChar)) true (':' :: done) r
    | c :: r =>
      if isNameChar c then nameOrWord ending start isWord hasColon (c :: done) r
      else if c = '?' ∨ c = '*' ∨ c = '+' then
        if isWord then Scan.refuse start (c :: r) else .ok (counted, r)
      else if endsName c then .ok (piece text, c :: r)
      else Scan.refuse start (c :: r)

/-- A quoted text. Half a character behind it counts as inside. -/
def quotedText (ending : Ending) (start : List Char) (q : Char) (r : List Char) :
    Except Halt (Taken Piece) :=
  let inside := r.takeWhile (· ≠ q)
  match r.dropWhile (· ≠ q) with
  | [] => Scan.refuse start []
  | _ :: rest =>
    match rest with
    | [] => if ending.isWhole then .ok (quoted inside r, []) else .error (.fault .invalidToken [])
    | c :: _ =>
      if Scan.isEnd rest then .ok (quoted (inside ++ rest) r, []) else
      if isSpace c || c = '>' || c = '%' || c = '[' then .ok (quoted inside r, rest)
      else Scan.refuse start rest

/-- The keyword of a declaration, of which some characters were taken. -/
def keyword [Alphabet] (ending : Ending) (start : List Char) :
    List Char → List Char → Except Halt (Taken Piece)
  | done, c :: r =>
    if isKeywordChar c then keyword ending start (c :: done) r
    else if isSpace c then .ok (opening (String.ofList done.reverse), c :: r)
    else if c = '%' then
      if Scan.isEnd r && ending.isWhole then Scan.refuse start []
      else if r.head?.any fun d => isSpace d || d = '%' then Scan.refuse start (c :: r)
      else .ok (opening (String.ofList done.reverse), c :: r)
    else Scan.miss start (c :: r)
  | _, [] => Scan.miss start []

/-- What a percent sign begins. -/
def afterPercent [Alphabet] (start : List Char) : List Char → Except Halt (Taken Piece)
  | [] => Scan.refuse start []
  | c :: r =>
    if isSpace c || c = '%' then .ok (percent, c :: r)
    else do
      let (_, r) ← Scan.name start (c :: r)
      return (parameter, ← Scan.charAfterName start ';' r)

/-- What an angle bracket begins. Behind it, whatever is too far for keywords,
readable or not, counts as the name of a root. -/
def afterAngle [a : Alphabet] (ending : Ending) (start : List Char) : List Char → Except Halt (Taken Piece)
  | '!' :: '-' :: r => do return (comment, ← Scan.comment start r)
  | '!' :: '[' :: r => .ok (openSection, r)
  | '!' :: c :: r =>
    if isKeywordChar c then keyword ending start [c] r else Scan.miss start (c :: r)
  | '!' :: [] => Scan.miss start []
  | '?' :: r => do
    let ((target, _), rest) ← Scan.instruction start r
    return (if target = "xml" then declaration else instruction, rest)
  | c :: r =>
    if isNameStart c || a.keywordLimit ≤ c.toNat then .ok (root, c :: r) else Scan.refuse start (c :: r)
  | [] => if ending.isLong then .ok (root, []) else Scan.refuse start []

/-- What a closing bracket begins. -/
def afterBracket (ending : Ending) (start : List Char) : List Char → Except Halt (Taken Piece)
  | ']' :: '>' :: r => .ok (closeSection, r)
  | ']' :: r =>
    if Scan.isEnd r && ending.isWhole then Scan.refuse start [] else .ok (closeBracket, ']' :: r)
  | r => .ok (closeBracket, if Scan.isEnd r then [] else r)

/-- What a closing parenthesis begins. -/
def afterGroup (ending : Ending) (start : List Char) : List Char → Except Halt (Taken Piece)
  | [] => if ending.isWhole then .ok (closeGroup none, []) else .error (.fault .invalidToken [])
  | c :: r =>
    if Scan.isEnd (c :: r) then .ok (closeGroup none, [])
    else if c = '*' ∨ c = '?' ∨ c = '+' then .ok (closeGroup (some c), r)
    else if isSpace c || c = '>' || c = ',' || c = '|' || c = ')' then .ok (closeGroup none, c :: r)
    else Scan.refuse start (c :: r)

/-- The name behind a hash sign. -/
def afterHash [Alphabet] (ending : Ending) (start rest : List Char) : Except Halt (Taken Piece) := do
  let (text, r) ← Scan.name start rest
  if Scan.isEnd r then atEnd ending start hash text r
  else
  match r with
  | [] => .ok (hash text, [])
  | c :: _ =>
    if isSpace c || c = ')' || c = '>' || c = '%' || c = '|' then return (hash text, r)
    else Scan.refuse start r

/-- The piece in front of a text that does not begin with a blank. -/
def scan [Alphabet] (ending : Ending) (text : List Char) : Except Halt (Taken Piece) :=
  match text with
  | [] => if ending.isWhole then .error (.fault .noElement []) else .error (.ended .noElement [])
  | '<' :: r => afterAngle ending text r
  | '%' :: r => afterPercent text r
  | '#' :: r => afterHash ending text r
  | '[' :: r => .ok (openBracket, r)
  | ']' :: r => afterBracket ending text r
  | '(' :: r => .ok (openGroup, r)
  | ')' :: r => afterGroup ending text r
  | ',' :: r => .ok (comma, r)
  | '|' :: r => .ok (bar, r)
  | '>' :: r => .ok (close, r)
  | c :: r =>
    if c = '"' ∨ c = '\'' then quotedText ending text c r
    else if isNameStart c then nameOrWord ending text false false [c] r
    else if isNameChar c || c = ':' then nameOrWord ending text true false [c] r
    else Scan.refuse text text

end Piece

/-- A piece with the rests that begin with it and behind it. -/
structure Placed where
  piece : Piece
  start : List Char
  rest : List Char
  deriving Repr

namespace Placed

/-- The next piece of a text. -/
def next [Alphabet] (ending : Ending) (text : List Char) : Except Halt Placed := do
  let start := text.dropWhile isSpace
  let (p, rest) ← Piece.scan ending start
  return ⟨p, start, rest⟩

/-- The piece does not fit where it stands. -/
def misfit {α : Type} (p : Placed) : Except Halt α :=
  match p.piece with
  | .parameter => .error (.fault .parameterEntity p.start)
  | .declaration => .error (.fault .misplacedDeclaration p.start)
  | _ => .error (.fault .unexpected p.start)

end Placed
end ScriptGrader.Markup
