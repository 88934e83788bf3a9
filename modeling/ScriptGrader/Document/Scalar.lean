import ScriptGrader.Document.Indicator

/-!
# The texts of a document

A text is plain, quoted with single or double quotes, or a block that
keeps its lines or folds them. Where a text goes over several lines, a
single end of a line counts as a blank and further ones as themselves.
-/

namespace ScriptGrader.Document.Scan

/-! ## Quoted texts -/

/-- What a character after a backslash stands for. -/
def escapeChar? : Char → Option Char
  | '0' => some '\x00'
  | 'a' => some '\x07'
  | 'b' => some '\x08'
  | 't' => some '\t'
  | '\t' => some '\t'
  | 'n' => some '\n'
  | 'v' => some '\x0b'
  | 'f' => some '\x0c'
  | 'r' => some '\r'
  | 'e' => some '\x1b'
  | ' ' => some ' '
  | '"' => some '"'
  | '\\' => some '\\'
  | '/' => some '/'
  | 'N' => some '\u0085'
  | '_' => some '\u00a0'
  | 'L' => some '\u2028'
  | 'P' => some '\u2029'
  | _ => none

/-- How many hexadecimal digits follow a character after a backslash. -/
def escapeWidth? : Char → Option Nat
  | 'x' => some 2
  | 'u' => some 4
  | 'U' => some 8
  | _ => none

/-- A character by its code. A document with half of a pair is put aside. -/
def charOfCode (code : Nat) : Scan Char := do
  if 0x7fffffff < code then throw (.scalar (.notCharacter true))
  if 0x10ffff < code then throw (.scalar (.notCharacter false))
  if !code.isValidChar then throw (.beyond .halfPair)
  return Char.ofNat code

/-- Pass over `width` hexadecimal digits that are a character's code. -/
def codeEscape (start : Mark) (width : Nat) : Scan Char := do
  let digits := (← get).rest.take width
  let valid := digits.takeWhile isHexDigit
  if valid.length < width then
    let c ← peekAt valid.length
    failHere (some (.doubleQuotedScalar, some start)) (.expected (.hexadecimal width) c)
  let c ← charOfCode (hexNumber digits)
  forward width
  return c

/-- The ends of lines, with blanks between them, after the first one in a quoted text. -/
def quotedBreaks (start : Mark) : Nat → Scan (List Char)
  | 0 => return []
  | fuel + 1 => do
    if ← atDocumentMark ["---", "..."] then
      failHere (some (.quotedScalar, some start)) .documentSeparator
    let _ ← span fun c => c = ' ' || c = '\t'
    if isBreak (← peek) then
      let b ← lineBreak
      return b ++ (← quotedBreaks start fuel)
    else return []

/-- What ends of lines count for: the first one as a blank, unless more follow. -/
def folded (first more : List Char) : List Char :=
  if first ≠ ['\n'] then first ++ more
  else if more.isEmpty then [' ']
  else more

/-- Blanks and ends of lines in a quoted text. -/
def quotedBlanks (start : Mark) : Scan (List Char) := do
  let blanks ← span fun c => c = ' ' || c = '\t'
  let c ← peek
  if c = endMark then failHere (some (.quotedScalar, some start)) .endOfStream
  else if isBreak c then
    let first ← lineBreak
    return folded first (← quotedBreaks start (← fuel))
  else return blanks

/-- What a backslash in front stands for. -/
def escape (start : Mark) : Scan (List Char) := do
  forward 1
  let c ← peek
  match escapeChar? c, escapeWidth? c with
  | some e, _ =>
    forward 1
    return [e]
  | none, some width =>
    forward 1
    return [← codeEscape start width]
  | none, none =>
    if isBreak c then
      let _ ← lineBreak
      quotedBreaks start (← fuel)
    else failHere (some (.doubleQuotedScalar, some start)) (.unknownEscape c)

/-- A run of a quoted text between blanks. -/
def quotedRun (double : Bool) (start : Mark) : Nat → List (List Char) → Scan (List (List Char))
  | 0, done => return done
  | fuel + 1, done => do
    let cs ← span fun c => !(isWideGap c || c = '\'' || c = '"' || c = '\\')
    let done := cs :: done
    let c ← peek
    if !double && c = '\'' then
      if (← peekAt 1) = '\'' then
        forward 2
        quotedRun double start fuel (['\''] :: done)
      else return done
    else if (double && c = '\'') || (!double && (c = '"' || c = '\\')) then
      forward 1
      quotedRun double start fuel ([c] :: done)
    else if double && c = '\\' then
      let e ← escape start
      quotedRun double start fuel (e :: done)
    else return done

/-- A quoted text up to its closing quote. -/
def quotedRest (double : Bool) (start : Mark) : Nat → List (List Char) → Scan (List (List Char))
  | 0, done => return done
  | fuel + 1, done => do
    if (← peek) = (if double then '"' else '\'') then return done
    else
      let blanks ← quotedBlanks start
      let done ← quotedRun double start (← Scan.fuel) (blanks :: done)
      quotedRest double start fuel done

/-- The text of chunks that were collected in reverse. -/
def joined (chunks : List (List Char)) : String := String.ofList chunks.reverse.flatten

def quoted (double : Bool) : Scan Token := do
  let start ← place
  forward 1
  let first ← quotedRun double start (← fuel) []
  let chunks ← quotedRest double start (← fuel) first
  forward 1
  return ⟨.scalar (joined chunks) false, start, ← place⟩

/-! ## Plain texts -/

/-- Is the character one of those that flow collections are made of? -/
def isFlowIndicator (c : Char) : Bool := ",?[]\x7b\x7d".toList.contains c

/-- May a colon before the character be the mark of a value? -/
def endsKey (inFlow : Bool) (c : Char) : Bool :=
  isWideGap c || (inFlow && c ≠ '?' && isFlowIndicator c)

/-- The run of plain text in front. -/
def plainRun (inFlow : Bool) : List Char → List Char
  | [] => []
  | c :: r =>
    if isWideGap c || (inFlow && isFlowIndicator c) then []
    else if c = ':' && endsKey inFlow (r.headD endMark) then []
    else c :: plainRun inFlow r

/-- Ends of lines, with blanks between them, in a plain text; none before
a mark that ends the document. -/
def plainBreaks : Nat → Scan (Option (List Char))
  | 0 => return some []
  | fuel + 1 => do
    let _ ← span (· = ' ')
    if isBreak (← peek) then
      let b ← lineBreak
      if ← atDocumentMark ["---", "..."] then return none
      else return (← plainBreaks fuel).map (b ++ ·)
    else return some []

/-- Blanks and ends of lines in a plain text; nothing if the text ends here. -/
def plainBlanks : Scan (List Char) := do
  let blanks ← span (· = ' ')
  if isBreak (← peek) then
    let first ← lineBreak
    modify fun s => { s with allowsKey := true }
    if ← atDocumentMark ["---", "..."] then return []
    else
      match ← plainBreaks (← fuel) with
      | some more => return folded first more
      | none => return []
  else return blanks

/-- A plain text, with the place after its last character. -/
def plainRest (indent : Int) : Nat → List (List Char) → Mark → List Char → Scan (List (List Char) × Mark)
  | 0, done, stop, _ => return (done, stop)
  | fuel + 1, done, stop, blanks => do
    if (← peek) = '#' then return (done, stop)
    let inFlow := (← get).flowLevel ≠ 0
    let run := plainRun inFlow (← get).rest
    if (← peekAt run.length) = ':' then
      let _ ← peekAt (run.length + 1)
    if run.isEmpty then return (done, stop)
    modify fun s => { s with allowsKey := false }
    forward run.length
    let stop ← place
    let done := run :: blanks :: done
    let blanks ← plainBlanks
    let here ← place
    if blanks.isEmpty || (← peek) = '#' || (!inFlow && (here.column : Int) < indent) then
      return (done, stop)
    else plainRest indent fuel done stop blanks

def plain : Scan Token := do
  let start ← place
  let (chunks, stop) ← plainRest ((← get).indent + 1) (← fuel) [] start []
  return ⟨.scalar (joined chunks) true, start, stop⟩

/-! ## Blocks -/

/-- What happens to the ends of lines at the end of a block. -/
inductive Chomping
  /-- One is kept. -/
  | clip
  | strip
  | keep
  deriving DecidableEq, Repr

def chomping? : Char → Option Chomping
  | '+' => some .keep
  | '-' => some .strip
  | _ => none

/-- A digit that gives the indentation of a block. -/
def blockIndent (start : Mark) : Scan (Option Nat) := do
  let c ← peek
  if !isDecimalDigit c then return none
  else if c = '0' then failHere (some (.blockScalar, some start)) .noIndentation
  else
    forward 1
    return some (hexNumber [c])

/-- The indicators after the mark of a block, in either order. -/
def blockHeader (start : Mark) : Scan (Chomping × Option Nat) := do
  let given ←
    match chomping? (← peek) with
    | some ch =>
      forward 1
      pure (ch, ← blockIndent start)
    | none =>
      match ← blockIndent start with
      | none => pure (.clip, none)
      | some n =>
        match chomping? (← peek) with
        | some ch =>
          forward 1
          pure (ch, some n)
        | none => pure (.clip, some n)
  if isGap (← peek) then return given
  else expected .blockScalar start .blockIndicator

/-- The empty lines before a block without given indentation: their ends,
and the largest indentation on the way. -/
def blockLead : Nat → List (List Char) → Nat → Scan (List (List Char) × Nat)
  | 0, done, width => return (done, width)
  | fuel + 1, done, width => do
    let c ← peek
    if isBreak c then
      let b ← lineBreak
      blockLead fuel (b :: done) width
    else if c = ' ' then
      forward 1
      blockLead fuel done (max width (← place).column)
    else return (done, width)

/-- Blanks up to a column. -/
def blanksTo (column : Nat) : Scan Unit := do
  let s ← get
  forward ((s.rest.take (column - s.place.column)).takeWhile (· = ' ')).length

/-- The empty lines between the lines of a block. -/
def blockBreaks (column : Nat) : Nat → List (List Char) → Scan (List (List Char))
  | 0, done => return done
  | fuel + 1, done => do
    blanksTo column
    if isBreak (← peek) then
      let b ← lineBreak
      blockBreaks column fuel (b :: done)
    else return done

def isBlankOrTab (c : Char) : Bool := c = ' ' || c = '\t'

/-- The lines of a block; `breaks` are the empty lines before the next
one. The result is the text, the last end of a line and what follows it. -/
def blockLines (fold : Bool) (column : Nat) :
    Nat → List (List Char) → List (List Char) → List Char →
      Scan (List (List Char) × List Char × List (List Char))
  | 0, done, breaks, last => return (done, last, breaks)
  | fuel + 1, done, breaks, last => do
    let c ← peek
    if (← place).column ≠ column || c = endMark then return (done, last, breaks)
    let line ← span fun c => !isBreakOrEnd c
    let done := line :: (breaks ++ done)
    let last ← lineBreak
    let breaks ← blockBreaks column (← Scan.fuel) []
    let next ← peek
    if (← place).column = column && next ≠ endMark then
      let between :=
        if fold && last = ['\n'] && !isBlankOrTab c && !isBlankOrTab next then
          if breaks.isEmpty then [' '] else []
        else last
      blockLines fold column fuel (between :: done) breaks last
    else return (done, last, breaks)

/-- A block that keeps its lines, or folds them. -/
def block (fold : Bool) : Scan Token := do
  let start ← place
  forward 1
  let (chomping, given) ← blockHeader start
  ignoredLine .blockScalar start
  let least := max 1 ((← get).indent + 1).toNat
  let (breaks, column) ←
    match given with
    | none =>
      let (breaks, width) ← blockLead (← fuel) [] 0
      pure (breaks, max least width)
    | some n =>
      let column := least + n - 1
      pure (← blockBreaks column (← fuel) [], column)
  let (done, last, breaks) ← blockLines fold column (← fuel) [] breaks []
  let done := if chomping = .strip then done else last :: done
  let done := if chomping = .keep then breaks ++ done else done
  return ⟨.scalar (joined done) false, start, ← place⟩

end ScriptGrader.Document.Scan
