import ScriptGrader.Script.Lexer
import ScriptGrader.Script.Node

/-!
# Reading a script: the reader's state

The reader looks one token ahead. It keeps what the grammar makes depend
on the surroundings: the mode, which words are allowed, which labels are
in scope, and whether the expression just read could also be assigned to
or be a parameter. Productions refer to each other through a `Goal`: each
one is given the reader of all goals, and the reader itself ties the knot
with a step count.
-/

namespace ScriptGrader.Script

/-- What the grammar makes depend on the surroundings. -/
structure Context where
  isModule : Bool
  strict : Bool
  allowAwait : Bool
  allowIn : Bool
  allowStrictDirective : Bool
  allowYield : Bool
  /-- Could the expression be assigned to? -/
  isTarget : Bool
  /-- Could the expression be a parameter? -/
  isBinding : Bool
  inFunctionBody : Bool
  inIteration : Bool
  inSwitch : Bool
  /-- The first default value in an object that is right only in a pattern. -/
  coverDefault : Option Token
  labels : List String

namespace Context

def initial : Context :=
  { isModule := false, strict := false, allowAwait := false, allowIn := true
    allowStrictDirective := true, allowYield := true, isTarget := false, isBinding := false
    inFunctionBody := false, inIteration := false, inSwitch := false, coverDefault := none, labels := [] }

end Context

/-- A bound name, with its line if it was bound by a token. -/
structure BoundName where
  name : String
  line : Option Nat

/-- The state of the reader. -/
structure State where
  /-- The place after the token looked at. -/
  cursor : Cursor
  lookahead : Token
  /-- The place where the token looked at begins. -/
  lookaheadAt : Cursor
  /-- Does the token looked at stand on another line than the one before? -/
  newline : Bool
  /-- The line on which the last token read ends. -/
  lastLine : Nat
  context : Context
  /-- The names that the pattern being read binds, the last one first. -/
  bound : List BoundName

/-- An action of the reader. -/
abbrev Read (α : Type) : Type := StateT State (Except Error) α

/-- What a production may ask to be read. -/
inductive Goal
  | assignment
  | expression
  | unary
  | exponent
  /-- What is called with `new`: an expression without calls. -/
  | newCallee
  /-- An expression with accesses and calls. -/
  | callee
  | statement
  | item
  /-- A pattern; the word of the declaration that it belongs to. -/
  | pattern (declaration : String)
  deriving DecidableEq, Repr

/-- Reads what is asked for. -/
abbrev Productions : Type := Goal → Read Node

namespace Reader

/-! ## Failure -/

/-- Fail on the line of the last token read. -/
def fail {α : Type} (cause : Cause) : Read α := do throw (.onLine (← get).lastLine cause)

/-- Fail on the line that the token looked at ends on. -/
def failHere {α : Type} (cause : Cause) : Read α := do throw (.onLine (← get).cursor.line cause)

/-- Fail on a token. It is told even where the cause does not show it, so a number must have a text. -/
def failOn {α : Type} (t : Token) (cause : Cause) : Read α :=
  throw (if t.isTooLong then ⟨none, .tooManyDigits⟩ else .onLine t.line cause)

/-- Fail on a bound name. -/
def failOnName {α : Type} (b : Option BoundName) (cause : Cause) : Read α := do
  match b.bind (·.line) with
  | some line => throw (.onLine line cause)
  | none => fail cause

/-- What is wrong when a token stands where it may not. -/
def unexpectedCause (strict : Bool) (t : Token) : Cause :=
  match t.kind with
  | .endOfInput => .unexpected .endOfInput
  | .identifier => .unexpected .identifier
  | .number _ => .unexpected .number
  | .string _ => .unexpected .string
  | .template .. => .unexpected (.quasi t.text)
  | .keyword =>
    if isReserved t.text then .unexpected .reserved
    else if strict && isStrictReserved t.text then .strictReserved
    else .unexpected (.token t.text)
  | _ => .unexpected (.token t.text)

def unexpected {α : Type} (t : Token) : Read α := do
  failOn t (unexpectedCause (← get).context.strict t)

/-! ## Tokens -/

def context : Read Context := return (← get).context

def setContext (f : Context → Context) : Read Unit := modify fun s => { s with context := f s.context }

def lookahead : Read Token := return (← get).lookahead

/-- Take the token looked at and look at the next one. In strict mode some
identifiers are keywords. -/
def next : Read Token := do
  let s ← get
  let start ← s.cursor.skip
  let (t, after) ← start.token
  let t :=
    if s.context.strict && t.kind = .identifier && isStrictReserved t.text then
      { t with kind := .keyword }
    else t
  set { s with
    cursor := after, lookahead := t, lookaheadAt := start
    newline := s.lookahead.line ≠ t.line, lastLine := s.cursor.line }
  return s.lookahead

/-- Take the regular expression that begins where the token looked at does. -/
def nextRegex : Read Unit := do
  let s ← get
  let (t, after) ← s.lookaheadAt.regex
  set { s with cursor := after, lookahead := t }
  let _ ← next

/-- Is the punctuator next? -/
def isAt (text : String) : Read Bool := return (← get).lookahead.isPunctuator text

def isAtWord (word : String) : Read Bool := return (← get).lookahead.isKeyword word

/-- Is the name next? -/
def isAtName (name : String) : Read Bool := return (← get).lookahead.isIdentifier name

def atEnd : Read Bool := return (← get).lookahead.kind = .endOfInput

def skip : Read Unit := do
  let _ ← next

def expect (text : String) : Read Unit := do
  let t ← next
  unless t.isPunctuator text do unexpected t

def expectWord (word : String) : Read Unit := do
  let t ← next
  unless t.isKeyword word do unexpected t

/-- The token after the one looked at. A brace there is counted now, and
once more when the token is taken. -/
def peek : Read Token := do
  let s ← get
  let (t, after) ← (← s.cursor.skip).token
  set { s with cursor := { s.cursor with braces := after.braces } }
  return t

/-- The end of a statement: a semicolon, or where one may be left out. -/
def semicolon : Read Unit := do
  if ← isAt ";" then skip
  else
    let s ← get
    unless s.newline do
      if s.lookahead.kind ≠ .endOfInput && !s.lookahead.isPunctuator "\x7d" then unexpected s.lookahead
      set { s with lastLine := s.lookaheadAt.line }

/-- Is an asynchronous function next, on one line up to its keyword? -/
def isAtAsyncFunction : Read Bool := do
  if ← isAtName "async" then
    let t ← peek
    return t.line = (← get).cursor.line && t.isKeyword "function"
  else return false

/-- Is a call of `import` next? -/
def isAtImportCall : Read Bool := do
  if ← isAtWord "import" then return (← peek).isPunctuator "("
  else return false

/-! ## Repetition -/

def iterate {α : Type} (step : α → Read (Option α)) : Nat → α → Read α
  | 0, _ => throw ⟨none, .tooDeep⟩
  | n + 1, a => do
    match ← step a with
    | some b => iterate step n b
    | none => return a

/-- Repeat a step until it has no result. Every step takes a token, so
what is left of the script bounds their number. -/
def repeating {α : Type} (step : α → Read (Option α)) (a : α) : Read α := do
  iterate step ((← get).cursor.rest.length + 4) a

/-- Items until the end is reached. -/
def manyUntil {α : Type} (ended : Read Bool) (item : Read α) : Read (List α) := do
  let items ← repeating (fun done => do
    if ← ended then return none else return some ((← item) :: done)) []
  return items.reverse

/-- Items with commas between them, up to a closing mark, which is taken. -/
def separated {α : Type} (closing : String) (item : Read α) : Read (List α) := do
  let items ← manyUntil (isAt closing) do
    let x ← item
    unless ← isAt closing do expect ","
    return x
  expect closing
  return items

/-! ## Expressions that may turn out to be patterns -/

/-- Read an expression on its own: it is no part of a pattern. -/
def isolated {α : Type} (p : Read α) : Read α := do
  let before ← context
  setContext fun c => { c with isBinding := true, isTarget := true, coverDefault := none }
  let a ← p
  if let some t := (← context).coverDefault then unexpected t
  setContext fun c =>
    { c with isBinding := before.isBinding, isTarget := before.isTarget, coverDefault := before.coverDefault }
  return a

/-- Read a part of an expression: the whole can be a pattern only if the part can. -/
def inherited {α : Type} (p : Read α) : Read α := do
  let before ← context
  setContext fun c => { c with isBinding := true, isTarget := true, coverDefault := none }
  let a ← p
  setContext fun c =>
    { c with
      isBinding := c.isBinding && before.isBinding
      isTarget := c.isTarget && before.isTarget
      coverDefault := before.coverDefault.or c.coverDefault }
  return a

/-- What was read is neither assigned to nor a parameter. -/
def noPattern : Read Unit := setContext fun c => { c with isTarget := false, isBinding := false }

/-- Read with a changed context and put back what `restore` names. -/
def during {α : Type} (change : Context → Context) (restore : Context → Context → Context)
    (p : Read α) : Read α := do
  let before ← context
  setContext change
  let a ← p
  setContext (restore before)
  return a

/-- Read with the names that are bound on the way. -/
def binding {α : Type} (p : Read α) : Read (α × List BoundName) := do
  let before := (← get).bound
  modify fun s => { s with bound := [] }
  let a ← p
  let names := (← get).bound.reverse
  modify fun s => { s with bound := before }
  return (a, names)

def bind (t : Token) : Read Unit :=
  modify fun s => { s with bound := ⟨t.text, some t.line⟩ :: s.bound }

/-! ## Names -/

/-- A name after a point: any word. -/
def wordName : Read Node := do
  let t ← next
  unless t.isName do unexpected t
  return .identifier t.text

/-- A name that is bound or referred to. -/
def variableName (declaration : String) : Read Node := do
  let t ← next
  let c ← context
  if t.isKeyword "yield" then
    if c.strict then failOn t .strictReserved
    else if !c.allowYield then unexpected t
  else if t.kind ≠ .identifier then
    if c.strict && t.kind = .keyword && isStrictReserved t.text then failOn t .strictReserved
    else if c.strict || t.text ≠ "let" || declaration ≠ "var" then unexpected t
  else if (c.isModule || c.allowAwait) && t.text = "await" then unexpected t
  return .identifier t.text

end Reader
end ScriptGrader.Script
