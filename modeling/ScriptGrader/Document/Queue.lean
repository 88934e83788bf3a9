import ScriptGrader.Document.Scalar

/-!
# The queue of tokens

Tokens are read as they are asked for. A token that may turn out to be
the key of a mapping waits in the queue until the text behind it tells:
a colon on the same line and within reach makes it one, and then the mark
of a key, and where indentation asks for it the start of a mapping, are
put in front of it.
-/

namespace ScriptGrader.Document.Scan

/-- How many characters a key without a mark may go over. -/
def keyReach : Nat := 1024

def push (t : Token) : Scan Unit := modify fun s => { s with queue := s.queue ++ [t] }

/-- A token without extent where the cursor stands. -/
def pushHere (k : TokenKind) : Scan Unit := do
  let p ← place
  push ⟨k, p, p⟩

/-- A token of the next `n` characters. -/
def pushNext (k : TokenKind) (n : Nat) : Scan Unit := do
  let start ← place
  forward n
  push ⟨k, start, ← place⟩

def allowKey (allowed : Bool) : Scan Unit := modify fun s => { s with allowsKey := allowed }

/-! ## Indentation -/

/-- The block collections that begin behind a column are closed. -/
def closeBlocks (column : Int) : Scan Unit := do
  let s ← get
  if s.flowLevel = 0 then
    let closed := if column < s.indent then
        s.indent :: s.indents.takeWhile (column < ·)
      else []
    for _ in closed do pushHere .blockEnd
    if !closed.isEmpty then
      let outer := s.indents.dropWhile (column < ·)
      modify fun s => { s with indent := outer.headD (-1), indents := outer.tail }

/-- A block collection begins at a column, unless one does already. -/
def openBlock (column : Nat) : Scan Bool := do
  let s ← get
  if s.indent < column then
    set { s with indent := column, indents := s.indent :: s.indents }
    return true
  else return false

/-! ## Keys without a mark -/

/-- The key for which no colon was found. -/
def failKey {α : Type} (k : SimpleKey) : Scan α :=
  failHere (some (.simpleKey, some k.place)) .noKeyMark

/-- What can no longer be a key is forgotten; it is an error if it had to be one. -/
def dropStaleKeys : Scan Unit := do
  let s ← get
  let isStale (k : SimpleKey) : Bool :=
    k.place.line ≠ s.place.line || keyReach < s.place.index - k.place.index
  match s.keys.find? fun (_, k) => isStale k && k.required with
  | some (_, k) => failKey k
  | none => set { s with keys := s.keys.filter fun (_, k) => !isStale k }

/-- What may be a key on the present flow level is forgotten. -/
def dropKey : Scan Unit := do
  let s ← get
  match s.keys.lookup s.flowLevel with
  | some k =>
    if k.required then failKey k
    else set { s with keys := s.keys.filter fun (l, _) => l ≠ s.flowLevel }
  | none => return

/-- The next token may be a key. -/
def noteKey : Scan Unit := do
  let s ← get
  if s.allowsKey then
    let required := s.flowLevel = 0 && s.indent = s.place.column
    dropKey
    modify fun s => { s with
      keys := s.keys ++ [(s.flowLevel, ⟨s.taken + s.queue.length, required, s.place⟩)] }

/-- May the first token of the queue still be a key? -/
def firstMayBeKey : Scan Bool := do
  let s ← get
  return (s.keys.map fun (_, k) => k.token).min? = some s.taken

/-! ## Reading tokens -/

/-- Does a gap follow the character in front? -/
def gapFollows : Scan Bool := return isWideGap (← peekAt 1)

def inFlow : Scan Bool := return (← get).flowLevel ≠ 0

def readStreamEnd : Scan Unit := do
  closeBlocks (-1)
  dropKey
  modify fun s => { s with allowsKey := false, keys := [] }
  pushHere .streamEnd
  modify fun s => { s with done := true }

def readDirective : Scan Unit := do
  closeBlocks (-1)
  dropKey
  allowKey false
  push (← directive)

def readDocumentMark (k : TokenKind) : Scan Unit := do
  closeBlocks (-1)
  dropKey
  allowKey false
  pushNext k 3

def readFlowStart (k : TokenKind) : Scan Unit := do
  noteKey
  modify fun s => { s with flowLevel := s.flowLevel + 1, allowsKey := true }
  pushNext k 1

def readFlowEnd (k : TokenKind) : Scan Unit := do
  dropKey
  modify fun s => { s with flowLevel := s.flowLevel - 1, allowsKey := false }
  pushNext k 1

def readFlowEntry : Scan Unit := do
  allowKey true
  dropKey
  pushNext .flowEntry 1

/-- A mark of a block collection opens one where keys may begin. -/
def openAtMark (collection : TokenKind) (problem : Problem) : Scan Unit := do
  if !(← inFlow) then
    let s ← get
    if !s.allowsKey then failHere none problem
    if ← openBlock s.place.column then pushHere collection

def readBlockEntry : Scan Unit := do
  openAtMark .blockSequenceStart .sequenceEntry
  allowKey true
  dropKey
  pushNext .blockEntry 1

def readKey : Scan Unit := do
  openAtMark .blockMappingStart .mappingKey
  allowKey !(← inFlow)
  dropKey
  pushNext .key 1

/-- The mark of a value. What may be a key before it becomes one. -/
def readValue : Scan Unit := do
  let s ← get
  match s.keys.lookup s.flowLevel with
  | some k =>
    let opened ← if s.flowLevel = 0 then openBlock k.place.column else pure false
    let before := if opened then [⟨.blockMappingStart, k.place, k.place⟩] else []
    let n := k.token - s.taken
    modify fun s => { s with
      keys := s.keys.filter fun (l, _) => l ≠ s.flowLevel
      queue := s.queue.take n ++ before ++ [⟨.key, k.place, k.place⟩] ++ s.queue.drop n
      allowsKey := false }
  | none =>
    openAtMark .blockMappingStart .mappingValue
    allowKey !(← inFlow)
    dropKey
  pushNext .value 1

/-- A token that may be a key itself. -/
def readKeyLike (token : Scan Token) : Scan Unit := do
  noteKey
  allowKey false
  push (← token)

def readBlock (fold : Bool) : Scan Unit := do
  allowKey true
  dropKey
  push (← block fold)

/-- May a plain text begin here? -/
def atPlain : Scan Bool := do
  let c ← peek
  if !(isWideGap c || "-?:,[]\x7b\x7d#&*!|>'\"%@`".toList.contains c) then return true
  else if isWideGap (← peekAt 1) then return false
  else return c = '-' || (!(← inFlow) && (c = '?' || c = ':'))

/-- Pass over what stands between tokens. -/
def toNextToken : Nat → Scan Unit
  | 0 => return
  | fuel + 1 => do
    blanksAndComment
    if !(← lineBreak).isEmpty then
      if !(← inFlow) then allowKey true
      toNextToken fuel

/-- Read what comes next into the queue. -/
def readMore : Scan Unit := do
  if (← place).index = 0 && (← peek) = '\uFEFF' then forward 1
  toNextToken (← fuel)
  dropStaleKeys
  let column := (← place).column
  closeBlocks column
  let c ← peek
  let flow ← inFlow
  if c = endMark then readStreamEnd
  else if c = '%' && column = 0 then readDirective
  else if ← (if c = '-' && column = 0 then atDocumentMark ["---"] else pure false) then
    readDocumentMark .documentStart
  else if ← (if c = '.' && column = 0 then atDocumentMark ["..."] else pure false) then
    readDocumentMark .documentEnd
  else if c = '[' then readFlowStart .flowSequenceStart
  else if c = '\x7b' then readFlowStart .flowMappingStart
  else if c = ']' then readFlowEnd .flowSequenceEnd
  else if c = '\x7d' then readFlowEnd .flowMappingEnd
  else if c = ',' then readFlowEntry
  else if ← (if c = '-' then gapFollows else pure false) then readBlockEntry
  else if ← (if c = '?' && !flow then gapFollows else pure (c = '?')) then readKey
  else if ← (if c = ':' && !flow then gapFollows else pure (c = ':')) then readValue
  else if c = '*' || c = '&' then readKeyLike anchor
  else if c = '!' then readKeyLike tag
  else if c = '|' && !flow then readBlock false
  else if c = '>' && !flow then readBlock true
  else if c = '\'' then readKeyLike (quoted false)
  else if c = '"' then readKeyLike (quoted true)
  else if ← atPlain then readKeyLike plain
  else failHere (some (.nextToken, none)) (.cannotStart c)

/-- Read until the first token of the queue is settled. -/
def settle : Nat → Scan Unit
  | 0 => throw .tooDeep
  | fuel + 1 => do
    let s ← get
    if s.done then return
    let more ←
      if s.queue.isEmpty then pure true
      else do
        dropStaleKeys
        firstMayBeKey
    if more then
      readMore
      settle fuel

/-- The next token, which stays in the queue. The last token of a
document is never taken. -/
def next : Scan Token := do
  settle ((← fuel) + 1)
  let s ← get
  match s.queue with
  | t :: _ => return t
  | [] => return ⟨.streamEnd, s.place, s.place⟩

/-- Take the next token. -/
def take : Scan Token := do
  let t ← next
  modify fun s => { s with queue := s.queue.tail, taken := s.taken + 1 }
  return t

end ScriptGrader.Document.Scan
