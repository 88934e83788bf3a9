import ScriptGrader.Document.Content
import ScriptGrader.Document.Queue

/-!
# Reading a document

The tokens of a document make a tree of nodes. An anchor names a node, and
an alias stands for the node that was named; an anchor may be set once in
a document. A file holds one document at most. A node that is still being
read has no tree yet, so a document with an alias for one is put aside.
-/

namespace ScriptGrader.Document

/-- A named node: where it begins, and the node once it is complete. -/
structure Anchored where
  start : Mark
  node : Option Node
  deriving Repr

/-- What a reader knows besides the tokens. -/
structure Known where
  /-- What the handles of tags stand for. -/
  handles : List (String × String)
  anchors : List (String × Anchored)
  /-- How many nodes there are. -/
  count : Nat
  deriving Repr

abbrev Reading := StateT Known Scan

/-- Where a node is read, which decides what it may be. -/
inductive Site
  | flow
  | block
  /-- In a block mapping, where a list need not be indented. -/
  | blockEntry
  deriving DecidableEq, Repr

/-- What stands before a node: an anchor and a tag, and where they are. -/
structure Properties where
  anchor : Option String
  tag : Option String
  /-- Where the first of them begins and the last one ends. -/
  extent : Option (Mark × Mark)

namespace Reading

def next : Reading Token := Scan.next

def take : Reading Token := Scan.take

def fail {α : Type} (during : Option (Activity × Option Mark)) (p : Problem) (place : Mark) :
    Reading α :=
  throw (.marked during p place)

/-- Is the next token of a kind? -/
def at? (kinds : List TokenKind) : Reading Bool := return kinds.contains (← next).kind

/-- Take the next token if it is of a kind. -/
def takeIf (kind : TokenKind) : Reading Bool := do
  if (← next).kind = kind then
    let _ ← take
    return true
  else return false

/-! ## Properties and texts -/

/-- Take an anchor, if there is one. -/
def anchor? : Reading (Option (String × Token)) := do
  match (← next).kind with
  | .anchor name => return some (name, ← take)
  | _ => return none

/-- Take a tag, if there is one. -/
def tag? : Reading (Option ((Option String × String) × Token)) := do
  match (← next).kind with
  | .tag handle suffix => return some ((handle, suffix), ← take)
  | _ => return none

/-- The text of a tag, with its handle replaced by what it stands for. -/
def tagText (start place : Mark) : Option String × String → Reading String
  | (none, suffix) => return suffix
  | (some h, suffix) => do
    match (← get).handles.lookup h with
    | some stem => return stem ++ suffix
    | none => fail (some (.node, some start)) (.undefinedHandle h) place

/-- An anchor and a tag in either order. -/
def properties : Reading Properties := do
  match ← anchor? with
  | some (name, a) =>
    match ← tag? with
    | some (t, b) => return ⟨some name, some (← tagText a.start b.start t), some (a.start, b.stop)⟩
    | none => return ⟨some name, none, some (a.start, a.stop)⟩
  | none =>
    match ← tag? with
    | some (t, a) =>
      match ← anchor? with
      | some (name, b) =>
        return ⟨some name, some (← tagText a.start a.start t), some (a.start, b.stop)⟩
      | none => return ⟨none, some (← tagText a.start a.start t), some (a.start, a.stop)⟩
    | none => return ⟨none, none, none⟩

/-- Make a node with the next number. -/
def numbered (make : Nat → Node) : Reading Node := do
  let n := (← get).count
  modify fun k => { k with count := n + 1 }
  return make n

/-- A node without text. -/
def emptyNode (place : Mark) : Reading Node := numbered fun n => .scalar n Tag.null "" place

/-- The tag of a text: the one that is given, or else one by the way a plain text is written. -/
def textTag ( plain : Bool) (text : String) : Option String → String
  | none => if plain then Tag.ofPlain text else Tag.text
  | some "!" => Tag.ofPlain text
  | some t => t

/-- The tag of a collection. -/
def collectionTag (default : String) : Option String → String
  | none => default
  | some "!" => default
  | some t => t

/-! ## Anchors -/

/-- An anchor is set where a node begins. -/
def setAnchor (name : Option String) (start : Mark) : Reading Unit := do
  match name with
  | none => return
  | some n =>
    match (← get).anchors.lookup n with
    | some first => fail (some (.firstAnchor n, some first.start)) .secondAnchor start
    | none => modify fun k => { k with anchors := (n, ⟨start, none⟩) :: k.anchors }

/-- The node of an anchor is complete. -/
def anchored (name : Option String) (n : Node) : Reading Node := do
  match name with
  | none => return n
  | some a =>
    modify fun k => { k with
      anchors := k.anchors.map fun (b, x) => if b = a then (b, { x with node := some n }) else (b, x) }
    return n

/-- The node that an alias stands for. -/
def aliased (name : String) (place : Mark) : Reading Node := do
  match (← get).anchors.lookup name with
  | none => fail none (.undefinedAlias name) place
  | some ⟨_, none⟩ => throw (.beyond .cycle)
  | some ⟨_, some n⟩ => return n

/-! ## Nodes -/

/-- The activity of reading a node at a site. -/
def activity : Site → Activity
  | .flow => .flowNode
  | _ => .blockNode

mutual

/-- A node. -/
def node : Nat → Site → Reading Node
  | 0, _ => throw .tooDeep
  | fuel + 1, site => do
    let first ← next
    match first.kind with
    | .reference name =>
      let t ← take
      aliased name t.start
    | _ =>
      let p ← properties
      let t ← next
      let start := (p.extent.map (·.1)).getD t.start
      let collection (tag : String) (make : String → Reading Node) : Reading Node := do
        setAnchor p.anchor start
        anchored p.anchor (← make (collectionTag tag p.tag))
      match t.kind, site with
      | .blockEntry, .blockEntry =>
        collection Tag.sequence fun tag => do
          let items ← indentless fuel
          numbered fun n => .sequence n tag items start
      | .scalar text plain, _ =>
        let _ ← take
        setAnchor p.anchor start
        anchored p.anchor (← numbered fun n => .scalar n (textTag plain text p.tag) text start)
      | .flowSequenceStart, _ =>
        collection Tag.sequence fun tag => do
          let _ ← take
          let items ← flowItems fuel t.start true
          numbered fun n => .sequence n tag items start
      | .flowMappingStart, _ =>
        collection Tag.mapping fun tag => do
          let _ ← take
          let entries ← flowEntries fuel t.start true
          numbered fun n => .mapping n tag entries start
      | kind, _ =>
        if kind = .blockSequenceStart ∧ site ≠ .flow then
          collection Tag.sequence fun tag => do
            let _ ← take
            let items ← blockItems fuel t.start
            numbered fun n => .sequence n tag items start
        else if kind = .blockMappingStart ∧ site ≠ .flow then
          collection Tag.mapping fun tag => do
            let _ ← take
            let entries ← blockEntries fuel t.start
            numbered fun n => .mapping n tag entries start
        else if p.extent.isSome then
          setAnchor p.anchor start
          anchored p.anchor (← numbered fun n => .scalar n (textTag true "" p.tag) "" start)
        else fail (some (activity site, some start)) (.nodeContent kind) t.start

/-- A node, or an empty one if a token follows that ends it. -/
def nodeUnless : Nat → List TokenKind → Site → Mark → Reading Node
  | 0, _, _, _ => throw .tooDeep
  | fuel + 1, ends, site, place => do
    if ← at? ends then emptyNode place
    else node fuel site

/-- The items of a list that is not indented. -/
def indentless : Nat → Reading (List Node)
  | 0 => throw .tooDeep
  | fuel + 1 => do
    if ← at? [.blockEntry] then
      let t ← take
      let n ← nodeUnless fuel [.blockEntry, .key, .value, .blockEnd] .block t.stop
      return n :: (← indentless fuel)
    else return []

/-- The items of an indented list that begins at `start`. -/
def blockItems : Nat → Mark → Reading (List Node)
  | 0, _ => throw .tooDeep
  | fuel + 1, start => do
    let t ← next
    if t.kind = .blockEntry then
      let _ ← take
      let n ← nodeUnless fuel [.blockEntry, .blockEnd] .block t.stop
      return n :: (← blockItems fuel start)
    else if t.kind = .blockEnd then
      let _ ← take
      return []
    else fail (some (.blockCollection, some start)) (.blockEnd t.kind) t.start

/-- The entries of a block mapping that begins at `start`. -/
def blockEntries : Nat → Mark → Reading (List (Node × Node))
  | 0, _ => throw .tooDeep
  | fuel + 1, start => do
    let ends := [TokenKind.key, .value, .blockEnd]
    let t ← next
    if t.kind = .key then
      let _ ← take
      let k ← nodeUnless fuel ends .blockEntry t.stop
      let v ← next
      let value ←
        if v.kind = .value then do
          let _ ← take
          nodeUnless fuel ends .blockEntry v.stop
        else emptyNode v.start
      return (k, value) :: (← blockEntries fuel start)
    else if t.kind = .blockEnd then
      let _ ← take
      return []
    else fail (some (.blockMapping, some start)) (.blockEnd t.kind) t.start

/-- The value of an entry in a flow collection, up to one of its ends. -/
def flowValue : Nat → TokenKind → Reading Node
  | 0, _ => throw .tooDeep
  | fuel + 1, closing => do
    let v ← next
    if v.kind = .value then
      let _ ← take
      nodeUnless fuel [.flowEntry, closing] .flow v.stop
    else emptyNode v.start

/-- The items of a flow list that begins at `start`. -/
def flowItems : Nat → Mark → Bool → Reading (List Node)
  | 0, _, _ => throw .tooDeep
  | fuel + 1, start, isFirst => do
    if ← takeIf .flowSequenceEnd then return []
    if !isFirst then
      let t ← next
      if t.kind = .flowEntry then
        let _ ← take
      else fail (some (.flowSequence, some start)) (.sequenceSeparator t.kind) t.start
    let t ← next
    if t.kind = .key then
      let _ ← take
      let k ← nodeUnless fuel [.value, .flowEntry, .flowSequenceEnd] .flow t.stop
      let v ← flowValue fuel .flowSequenceEnd
      let _ ← next
      let n ← numbered fun n => .mapping n Tag.mapping [(k, v)] t.start
      return n :: (← flowItems fuel start false)
    else if t.kind = .flowSequenceEnd then
      let _ ← take
      return []
    else
      let n ← node fuel .flow
      return n :: (← flowItems fuel start false)

/-- The entries of a flow mapping that begins at `start`. -/
def flowEntries : Nat → Mark → Bool → Reading (List (Node × Node))
  | 0, _, _ => throw .tooDeep
  | fuel + 1, start, isFirst => do
    if ← takeIf .flowMappingEnd then return []
    if !isFirst then
      let t ← next
      if t.kind = .flowEntry then
        let _ ← take
      else fail (some (.flowMapping, some start)) (.mappingSeparator t.kind) t.start
    let t ← next
    if t.kind = .key then
      let _ ← take
      let k ← nodeUnless fuel [.value, .flowEntry, .flowMappingEnd] .flow t.stop
      let v ← flowValue fuel .flowMappingEnd
      return (k, v) :: (← flowEntries fuel start false)
    else if t.kind = .flowMappingEnd then
      let _ ← take
      return []
    else
      let k ← node fuel .flow
      let v ← emptyNode (← next).start
      return (k, v) :: (← flowEntries fuel start false)

end

/-! ## Documents -/

/-- Directives before a document: whether a version was given, and what handles stand for. -/
def directives : Nat → Bool → List (String × String) → Reading (List (String × String))
  | 0, _, handles => return handles
  | fuel + 1, versioned, handles => do
    let t ← next
    match t.kind with
    | .directive d =>
      let _ ← take
      match d with
      | .version major _ =>
        if versioned then fail none .duplicateVersion t.start
        else if major ≠ 1 then fail none .incompatibleVersion t.start
        else directives fuel true handles
      | .tagHandle h stem =>
        if (handles.lookup h).isSome then fail none (.duplicateHandle h) t.start
        else directives fuel versioned (handles ++ [(h, stem)])
      | .unknown => directives fuel versioned handles
    | _ => return handles

/-- Pass over marks that end documents. -/
def skipEnds : Nat → Reading Unit
  | 0 => return
  | fuel + 1 => do
    if ← takeIf .documentEnd then skipEnds fuel

/-- What handles stand for in every document, unless it says otherwise. -/
def standardHandles : List (String × String) := [("!", "!"), ("!!", Tag.standard)]

/-- A marked document begins here: where it does, or nothing at the end of the file. -/
def marked? (fuel : Nat) : Reading (Option Mark) := do
  skipEnds fuel
  let t ← next
  if t.kind = .streamEnd then return none
  else
    let given ← directives fuel false []
    let d ← next
    if d.kind ≠ .documentStart then fail none (.documentStart d.kind) d.start
    let _ ← take
    modify fun k => { k with handles := given ++ standardHandles }
    return some t.start

/-- The root of a document. -/
def root (fuel : Nat) : Reading (Option Node) := do
  match (← next).kind with
  | .directive _ | .documentStart | .streamEnd =>
    match ← marked? fuel with
    | none => return none
    | some _ =>
      let t ← next
      match t.kind with
      | .directive _ | .documentStart | .documentEnd | .streamEnd => return some (← emptyNode t.start)
      | _ => return some (← node fuel .block)
  | _ =>
    modify fun k => { k with handles := standardHandles }
    return some (← node fuel .block)

/-- The root of the only document of a file. -/
def onlyRoot (fuel : Nat) : Reading (Option Node) := do
  match ← root fuel with
  | none => return none
  | some n =>
    match ← marked? fuel with
    | none => return some n
    | some place => fail (some (.document, some n.start)) .anotherDocument place

end Reading

/-- Steps that are enough for a text of a length. -/
def readingFuel (length : Nat) : Nat := 16 * length + 64

/-- The root of the document that a file holds, if it holds one. -/
def root? (s : Source) : Except Error (Option Node) := do
  let ((r, _), _) ← ((Reading.onlyRoot (readingFuel s.text.length)).run ⟨[], [], 0⟩).run (.start s)
  return r

/-- The value of the document that bytes hold. No document is too deep. -/
def read? (bytes : List UInt8) : Except Error Value := do
  match ← root? (Source.ofBytes bytes) with
  | none => return .null
  | some n => n.value

end ScriptGrader.Document
