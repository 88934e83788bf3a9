import ScriptGrader.Document.Merge
import ScriptGrader.Document.ScalarValue
import Std.Data.TreeMap

/-!
# What a document holds

The value of a node is decided by its tag. Values are found level by
level: a collection is filled only after everything beside it was met, so
of several faults the one nearest to the root is reported, and of those at
one depth the first. A node that a document holds more than once is met
once. When all values are found, the tree of nodes becomes a tree of values.
-/

namespace ScriptGrader.Document

/-! ## Kinds -/

/-- The kinds of values that tags stand for. -/
inductive ContentKind
  | null
  | bool
  | int
  | float
  | text
  | binary
  | timestamp
  | sequence
  | mapping
  | set
  | orderedMap
  | pairs
  deriving DecidableEq, Repr

namespace ContentKind

def tag : ContentKind → String
  | null => Tag.null
  | bool => Tag.bool
  | int => Tag.int
  | float => Tag.float
  | text => Tag.text
  | binary => Tag.binary
  | timestamp => Tag.timestamp
  | sequence => Tag.sequence
  | mapping => Tag.mapping
  | set => Tag.set
  | orderedMap => Tag.orderedMap
  | pairs => Tag.pairs

def every : List ContentKind :=
  [null, bool, int, float, text, binary, timestamp, sequence, mapping, set, orderedMap, pairs]

def ofTag? (t : String) : Option ContentKind := every.find? (·.tag = t)

/-- Is a value of the kind filled from a sequence or mapping? -/
def isCollection : ContentKind → Bool
  | sequence | mapping | set | orderedMap | pairs => true
  | _ => false

/-- What is being read when entries of a list of pairs are. -/
def activity : ContentKind → Activity
  | orderedMap => .orderedMap
  | _ => .pairs

end ContentKind
/-! ## What is found -/

/-- What was found for a node. -/
inductive Found
  /-- A collection, which is filled from the node's parts. -/
  | collection
  /-- A value. Two numbers without a value are the same key only if both are
  the common one or if one node gave both. -/
  | value (v : Value) (isCommon : Bool)

/-- What is known while the values of a document are found. -/
structure Progress where
  merged : Merged
  found : Std.TreeMap Nat Found
  /-- Collections that are not filled yet, the last one first. -/
  waiting : List Node

namespace Progress

def start : Progress := ⟨.nothing, ∅, []⟩

end Progress

namespace Node

/-- A problem at a node, without context. -/
def fault (n : Node) (p : Problem) : Error := .marked none p n.start

/-! ## Texts -/

mutual

/-- The text that a node is read as: its own, or that of the entry `=` of a mapping. -/
def text? (m : Merged) : Node → Except Error String
  | .scalar _ _ text _ => .ok text
  | .sequence _ _ _ start => .error (.marked none (.expectedShape .scalar .sequence) start)
  | .mapping number _ entries start =>
    let noText := .error (.marked none (.expectedShape .scalar .mapping) start)
    if m.mappings.contains number then noText else (defaultText? m entries).getD noText

/-- The text of the first entry `=`. -/
def defaultText? (m : Merged) : List (Node × Node) → Option (Except Error String)
  | [] => none
  | (k, v) :: r => if k.tagIn m = Tag.value then some (v.text? m) else defaultText? m r

end

/-- The value of a node that is read as a text. -/
def scalarValue (m : Merged) (kind : ContentKind) (n : Node) : Except Error Found := do
  let text ← n.text? m
  let plain {α : Type} (make : α → Value) (r : Except ScalarFault α) : Except Error Found :=
    (r.map fun a => .value (make a) false).mapError .scalar
  match kind with
  | .null => return .value .null false
  | .bool => plain .bool (ScalarValue.bool text)
  | .int => plain .int (ScalarValue.int text)
  | .float =>
    let x ← (ScalarValue.float text).mapError Error.scalar
    return .value (.float x) (ScalarValue.isNamedNan text)
  | .binary => return .value (.bytes (← (ScalarValue.binary text).mapError n.fault)) false
  | .timestamp =>
    if n.shape = .scalar then plain id (ScalarValue.timestamp text) else throw (.scalar .timestampShape)
  | _ => return .value (.text text) false

/-! ## Finding values -/

/-- Meet a node: find its value, or let it wait until it is filled. -/
def meet (p : Progress) (n : Node) : Except Error Progress :=
  if p.found.contains n.number then .ok p
  else
    match ContentKind.ofTag? (n.tagIn p.merged) with
    | none => .error (n.fault (.undefinedTag (n.tagIn p.merged)))
    | some kind =>
      if kind.isCollection then
        .ok { p with found := p.found.insert n.number .collection, waiting := n :: p.waiting }
      else (n.scalarValue p.merged kind).map fun f => { p with found := p.found.insert n.number f }

/-- Meet a key and its value. A collection is no key. -/
def meetEntry (start : Mark) (p : Progress) (entry : Node × Node) : Except Error Progress := do
  let p ← entry.1.meet p
  match p.found[entry.1.number]? with
  | some .collection => throw (.marked (some (.mapping, some start)) .unhashableKey entry.1.start)
  | _ => entry.2.meet p

/-- Meet a pair: a mapping of one entry. -/
def meetPair (kind : ContentKind) (start : Mark) (p : Progress) (n : Node) : Except Error Progress :=
  let wrong (problem : Problem) : Except Error Progress :=
    .error (.marked (some (kind.activity, some start)) problem n.start)
  if n.shape = .mapping then
    match n.entriesIn p.merged with
    | [(k, v)] => do v.meet (← k.meet p)
    | entries => wrong (.singleItem entries.length)
  else wrong (.singleMapping n.shape)

/-- Meet the parts of a collection. -/
def fill (p : Progress) (n : Node) : Except Error Progress :=
  match ContentKind.ofTag? (n.tagIn p.merged), n with
  | some .sequence, .sequence _ _ items _ => items.foldlM meet p
  | some .sequence, n => .error (n.fault (.expectedShape .sequence n.shape))
  | some .mapping, .mapping _ _ entries start | some .set, .mapping _ _ entries start =>
    match mergeFault start entries with
    | some e => .error e
    | none => (given n).foldlM (meetEntry start) { p with merged := n.merge p.merged }
  | some .orderedMap, .sequence _ _ items start => items.foldlM (meetPair .orderedMap start) p
  | some .pairs, .sequence _ _ items start => items.foldlM (meetPair .pairs start) p
  | some .orderedMap, n | some .pairs, n =>
    let kind := (ContentKind.ofTag? n.tag).getD .pairs
    .error (.marked (some (kind.activity, some n.start)) (.expectedSequence n.shape) n.start)
  | _, n => .error (n.fault (.expectedShape .mapping n.shape))

/-- Fill the collections that wait, and then those in them. Every round fills
a node that was not filled before, so the number of nodes bounds the rounds. -/
def fillAll : Nat → Progress → Except Error Progress
  | 0, p => .ok p
  | rounds + 1, p => do
    if p.waiting.isEmpty then return p
    else fillAll rounds (← p.waiting.reverse.foldlM fill { p with waiting := [] })

/-! ## Values -/

/-- A key: its value, and what tells numbers without a value apart. -/
abbrev Key := Value × Option Nat

/-- Keys are the same if their values are equal; a number without a value equals only itself. -/
def sameKey (a b : Key) : Bool :=
  match a.1, b.1 with
  | .float .nan, .float .nan => a.2 = b.2
  | v, w => v.same w

/-- Put an entry: the value of a known key is replaced where the key stands. -/
def put (key : Key) (value : Value) : List (Key × Value) → List (Key × Value)
  | [] => [(key, value)]
  | (k, v) :: r => if sameKey k key then (k, value) :: r else (k, v) :: put key value r

/-- The collection of a kind that entries make; of equal keys the last one's value holds. -/
def collected (kind : ContentKind) (entries : List (Key × Value)) : Value :=
  let all := (entries.foldl (fun m (k, v) => put k v m) []).map fun (k, v) => (k.1, v)
  if kind = .set then .set (all.map (·.1)) else .map all

/-- All entries of a mapping: those that it merges, and its own. -/
def together (entries : List (Key × Value) × List (Key × Value)) : List (Key × Value) :=
  entries.1 ++ entries.2

mutual

/-- The value of a node whose texts have values. -/
def assembled (found : Nat → Option Found) : Node → Value
  | .scalar number .. => leaf (found number)
  | .sequence number tag items _ =>
    match ContentKind.ofTag? tag with
    | some .sequence => .list (assembledItems found items)
    | some .orderedMap | some .pairs => .list (assembledPairs found items)
    | _ => leaf (found number)
  | .mapping number tag entries _ =>
    match ContentKind.ofTag? tag with
    | some .mapping => collected .mapping (together (assembledSplit found entries))
    | some .set => collected .set (together (assembledSplit found entries))
    | _ => leaf (found number)
where
  /-- The value that was read from a text. -/
  leaf : Option Found → Value
    | some (.value v _) => v
    | _ => .null

def assembledItems (found : Nat → Option Found) : List Node → List Value
  | [] => []
  | n :: r => assembled found n :: assembledItems found r

/-- The pairs of a list of mappings of one entry each. -/
def assembledPairs (found : Nat → Option Found) : List Node → List Value
  | [] => []
  | n :: r =>
    ((assembledGiven found n).map fun (k, v) => .tuple [k.1, v]) ++ assembledPairs found r

/-- The entries that a mapping merges, and its own. -/
def assembledSplit (found : Nat → Option Found) :
    List (Node × Node) → List (Key × Value) × List (Key × Value)
  | [] => ([], [])
  | (k, v) :: r =>
    let (merged, own) := assembledSplit found r
    if k.tag = Tag.merge then (assembledGiven found v ++ merged, own)
    else
      let origin := match found k.number with
        | some (.value _ true) => none
        | _ => some k.number
      (merged, ((assembled found k, origin), assembled found v) :: own)

/-- The entries that a merged node gives. -/
def assembledGiven (found : Nat → Option Found) : Node → List (Key × Value)
  | .mapping _ _ entries _ => together (assembledSplit found entries)
  | .sequence _ _ items _ => (assembledEach found items).reverse.flatten
  | .scalar .. => []

def assembledEach (found : Nat → Option Found) : List Node → List (List (Key × Value))
  | [] => []
  | n :: r => assembledGiven found n :: assembledEach found r

end

/-- The value of the root of a document. -/
def value (n : Node) : Except Error Value := do
  let p ← fillAll (n.number + 1) (← n.meet .start)
  return n.assembled fun number => p.found[number]?

end Node
end ScriptGrader.Document
