import ScriptGrader.Document.Node
import ScriptGrader.Document.Tag
import Std.Data.TreeSet

/-!
# Merged mappings

The entry `<<` of a mapping stands for the entries of another mapping, or
of the mappings of a list, and these stand before the mapping's own ones;
of a list, those of its last mapping come first. Once a mapping was merged
it has all these entries, and the keys `=` in it are texts like all others,
wherever else the document holds them.
-/

namespace ScriptGrader.Document

/-- What merging has changed so far, by the numbers of nodes. -/
structure Merged where
  /-- The mappings that have the entries which they merge. -/
  mappings : Std.TreeSet Nat
  /-- The keys `=` that are texts by now. -/
  texts : Std.TreeSet Nat

namespace Merged

def nothing : Merged := ⟨∅, ∅⟩

end Merged

namespace Node

/-! ## Faults -/

mutual

/-- What is wrong with the mappings that a mapping merges. -/
def mergeFault (start : Mark) : List (Node × Node) → Option Error
  | [] => none
  | (k, v) :: r =>
    if k.tag = Tag.merge then (mergedFault start v).or (mergeFault start r) else mergeFault start r

def mergedFault (start : Mark) : Node → Option Error
  | .mapping _ _ entries inner => mergeFault inner entries
  | .sequence _ _ items _ => mergedItemsFault start items
  | .scalar _ _ _ place => some (.marked (some (.mapping, some start)) (.mergeMappings .scalar) place)

def mergedItemsFault (start : Mark) : List Node → Option Error
  | [] => none
  | .mapping _ _ entries inner :: r => (mergeFault inner entries).or (mergedItemsFault start r)
  | n :: _ => some (.marked (some (.mapping, some start)) (.mergeMapping n.shape) n.start)

end

/-! ## Entries -/

mutual

/-- The entries that a mapping merges, and its own. -/
def splitEntries : List (Node × Node) → List (Node × Node) × List (Node × Node)
  | [] => ([], [])
  | (k, v) :: r =>
    let (merged, own) := splitEntries r
    if k.tag = Tag.merge then (given v ++ merged, own) else (merged, (k, v) :: own)

/-- The entries that a merged node gives. -/
def given : Node → List (Node × Node)
  | .mapping _ _ entries _ =>
    let (merged, own) := splitEntries entries
    merged ++ own
  | .sequence _ _ items _ => (givenEach items).reverse.flatten
  | .scalar .. => []

def givenEach : List Node → List (List (Node × Node))
  | [] => []
  | n :: r => given n :: givenEach r

end

/-! ## Effects -/

mutual

/-- A mapping is merged, and the mappings that it merges. -/
def merge (m : Merged) : Node → Merged
  | .mapping number _ entries _ =>
    if m.mappings.contains number then m
    else mergeEntries { m with mappings := m.mappings.insert number } entries
  | .sequence _ _ items _ => mergeItems m items
  | .scalar .. => m

def mergeEntries (m : Merged) : List (Node × Node) → Merged
  | [] => m
  | (k, v) :: r =>
    if k.tag = Tag.merge then mergeEntries (merge m v) r
    else if k.tag = Tag.value then mergeEntries { m with texts := m.texts.insert k.number } r
    else mergeEntries m r

def mergeItems (m : Merged) : List Node → Merged
  | [] => m
  | n :: r => mergeItems (merge m n) r

end

/-- The entries of a mapping: all of them once it was merged, before that those it is written with. -/
def entriesIn (m : Merged) : Node → List (Node × Node)
  | .mapping number tag entries start =>
    if m.mappings.contains number then given (.mapping number tag entries start) else entries
  | _ => []

/-- The tag of a node: a key `=` may be a text by now. -/
def tagIn (m : Merged) (n : Node) : String :=
  if n.tag = Tag.value ∧ m.texts.contains n.number then Tag.text else n.tag

end Node
end ScriptGrader.Document
