import ScriptGrader.Report.Record
import ScriptGrader.Report.Json

/-!
# Report bundles

The records of one grading under their keys, in the order of the rubric,
with an attached text that is passed through. No key stands twice.
-/

namespace ScriptGrader

/-- Keyed records in order. -/
structure Bundle where
  items : List (String × Record)
  metadata : String
  nodup : (items.map Prod.fst).Nodup

/-- Why records are not a bundle. -/
inductive BundleError
  | duplicateKey (key : String)
  deriving DecidableEq, Repr

namespace BundleError

def message : BundleError → String
  | .duplicateKey key => s!"Duplicate result key: '{key}'"

end BundleError

namespace Bundle

/-- The first key that stands for the second time. -/
def firstDuplicate? : List String → List String → Option String
  | _, [] => none
  | seen, k :: ks => if k ∈ seen then some k else firstDuplicate? (k :: seen) ks

theorem nodup_of_firstDuplicate?_eq_none {seen keys : List String}
    (h : firstDuplicate? seen keys = none) : keys.Nodup ∧ ∀ k ∈ keys, k ∉ seen := by
  induction keys generalizing seen with
  | nil => simp
  | cons k ks ih =>
    unfold firstDuplicate? at h
    split at h
    · simp at h
    · next hk =>
      obtain ⟨hn, hs⟩ := ih h
      refine ⟨List.nodup_cons.2 ⟨fun hm => hs k hm (by simp), hn⟩, ?_⟩
      intro x hx
      rcases List.mem_cons.1 hx with rfl | hx
      · exact hk
      · exact fun hm => hs x hx (List.mem_cons_of_mem _ hm)

/-- The bundle of keyed records, if no key stands twice. -/
def ofList? (items : List (String × Record)) (metadata : String) : Except BundleError Bundle :=
  match h : firstDuplicate? [] (items.map Prod.fst) with
  | some k => .error (.duplicateKey k)
  | none => .ok ⟨items, metadata, (nodup_of_firstDuplicate?_eq_none h).1⟩

def keys (b : Bundle) : List String := b.items.map Prod.fst

def records (b : Bundle) : List Record := b.items.map Prod.snd

def size (b : Bundle) : Nat := b.items.length

def get? (b : Bundle) (key : String) : Option Record :=
  (b.items.find? (·.1 = key)).map (·.2)

/-- What the records earned together. -/
def totalScore (b : Bundle) : Except ScoreError Score := Score.total (b.records.map Record.earnedScore)

/-- What the records could have earned together. -/
def maxScore (b : Bundle) : Except ScoreError Score := Score.total (b.records.map Record.maxScore)

/-- No mandatory check failed. -/
def accepted (b : Bundle) : Bool := !b.records.any fun r => r.mandatory && !r.passed

/-- The same keys with equal records in the same order, and the same attached text. -/
def same (a b : Bundle) : Bool :=
  a.keys = b.keys && (a.records.zip b.records).all (fun (x, y) => x.same y) && a.metadata = b.metadata

/-- The literal form of a bundle. -/
def literal (b : Bundle) : String :=
  let items := b.items.map fun (k, r) => Text.quoted k ++ ": " ++ r.literal
  let results := Value.bracket "\x7b" "\x7d" items
  s!"ReportBundle(results={results}, metadata={Text.quoted b.metadata})"

end Bundle

namespace Score

def toJson : Score → Json
  | flag b => .bool b
  | whole n => .int n
  | binary x => .float x

end Score

namespace Record

/-- The record as the report shows it. -/
def toJson (r : Record) : Json :=
  .object [("checkName", .text r.checkName), ("category", .text r.category.name),
    ("maxScore", r.maxScore.toJson), ("earnedScore", r.earnedScore.toJson),
    ("status", .text r.status.name), ("mandatory", .bool r.mandatory),
    ("feedback", .text r.feedback)]

/-- The record as the results service expects it. -/
def toWire (r : Record) : Json :=
  .object [("methodName", .text r.checkName), ("methodType", .text r.category.name),
    ("actualScore", r.maxScore.toJson), ("earnedScore", r.earnedScore.toJson),
    ("status", .text r.status.name), ("isMandatory", .bool r.mandatory),
    ("errorMessage", .text r.feedback)]

end Record

namespace Bundle

/-- The bundle as the report shows it. -/
def toJson (b : Bundle) : Json :=
  .object [("results", .object (b.items.map fun (k, r) => (k, r.toJson))), ("metadata", .text b.metadata)]

/-- The report text with an indentation that is asked for. -/
def jsonText? (b : Bundle) (indent : Value) : Except Json.TextError String := b.toJson.text? indent

end Bundle
end ScriptGrader
