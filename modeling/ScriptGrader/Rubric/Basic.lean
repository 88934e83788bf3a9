import ScriptGrader.Check.Catalog
import ScriptGrader.Rubric.Slug
import ScriptGrader.Log

/-!
# Rubrics

A rubric is an ordered list of checks with what each one is worth. It is
built entry by entry; an entry that is malformed, or whose name or slug is
taken, is refused. The slugs of a rubric are therefore distinct, which is
what makes the keys of a report distinct.
-/

namespace ScriptGrader

/-- What is offered as an entry of a rubric, or in an entry as its check. -/
inductive EntryOffer
  | value (v : Value)
  | check (c : Check)
  | entry (check : EntryOffer) (mandatory maxScore : Value)

/-- The literal form of what is offered; a check without a category has none. -/
def EntryOffer.literal? : EntryOffer → Except Value String
  | .value v => .ok v.literal
  | .check c => c.literal?
  | .entry o mandatory maxScore =>
    o.literal?.map fun shown =>
      s!"RubricEntry(check={shown}, mandatory={mandatory.literal}, max_score={maxScore.literal})"

/-- An accepted entry: a check, whether it blocks acceptance, and its score. -/
structure Entry where
  name : String
  family : String
  category : Category
  evaluate : Program → Evaluated
  mandatory : Bool
  maxScore : Score
  slug_ne : Rubric.slug name ≠ ""
  maxScore_pos : maxScore.atMostZero = false

/-- Why a configuration is refused. -/
inductive RubricError
  | notEntry (shown : String)
  | notCheck (shown : String)
  /-- What is offered would have to be shown in order to be refused, but a
  check in it has this in place of its category. -/
  | unshown (category : Value)
  | noName (family : String)
  | noSlug (name : String)
  | category (name : String) (v : Value)
  | mandatory (name : String) (v : Value)
  | maxScore (name : String) (v : Value)
  | duplicate (name : String)
  | collision (earlier name slug : String)
  | noChecks
  | malformed (v : Value)
  | settings (name : Value)
  | unknown (name : Value)
  deriving Repr

namespace RubricError

def message : RubricError → String
  | .notEntry shown => s!"Not a rubric entry: {shown}"
  | .notCheck shown => s!"{shown} is not a BaseCheck instance"
  | .unshown v => s!"'{v.fullKind}' object has no attribute 'value'"
  | .noName family => s!"{family} has no name"
  | .noSlug name => s!"Check name '{name}' has no letters or digits to build a result key from"
  | .category name v => s!"Check '{name}' has an invalid category: {v.literal}"
  | .mandatory name v => s!"Check '{name}' has a non-boolean mandatory flag: {v.literal}"
  | .maxScore name v => s!"Check '{name}' has an invalid max score: {v.literal}"
  | .duplicate name => s!"Duplicate check name: '{name}'"
  | .collision earlier name slug =>
    s!"Check names '{earlier}' and '{name}' map to the same result key '{slug}'"
  | .noChecks => "No checks specified in configuration"
  | .malformed v => s!"Malformed check entry: {v.literal}"
  | .settings name => s!"Settings for check '{name.plain}' must be a mapping"
  | .unknown name => s!"Unknown check: '{name.plain}'"

/-- Is it an error of a configuration? -/
def isConfiguration : RubricError → Bool
  | .unshown _ => false
  | _ => true

/-- Something is refused by an error that shows it. -/
def showing (refused : String → RubricError) (o : EntryOffer) : RubricError :=
  match o.literal? with
  | .ok shown => refused shown
  | .error v => .unshown v

end RubricError

namespace Entry

def slug (e : Entry) : String := Rubric.slug e.name

/-- The entry as a check again. -/
def check (e : Entry) : Check := ⟨e.family, .text e.name, .ok e.category, e.evaluate⟩

/-- A score that can be reached: an integer or a double, and not at most zero. -/
def maxScore? : Value → Option { s : Score // s.atMostZero = false }
  | .int n => if h : (Score.whole n).atMostZero = false then some ⟨_, h⟩ else none
  | .float x => if h : (Score.binary x).atMostZero = false then some ⟨_, h⟩ else none
  | _ => none

/-- The entry that is offered, if it is well formed on its own. -/
def ofOffer? : EntryOffer → Except RubricError Entry
  | .entry (.check c) mandatory maxScore =>
    match c.name with
    | .text name =>
      if name = "" then .error (.noName c.family)
      else if hs : Rubric.slug name ≠ "" then
        match c.category with
        | .error v => .error (.category name v)
        | .ok category =>
          match mandatory with
          | .bool m =>
            match maxScore? maxScore with
            | some ⟨s, h⟩ => .ok ⟨name, c.family, category, c.evaluate, m, s, hs, h⟩
            | none => .error (.maxScore name maxScore)
          | v => .error (.mandatory name v)
      else .error (.noSlug name)
    | _ => .error (.noName c.family)
  | .entry o _ _ => .error (.showing .notCheck o)
  | o => .error (.showing .notEntry o)

end Entry

/-- Entries in order, no two of them with one slug. -/
structure Rubric where
  entries : List Entry
  nodup : (entries.map Entry.slug).Nodup

namespace Rubric

def empty : Rubric := ⟨[], List.nodup_nil⟩

def names (r : Rubric) : List String := r.entries.map Entry.name

def size (r : Rubric) : Nat := r.entries.length

/-- One more entry at the end, if its name and its slug are free. -/
def add (r : Rubric) (e : Entry) : Except RubricError Rubric :=
  if e.name ∈ r.names then .error (.duplicate e.name)
  else
    match h : r.entries.find? (fun f => f.slug = e.slug) with
    | some f => .error (.collision f.name e.name e.slug)
    | none =>
      .ok ⟨r.entries ++ [e], by
        rw [List.map_append, List.nodup_append]
        refine ⟨r.nodup, by simp, ?_⟩
        intro a ha b hb
        simp only [List.map_cons, List.map_nil, List.mem_singleton] at hb
        obtain ⟨f, hf, rfl⟩ := List.mem_map.1 ha
        have := List.find?_eq_none.1 h f hf
        simp only [decide_eq_true_eq] at this
        rw [hb]
        exact this⟩

/-- Offered entries after those of a rubric; the first one that does not fit decides. -/
def addAll (r : Rubric) : List EntryOffer → Except RubricError Rubric
  | [] => .ok r
  | o :: os =>
    match Entry.ofOffer? o with
    | .error e => .error e
    | .ok entry =>
      match r.add entry with
      | .error e => .error e
      | .ok r' => r'.addAll os

/-- The rubric of offered entries. -/
def ofOffers? (offers : List EntryOffer) : Except RubricError Rubric := empty.addAll offers

/-- The settings of an entry that says nothing. -/
def defaultMandatory : Value := .bool true

def defaultMaxScore : Value := .float (.finite 1)

/-- The offer of a catalog check with given settings. -/
def catalogOffer (q : Catalog.Question) (mandatory maxScore : Value) : EntryOffer :=
  .entry (.check q.check) mandatory maxScore

/-- Every check of the catalog with the default settings. -/
def defaultOffers : List EntryOffer :=
  Catalog.questions.map fun q => catalogOffer q defaultMandatory defaultMaxScore

/-- The line written when a rubric is complete. -/
def builtLine (r : Rubric) : LogLine :=
  .debug .registry s!"Registry built with checks: {Value.nameList r.names}"

/-- The lines written when offered entries are made into a rubric. -/
def buildLog : Except RubricError Rubric → List LogLine
  | .ok r => [r.builtLine]
  | .error _ => []

end Rubric
end ScriptGrader
