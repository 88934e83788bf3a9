import ScriptGrader.Rubric.Basic

/-!
# Rubrics from a configuration

The `checks` of a configuration are a list. An item is the name of a
catalog check, or a mapping of one name to its settings; a skipped item
leaves only a line in the log. The first item that is malformed decides,
before the entries of the others are looked at.
-/

namespace ScriptGrader.Rubric

/-- A checks item as it is read: what stands for a name, and its settings. -/
structure Item where
  name : Value
  settings : List (Value × Value)

/-- What an item amounts to. -/
inductive Reading
  | skipped (name : Value)
  | offer (o : EntryOffer)

/-- The name and settings of an item; settings that do not hold are none. -/
def item? (v : Value) : Except RubricError Item :=
  match v with
  | .text name => .ok ⟨.text name, []⟩
  | .map [(name, settings)] =>
    if settings.isTrue then
      match settings with
      | .map entries => .ok ⟨name, entries⟩
      | _ => .error (.settings name)
    else .ok ⟨name, []⟩
  | _ => .error (.malformed v)

/-- Is the item to be left out? -/
def Item.isSkipped (i : Item) : Bool := ((Value.field "skip" i.settings).getD (.bool false)).isTrue

/-- The offer that an item makes. -/
def Item.offer? (i : Item) : Except RubricError EntryOffer :=
  let unknown := Except.error (.unknown i.name)
  match i.name with
  | .text name =>
    match Catalog.find? name with
    | some q =>
      .ok (catalogOffer q ((Value.field "mandatory" i.settings).getD defaultMandatory)
        ((Value.field "max_score" i.settings).getD defaultMaxScore))
    | none => unknown
  | _ => unknown

/-- Read one item. -/
def reading? (v : Value) : Except RubricError Reading := do
  let i ← item? v
  if i.isSkipped then return .skipped i.name
  else return .offer (← i.offer?)

/-- Read items up to the first malformed one: the names of the skipped
ones before it, and the offers of all if none is malformed. -/
def readings (items : List Value) : List Value × Except RubricError (List EntryOffer) :=
  match items with
  | [] => ([], .ok [])
  | v :: vs =>
    match reading? v with
    | .error e => ([], .error e)
    | .ok (.skipped name) =>
      let (names, rest) := readings vs
      (name :: names, rest)
    | .ok (.offer o) =>
      let (names, rest) := readings vs
      (names, rest.map (o :: ·))

def skipLine (name : Value) : LogLine := .info .registry s!"Skipping check: {name.plain}"

/-- The items of a `checks` section: a list with something in it. -/
def sectionItems? : Value → Option (List Value)
  | .list (v :: vs) => some (v :: vs)
  | _ => none

/-- The rubric of a `checks` section. -/
def ofConfig? (v : Value) : Except RubricError Rubric :=
  match sectionItems? v with
  | none => .error .noChecks
  | some items =>
    match (readings items).2 with
    | .error e => .error e
    | .ok offers => ofOffers? offers

/-- The log of reading a `checks` section. -/
def configLog (v : Value) : List LogLine :=
  ((sectionItems? v).map fun items => (readings items).1.map skipLine).getD [] ++
    buildLog (ofConfig? v)

end ScriptGrader.Rubric
