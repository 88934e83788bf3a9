import ScriptGrader.Markup.Scan

/-!
# What a document type declares

Entities that stand for texts, and attributes that elements have without
their being written. An attribute's value may refer to entities, and the
texts of these to others, but never in a circle.
-/

namespace ScriptGrader.Markup

/-- What an entity stands for. -/
inductive EntityText
  | text (cs : List Char)
  /-- A text in another file, which is not read. -/
  | elsewhere
  /-- Something that is not a text. -/
  | unparsed
  deriving Repr

/-- An attribute that is declared for an element. -/
structure AttributeRule where
  label : Label
  /-- Blanks count only between words. -/
  isWords : Bool
  default : Option String
  deriving Repr

/-- What a document type declares. -/
structure Declared where
  entities : List (String × EntityText)
  /-- Attributes by the label of their element. -/
  attributes : List (String × AttributeRule)
  /-- There may be declarations that were not read. -/
  isPartial : Bool
  /-- Further declarations do not count, as others may come before them. -/
  isClosed : Bool
  /-- The document says that it needs no declarations besides its own. -/
  standalone : Bool
  deriving Repr

namespace Declared

def empty : Declared := ⟨[], [], false, false, false⟩

/-- Is an entity that is not known an error? -/
def isComplete (d : Declared) : Bool := !d.isPartial || d.standalone

/-- There are declarations that are not read. -/
def leaveOut (d : Declared) : Declared := { d with isPartial := true }

/-- There are declarations in this place that are not read. -/
def leaveOutHere (d : Declared) : Declared :=
  { d with isPartial := true, isClosed := !d.standalone }

def rules (d : Declared) (element : String) : List AttributeRule :=
  (d.attributes.filter fun x => x.1 = element).map (·.2)

/-- The first entity of a name counts, and the standard ones stay as they are. -/
def addEntity (d : Declared) (name : String) (t : EntityText) : Declared :=
  if d.isClosed || (d.entities.lookup name).isSome || (Scan.standardEntity? name).isSome then d
  else { d with entities := d.entities ++ [(name, t)] }

/-- The first rule for an attribute counts. -/
def addRule (d : Declared) (element : String) (rule : AttributeRule) : Declared :=
  if d.isClosed || (d.rules element).any (·.label = rule.label) then d
  else { d with attributes := d.attributes ++ [(element, rule)] }

end Declared

/-! ## Values of attributes -/

/-- What is wrong with a value, with the rest of the text where it is to
be reported, if that is inside the value. -/
abbrev ValueFault := Cause × Option (List Char)

namespace ValueText

/-- Add a character to a value that is collected in reverse. In values
that are words, a blank is dropped at the front and behind another one. -/
def add (isWords : Bool) (done : List Char) (c : Char) : List Char :=
  if isWords && c = ' ' && (done.isEmpty || done.head? = some ' ') then done else c :: done

/-- The collected value, without a blank at the end of words. -/
def close (isWords : Bool) (done : List Char) : String :=
  let done := match isWords, done with
    | true, ' ' :: r => r
    | _, d => d
  String.ofList done.reverse

/-- The pieces of a value without its quotes, and the rest in which
something is wrong, if there is such. The text of an entity has its lines
ended before. -/
def pieces [Alphabet] (isEntity : Bool) :
    Nat → List ValuePiece → List Char → List ValuePiece × Option (List Char)
  | 0, done, _ => (done.reverse, none)
  | fuel + 1, done, rest =>
    match rest with
    | [] => (done.reverse, none)
    | '<' :: _ => (done.reverse, some rest)
    | '&' :: r =>
      match Scan.reference rest r with
      | .ok (ref, r) => pieces isEntity fuel (.reference ref rest :: done) r
      | .error (.fault _ found) => (done.reverse, some found)
      | .error (.ended _ start) | .error (.due start) => (done.reverse, some start)
    | '\r' :: '\n' :: r =>
      pieces isEntity fuel (.char ' ' :: done) (if isEntity then '\n' :: r else r)
    | c :: r =>
      if c = half then (done.reverse, some rest)
      else pieces isEntity fuel (.char (if isSpace c then ' ' else c) :: done) r

/-- Collect the pieces of a value. `opened` are the entities whose texts
are being read; what is wrong in these has no place of its own. -/
def collect (d : Declared) (isWords : Bool) :
    Nat → List String → List Char → List ValuePiece → Except ValueFault (List Char)
  | 0, _, done, _ => .ok done
  | _, _, done, [] => .ok done
  | fuel + 1, opened, done, p :: ps =>
    match p with
    | .char c => collect d isWords fuel opened (add isWords done c) ps
    | .reference r rest =>
      match r with
      | .code n =>
        match Scan.charOfCode? n with
        | none => .error (.invalidCharacterNumber, some rest)
        | some c => collect d isWords fuel opened (add isWords done c) ps
      | .entity name =>
        match Scan.standardEntity? name with
        | some c => collect d isWords fuel opened (c :: done) ps
        | none =>
          match d.entities.lookup name with
          | none =>
            if d.isComplete then .error (.undefinedEntity, none)
            else collect d isWords fuel opened done ps
          | some .unparsed => .error (.binaryEntity, some rest)
          | some .elsewhere => .error (.externalEntityInValue, some rest)
          | some (.text t) =>
            if opened.contains name then .error (.recursiveEntity, none)
            else
              let (inner, bad) := @pieces .standard true (t.length + 1) [] t
              match collect d isWords fuel (name :: opened) done inner with
              | .error (c, _) => .error (c, none)
              | .ok done =>
                if bad.isSome then .error (.invalidToken, none)
                else collect d isWords fuel opened done ps

/-- How many steps suffice to collect values: every entity is opened inside others at most once. -/
def collectFuel (d : Declared) (ps : List ValuePiece) : Nat :=
  let more (n : Nat) : EntityText → Nat
    | .text t => n + t.length + 1
    | _ => n + 1
  d.entities.foldl (fun n x => more n x.2) (ps.length + 1)

/-- The value that a list of pieces stands for. -/
def ofPieces (d : Declared) (isWords : Bool) (ps : List ValuePiece) : Except ValueFault String := do
  let done ← collect d isWords (collectFuel d ps) [] [] ps
  return close isWords done

end ValueText
end ScriptGrader.Markup
