import ScriptGrader.Markup.Entity

/-!
# How documents grow

A few entities that refer to one another can stand for a text of any size,
so a document may not grow too much through them. What an entity adds is
counted without writing it out.
-/

namespace ScriptGrader.Markup

namespace Growth

/-- Up to this many bytes, a document may grow as it likes. -/
def limit : Nat := 8388608

/-- How many times its own size a document may grow to beyond that. -/
def factor : Nat := 100

/-- Is a document that has so many bytes of its own too large with those that entities add? -/
def isTooMuch (own added : Nat) : Bool := limit ≤ own + added && factor * own < own + added

/-- The rest behind the first place where a text is found, which has a character at least. -/
def behind (text : List Char) : List Char → List Char
  | [] => []
  | c :: r => if text.isPrefixOf (c :: r) then (c :: r).drop text.length else behind text r

/-- What is met in the text of an entity. -/
inductive Item
  | reference (r : Reference)
  /-- Something that must not be there. -/
  | fault
  deriving Repr

/-- The references in the text of an entity; in the value of an attribute no
tag may begin. What is in comments, instructions and sections is none. -/
def items (inValue : Bool) : Nat → List Char → List Item
  | 0, _ => []
  | fuel + 1, rest =>
    match rest with
    | [] => []
    | '&' :: r =>
      match @Scan.reference .standard rest r with
      | .ok (found, r) => .reference found :: items inValue fuel r
      | .error _ => [.fault]
    | '<' :: r =>
      if inValue then [.fault]
      else
        match r with
        | '!' :: '-' :: '-' :: r => items inValue fuel (behind ['-', '-', '>'] r)
        | '!' :: '[' :: r => items inValue fuel (behind [']', ']', '>'] r)
        | '?' :: r => items inValue fuel (behind ['?', '>'] r)
        | r => items inValue fuel r
    | _ :: r => items inValue fuel r

/-- How many bytes are added, up to a fault if there is one. -/
structure Amount where
  bytes : Nat
  isFaulty : Bool
  deriving Repr

/-- What entities add, by their names. -/
abbrev Table := List (String × Amount)

/-- What a reference adds. An entity without a text is a fault. -/
def ofReference (t : Table) : Reference → Amount
  | .code _ => ⟨0, false⟩
  | .entity name =>
    if (Scan.standardEntity? name).isSome then ⟨1, false⟩ else (t.lookup name).getD ⟨0, true⟩

/-- What is added behind so many bytes. -/
def ofItems (t : Table) : Nat → List Item → Amount
  | bytes, [] => ⟨bytes, false⟩
  | bytes, .fault :: _ => ⟨bytes, true⟩
  | bytes, .reference r :: is =>
    let a := ofReference t r
    if a.isFaulty then ⟨bytes + a.bytes, true⟩ else ofItems t (bytes + a.bytes) is

/-- How many bytes references add. -/
def ofReferences (t : Table) (rs : List Reference) : Nat := (ofItems t 0 (rs.map .reference)).bytes

/-- The references in a value. -/
def referencesOf (ps : List ValuePiece) : List Reference :=
  ps.filterMap fun
    | .reference r _ => some r
    | .char _ => none

/-- What the entities of a document add. An entity adds its own text and what
its references add, but none can refer to itself. So at first all are
faults, and after as many rounds as there are entities, only those are left
that lead to one. -/
def table (inValue : Bool) (d : Declared) : Table :=
  let own := d.entities.filterMap fun (name, t) =>
    match t with
    | .text cs => some (name, (String.ofList cs).utf8ByteSize, items inValue (cs.length + 1) cs)
    | _ => none
  let round (t : Table) : Table := own.map fun (name, size, is) => (name, ofItems t size is)
  own.foldl (fun t _ => round t) []

end Growth
end ScriptGrader.Markup
