import ScriptGrader.Markup.Growth
import ScriptGrader.Markup.Prolog

/-!
# Document types

A document type names the root and may declare, between brackets, entities,
attributes, elements and notations. Elements and notations are checked for
their form only. A piece that does not fit is told by its place.
-/

namespace ScriptGrader.Markup.Doctype

variable (ending : Ending) [Alphabet]

/-! ## Common pieces -/

/-- The end of a declaration. -/
def close (rest : List Char) : Except Halt (List Char) := do
  let p ← Placed.next ending rest
  match p.piece with
  | .close => return p.rest
  | _ => p.misfit

/-- A name without a colon. -/
def plainName (rest : List Char) : Except Halt (Taken String) := do
  let p ← Placed.next ending rest
  match p.piece with
  | .name n => return (n, p.rest)
  | _ => p.misfit

/-- A name. -/
def anyName (rest : List Char) : Except Halt (Taken String) := do
  let p ← Placed.next ending rest
  match p.piece with
  | .name n => return (n, p.rest)
  | .labelled n => return (n, p.rest)
  | _ => p.misfit

/-- The place of what is left of a quoted text. -/
def placeIn (inside quoted left : List Char) : List Char :=
  quoted.drop (inside.length - left.length)

/-- The name of another file. -/
def fileName (rest : List Char) : Except Halt (List Char) := do
  let p ← Placed.next ending rest
  match p.piece with
  | .quoted _ _ => return p.rest
  | _ => p.misfit

/-- May the character stand in a public name? -/
def isPublicChar (c : Char) : Bool :=
  c = half || c = ' ' || c = '\r' || c = '\n' || isLetter c || isDigit c || "-'()+,./:=?;!*#@$_%".toList.contains c

/-- A public name. -/
def publicName (rest : List Char) : Except Halt (List Char) := do
  let p ← Placed.next ending rest
  match p.piece with
  | .quoted inside q =>
    match inside.dropWhile isPublicChar with
    | [] => return p.rest
    | bad => .error (.fault .invalidPublicId (placeIn inside q bad))
  | _ => p.misfit

/-- The names of another file behind a keyword, if it is one for that. -/
def elsewhere? (p : Placed) (name : String) : Option (Except Halt (List Char)) :=
  if name = "SYSTEM" then some (fileName ending p.rest)
  else if name = "PUBLIC" then some (publicName ending p.rest >>= fileName ending)
  else none

/-! ## Entities -/

/-- The text of an entity: references to characters are replaced, others
are kept. An error comes with what is left of the text there. -/
def entityText : Nat → List Char → List Char → Except (Cause × List Char) (List Char)
  | 0, done, _ => .ok done.reverse
  | fuel + 1, done, rest =>
    match rest with
    | [] => .ok done.reverse
    | '%' :: r =>
      match Piece.afterPercent rest r with
      | .ok (.parameter, _) => .error (.parameterEntity, rest)
      | .ok (_, found) => .error (.invalidToken, found)
      | .error (.fault _ found) => .error (.invalidToken, found)
      | .error (.ended _ start) | .error (.due start) => .error (.invalidToken, start)
    | '&' :: r =>
      match Scan.reference rest r with
      | .ok (.code n, left) =>
        match Scan.charOfCode? n with
        | some c => entityText fuel (c :: done) left
        | none => .error (.invalidCharacterNumber, rest)
      | .ok (.entity name, left) =>
        entityText fuel (';' :: name.toList.reverse ++ '&' :: done) left
      | .error (.fault _ found) => .error (.invalidToken, found)
      | .error (.ended _ start) | .error (.due start) => .error (.invalidToken, start)
    | '\r' :: '\n' :: r => entityText fuel ('\n' :: done) r
    | '\r' :: r => entityText fuel ('\n' :: done) r
    | c :: r => if c = half then .error (.invalidToken, rest) else entityText fuel (c :: done) r

/-- The text of an entity between quotes. Where declarations do not count, it is not looked at. -/
def quotedEntity (d : Declared) (inside quoted : List Char) : Except Halt (List Char) :=
  if d.isClosed then .ok []
  else
    match entityText (inside.length + 1) [] inside with
    | .ok t => .ok t
    | .error (c, left) => .error (.fault c (placeIn inside quoted left))

/-- A parameter entity, after its percent sign. They are not used. -/
def parameterEntity (d : Declared) (rest : List Char) : Except Halt (Taken Declared) := do
  let (_, rest) ← plainName ending rest
  let p ← Placed.next ending rest
  match p.piece with
  | .quoted inside q =>
    let _ ← quotedEntity d inside q
    return (d, ← close ending p.rest)
  | .name n =>
    match elsewhere? ending p n with
    | some taken => return (d, ← close ending (← taken))
    | none => p.misfit
  | _ => p.misfit

/-- An entity in another file, after the names of the file. -/
def otherEntity (d : Declared) (name : String) (rest : List Char) : Except Halt (Taken Declared) := do
  let p ← Placed.next ending rest
  match p.piece with
  | .close => return (d.addEntity name .elsewhere, p.rest)
  | .name "NDATA" =>
    let (_, rest) ← plainName ending p.rest
    return (d.addEntity name .unparsed, ← close ending rest)
  | _ => p.misfit

/-- The declaration of an entity. -/
def entity (d : Declared) (rest : List Char) : Except Halt (Taken Declared) := do
  let p ← Placed.next ending rest
  match p.piece with
  | .percent => parameterEntity ending d p.rest
  | .name name =>
    let v ← Placed.next ending p.rest
    match v.piece with
    | .quoted inside q =>
      let t ← quotedEntity d inside q
      return (d.addEntity name (.text t), ← close ending v.rest)
    | .name n =>
      match elsewhere? ending v n with
      | some taken => otherEntity ending d name (← taken)
      | none => v.misfit
    | _ => v.misfit
  | _ => p.misfit

/-! ## Attributes -/

/-- A label as it is written in a name. -/
def labelOf (name : String) : Label :=
  match name.splitOn ":" with
  | [s, n] => ⟨some s, n⟩
  | _ => ⟨none, name⟩

/-- The rest of a group of words; `isName` says that they are names. -/
def wordGroup (isName : Bool) : Nat → List Char → Except Halt (List Char)
  | 0, rest => Scan.refuse rest []
  | fuel + 1, rest => do
    let p ← Placed.next ending rest
    let fits := match p.piece with
      | .name _ => true
      | .labelled _ => !isName
      | .word _ => !isName
      | _ => false
    if !fits then p.misfit
    else
      let q ← Placed.next ending p.rest
      match q.piece with
      | .bar => wordGroup isName fuel q.rest
      | .closeGroup none => return q.rest
      | _ => q.misfit

/-- The type of an attribute: are its values lists of words? -/
def attributeType (fuel : Nat) (rest : List Char) : Except Halt (Taken Bool) := do
  let p ← Placed.next ending rest
  match p.piece with
  | .name "CDATA" => return (false, p.rest)
  | .name "NOTATION" =>
    let q ← Placed.next ending p.rest
    match q.piece with
    | .openGroup => return (true, ← wordGroup ending true fuel q.rest)
    | _ => q.misfit
  | .name n =>
    if ["ID", "IDREF", "IDREFS", "ENTITY", "ENTITIES", "NMTOKEN", "NMTOKENS"].contains n then
      return (true, p.rest)
    else p.misfit
  | .openGroup => return (true, ← wordGroup ending false fuel p.rest)
  | _ => p.misfit

/-- The value of an attribute that is not written. -/
def defaultValue (d : Declared) (isWords : Bool) (p : Placed) (inside quoted : List Char) :
    Except Halt (Option String) :=
  if d.isClosed then .ok none
  else
    let (ps, bad) := ValueText.pieces false (inside.length + 1) [] inside
    let added := Growth.ofReferences (Growth.table true d) (Growth.referencesOf ps)
    if Growth.isTooMuch inside.length added then .error (.fault .overgrown p.start)
    else
    match ValueText.ofPieces d isWords ps, bad with
    | .ok v, none => .ok (some v)
    | .ok _, some left => .error (.fault .invalidToken (placeIn inside quoted left))
    | .error (c, none), _ => .error (.fault c p.start)
    | .error (c, some left), _ => .error (.fault c (placeIn inside quoted left))

/-- What is said of an attribute that is not written. -/
def attributeDefault (d : Declared) (isWords : Bool) (rest : List Char) :
    Except Halt (Taken (Option String)) := do
  let p ← Placed.next ending rest
  match p.piece with
  | .hash "IMPLIED" => return (none, p.rest)
  | .hash "REQUIRED" => return (none, p.rest)
  | .hash "FIXED" =>
    let q ← Placed.next ending p.rest
    match q.piece with
    | .quoted inside r => return (← defaultValue d isWords q inside r, q.rest)
    | _ => q.misfit
  | .quoted inside r => return (← defaultValue d isWords p inside r, p.rest)
  | _ => p.misfit

/-- The attributes of an element. -/
def attributeRules (element : String) : Nat → Declared → List Char → Except Halt (Taken Declared)
  | 0, _, rest => Scan.refuse rest []
  | fuel + 1, d, rest => do
    let p ← Placed.next ending rest
    let rule (n : String) : Except Halt (Taken Declared) := do
      let (isWords, rest) ← attributeType ending fuel p.rest
      let (v, rest) ← attributeDefault ending d isWords rest
      attributeRules element fuel (d.addRule element ⟨labelOf n, isWords, v⟩) rest
    match p.piece with
    | .close => return (d, p.rest)
    | .name n => rule n
    | .labelled n => rule n
    | _ => p.misfit

/-! ## Elements and notations -/

/-- The rest of a group that begins with text: other elements may be in it. -/
def mixedGroup : Nat → Bool → List Char → Except Halt (List Char)
  | 0, _, rest => Scan.refuse rest []
  | fuel + 1, isFirst, rest => do
    let p ← Placed.next ending rest
    match p.piece with
    | .bar =>
      let (_, rest) ← anyName ending p.rest
      mixedGroup fuel false rest
    | .closeGroup (some '*') => return p.rest
    | .closeGroup none => if isFirst then return p.rest else p.misfit
    | _ => p.misfit

/-- The rest of a group of elements. `signs` are the signs that part the
members of the open groups; an item is due when `isDue`. -/
def elementGroup : Nat → List (Option Char) → (isDue : Bool) → List Char → Except Halt (List Char)
  | 0, _, _, rest => Scan.refuse rest []
  | fuel + 1, signs, isDue, rest => do
    let p ← Placed.next ending rest
    if isDue then
      match p.piece with
      | .openGroup => elementGroup fuel (none :: signs) true p.rest
      | .name _ => elementGroup fuel signs false p.rest
      | .labelled _ => elementGroup fuel signs false p.rest
      | .counted => elementGroup fuel signs false p.rest
      | _ => p.misfit
    else
      let part (c : Char) : Except Halt (List Char) :=
        match signs with
        | none :: outer => elementGroup fuel (some c :: outer) true p.rest
        | some s :: _ => if s = c then elementGroup fuel signs true p.rest else p.misfit
        | [] => p.misfit
      match p.piece with
      | .comma => part ','
      | .bar => part '|'
      | .closeGroup _ =>
        match signs with
        | _ :: o :: outer => elementGroup fuel (o :: outer) false p.rest
        | _ => return p.rest
      | _ => p.misfit

/-- The declaration of an element. -/
def element (fuel : Nat) (rest : List Char) : Except Halt (List Char) := do
  let (_, rest) ← anyName ending rest
  let p ← Placed.next ending rest
  match p.piece with
  | .name "EMPTY" => close ending p.rest
  | .name "ANY" => close ending p.rest
  | .openGroup =>
    let q ← Placed.next ending p.rest
    match q.piece with
    | .hash "PCDATA" => mixedGroup ending fuel true q.rest >>= close ending
    | _ => elementGroup ending fuel [none] true p.rest >>= close ending
  | _ => p.misfit

/-- The declaration of a notation. -/
def notationDeclaration (rest : List Char) : Except Halt (List Char) := do
  let (_, rest) ← plainName ending rest
  let p ← Placed.next ending rest
  match p.piece with
  | .name "SYSTEM" => fileName ending p.rest >>= close ending
  | .name "PUBLIC" =>
    let rest ← publicName ending p.rest
    let q ← Placed.next ending rest
    match q.piece with
    | .quoted _ _ => close ending q.rest
    | .close => return q.rest
    | _ => q.misfit
  | _ => p.misfit

/-! ## The document type -/

/-- The declarations between brackets, and the end of the document type. -/
def subset : Nat → Declared → List Char → Except Halt (Taken Declared)
  | 0, _, rest => Scan.refuse rest []
  | fuel + 1, d, rest => do
    let p ← Placed.next ending rest
    match p.piece with
    | .comment => subset fuel d p.rest
    | .instruction => subset fuel d p.rest
    | .parameter => subset fuel d.leaveOutHere p.rest
    | .closeBracket => return (d, ← close ending p.rest)
    | .opening "ENTITY" =>
      let (d, rest) ← entity ending d p.rest
      subset fuel d rest
    | .opening "ATTLIST" =>
      let (name, rest) ← anyName ending p.rest
      let (d, rest) ← attributeRules ending name fuel d rest
      subset fuel d rest
    | .opening "ELEMENT" => subset fuel d (← element ending fuel p.rest)
    | .opening "NOTATION" => subset fuel d (← notationDeclaration ending p.rest)
    | _ => p.misfit

/-- A document type, after its keyword. -/
def read (d : Declared) (rest : List Char) : Except Halt (Taken Declared) := do
  let fuel := rest.length + 1
  let (_, rest) ← anyName ending rest
  let p ← Placed.next ending rest
  match p.piece with
  | .openBracket => subset ending fuel d p.rest
  | .close => return (d, p.rest)
  | .name n =>
    match elsewhere? ending p n with
    | none => p.misfit
    | some taken =>
      let q ← Placed.next ending (← taken)
      match q.piece with
      | .openBracket => subset ending fuel d.leaveOut q.rest
      | .close => return (d.leaveOut, q.rest)
      | _ => q.misfit
  | _ => p.misfit

end ScriptGrader.Markup.Doctype
