import ScriptGrader.Markup.Space

/-!
# Content

What stands between the tags of an element: text, elements, references,
comments and instructions. Comments and instructions are left out, and the
texts around them are one text.
-/

namespace ScriptGrader.Markup

/-- Content: text, and elements with the text behind each. -/
structure Content where
  text : List Char
  children : List (Element × List Char)
  deriving Repr

namespace Content

def empty : Content := ⟨[], []⟩

/-- Text in front of content. -/
def consText (cs : List Char) (c : Content) : Content := { c with text := cs ++ c.text }

/-- An element in front of content. -/
def consChild (e : Element) (c : Content) : Content := ⟨[], (e, c.text) :: c.children⟩

/-- Content in front of content. -/
def append (a b : Content) : Content :=
  (a.children.foldr (fun x c => (c.consText x.2).consChild x.1) b).consText a.text

/-- The text up to markup, and the rest. Ends of lines become line feeds. A
carriage return at the end of a text is left, as is the end of a section. -/
def run : List Char → List Char → List Char × List Char
  | done, [] => (done.reverse, [])
  | done, '\r' :: '\n' :: r => run ('\n' :: done) r
  | done, '\r' :: r => if Scan.isEnd r then (done.reverse, '\r' :: r) else run ('\n' :: done) r
  | done, ']' :: ']' :: '>' :: r => (done.reverse, ']' :: ']' :: '>' :: r)
  | done, c :: r =>
    if c = '<' ∨ c = '&' ∨ c = half then (done.reverse, c :: r) else run (c :: done) r

theorem run_pair (done r : List Char) : run done ('\r' :: '\n' :: r) = run ('\n' :: done) r := by
  rw [run]

/-- A carriage return ends a line, unless it is the last character. -/
theorem run_return {r : List Char} (hfeed : ∀ r', r ≠ '\n' :: r') (hend : Scan.isEnd r = false)
    (done : List Char) : run done ('\r' :: r) = run ('\n' :: done) r := by
  rw [run]
  · rw [if_neg (by simp [hend])]
  · exact hfeed

/-- A run ends in front of markup. -/
theorem run_markup {c : Char} (hc : c = '<' ∨ c = '&') (done r : List Char) :
    run done (c :: r) = (done.reverse, c :: r) := by
  rcases hc with rfl | rfl <;> simp [run]

/-- The text up to markup in an entity, whose lines were ended before. -/
def entityRun : List Char → List Char → List Char × List Char
  | done, [] => (done.reverse, [])
  | done, ']' :: ']' :: '>' :: r => (done.reverse, ']' :: ']' :: '>' :: r)
  | done, c :: r => if c = '<' ∨ c = '&' then (done.reverse, c :: r) else entityRun (c :: done) r

/-- Could what is left be the beginning of something longer? -/
def isUnfinished (isEntity : Bool) (rest : List Char) : Bool :=
  match rest with
  | ']' :: ']' :: r => Scan.isEnd r
  | ']' :: r => Scan.isEnd r
  | '\r' :: r => !isEntity && Scan.isEnd r
  | r => Scan.isEnd r

/-- The text of a section, in which nothing is markup, and the rest behind
its end. An error is the rest in which the end is missing. -/
def sectionText (isEntity : Bool) : List Char → List Char → Except (List Char) (List Char × List Char)
  | _, [] => .error []
  | done, ']' :: ']' :: '>' :: r => .ok (done.reverse, r)
  | done, c :: r =>
    if isUnfinished isEntity (c :: r) then .error (c :: r)
    else if c = '\r' && !isEntity then
      match r with
      | '\n' :: r => sectionText isEntity ('\n' :: done) r
      | r => sectionText isEntity ('\n' :: done) r
    else sectionText isEntity (c :: done) r

/-- The keyword of a section and its bracket. -/
def sectionKeyword : List Char := "CDATA[".toList

/-- What comes behind the keyword of a section. -/
def afterKeyword (start : List Char) : List Char → List Char → Except Halt (List Char)
  | [], r => .ok r
  | k :: ks, c :: r => if k = c then afterKeyword start ks r else Scan.miss start (c :: r)
  | _ :: _, [] => Scan.miss start []

/-- A section, after its opening bracket. It is not looked at before there
are as many units as its keyword has. -/
def section? [Alphabet] (ending : Ending) (isEntity : Bool) (start rest : List Char) :
    Except Halt (List Char × List Char) := do
  let known := (rest.take sectionKeyword.length).takeWhile (· ≠ half)
  if unitsOf known + ending.units < sectionKeyword.length then .error (.fault .unclosedToken start)
  else
    let rest ← afterKeyword start sectionKeyword rest
    match sectionText isEntity [] rest with
    | .ok x => return x
    | .error left => .error (.ended .unclosedSection (if ending.isWhole then left else []))

end Content

/-- Where a text is read from. -/
structure Setting where
  declared : Declared
  /-- How the text ends. -/
  ending : Ending
  /-- The entities whose texts are being read. -/
  opened : List String
  /-- What entities add, in values or else in content. -/
  growth : Bool → Growth.Table
  /-- How many bytes of the document are in front of a rest. -/
  own : List Char → Nat

namespace Setting

/-- Is the text that of an entity? -/
def isEntity (s : Setting) : Bool := !s.opened.isEmpty

/-- Count what references add to a document in which `added` bytes were
added before; what follows the references is given. Inside entities nothing
is left to count. -/
def grow (s : Setting) (added : Nat) (inValue : Bool) (rs : List Reference) (start rest : List Char) :
    Except Halt Nat :=
  let added := added + Growth.ofReferences (s.growth inValue) rs
  if !s.isEntity && !rs.isEmpty && Growth.isTooMuch (s.own rest) added then .error (.fault .overgrown start)
  else .ok added

end Setting

/-- The content in front of a text and the rest. Before the rest is an end
tag, whose name is given with the rest that begins with it; the content of
an entity may end with its text. The number is how many bytes entities have
added so far. -/
abbrev Read := Content × Option (String × List Char) × Nat × List Char

namespace Content

/-- An error of a tag that begins with `start`. -/
def tagFault (start : List Char) : ValueFault → Halt
  | (c, none) => .fault c start
  | (c, some rest) => .fault c rest

/-- The end of a text inside content. -/
def endOfText (s : Setting) (added : Nat) : Except Halt Read :=
  if s.isEntity then .ok (.empty, none, added, [])
  else if s.ending.isWhole then .error (.fault .noElement [])
  else .error (.ended .noElement [])

/-- The content that a reference stands for. `expand` reads the text of an
entity; what is wrong in it is reported at the reference. -/
def ofReference (expand : List String → Scope → List Char → Except Cause Content)
    (s : Setting) (scope : Scope) (start : List Char) : Reference → Except Halt Content
  | .code n =>
    match Scan.charOfCode? n with
    | some c => .ok ⟨[c], []⟩
    | none => .error (.fault .invalidCharacterNumber start)
  | .entity name =>
    match Scan.standardEntity? name with
    | some c => .ok ⟨[c], []⟩
    | none =>
      match s.declared.entities.lookup name with
      | none =>
        let cause := if s.declared.isComplete then .undefinedEntity else .skippedEntity name
        .error (.fault cause start)
      | some .unparsed => .error (.fault .binaryEntity start)
      | some .elsewhere => .error (.fault (.skippedEntity name) start)
      | some (.text t) =>
        if s.opened.contains name then .error (.fault .recursiveEntity start)
        else
          match expand (name :: s.opened) scope t with
          | .ok c => .ok c
          | .error c => .error (.fault c start)

/-- Content up to an end tag. -/
def read [Alphabet] (expand : List String → Scope → List Char → Except Cause Content) (s : Setting) :
    Nat → Scope → Nat → List Char → Except Halt Read
  | 0, _, _, rest => Scan.refuse rest []
  | fuel + 1, scope, added, rest =>
    match rest with
    | [] => endOfText s added
    | '<' :: '/' :: r => do
      let (name, after) ← Scan.endTag rest r
      return (.empty, some (name, r), added, after)
    | '<' :: '!' :: '-' :: r => do
      read expand s fuel scope added (← Scan.comment rest r)
    | '<' :: '!' :: '[' :: r => do
      let (cs, r) ← section? s.ending s.isEntity rest r
      let (c, stop, added, r) ← read expand s fuel scope added r
      return (c.consText cs, stop, added, r)
    | '<' :: '!' :: r => Scan.miss rest r
    | '<' :: '?' :: r => do
      let ((target, _), r) ← Scan.instruction rest r
      if target = "xml" then .error (.fault .misplacedDeclaration rest)
      else read expand s fuel scope added r
    | '<' :: r => do
      let (tag, r) ← Scan.startTag r.length rest r
      let added ← s.grow added true tag.references rest r
      let (name, attributes, inner) ← (tag.resolve s.declared scope).mapError (tagFault rest)
      if tag.isEmpty then
        let (c, stop, added, r) ← read expand s fuel scope added r
        return (c.consChild (.mk name attributes [] []), stop, added, r)
      else
        let (inside, stop, added, r) ← read expand s fuel inner added r
        match stop with
        | none => .error (.fault .unbalancedEntity [])
        | some (endName, place) =>
          if endName ≠ tag.label.text then .error (.fault .mismatchedTag place)
          else
            let (c, stop, added, r) ← read expand s fuel scope added r
            return (c.consChild (.mk name attributes inside.text inside.children), stop, added, r)
    | '&' :: r => do
      let (ref, r) ← Scan.reference rest r
      let added ← s.grow added false [ref] rest r
      let inside ← ofReference expand s scope rest ref
      let (c, stop, added, r) ← read expand s fuel scope added r
      return (inside.append c, stop, added, r)
    | ']' :: ']' :: '>' :: r => .error (.fault .invalidToken ('>' :: r))
    | _ =>
      if s.isEntity then do
        let (cs, r) := entityRun [] rest
        let (c, stop, added, r) ← read expand s fuel scope added r
        return (c.consText cs, stop, added, r)
      else if rest = [half] then .error (.fault .unclosedToken rest)
      else
        let (cs, r) := run [] rest
        if cs.isEmpty then .error (if s.ending.isWhole then .fault .noElement rest else .ended .noElement [])
        else if r = [half] && cs.getLast? = some ']' then .error (.fault .noElement [])
        else do
          let (c, stop, added, r) ← read expand s fuel scope added r
          return (c.consText cs, stop, added, r)

theorem read_zero [Alphabet] (expand : List String → Scope → List Char → Except Cause Content) (s : Setting)
    (scope : Scope) (added : Nat) (rest : List Char) : read expand s 0 scope added rest = Scan.refuse rest [] := by
  rw [read]

theorem read_nil [Alphabet] (expand : List String → Scope → List Char → Except Cause Content) (s : Setting)
    (fuel : Nat) (scope : Scope) (added : Nat) : read expand s (fuel + 1) scope added [] = endOfText s added := by
  rw [read]

/-- Read the text of an entity, inside which others may be opened to a depth. -/
def expand (d : Declared) : Nat → List String → Scope → List Char → Except Cause Content
  | 0, _, _, _ => .error .recursiveEntity
  | depth + 1, opened, scope, t =>
    match @read .standard (expand d depth) ⟨d, .whole, opened, fun _ => [], fun _ => 0⟩ (t.length + 1) scope 0 t with
    | .ok (c, none, _) => .ok c
    | .ok (_, some _, _) => .error .unbalancedEntity
    | .error (.fault c _) => .error c
    | .error (.ended c _) => .error c
    | .error (.due _) => .error .unclosedToken

end Content
end ScriptGrader.Markup
