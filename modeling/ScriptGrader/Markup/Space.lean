import ScriptGrader.Markup.Growth
import ScriptGrader.Markup.Writing

/-!
# Namespaces and attributes

A start tag binds labels to namespaces and gives attributes. Attributes
come in the order in which they are written, and behind them those that
the document type adds. What is wrong with a tag as a whole is reported at
its beginning.
-/

namespace ScriptGrader.Markup

/-- The namespace that stands for declarations of namespaces. -/
def declarationSpace : String := webSpace "www.w3.org/2000/xmlns/"

/-- The namespaces of labels, and of names without one; the innermost first. -/
abbrev Scope := List (Option String × String)

namespace Scope

/-- The namespace of a label or, for `none`, of names without one. -/
def space? (s : Scope) (label : Option String) : Option String :=
  match s.lookup label with
  | some uri => if uri.isEmpty then none else some uri
  | none => if label = some "xml" then some xmlSpace else none

/-- Bind a label to a namespace. -/
def bind (s : Scope) (label : Option String) (uri : String) : Except Cause Scope :=
  if uri.isEmpty ∧ label.isSome then .error .undeclaredLabel
  else if label = some "xmlns" then .error .reservedXmlns
  else if uri.toList.contains '\x7d' then .error .unexpected
  else if label = some "xml" ∧ uri ≠ xmlSpace then .error .reservedXml
  else if (label ≠ some "xml" ∧ uri = xmlSpace) ∨ uri = declarationSpace then .error .reservedSpace
  else .ok ((label, uri) :: s)

end Scope

namespace Label

/-- The label that an attribute of this name binds, if it binds one. -/
def bound? (l : Label) : Option (Option String) :=
  match l.space with
  | none => if l.name = "xmlns" then some none else none
  | some s => if s = "xmlns" then some (some l.name) else none

/-- The name of an attribute. -/
def attributeName (s : Scope) (l : Label) : Except Cause Name :=
  match l.space with
  | none => .ok (.plain l.name)
  | some p =>
    match s.space? (some p) with
    | some uri => .ok ⟨some uri, l.name⟩
    | none => .error .unboundLabel

/-- The name of an element. -/
def elementName (s : Scope) (l : Label) : Except Cause Name :=
  match l.space with
  | none => .ok ⟨s.space? none, l.name⟩
  | some p =>
    match s.space? (some p) with
    | some uri => .ok ⟨some uri, l.name⟩
    | none => .error .unboundLabel

end Label

/-- The attributes of a tag that were seen so far. -/
structure Seen where
  labels : List Label
  scope : Scope
  /-- Without those that bind labels. -/
  values : List (Label × String)
  deriving Repr

namespace Seen

/-- One more attribute. -/
def add (s : Seen) (l : Label) (v : String) : Except Cause Seen :=
  match l.bound? with
  | some label => do
    let scope ← s.scope.bind label v
    return ⟨l :: s.labels, scope, s.values⟩
  | none => .ok ⟨l :: s.labels, s.scope, s.values ++ [(l, v)]⟩

/-- The attributes as they are written; the rest of a fault is where it is to be reported. -/
def written (d : Declared) (rules : List AttributeRule) :
    Seen → List RawAttribute → Except ValueFault Seen
  | s, [] => .ok s
  | s, a :: as =>
    if s.labels.contains a.label then .error (.duplicateAttribute, some a.rest)
    else do
      let isWords := (rules.find? (·.label = a.label)).any (·.isWords)
      let v ← ValueText.ofPieces d isWords a.pieces
      match s.add a.label v with
      | .ok s => written d rules s as
      | .error c => .error (c, none)

/-- The attributes that the document type adds. -/
def unwritten : Seen → List AttributeRule → Except Cause Seen
  | s, [] => .ok s
  | s, r :: rs =>
    match r.default with
    | some v => if s.labels.contains r.label then unwritten s rs else s.add r.label v >>= (unwritten · rs)
    | none => unwritten s rs

/-- The attributes with their names. -/
def named (scope : Scope) : List (Name × String) → List (Label × String) →
    Except Cause (List (Name × String))
  | done, [] => .ok done
  | done, (l, v) :: r => do
    let n ← l.attributeName scope
    if done.any (·.1 = n) then .error .duplicateAttribute else named scope (done ++ [(n, v)]) r

end Seen

namespace StartTag

/-- The references in the values of a tag. -/
def references (t : StartTag) : List Reference :=
  t.attributes.flatMap fun a => Growth.referencesOf a.pieces

/-- The name and the attributes that a tag stands for, and the namespaces inside its element. -/
def resolve (d : Declared) (scope : Scope) (t : StartTag) :
    Except ValueFault (Name × List (Name × String) × Scope) := do
  let rules := d.rules t.label.text
  let seen ← Seen.written d rules ⟨[], scope, []⟩ t.attributes
  let whole : Except Cause (Name × List (Name × String) × Scope) := do
    let seen ← seen.unwritten rules
    let attributes ← Seen.named seen.scope [] seen.values
    return (← t.label.elementName seen.scope, attributes, seen.scope)
  whole.mapError fun c => (c, none)

end StartTag
end ScriptGrader.Markup
