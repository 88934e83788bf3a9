import ScriptGrader.Script.Reader.Basic

/-!
# Reading a script: patterns and parameters

Patterns bind names. A list of parameters remembers which of its names are
not allowed in strict mode, because a function may turn strict only after
its parameters were read.
-/

namespace ScriptGrader.Script.Reader

/-! ## Names of properties -/

/-- The name of a property. -/
def propertyKey (sub : Productions) : Read Node := do
  let t ← next
  match t.kind with
  | .string octal | .number octal =>
    if octal && (← context).strict then failOn t .strictOctal
    return if t.isString then .string t.text else .literal t.text
  | .identifier | .boolean | .null | .keyword => return .identifier t.text
  | _ =>
    if t.isPunctuator "[" then
      let key ← isolated (sub .assignment)
      expect "]"
      return key
    else unexpected t

/-! ## Patterns -/

/-- A pattern, with a default value if one follows. -/
def patternWithDefault (sub : Productions) (declaration : String) : Read Node := do
  let p ← sub (.pattern declaration)
  if ← isAt "=" then
    skip
    let value ← during (fun c => { c with allowYield := true })
      (fun before c => { c with allowYield := before.allowYield }) (isolated (sub .assignment))
    return .defaulted p value
  else return p

def arrayPattern (sub : Productions) (declaration : String) : Read Node := do
  expect "["
  let (elements, _) ← repeating (fun (elements, ended) => do
    if ended || (← isAt "]") then return none
    else if ← isAt "," then
      skip
      return some (none :: elements, false)
    else if ← isAt "..." then
      skip
      let argument ← sub (.pattern declaration)
      return some (some (.rest argument) :: elements, true)
    else
      let p ← patternWithDefault sub declaration
      unless ← isAt "]" do expect ","
      return some (some p :: elements, false)) ([], false)
  expect "]"
  return .arrayPattern elements.reverse

/-- A property of a pattern: a name by itself, with a default value, or
with the pattern that it is bound to. -/
def propertyPattern (sub : Productions) (declaration : String) : Read Node := do
  let t ← lookahead
  if t.kind = .identifier then
    let key ← variableName ""
    if ← isAt "=" then
      bind t
      skip
      let value ← sub .assignment
      return .property .value false key (.defaulted key value)
    else if ← isAt ":" then
      skip
      return .property .value false key (← patternWithDefault sub declaration)
    else
      bind t
      return .property .value false key key
  else
    let computed ← isAt "["
    let key ← propertyKey sub
    expect ":"
    return .property .value computed key (← patternWithDefault sub declaration)

/-- The rest of the properties; it is the last one and has no default value. -/
def restProperty (sub : Productions) : Read Node := do
  expect "..."
  let argument ← sub (.pattern "")
  if ← isAt "=" then fail (.unexpected (.token "="))
  unless ← isAt "\x7d" do fail (.unexpected .construct)
  return .rest argument

def objectPattern (sub : Productions) (declaration : String) : Read Node := do
  expect "\x7b"
  let properties ← separated "\x7d" do
    if ← isAt "..." then restProperty sub else propertyPattern sub declaration
  return .objectPattern properties

def pattern (sub : Productions) (declaration : String) : Read Node := do
  if ← isAt "[" then arrayPattern sub declaration
  else if ← isAt "\x7b" then objectPattern sub declaration
  else
    let t ← lookahead
    if t.isKeyword "let" && (declaration = "const" || declaration = "let") then failOn t .letName
    bind t
    variableName declaration

/-! ## Parameters -/

/-- The rest of the parameters; it is the last one and has no default value. -/
def restParameter (sub : Productions) : Read Node := do
  expect "..."
  let argument ← sub (.pattern "")
  if ← isAt "=" then fail (.unexpected (.token "="))
  unless ← isAt ")" do fail .restNotLast
  return .rest argument

/-- Parameters, and what is wrong with their names. -/
structure Params where
  params : List Node
  /-- Is every parameter just a name? -/
  simple : Bool
  /-- A name that makes the parameters wrong in strict mode. -/
  stricted : Option BoundName
  /-- The first name that strict mode would refuse, found in sloppy mode. -/
  firstRestricted : Option BoundName
  cause : Option Cause
  seen : List String

namespace Params

def none (firstRestricted : Option BoundName) : Params := ⟨[], true, .none, firstRestricted, .none, []⟩

/-- Look at one more name. -/
def add (p : Params) (strict : Bool) (b : BoundName) : Params :=
  let repeated := p.seen.contains b.name
  let p' :=
    if strict then
      if repeated then { p with stricted := some b, cause := some .duplicateParameter }
      else if isRestricted b.name then { p with stricted := some b, cause := some .strictParameter }
      else p
    else if p.firstRestricted.isSome then p
    else if isRestricted b.name then { p with firstRestricted := some b, cause := some .strictParameter }
    else if isStrictReserved b.name then { p with firstRestricted := some b, cause := some .strictReserved }
    else if repeated then { p with stricted := some b, cause := some .duplicateParameter }
    else p
  { p' with seen := b.name :: p.seen }

/-- Refuse names that strict mode does not allow, once the mode is known. -/
def check (p : Params) (cause : Option Cause) : Read Unit := do
  if (← context).strict then
    if p.firstRestricted.isSome then failOnName p.firstRestricted (cause.getD .strictParameter)
    if p.stricted.isSome then failOnName p.stricted (cause.getD .strictParameter)

end Params

def parameter (sub : Productions) (p : Params) : Read Params := do
  let (n, names) ← binding do
    if ← isAt "..." then restParameter sub else patternWithDefault sub ""
  let strict := (← context).strict
  let p := names.foldl (·.add strict ·) p
  return { p with params := p.params ++ [n], simple := p.simple && n.isIdentifier }

/-- Parameters between parentheses. -/
def parameters (sub : Productions) (firstRestricted : Option BoundName) : Read Params := do
  expect "("
  let p ←
    if ← isAt ")" then pure (Params.none firstRestricted)
    else
      let (p, _) ← repeating (fun (p, ended) => do
        if ended || (← atEnd) then return none
        else
          let p ← parameter sub p
          if ← isAt ")" then return some (p, true)
          expect ","
          return some (p, ← isAt ")")) (Params.none firstRestricted, false)
      pure p
  expect ")"
  return p

end ScriptGrader.Script.Reader
