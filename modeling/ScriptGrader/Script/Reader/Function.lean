import ScriptGrader.Script.Reader.Pattern

/-!
# Reading a script: functions, classes and objects

A function's body may begin with directives, and one of them makes the
function strict; then the names of the function and of its parameters,
which were read before, have to be looked at again.
-/

namespace ScriptGrader.Script.Reader

/-! ## Bodies -/

/-- The directive that a statement is: a text that stands alone. -/
def directive? (t : Token) (e : Node) : Option String :=
  match e with
  | .string _ | .literal _ => if t.raw = "" then none else some t.raw
  | _ => none

/-- The directives at the start of a body. Octal numbers in those before
`use strict` are noticed when it comes. -/
def directives (sub : Productions) : Read (List Node) := do
  let (statements, _, _) ← repeating (fun (done, octal, ended) => do
    let t ← lookahead
    if ended || !t.isString then return none
    let e ← sub .expression
    semicolon
    let done := Node.expressionStatement e :: done
    match directive? t e with
    | none => return some (done, octal, true)
    | some "use strict" =>
      setContext fun c => { c with strict := true }
      if let some o := octal then failOn o .strictOctal
      unless (← context).allowStrictDirective do failOn t .strictDirective
      return some (done, octal, false)
    | some _ => return some (done, if octal.isNone && t.isOctal then some t else octal, false))
    (([] : List Node), (none : Option Token), false)
  return statements.reverse

/-- The body of a function. -/
def functionBody (sub : Productions) : Read Node := do
  expect "\x7b"
  let first ← directives sub
  let items ← during
    (fun c => { c with labels := [], inIteration := false, inSwitch := false, inFunctionBody := true })
    (fun before c =>
      { c with
        labels := before.labels, inIteration := before.inIteration
        inSwitch := before.inSwitch, inFunctionBody := before.inFunctionBody }) do
    let items ← manyUntil (do return (← atEnd) || (← isAt "\x7d")) (sub .item)
    expect "\x7d"
    return items
  return .blockStatement (first ++ items)

/-- A name that strict mode refuses, with the reason; in strict mode itself it is an error. -/
def restrictedName (t : Token) : Read (Option (BoundName × Cause)) := do
  if (← context).strict then
    if isRestricted t.text then failOn t .strictFunctionName
    return none
  else if isRestricted t.text then return some (⟨t.text, some t.line⟩, .strictFunctionName)
  else if isStrictReserved t.text then return some (⟨t.text, some t.line⟩, .strictReserved)
  else return none

/-- The parameters and the body of a function. -/
def functionRest (sub : Productions) (restricted : Option (BoundName × Cause)) :
    Read (List Node × Node) := do
  let p ← parameters sub (restricted.map (·.1))
  let body ← during (fun c => { c with allowStrictDirective := p.simple })
    (fun before c =>
      { c with strict := before.strict, allowStrictDirective := before.allowStrictDirective }) do
    let body ← functionBody sub
    p.check (p.cause.or (restricted.map (·.2)))
    return body
  return (p.params, body)

/-- Read inside a function: may it wait, may it name something `yield`? -/
def inFunction {α : Type} (isAsync isGenerator : Bool) (p : Read α) : Read α :=
  during (fun c => { c with allowAwait := isAsync, allowYield := !isGenerator })
    (fun before c => { c with allowAwait := before.allowAwait, allowYield := before.allowYield }) p

/-- What stands before a function's name: is it asynchronous, is it a generator? -/
def functionMarks : Read (Bool × Bool) := do
  let isAsync ← isAtName "async"
  if isAsync then skip
  expectWord "function"
  let isGenerator ← if isAsync then pure false else isAt "*"
  if isGenerator then skip
  return (isAsync, isGenerator)

/-- A function that is a statement. Its name may be missing after `export default`. -/
def functionDeclaration (sub : Productions) (nameOptional : Bool) : Read Node := do
  let (isAsync, isGenerator) ← functionMarks
  let (name, restricted) ←
    if nameOptional && (← isAt "(") then pure (none, none)
    else
      let t ← lookahead
      let name ← variableName ""
      pure (some name, ← restrictedName t)
  let (params, body) ← inFunction isAsync isGenerator (functionRest sub restricted)
  return .function .declaration isAsync isGenerator name params body

/-- A function that is an expression. -/
def functionExpression (sub : Productions) : Read Node := do
  let (isAsync, isGenerator) ← functionMarks
  inFunction isAsync isGenerator do
    let (name, restricted) ←
      if ← isAt "(" then pure (none, none)
      else
        let t ← lookahead
        let name ←
          if !(← context).strict && !isGenerator && t.isKeyword "yield" then wordName
          else variableName ""
        pure (some name, ← restrictedName t)
    let (params, body) ← functionRest sub restricted
    return .function .expression isAsync isGenerator name params body

/-! ## Methods -/

/-- The body of a method, and what its parameters have to do with its mode. -/
def methodBody (sub : Productions) (p : Params) : Read Node := do
  noPattern
  during (fun c => { c with allowStrictDirective := p.simple })
    (fun before c =>
      { c with strict := before.strict, allowStrictDirective := before.allowStrictDirective }) do
    let body ← isolated (functionBody sub)
    p.check p.cause
    return body

def methodFunction (isAsync isGenerator : Bool) (p : Params) (body : Node) : Node :=
  .function .expression isAsync isGenerator none p.params body

def method (sub : Productions) (isAsync : Bool) : Read Node := do
  let read : Read Node := do
    let p ← parameters sub none
    return methodFunction isAsync false p (← methodBody sub p)
  if isAsync then inFunction true true read
  else
    during (fun c => { c with allowYield := true })
      (fun before c => { c with allowYield := before.allowYield }) read

/-- A method after a star. -/
def generatorMethod (sub : Productions) : Read Node :=
  during (fun c => { c with allowYield := true })
    (fun before c => { c with allowYield := before.allowYield }) do
    let p ← parameters sub none
    setContext fun c => { c with allowYield := false }
    return methodFunction false true p (← methodBody sub p)

def getter (sub : Productions) : Read Node :=
  during (fun c => { c with allowYield := true })
    (fun before c => { c with allowYield := before.allowYield }) do
    let p ← parameters sub none
    unless p.params.isEmpty do failHere .getterArity
    return methodFunction false false p (← methodBody sub p)

def setter (sub : Productions) : Read Node :=
  during (fun c => { c with allowYield := true })
    (fun before c => { c with allowYield := before.allowYield }) do
    let p ← parameters sub none
    match p.params with
    | [.rest _] => failHere .setterRest
    | [_] => pure ()
    | _ => failHere .setterArity
    return methodFunction false false p (← methodBody sub p)

/-- A name, and the getter, setter or generator method that has it. A
getter leaves `yield` a word of generators for what comes after it. -/
def accessor (sub : Productions) (kind : MemberKind) : Read (Bool × Node × Node) := do
  let computed ← isAt "["
  let key ← propertyKey sub
  let value ←
    match kind with
    | .getter => do
      setContext fun c => { c with allowYield := false }
      getter sub
    | .setter => setter sub
    | _ => generatorMethod sub
  return (computed, key, value)

/-- Which accessor a word or star announces, given that a name follows. -/
def announced? (t : Token) (named : Bool) : Option MemberKind :=
  if !named then none
  else if t.isIdentifier "get" then some .getter
  else if t.isIdentifier "set" then some .setter
  else if t.isPunctuator "*" then some .method
  else none

/-! ## Objects -/

/-- A property of an object, and whether the prototype was set before or by it. -/
def objectProperty (sub : Productions) (hasProto : Bool) : Read (Node × Bool) := do
  let t ← lookahead
  let mut key : Option Node := none
  let mut computed := false
  let mut isAsync := false
  if t.kind = .identifier then
    skip
    computed ← isAt "["
    let after ← lookahead
    isAsync := !(← get).newline && t.text = "async" &&
      !(after.kind = .punctuator && [":", "(", "*", ","].contains after.text)
    key := some (← if isAsync then propertyKey sub else pure (.identifier t.text))
  else if ← isAt "*" then skip
  else
    computed ← isAt "["
    key := some (← propertyKey sub)
  let named := (← lookahead).isPropertyName
  match if isAsync then none else announced? t named, key with
  | some kind, _ =>
    let (c, k, value) ← accessor sub kind
    return (.property kind c k value, hasProto)
  | none, none => unexpected (← lookahead)
  | none, some k =>
    if !isAsync && (← isAt ":") then
      let isProto := !computed && k.isKey "__proto__"
      if isProto && hasProto then failHere .duplicateProto
      skip
      let value ← inherited (sub .assignment)
      return (.property .value computed k value, hasProto || isProto)
    else if ← isAt "(" then
      return (.property .method computed k (← method sub isAsync), hasProto)
    else if t.kind = .identifier then
      let name := Node.identifier t.text
      if ← isAt "=" then
        let mark ← lookahead
        setContext fun c => { c with coverDefault := some mark }
        skip
        let value ← isolated (sub .assignment)
        return (.property .value computed k (.defaulted name value), hasProto)
      else return (.property .value computed k name, hasProto)
    else unexpected (← next)

/-- An element that spreads another value. -/
def spread (sub : Productions) : Read Node := do
  expect "..."
  return .spread (← inherited (sub .assignment))

def object (sub : Productions) : Read Node := do
  expect "\x7b"
  let (properties, _) ← repeating (fun (done, hasProto) => do
    if ← isAt "\x7d" then return none
    let (p, hasProto) ←
      if ← isAt "..." then pure (← spread sub, hasProto) else objectProperty sub hasProto
    unless ← isAt "\x7d" do expect ","
    return some (p :: done, hasProto)) (([] : List Node), false)
  expect "\x7d"
  return .object properties.reverse

/-! ## Classes -/

def isGenerator : Node → Bool
  | .function _ _ g _ _ _ => g
  | _ => false

/-- A member of a class, and whether the constructor was given before or by it. -/
def classElement (sub : Productions) (hasConstructor : Bool) : Read (Node × Bool) := do
  let mut t ← lookahead
  let mut key : Option Node := none
  let mut computed := false
  let mut isStatic := false
  let mut isAsync := false
  if ← isAt "*" then skip
  else
    computed ← isAt "["
    let name ← propertyKey sub
    key := some name
    if name.name? = some "static" && ((← lookahead).isPropertyName || (← isAt "*")) then
      t ← lookahead
      isStatic := true
      computed ← isAt "["
      if ← isAt "*" then skip else key := some (← propertyKey sub)
    if t.isIdentifier "async" && !(← get).newline then
      let mark := (← lookahead).text
      if mark ≠ ":" && mark ≠ "(" && mark ≠ "*" then
        isAsync := true
        t ← lookahead
        key := some (← propertyKey sub)
        if t.isIdentifier "constructor" then failOn t .constructorAsync
  let named := (← lookahead).isPropertyName
  let mut found : Option (MemberKind × Node) := none
  match announced? t named with
  | some kind =>
    let (c, k, value) ← accessor sub kind
    computed := c
    key := some k
    found := some (kind, value)
  | none =>
    if key.isSome && (← isAt "(") then found := some (.method, ← method sub isAsync)
  match found, key with
  | some (kind, value), some k =>
    if !computed && isStatic && k.isKey "prototype" then failOn t .staticPrototype
    if !computed && !isStatic && k.isKey "constructor" then
      if kind ≠ .method || isGenerator value then failOn t .constructorAccessor
      if hasConstructor then failOn t .duplicateConstructor
      return (.member isStatic computed .constructor k value, true)
    return (.member isStatic computed kind k value, hasConstructor)
  | _, _ => unexpected (← lookahead)

def classBody (sub : Productions) : Read (List Node) := do
  expect "\x7b"
  let (members, _) ← repeating (fun (done, hasConstructor) => do
    if ← isAt "\x7d" then return none
    else if ← isAt ";" then
      skip
      return some (done, hasConstructor)
    else
      let (m, hasConstructor) ← classElement sub hasConstructor
      return some (m :: done, hasConstructor)) (([] : List Node), false)
  expect "\x7d"
  return members.reverse

/-- A class. All of it is strict. -/
def classNode (sub : Productions) (isDeclaration nameOptional : Bool) : Read Node := do
  during (fun c => { c with strict := true }) (fun before c => { c with strict := before.strict }) do
    expectWord "class"
    let named := (← lookahead).kind = .identifier
    let name ←
      if nameOptional && !named then pure none else pure (some (← variableName ""))
    let parent ←
      if ← isAtWord "extends" then
        skip
        pure (some (← isolated (sub .callee)))
      else pure none
    return .classNode isDeclaration name parent (← classBody sub)

end ScriptGrader.Script.Reader
