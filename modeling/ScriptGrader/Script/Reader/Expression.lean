import ScriptGrader.Script.Reader.Function

/-!
# Reading a script: expressions

From the parts that bind tightest to those that bind loosest. An arrow is
noticed only after what stands before it was read, so parentheses keep
what they hold as parameters in waiting until the arrow comes.
-/

namespace ScriptGrader.Script.Reader

/-! ## Primary expressions -/

def templateLiteral (sub : Productions) : Read Node := do
  let endsAt (t : Token) : Bool := match t.kind with
    | .template _ tail => tail
    | _ => false
  unless (← lookahead).isTemplateHead do throw ⟨none, .templateHead⟩
  let t ← next
  let (quasis, expressions, _) ← repeating (fun (quasis, expressions, ended) => do
    if ended then return none
    let e ← sub .expression
    match (← lookahead).kind with
    | .template .. =>
      let q ← next
      return some (q.text :: quasis, e :: expressions, endsAt q)
    | _ => fail (.unexpected .illegal)) ([t.text], ([] : List Node), endsAt t)
  return .template quasis.reverse expressions.reverse

def arrayLiteral (sub : Productions) : Read Node := do
  expect "["
  let elements ← manyUntil (isAt "]") do
    if ← isAt "," then
      skip
      return none
    else if ← isAt "..." then
      let e ← spread sub
      unless ← isAt "]" do
        noPattern
        expect ","
      return some e
    else
      let e ← inherited (sub .assignment)
      unless ← isAt "]" do expect ","
      return some e
  expect "]"
  return .array elements

def expectArrow : Read Unit := do
  unless ← isAt "=>" do expect "=>"

/-- What stands in parentheses after the first expression and before the
closing one. It is the parameters of an arrow, or an expression. -/
def groupEnd (e : Node) : Read Node := do
  expect ")"
  let c ← context
  let isArrow ← isAt "=>"
  let params : List Node := match e with
    | .sequence es => es.map Node.toPattern
    | e => [e.toPattern]
  if isArrow && e.name? ≠ some "yield" && !c.isBinding then unexpected (← lookahead)
  setContext fun c => { c with isBinding := false }
  return if isArrow then .arrowHead false params else e

/-- An expression in parentheses, or the parameters of an arrow. -/
def group (sub : Productions) : Read Node := do
  expect "("
  if ← isAt ")" then
    skip
    expectArrow
    return .arrowHead false []
  else if ← isAt "..." then
    let (r, _) ← binding (restParameter sub)
    expect ")"
    expectArrow
    return .arrowHead false [r]
  else
    setContext fun c => { c with isBinding := true }
    let e ← inherited (sub .assignment)
    if ← isAt "," then
      setContext fun c => { c with isTarget := false }
      let (es, isArrow) ← repeating (fun (es, isArrow) => do
        if isArrow || (← atEnd) || !(← isAt ",") then return none
        skip
        if ← isAt ")" then
          skip
          return some (es, true)
        else if ← isAt "..." then
          unless (← context).isBinding do unexpected (← lookahead)
          let (r, _) ← binding (restParameter sub)
          expect ")"
          expectArrow
          setContext fun c => { c with isBinding := false }
          return some (r :: es, true)
        else return some ((← inherited (sub .assignment)) :: es, false)) ([e], false)
      if isArrow then return .arrowHead false (es.reverse.map Node.toPattern)
      else groupEnd (.sequence es.reverse)
    else groupEnd e

def primary (sub : Productions) : Read Node := do
  let t ← lookahead
  let c ← context
  match t.kind with
  | .identifier =>
    if (c.isModule || c.allowAwait) && t.text = "await" then unexpected t
    if ← isAtAsyncFunction then functionExpression sub
    else
      skip
      return .identifier t.text
  | .number octal | .string octal =>
    if c.strict && octal then failOn t .strictOctal
    noPattern
    skip
    return if t.isString then .string t.text else .literal t.text
  | .boolean | .null =>
    noPattern
    skip
    return .literal t.text
  | .template .. => templateLiteral sub
  | .keyword =>
    if !c.strict && c.allowYield && t.text = "yield" then wordName
    else if !c.strict && t.text = "let" then
      skip
      return .identifier t.text
    else
      noPattern
      match t.text with
      | "function" => functionExpression sub
      | "this" =>
        skip
        return .this
      | "class" => classNode sub false true
      | _ =>
        if ← isAtImportCall then
          skip
          return .importCall
        else unexpected (← next)
  | _ =>
    if t.isPunctuator "(" then
      setContext fun c => { c with isBinding := false }
      inherited (group sub)
    else if t.isPunctuator "[" then inherited (arrayLiteral sub)
    else if t.isPunctuator "\x7b" then inherited (object sub)
    else if t.isPunctuator "/" || t.isPunctuator "/=" then
      noPattern
      nextRegex
      return .literal "/"
    else unexpected (← next)

/-! ## Accesses and calls -/

/-- The arguments of a call. -/
def arguments (sub : Productions) (argument : Read Node) : Read (List Node) := do
  expect "("
  separated ")" do
    if ← isAt "..." then spread sub else isolated argument

/-- The arguments of what may be an asynchronous arrow's parameters. -/
def asyncArgument (sub : Productions) : Read Node := do
  let e ← sub .assignment
  setContext fun c => { c with coverDefault := none }
  return e

/-- A call with `new`, or the target of the call of a function. -/
def newExpression (sub : Productions) : Read Node := do
  skip
  if ← isAt "." then
    skip
    let t ← lookahead
    if t.isIdentifier "target" && (← context).inFunctionBody then
      return .metaProperty (.identifier "new") (← wordName)
    else unexpected t
  else if ← isAtWord "import" then unexpected (← lookahead)
  else
    let callee ← isolated (sub .newCallee)
    let arguments ← if ← isAt "(" then arguments sub (sub .assignment) else pure []
    noPattern
    return .newCall callee arguments

def newOrPrimary (sub : Productions) : Read Node := do
  inherited (if ← isAtWord "new" then newExpression sub else primary sub)

/-- What was accessed can be assigned to but is no parameter. -/
def accessed : Read Unit := setContext fun c => { c with isBinding := false, isTarget := true }

/-- An access to a part of what was read, if one follows. -/
def access (sub : Productions) (e : Node) : Read (Option Node) := do
  if ← isAt "." then
    accessed
    skip
    return some (.access false e (← wordName))
  else if ← isAt "[" then
    accessed
    skip
    let p ← isolated (sub .expression)
    expect "]"
    return some (.access true e p)
  else if (← lookahead).isTemplateHead then return some (.tagged e (← templateLiteral sub))
  else return none

/-- The parent class, which only methods know; one of the marks must follow. -/
def superNode (marks : List String) : Read Node := do
  skip
  let t ← lookahead
  unless t.kind = .punctuator && marks.contains t.text do unexpected t
  return .super

def isAtSuper : Read Bool := do return (← isAtWord "super") && (← context).inFunctionBody

/-- What is called with `new`. -/
def newCallee (sub : Productions) : Read Node := do
  let e ← if ← isAtSuper then superNode ["[", "."] else newOrPrimary sub
  repeating (access sub) e

/-- A call of what was read, if one follows. A call of `async` on one line
may be the parameters of an arrow. -/
def call (sub : Productions) (start : Token) (e : Node) : Read (Option Node) := do
  if ← isAt "(" then
    let mayBeArrow := start.isIdentifier "async" && start.line = (← lookahead).line
    noPattern
    let args ← arguments sub (if mayBeArrow then asyncArgument sub else sub .assignment)
    match e with
    | .importCall => if args.length ≠ 1 then failHere (.unexpected .construct)
    | _ => pure ()
    if mayBeArrow && (← isAt "=>") then return some (.arrowHead true (args.map Node.toPattern))
    else return some (.call e args)
  else access sub e

/-- An expression with accesses and calls. -/
def callee (sub : Productions) : Read Node := do
  let start ← lookahead
  during (fun c => { c with allowIn := true }) (fun before c => { c with allowIn := before.allowIn }) do
    let e ← if ← isAtSuper then superNode ["(", ".", "["] else newOrPrimary sub
    repeating (call sub start) e

/-! ## Operators -/

def isAtUpdate : Read Bool := do return (← isAt "++") || (← isAt "--")

/-- What `++` and `--` change must be assignable. -/
def checkUpdate (e : Node) (cause : Cause) : Read Unit := do
  let c ← context
  if c.strict && e.name?.any isRestricted then failHere cause
  unless c.isTarget do failHere .invalidAssignment

def update (sub : Productions) : Read Node := do
  if ← isAtUpdate then
    let t ← next
    let e ← inherited (sub .unary)
    checkUpdate e .strictPrefix
    noPattern
    return .update true t.text e
  else
    let e ← inherited (callee sub)
    if !(← get).newline && (← isAtUpdate) then
      checkUpdate e .strictPostfix
      noPattern
      return .update false (← next).text e
    else return e

def isUnary (t : Token) : Bool :=
  (t.kind = .punctuator && ["+", "-", "~", "!"].contains t.text) ||
    (t.kind = .keyword && ["delete", "void", "typeof"].contains t.text)

def unary (sub : Productions) : Read Node := do
  let t ← lookahead
  if isUnary t then
    skip
    let e ← inherited (sub .unary)
    if (← context).strict && t.text = "delete" && e.isIdentifier then failHere .strictDelete
    noPattern
    return .unary t.text e
  else if (← context).allowAwait && t.isIdentifier "await" then
    skip
    return .await (← sub .unary)
  else update sub

/-- A power; what stands before the sign has no sign of its own. -/
def exponent (sub : Productions) : Read Node := do
  let e ← inherited (unary sub)
  match e with
  | .unary .. => return e
  | _ =>
    if ← isAt "**" then
      skip
      noPattern
      return .binary e [("**", ← isolated (sub .exponent))]
    else return e

/-- Does the token stand between two operands? -/
def isBinary (allowIn : Bool) (t : Token) : Bool :=
  (t.kind = .punctuator && binaryPunctuators.contains t.text) ||
    t.isKeyword "instanceof" || (allowIn && t.isKeyword "in")

/-- Operands with operators between them. -/
def binary (sub : Productions) : Read Node := do
  let first ← inherited (exponent sub)
  let others ← manyUntil (do return !isBinary (← context).allowIn (← lookahead)) do
    let t ← next
    noPattern
    return (t.text, ← isolated (exponent sub))
  return if others.isEmpty then first else .binary first others

def conditional (sub : Productions) : Read Node := do
  let test ← inherited (binary sub)
  if ← isAt "?" then
    skip
    let consequent ← during (fun c => { c with allowIn := true })
      (fun before c => { c with allowIn := before.allowIn }) (isolated (sub .assignment))
    expect ":"
    let alternate ← isolated (sub .assignment)
    noPattern
    return .conditional test consequent alternate
  else return test

/-! ## Arrows and assignments -/

/-- May the token begin an expression? -/
def startsExpression (t : Token) : Bool :=
  match t.kind with
  | .punctuator => ["[", "(", "\x7b", "+", "-", "!", "~", "++", "--", "/", "/="].contains t.text
  | .keyword =>
    ["class", "delete", "function", "let", "new", "super", "this", "typeof", "void",
      "yield"].contains t.text
  | _ => true

def yieldExpression (sub : Productions) : Read Node := do
  expectWord "yield"
  if (← get).newline then return .yield false none
  else
    during (fun c => { c with allowYield := false })
      (fun before c => { c with allowYield := before.allowYield }) do
      if ← isAt "*" then
        skip
        return .yield true (some (← sub .assignment))
      else if startsExpression (← lookahead) then return .yield false (some (← sub .assignment))
      else return .yield false none

/-- The parameters of an arrow, if the expression before it can be that. -/
def arrowParams? : Node → Option (Bool × List Node)
  | .arrowHead isAsync params => some (isAsync, params)
  | .identifier s => some (false, [.identifier s])
  | _ => none

/-- Look at the parameters of an arrow. Names may not repeat in any mode. -/
def checkArrowParams (isAsync : Bool) (params : List Node) : Read Params := do
  let c ← context
  let t ← lookahead
  for p in params do
    match p with
    | .defaulted _ (.yield _ (some _)) => unexpected t
    | .identifier "await" => if isAsync then unexpected t
    | _ => pure ()
  if (c.strict || !c.allowYield) && params.any (fun | .yield .. => true | _ => false) then unexpected t
  let names := params.flatMap Node.boundNames
  let p : Params := names.foldl (fun p name => p.add c.strict ⟨name, none⟩) (Params.none none)
  let p : Params := { p with params := params, simple := params.all Node.isIdentifier }
  if p.cause = some .duplicateParameter then fail .duplicateParameter
  return p

/-- An arrow and the function's body. -/
def arrow (sub : Productions) (isAsync : Bool) (p : Params) : Read Node := do
  if (← get).newline then unexpected (← lookahead)
  setContext fun c => { c with coverDefault := none }
  during
    (fun c =>
      { c with allowStrictDirective := p.simple, allowYield := true, allowAwait := isAsync })
    (fun before c =>
      { c with
        strict := before.strict, allowStrictDirective := before.allowStrictDirective
        allowYield := before.allowYield, allowAwait := before.allowAwait }) do
    expect "=>"
    let body ←
      if ← isAt "\x7b" then
        during (fun c => { c with allowIn := true }) (fun before c => { c with allowIn := before.allowIn })
          (functionBody sub)
      else isolated (sub .assignment)
    p.check p.cause
    return .function .arrow isAsync false none p.params body

/-- An assignment, if an operator for it follows. -/
def assigned (sub : Productions) (start : Token) (e : Node) : Read Node := do
  let t ← lookahead
  if t.kind = .punctuator && assignmentOperators.contains t.text then
    let c ← context
    unless c.isTarget do failHere .invalidAssignment
    if c.strict then
      if let some name := e.name? then
        if isRestricted name then failOn start .strictAssignment
        if isStrictReserved name then failOn start .strictReserved
    let left ←
      if t.text = "=" then pure e.toPattern
      else
        noPattern
        pure e
    skip
    let right ← isolated (sub .assignment)
    setContext fun c => { c with coverDefault := none }
    return .assignment t.text left right
  else return e

/-- A name after `async` on its line is the parameter of an arrow. -/
def asyncParameter (sub : Productions) (start : Token) (e : Node) : Read Node := do
  let t ← lookahead
  if start.isIdentifier "async" && start.line = t.line && (t.kind = .identifier || t.isKeyword "yield") then
    return .arrowHead true [(← primary sub).toPattern]
  else return e

def assignment (sub : Productions) : Read Node := do
  if !(← context).allowYield && (← isAtWord "yield") then yieldExpression sub
  else
    let start ← lookahead
    let e ← asyncParameter sub start (← conditional sub)
    let isHead := match e with
      | .arrowHead .. => true
      | _ => false
    if isHead || (← isAt "=>") then
      noPattern
      match arrowParams? e with
      | some (isAsync, params) => arrow sub isAsync (← checkArrowParams isAsync params)
      | none => return e
    else assigned sub start e

/-- Assignments with commas between them. -/
def expression (sub : Productions) : Read Node := do
  let e ← isolated (assignment sub)
  if ← isAt "," then
    let others ← manyUntil (do return (← atEnd) || !(← isAt ",")) do
      skip
      isolated (sub .assignment)
    return .sequence (e :: others)
  else return e

end ScriptGrader.Script.Reader
