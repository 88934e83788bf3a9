import ScriptGrader.Script.Reader.Expression

/-!
# Reading a script: statements

Every kind of statement, and what may stand where statements stand:
declarations, and in modules imports and exports.
-/

namespace ScriptGrader.Script.Reader

/-! ## Declarations -/

/-- A declared variable. Strict mode refuses some names. -/
def declaredPattern (sub : Productions) (declaration : String) : Read Node := do
  let (id, _) ← binding (pattern sub declaration)
  if (← context).strict && id.name?.any isRestricted then failHere .strictVariable
  return id

/-- A variable with the value that it gets, if any. A pattern needs a value. -/
def declarator (sub : Productions) (declaration : String) (inFor : Bool) : Read Node := do
  let id ← declaredPattern sub declaration
  let value : Read Node := do
    expect "="
    return .declarator id (some (← isolated (sub .assignment)))
  if declaration = "const" then
    if (← isAtWord "in") || (← isAtName "of") then return .declarator id none
    else if ← isAt "=" then value
    else fail .constInitializer
  else if (!inFor && !id.isIdentifier) || (← isAt "=") then value
  else return .declarator id none

def declarators (sub : Productions) (declaration : String) (inFor : Bool) : Read (List Node) := do
  let first ← declarator sub declaration inFor
  let others ← manyUntil (do return !(← isAt ",")) do
    skip
    declarator sub declaration inFor
  return first :: others

/-- A declaration of variables, from its word to its end. -/
def variableDeclaration (sub : Productions) : Read Node := do
  let t ← next
  let ds ← declarators sub t.text false
  semicolon
  return .variableDeclaration t.text ds

/-- Does `let` begin a declaration? -/
def isAtLetDeclaration : Read Bool := do
  let t ← peek
  return t.kind = .identifier || t.isPunctuator "[" || t.isPunctuator "\x7b" ||
    t.isKeyword "let" || t.isKeyword "yield"

/-! ## Simple statements -/

def expressionStatement (sub : Productions) : Read Node := do
  let e ← expression sub
  semicolon
  return .expressionStatement e

def block (sub : Productions) : Read Node := do
  expect "\x7b"
  let body ← manyUntil (isAt "\x7d") (sub .item)
  expect "\x7d"
  return .blockStatement body

/-- A test in parentheses. -/
def inParentheses (sub : Productions) : Read Node := do
  expect "("
  let e ← expression sub
  expect ")"
  return e

/-- A branch of a condition. In strict mode it is no function. -/
def branch (sub : Productions) : Read Node := do
  if (← context).strict && (← isAtWord "function") then failHere .strictFunction
  sub .statement

def ifStatement (sub : Productions) : Read Node := do
  expectWord "if"
  let test ← inParentheses sub
  let consequent ← branch sub
  if ← isAtWord "else" then
    skip
    return .ifStatement test consequent (some (← branch sub))
  else return .ifStatement test consequent none

/-- The body of a loop. -/
def loopBody (body : Read Node) : Read Node :=
  during (fun c => { c with inIteration := true })
    (fun before c => { c with inIteration := before.inIteration }) body

def doWhileStatement (sub : Productions) : Read Node := do
  expectWord "do"
  let body ← loopBody (sub .statement)
  expectWord "while"
  let test ← inParentheses sub
  if ← isAt ";" then skip
  return .doWhileStatement body test

def whileStatement (sub : Productions) : Read Node := do
  expectWord "while"
  let test ← inParentheses sub
  return .whileStatement test (← loopBody (sub .statement))

/-! ## Loops with a head -/

/-- What the head of a loop says. -/
inductive ForHead
  | steps (init test update : Option Node)
  | inside (left right : Node)
  | each (left right : Node)

/-- The word `in` is no operator at the front of a loop's head. -/
def withoutIn {α : Type} (p : Read α) : Read α :=
  during (fun c => { c with allowIn := false }) (fun before c => { c with allowIn := before.allowIn }) p

/-- The single variable of a loop's head, with its pattern and value. -/
def single? : List Node → Option (Node × Option Node)
  | [.declarator id value] => some (id, value)
  | _ => none

/-- What follows the declaration in a loop's head. -/
def forDeclared (sub : Productions) (kind : String) (ds : List Node)
    (inAllowed : Bool) (ended : Read Unit) : Read ForHead := do
  let left := Node.variableDeclaration kind ds
  let valueless := (single? ds).any (·.2.isNone)
  if inAllowed && (← isAtWord "in") then
    skip
    return .inside left (← expression sub)
  else if valueless && (← isAtName "of") then
    skip
    return .each left (← assignment sub)
  else
    ended
    return .steps (some left) none none

/-- The head of a loop up to its first semicolon, or all of it. -/
def forInit (sub : Productions) : Read ForHead := do
  let t ← lookahead
  if t.isPunctuator ";" then
    skip
    return .steps none none none
  else if t.isKeyword "var" then
    skip
    let ds ← withoutIn (declarators sub "var" true)
    if let some (id, some _) := single? ds then
      if (← isAtWord "in") && ((← context).strict || !id.isIdentifier) then failHere .forInInitializer
    forDeclared sub "var" ds (single? ds).isSome (expect ";")
  else if t.isKeyword "const" || t.isKeyword "let" then
    skip
    if !(← context).strict && (← lookahead).text = "in" then
      skip
      return .inside (.identifier t.text) (← expression sub)
    else
      let ds ← withoutIn (declarators sub t.text true)
      forDeclared sub t.text ds ((single? ds).any (·.2.isNone)) semicolon
  else
    let e ← withoutIn (inherited (assignment sub))
    let assignable (cause : Cause) : Read Unit := do
      let isAssignment := match e with
        | .assignment .. => true
        | _ => false
      if isAssignment || !(← context).isTarget then failHere cause
    if ← isAtWord "in" then
      assignable .invalidForIn
      skip
      return .inside e.toPattern (← expression sub)
    else if ← isAtName "of" then
      assignable .invalidForOf
      skip
      return .each e.toPattern (← assignment sub)
    else
      let others ← manyUntil (do return !(← isAt ",")) do
        skip
        isolated (assignment sub)
      expect ";"
      return .steps (some (if others.isEmpty then e else .sequence (e :: others))) none none

def forStatement (sub : Productions) : Read Node := do
  expectWord "for"
  expect "("
  let head ← match ← forInit sub with
    | .steps init _ _ =>
      let test ← if ← isAt ";" then pure none else pure (some (← expression sub))
      expect ";"
      let update ← if ← isAt ")" then pure none else pure (some (← expression sub))
      pure (ForHead.steps init test update)
    | head => pure head
  expect ")"
  let body ← loopBody (isolated (sub .statement))
  return match head with
    | .steps init test update => .forStatement init test update body
    | .inside left right => .forInStatement left right body
    | .each left right => .forOfStatement left right body

/-! ## Jumps -/

/-- The label of a jump: a name on the same line, which must be in scope. -/
def jumpLabel : Read (Option Node) := do
  if (← lookahead).kind = .identifier && !(← get).newline then
    let id ← variableName ""
    let name := id.name?.getD ""
    unless (← context).labels.contains name do fail (.unknownLabel name)
    return some id
  else return none

def continueStatement : Read Node := do
  expectWord "continue"
  let label ← jumpLabel
  semicolon
  if label.isNone && !(← context).inIteration then fail .illegalContinue
  return .continueStatement label

def breakStatement : Read Node := do
  expectWord "break"
  let label ← jumpLabel
  semicolon
  let c ← context
  if label.isNone && !c.inIteration && !c.inSwitch then fail .illegalBreak
  return .breakStatement label

/-- A return, with what is returned if it begins on the same line. A text
or template is returned from any line. -/
def returnStatement (sub : Productions) : Read Node := do
  unless (← context).inFunctionBody do failHere .illegalReturn
  expectWord "return"
  let t ← lookahead
  let here := !t.isPunctuator ";" && !t.isPunctuator "\x7d" && !(← get).newline && t.kind ≠ .endOfInput
  let isText := match t.kind with
    | .string _ | .template .. => true
    | _ => false
  let argument ← if here || isText then pure (some (← expression sub)) else pure none
  semicolon
  return .returnStatement argument

def throwStatement (sub : Productions) : Read Node := do
  expectWord "throw"
  if (← get).newline then fail .newlineAfterThrow
  let e ← expression sub
  semicolon
  return .throwStatement e

/-! ## Compound statements -/

def withStatement (sub : Productions) : Read Node := do
  if (← context).strict then failHere .strictWith
  expectWord "with"
  let object ← inParentheses sub
  return .withStatement object (← sub .statement)

/-- A case of a switch; the default case has no test. -/
def switchCase (sub : Productions) : Read (Option Node × List Node) := do
  let test ←
    if ← isAtWord "default" then
      skip
      pure none
    else
      expectWord "case"
      pure (some (← expression sub))
  expect ":"
  let body ← manyUntil
    (do return (← isAt "\x7d") || (← isAtWord "default") || (← isAtWord "case")) (sub .item)
  return (test, body)

def switchStatement (sub : Productions) : Read Node := do
  expectWord "switch"
  let discriminant ← inParentheses sub
  during (fun c => { c with inSwitch := true })
    (fun before c => { c with inSwitch := before.inSwitch }) do
    expect "\x7b"
    let (cases, _) ← repeating (fun (cases, hasDefault) => do
      if ← isAt "\x7d" then return none
      let (test, body) ← switchCase sub
      if test.isNone && hasDefault then fail .secondDefault
      return some (Node.switchCase test body :: cases, hasDefault || test.isNone))
      (([] : List Node), false)
    expect "\x7d"
    return .switchStatement discriminant cases.reverse

def catchClause (sub : Productions) : Read Node := do
  expectWord "catch"
  expect "("
  if ← isAt ")" then unexpected (← lookahead)
  let (param, names) ← binding (pattern sub "")
  let mut seen : List String := []
  for b in names do
    if seen.contains b.name then failHere (.duplicateBinding b.name)
    seen := b.name :: seen
  if (← context).strict && param.name?.any isRestricted then failHere .strictCatch
  expect ")"
  return .catchClause param (← block sub)

def tryStatement (sub : Productions) : Read Node := do
  expectWord "try"
  let body ← block sub
  let handler ← if ← isAtWord "catch" then pure (some (← catchClause sub)) else pure none
  let finalizer ←
    if ← isAtWord "finally" then
      skip
      pure (some (← block sub))
    else pure none
  if handler.isNone && finalizer.isNone then fail .noHandler
  return .tryStatement body handler finalizer

/-- What a label stands before: not a class, and a function only in sloppy mode. -/
def labelled (sub : Productions) : Read Node := do
  let t ← lookahead
  if t.isKeyword "class" then unexpected t
  else if t.isKeyword "function" then
    let f ← functionDeclaration sub false
    if (← context).strict then failOn t .strictFunction
    if isGenerator f then failOn t .generatorPlace
    return f
  else sub .statement

/-- A statement that begins with a name: it may be a label. -/
def labeledStatement (sub : Productions) : Read Node := do
  let e ← expression sub
  match e, ← isAt ":" with
  | .identifier name, true =>
    skip
    if (← context).labels.contains name then fail (.duplicateLabel name)
    let body ← during (fun c => { c with labels := name :: c.labels })
      (fun before c => { c with labels := before.labels }) (labelled sub)
    return .labeledStatement e body
  | _, _ =>
    semicolon
    return .expressionStatement e

def statement (sub : Productions) : Read Node := do
  let t ← lookahead
  match t.kind with
  | .endOfInput => unexpected t
  | .identifier =>
    if ← isAtAsyncFunction then functionDeclaration sub false else labeledStatement sub
  | .punctuator =>
    if t.text = "\x7b" then block sub
    else if t.text = ";" then
      skip
      return .emptyStatement
    else expressionStatement sub
  | .keyword =>
    match t.text with
    | "break" => breakStatement
    | "continue" => continueStatement
    | "debugger" =>
      skip
      semicolon
      return .debuggerStatement
    | "do" => doWhileStatement sub
    | "for" => forStatement sub
    | "function" => functionDeclaration sub false
    | "if" => ifStatement sub
    | "return" => returnStatement sub
    | "switch" => switchStatement sub
    | "throw" => throwStatement sub
    | "try" => tryStatement sub
    | "var" => variableDeclaration sub
    | "while" => whileStatement sub
    | "with" => withStatement sub
    | _ => expressionStatement sub
  | _ => expressionStatement sub

/-! ## Imports and exports -/

def moduleSource : Read Node := do
  let t ← lookahead
  unless t.isString do fail (.unexpected .construct)
  skip
  return .string t.text

/-- Something other than `from` stands after what is imported or exported. -/
def missingFrom {α : Type} : Read α := do
  let t ← lookahead
  if t.isTooLong then failOn t .tooManyDigits
  fail (.unexpected (if t.isBlank then .construct else .token t.text))

/-- The word `from` and the source after it. -/
def fromSource : Read Node := do
  unless ← isAtName "from" do missingFrom
  skip
  moduleSource

def importSpecifier : Read Node := do
  if (← lookahead).kind = .identifier then
    let imported ← variableName ""
    if ← isAtName "as" then
      skip
      return .specifier imported (some (← variableName ""))
    else return .specifier imported none
  else
    let imported ← wordName
    if ← isAtName "as" then
      skip
      return .specifier imported (some (← variableName ""))
    else unexpected (← next)

def namedImports : Read (List Node) := do
  expect "\x7b"
  separated "\x7d" importSpecifier

def namespaceImport : Read Node := do
  expect "*"
  unless ← isAtName "as" do fail (.unexpected .construct)
  skip
  return .specifier (.identifier "*") (some (← wordName))

/-- What is imported, up to `from`. -/
def imports : Read (List Node) := do
  let t ← lookahead
  if t.isPunctuator "\x7b" then namedImports
  else if t.isPunctuator "*" then return [← namespaceImport]
  else if t.isName && !t.isKeyword "default" then
    let first := Node.specifier (← wordName) none
    if ← isAt "," then
      skip
      if ← isAt "*" then return [first, ← namespaceImport]
      else if ← isAt "\x7b" then return first :: (← namedImports)
      else unexpected (← lookahead)
    else return [first]
  else unexpected (← next)

def importDeclaration : Read Node := do
  if (← context).inFunctionBody then fail (.unexpected .construct)
  expectWord "import"
  if (← lookahead).isString then
    let source ← moduleSource
    semicolon
    return .importDeclaration [] source
  else
    let specifiers ← imports
    let source ← fromSource
    semicolon
    return .importDeclaration specifiers source

/-- What stands after `export default`. -/
def exportDefault (sub : Productions) : Read Node := do
  if ← isAtWord "function" then return .exportDefault (← functionDeclaration sub true)
  else if ← isAtWord "class" then return .exportDefault (← classNode sub true true)
  else if ← isAtName "async" then
    return .exportDefault
      (← if ← isAtAsyncFunction then functionDeclaration sub true else assignment sub)
  else
    if ← isAtName "from" then fail (.unexpected (.token "from"))
    let e ←
      if ← isAt "\x7b" then object sub
      else if ← isAt "[" then arrayLiteral sub
      else assignment sub
    semicolon
    return .exportDefault e

def exportSpecifier : Read Node := do
  let name ← wordName
  if ← isAtName "as" then
    skip
    return .specifier name (some (← wordName))
  else return .specifier name none

/-- Names that are exported, and whether they need a source: `default` is no name here. -/
def exportNames : Read (List Node × Bool) := do
  expect "\x7b"
  let names ← separated "\x7d" do
    let isDefault ← isAtWord "default"
    return (← exportSpecifier, isDefault)
  return (names.map (·.1), names.any (·.2))

/-- An export of names, here or from a source. -/
def exportNamed : Read Node := do
  let alone ←
    if (← lookahead).kind = .identifier then pure [Node.specifier (← wordName) none] else pure []
  let comma ← if alone.isEmpty then pure true else isAt ","
  if comma && !alone.isEmpty then skip
  let (names, needsSource) ← if comma then exportNames else pure ([], false)
  let specifiers := alone ++ names
  if ← isAtName "from" then
    let source ← fromSource
    semicolon
    return .exportNamed none specifiers (some source)
  else if needsSource then missingFrom
  else
    semicolon
    return .exportNamed none specifiers none

def exportDeclaration (sub : Productions) : Read Node := do
  if (← context).inFunctionBody then fail (.unexpected .construct)
  expectWord "export"
  let t ← lookahead
  if t.isKeyword "default" then
    skip
    exportDefault sub
  else if t.isPunctuator "*" then
    skip
    let source ← fromSource
    semicolon
    return .exportAll source
  else if t.kind = .keyword then
    if t.text = "let" || t.text = "const" then return .exportNamed (some (← variableDeclaration sub)) [] none
    else if t.text = "var" || t.text = "class" || t.text = "function" then
      return .exportNamed (some (← sub .item)) [] none
    else unexpected t
  else if ← isAtAsyncFunction then
    return .exportNamed (some (← functionDeclaration sub false)) [] none
  else exportNamed

/-! ## Items -/

/-- A statement or a declaration. -/
def item (sub : Productions) : Read Node := do
  setContext fun c => { c with isTarget := true, isBinding := true }
  let t ← lookahead
  if t.kind = .keyword then
    match t.text with
    | "export" =>
      unless (← context).isModule do failOn t (.unexpected .construct)
      exportDeclaration sub
    | "import" =>
      if ← isAtImportCall then expressionStatement sub
      else
        unless (← context).isModule do failOn t (.unexpected .construct)
        importDeclaration
    | "const" => variableDeclaration sub
    | "function" => functionDeclaration sub false
    | "class" => classNode sub true false
    | "let" => if ← isAtLetDeclaration then variableDeclaration sub else statement sub
    | _ => statement sub
  else statement sub

end ScriptGrader.Script.Reader
