/-!
# The syntax tree of a script

One type for expressions, patterns, statements and the items of a module.
They share a type because the same text is first read as an expression and
then, when an arrow or an assignment follows, seen to have been a pattern:
`Node.toPattern` is that second look.
-/

namespace ScriptGrader.Script

/-- How a function is written down. -/
inductive FunctionForm
  | declaration
  | expression
  | arrow
  deriving DecidableEq, Repr

/-- What a member of a class or of an object is. -/
inductive MemberKind
  | value
  | method
  | getter
  | setter
  | constructor
  deriving DecidableEq, Repr

/-- A part of a script. -/
inductive Node
  -- Expressions
  | identifier (name : String)
  | string (value : String)
  /-- A number, a truth value, nothing, or a regular expression. -/
  | literal (text : String)
  | template (quasis : List String) (expressions : List Node)
  | tagged (tag quasi : Node)
  | this
  | super
  | importCall
  | array (elements : List (Option Node))
  | object (properties : List Node)
  | property (kind : MemberKind) (computed : Bool) (key value : Node)
  | spread (argument : Node)
  | function (form : FunctionForm) (isAsync isGenerator : Bool) (name : Option Node) (params : List Node)
      (body : Node)
  | classNode (isDeclaration : Bool) (name parent : Option Node) (members : List Node)
  | member (isStatic computed : Bool) (kind : MemberKind) (key value : Node)
  | access (computed : Bool) (object property : Node)
  | metaProperty (name property : Node)
  | call (callee : Node) (arguments : List Node)
  | newCall (callee : Node) (arguments : List Node)
  | update (isPrefixed : Bool) (operator : String) (argument : Node)
  | unary (operator : String) (argument : Node)
  | await (argument : Node)
  | yield (delegate : Bool) (argument : Option Node)
  /-- Operands with the operators between them, in the order of the text. -/
  | binary (first : Node) (others : List (String × Node))
  | conditional (test consequent alternate : Node)
  | assignment (operator : String) (left right : Node)
  | sequence (expressions : List Node)
  /-- Parameters in parentheses, before it is known that an arrow follows. -/
  | arrowHead (isAsync : Bool) (params : List Node)
  -- Patterns
  | arrayPattern (elements : List (Option Node))
  | objectPattern (properties : List Node)
  | defaulted (left right : Node)
  | rest (argument : Node)
  -- Statements
  | expressionStatement (expression : Node)
  | blockStatement (body : List Node)
  | emptyStatement
  | variableDeclaration (kind : String) (declarators : List Node)
  | declarator (id : Node) (init : Option Node)
  | ifStatement (test consequent : Node) (alternate : Option Node)
  | forStatement (init test update : Option Node) (body : Node)
  | forInStatement (left right body : Node)
  | forOfStatement (left right body : Node)
  | whileStatement (test body : Node)
  | doWhileStatement (body test : Node)
  | continueStatement (label : Option Node)
  | breakStatement (label : Option Node)
  | returnStatement (argument : Option Node)
  | throwStatement (argument : Node)
  | tryStatement (block : Node) (handler finalizer : Option Node)
  | catchClause (param body : Node)
  | switchStatement (discriminant : Node) (cases : List Node)
  | switchCase (test : Option Node) (body : List Node)
  | labeledStatement (label body : Node)
  | withStatement (object body : Node)
  | debuggerStatement
  -- Items of modules
  | importDeclaration (specifiers : List Node) (source : Node)
  | exportNamed (declaration : Option Node) (specifiers : List Node) (source : Option Node)
  | exportDefault (declaration : Node)
  | exportAll (source : Node)
  | specifier (name : Node) (renamed : Option Node)
  deriving Inhabited

namespace Node

/-- The name of a node's kind. -/
def kind : Node → String
  | identifier _ => "Identifier"
  | string _ | literal _ => "Literal"
  | template .. => "TemplateLiteral"
  | tagged .. => "TaggedTemplateExpression"
  | this => "ThisExpression"
  | super => "Super"
  | importCall => "Import"
  | array _ => "ArrayExpression"
  | object _ => "ObjectExpression"
  | property .. => "Property"
  | spread _ => "SpreadElement"
  | function .declaration .. => "FunctionDeclaration"
  | function .expression .. => "FunctionExpression"
  | function .arrow .. => "ArrowFunctionExpression"
  | classNode true .. => "ClassDeclaration"
  | classNode false .. => "ClassExpression"
  | member .. => "MethodDefinition"
  | access .. => "MemberExpression"
  | metaProperty .. => "MetaProperty"
  | call .. => "CallExpression"
  | newCall .. => "NewExpression"
  | update .. => "UpdateExpression"
  | unary .. => "UnaryExpression"
  | await _ => "AwaitExpression"
  | yield .. => "YieldExpression"
  | binary .. => "BinaryExpression"
  | conditional .. => "ConditionalExpression"
  | assignment .. => "AssignmentExpression"
  | sequence _ => "SequenceExpression"
  | arrowHead .. => "ArrowParameterPlaceHolder"
  | arrayPattern _ => "ArrayPattern"
  | objectPattern _ => "ObjectPattern"
  | defaulted .. => "AssignmentPattern"
  | rest _ => "RestElement"
  | expressionStatement _ => "ExpressionStatement"
  | blockStatement _ => "BlockStatement"
  | emptyStatement => "EmptyStatement"
  | variableDeclaration .. => "VariableDeclaration"
  | declarator .. => "VariableDeclarator"
  | ifStatement .. => "IfStatement"
  | forStatement .. => "ForStatement"
  | forInStatement .. => "ForInStatement"
  | forOfStatement .. => "ForOfStatement"
  | whileStatement .. => "WhileStatement"
  | doWhileStatement .. => "DoWhileStatement"
  | continueStatement _ => "ContinueStatement"
  | breakStatement _ => "BreakStatement"
  | returnStatement _ => "ReturnStatement"
  | throwStatement _ => "ThrowStatement"
  | tryStatement .. => "TryStatement"
  | catchClause .. => "CatchClause"
  | switchStatement .. => "SwitchStatement"
  | switchCase .. => "SwitchCase"
  | labeledStatement .. => "LabeledStatement"
  | withStatement .. => "WithStatement"
  | debuggerStatement => "DebuggerStatement"
  | importDeclaration .. => "ImportDeclaration"
  | exportNamed .. => "ExportNamedDeclaration"
  | exportDefault _ => "ExportDefaultDeclaration"
  | exportAll _ => "ExportAllDeclaration"
  | specifier .. => "ModuleSpecifier"

/-- The name of an identifier. -/
def name? : Node → Option String
  | identifier s => some s
  | _ => none

def isIdentifier (n : Node) : Bool := n.name?.isSome

/-- Is the node a name or a text that says the given key? -/
def isKey (n : Node) (key : String) : Bool :=
  match n with
  | identifier s | string s => s = key
  | _ => false

mutual

/-- The pattern that an expression turns out to have been. -/
def toPattern : Node → Node
  | spread a => rest (toPattern a)
  | array es => arrayPattern (toElements es)
  | object ps => objectPattern (toProperties ps)
  | assignment _ left right => defaulted (toPattern left) right
  | n => n

def toElements : List (Option Node) → List (Option Node)
  | [] => []
  | none :: es => none :: toElements es
  | some e :: es => some (toPattern e) :: toElements es

def toProperties : List Node → List Node
  | [] => []
  | property k c key value :: ps => property k c key (toPattern value) :: toProperties ps
  | p :: ps => toPattern p :: toProperties ps

end

mutual

/-- The names that a pattern of parameters binds, in the order of the text. -/
def boundNames : Node → List String
  | identifier s => [s]
  | rest a => boundNames a
  | defaulted left _ => boundNames left
  | arrayPattern es => elementNames es
  | objectPattern ps => propertyNames ps
  | _ => []

def elementNames : List (Option Node) → List String
  | [] => []
  | none :: es => elementNames es
  | some e :: es => boundNames e ++ elementNames es

def propertyNames : List Node → List String
  | [] => []
  | property _ _ _ value :: ps => boundNames value ++ propertyNames ps
  | p :: ps => boundNames p ++ propertyNames ps

end

end Node
end ScriptGrader.Script
