import ScriptGrader.Log
import ScriptGrader.Program.Basic
import ScriptGrader.Script.Reader

/-!
# From a script to a program

A program keeps of a script's tree only the functions bound at its top
level: function declarations, variables whose value is a function or an
arrow, and what is exported of these. Every other item is kept as its kind.
-/

namespace ScriptGrader

open Script (Node SourceType)

namespace Parameter

def ofNode : Node → Parameter
  | .defaulted left _ => .defaulted left.name?
  | .rest argument => .rest argument.name?
  | n => .plain n.name?

end Parameter

namespace BodyStatement

def ofNode : Node → BodyStatement
  | .returnStatement _ => .return
  | n => .other n.kind

end BodyStatement

namespace Function

def styleOf : Script.FunctionForm → FunctionStyle
  | .declaration => .declaration
  | .expression => .expression
  | .arrow => .arrow

/-- The statements of a body that is a block; other bodies have none. -/
def statements : Node → List BodyStatement
  | .blockStatement body => body.map BodyStatement.ofNode
  | _ => []

def ofParts (name : Option String) (form : Script.FunctionForm) (params : List Node) (body : Node) :
    Function :=
  ⟨name, params.map Parameter.ofNode, statements body, styleOf form⟩

end Function

namespace Declaration

/-- The function that a variable is bound to, named by the variable. -/
def ofDeclarator? : Node → Option Function
  | .declarator id (some (.function form _ _ _ params body)) =>
    if form = .declaration then none else some (.ofParts id.name? form params body)
  | _ => none

/-- The functions that an item binds. An export binds also a function that
is an expression, under the function's own name. -/
def functionsOf : Node → List Function
  | .function .declaration _ _ name params body =>
    [.ofParts (name.bind Node.name?) .declaration params body]
  | .variableDeclaration _ ds => ds.filterMap ofDeclarator?
  | .exportNamed (some (.function form _ _ name params body)) _ _ =>
    [.ofParts (name.bind Node.name?) form params body]
  | .exportDefault (.function form _ _ name params body) =>
    [.ofParts (name.bind Node.name?) form params body]
  | .exportNamed (some d) _ _ => functionsOf d
  | .exportDefault d => functionsOf d
  | _ => []

/-- What an item contributes: its functions, or its kind if it binds none. -/
def ofNode (n : Node) : List Declaration :=
  match functionsOf n with
  | [] => [.other n.kind]
  | fs => fs.map .function

end Declaration

namespace Program

/-- The program of a script's top level. -/
def ofNodes (items : List Node) : Program := ⟨items.flatMap Declaration.ofNode⟩

/-- The note taken when a submission was read. -/
def readLog (p : Program) : LogLine :=
  .debug .script
    s!"Parsed {p.declarations.length} top-level declarations, {p.functions.length} functions"

/-- Why a submission is no program. -/
inductive ReadError
  | sourceType (name : String)
  | script (e : Script.Error)
  deriving Repr

namespace ReadError

def message : ReadError → String
  | sourceType name => s!"Unknown source type: {name}"
  | script e => s!"Could not parse submission: {e.message}"

end ReadError

/-- The program that a submission is. -/
def read? (type : SourceType) (source : String) : Except Script.Error Program :=
  (Script.read? type source).map ofNodes

end Program
end ScriptGrader
