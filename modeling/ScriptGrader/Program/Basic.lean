/-!
# Programs

What grading looks at in a submission: the statements of its top level in
order, and of each function bound there its name, its parameters and the
statements that stand directly in its body.
-/

namespace ScriptGrader

/-- How a function was written. -/
inductive FunctionStyle
  | declaration
  | expression
  | arrow
  deriving DecidableEq, Repr

namespace FunctionStyle

def name : FunctionStyle → String
  | declaration => "declaration"
  | expression => "expression"
  | arrow => "arrow"

def ofName? (s : String) : Option FunctionStyle :=
  [declaration, expression, arrow].find? (·.name = s)

end FunctionStyle

/-- A parameter of a function; a pattern has no name. -/
inductive Parameter
  | plain (name : Option String)
  | defaulted (name : Option String)
  | rest (name : Option String)
  deriving DecidableEq, Repr

/-- Does the parameter have a default value? -/
def Parameter.isDefaulted : Parameter → Bool
  | .defaulted _ => true
  | _ => false

/-- A statement directly in a function's body. -/
inductive BodyStatement
  | return
  | other (kind : String)
  deriving DecidableEq, Repr

/-- A function bound at the top level. The body of an arrow without a
block is empty. -/
structure Function where
  name : Option String
  params : List Parameter
  body : List BodyStatement
  style : FunctionStyle
  deriving DecidableEq, Repr

/-- A statement of the top level: a function that it binds, or its kind. -/
inductive Declaration
  | function (f : Function)
  | other (kind : String)
  deriving DecidableEq, Repr

/-- The top level of a submission. -/
structure Program where
  declarations : List Declaration
  deriving DecidableEq, Repr

namespace Program

/-- The functions bound at the top level, in order. -/
def functions (p : Program) : List Function :=
  p.declarations.filterMap fun
    | .function f => some f
    | .other _ => none

end Program
end ScriptGrader
