import ScriptGrader.Check.Basic

/-!
# The catalog of checks

The checks that a configuration can name, in rubric order. Each one asks
whether some function of the top level has a property, and looks no
deeper than its parameters and the statements directly in its body.
-/

namespace ScriptGrader.Catalog

/-- A question about programs: how the check is called, which functions
satisfy it, and what to tell the learner when none does. -/
structure Question where
  family : String
  name : String
  /-- The note taken before looking. -/
  note : String
  /-- The note taken on the first function that satisfies it. -/
  found : Function → List String
  holds : Function → Bool
  advice : String
  advice_ne : advice ≠ "" := by decide

def functionName (f : Function) : String :=
  match f.name with
  | some n => Text.quoted n
  | none => "None"

/-- Is a function defined at all? -/
def functionDefinition : Question where
  family := "FunctionDefinedCheck"
  name := "FunctionDefinition"
  note := "Checking function definition"
  found f := [s!"Found function {functionName f} ({f.style.name})"]
  holds _ := true
  advice := "You must define a function correctly."

/-- Does a function have a parameter? -/
def functionArguments : Question where
  family := "FunctionArgumentsUsedCheck"
  name := "FunctionArgumentsUsage"
  note := "Checking function arguments usage"
  found _ := []
  holds f := !f.params.isEmpty
  advice := "You must use function arguments inside your function."

/-- Does a function have a parameter with a default value? -/
def defaultArguments : Question where
  family := "DefaultArgumentsUsedCheck"
  name := "DefaultArgumentsUsage"
  note := "Checking default arguments usage"
  found _ := []
  holds f := f.params.any Parameter.isDefaulted
  advice := "You must use default arguments in your function."

/-- Does a return stand directly in a function's body? -/
def returnStatement : Question where
  family := "ReturnStatementUsedCheck"
  name := "ReturnStatementUsage"
  note := "Checking return statement usage"
  found _ := []
  holds f := f.body.contains .return
  advice := "You must use the return statement inside your function."

def questions : List Question :=
  [functionDefinition, functionArguments, defaultArguments, returnStatement]

namespace Question

/-- The outcome of asking a program. -/
def outcome (q : Question) (p : Program) : Outcome :=
  if p.functions.any q.holds then .success
  else ⟨.bool false, [q.advice], rfl, by simpa using q.advice_ne.symm⟩

/-- Ask a program: all functions of the top level are looked at. -/
def ask (q : Question) (p : Program) : Evaluated :=
  let seen := match p.functions.find? q.holds with
    | some f => q.found f
    | none => []
  ⟨q.note :: seen, .outcome (q.outcome p)⟩

/-- The question as a check. -/
def check (q : Question) : Check := ⟨q.family, .text q.name, .ok .functional, q.ask⟩

end Question

/-- The catalog check of a name. -/
def find? (name : String) : Option Question := questions.find? (·.name = name)

end ScriptGrader.Catalog
