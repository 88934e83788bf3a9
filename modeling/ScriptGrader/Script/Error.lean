import ScriptGrader.Number.Layout

/-!
# Errors of a script

Why a script is no program. Every cause is reported with the line on which
it was noticed, unless there is none to tell.
-/

namespace ScriptGrader.Script

/-- What stands where it may not. -/
inductive Unexpected
  | illegal
  | endOfInput
  | identifier
  | number
  | string
  | quasi (raw : String)
  | reserved
  /-- A construct that is not allowed at its place. -/
  | construct
  | token (text : String)
  deriving DecidableEq, Repr

/-- The causes for which a script is refused. -/
inductive Cause
  | unexpected (what : Unexpected)
  | unterminatedRegex
  | invalidRegex
  | escapedKeyword
  | hexEscape
  | templateOctal
  | strictOctal
  | strictReserved
  | strictDirective
  | strictAssignment
  | strictPrefix
  | strictPostfix
  | strictDelete
  | strictWith
  | strictFunction
  | strictFunctionName
  | strictParameter
  | strictVariable
  | strictCatch
  | duplicateParameter
  | restNotLast
  | generatorPlace
  | getterArity
  | setterArity
  | setterRest
  | duplicateProto
  | duplicateConstructor
  | constructorAccessor
  | constructorAsync
  | staticPrototype
  | invalidAssignment
  | invalidForIn
  | invalidForOf
  | forInInitializer
  | constInitializer
  | letName
  | duplicateBinding (name : String)
  | illegalBreak
  | illegalContinue
  | illegalReturn
  | unknownLabel (name : String)
  | duplicateLabel (name : String)
  | newlineAfterThrow
  | noHandler
  | secondDefault
  /-- The end of a template stands where one should begin. -/
  | templateHead
  /-- A number that is to be told has too many digits. -/
  | tooManyDigits
  /-- The reader gave up; its step count covers every script. -/
  | tooDeep
  deriving DecidableEq, Repr

namespace Unexpected

def text : Unexpected → String
  | illegal => "Unexpected token ILLEGAL"
  | endOfInput => "Unexpected end of input"
  | identifier => "Unexpected identifier"
  | number => "Unexpected number"
  | string => "Unexpected string"
  | quasi raw => s!"Unexpected quasi {raw}"
  | reserved => "Unexpected reserved word"
  | construct => "Unexpected token"
  | token t => s!"Unexpected token {t}"

end Unexpected

namespace Cause

def text : Cause → String
  | unexpected what => what.text
  | unterminatedRegex => "Invalid regular expression: missing /"
  | invalidRegex => "Invalid regular expression"
  | escapedKeyword => "Keyword must not contain escaped characters"
  | hexEscape => "Invalid hexadecimal escape sequence"
  | templateOctal => "Octal literals are not allowed in template strings."
  | strictOctal => "Octal literals are not allowed in strict mode."
  | strictReserved => "Use of future reserved word in strict mode"
  | strictDirective => "Illegal 'use strict' directive in function with non-simple parameter list"
  | strictAssignment => "Assignment to eval or arguments is not allowed in strict mode"
  | strictPrefix => "Prefix increment/decrement may not have eval or arguments operand in strict mode"
  | strictPostfix => "Postfix increment/decrement may not have eval or arguments operand in strict mode"
  | strictDelete => "Delete of an unqualified identifier in strict mode."
  | strictWith => "Strict mode code may not include a with statement"
  | strictFunction =>
    "In strict mode code, functions can only be declared at top level or inside a block"
  | strictFunctionName => "Function name may not be eval or arguments in strict mode"
  | strictParameter => "Parameter name eval or arguments is not allowed in strict mode"
  | strictVariable => "Variable name may not be eval or arguments in strict mode"
  | strictCatch => "Catch variable may not be eval or arguments in strict mode"
  | duplicateParameter => "Strict mode function may not have duplicate parameter names"
  | restNotLast => "Rest parameter must be last formal parameter"
  | generatorPlace => "Generator declarations are not allowed in legacy contexts"
  | getterArity => "Getter must not have any formal parameters"
  | setterArity => "Setter must have exactly one formal parameter"
  | setterRest => "Setter function argument must not be a rest parameter"
  | duplicateProto => "Duplicate __proto__ fields are not allowed in object literals"
  | duplicateConstructor => "A class may only have one constructor"
  | constructorAccessor => "Class constructor may not be an accessor"
  | constructorAsync => "Class constructor may not be an async method"
  | staticPrototype => "Classes may not have static property named prototype"
  | invalidAssignment => "Invalid left-hand side in assignment"
  | invalidForIn => "Invalid left-hand side in for-in"
  | invalidForOf => "Invalid left-hand side in for-loop"
  | forInInitializer => "for-in loop variable declaration may not have an initializer"
  | constInitializer => "Missing initializer in const declaration"
  | letName => "let is disallowed as a lexically bound name"
  | duplicateBinding name => s!"Duplicate binding {name}"
  | illegalBreak => "Illegal break statement"
  | illegalContinue => "Illegal continue statement"
  | illegalReturn => "Illegal return statement"
  | unknownLabel name => s!"Undefined label '{name}'"
  | duplicateLabel name => s!"Label '{name}' has already been declared"
  | newlineAfterThrow => "Illegal newline after throw"
  | noHandler => "Missing catch or finally after try"
  | secondDefault => "More than one default clause in switch statement"
  | templateHead => "Template literal must start with a template head"
  | tooManyDigits => Layout.tooManyDigits
  | tooDeep => "The script is nested too deeply"

end Cause

/-- A cause, with the line on which it was noticed. -/
structure Error where
  line : Option Nat
  cause : Cause
  deriving DecidableEq, Repr

namespace Error

def onLine (line : Nat) (cause : Cause) : Error := ⟨some line, cause⟩

def message (e : Error) : String :=
  match e.line with
  | some n => s!"Line {n}: {e.cause.text}"
  | none => e.cause.text

end Error
end ScriptGrader.Script
