import ScriptGrader.Script.Reader.Statement

/-!
# Reading a script

`Script.read?` gives the items of a script's top level, or the first error.
Every production asks for others only after it took a token, up to a fixed
number of questions, so the length of the script bounds how deep they nest.
-/

namespace ScriptGrader.Script

/-- The two kinds of script. A module is strict and may import and export. -/
inductive SourceType
  | script
  | module
  deriving DecidableEq, Repr

namespace SourceType

def ofName? (s : String) : Option SourceType :=
  if s = "script" then some .script else if s = "module" then some .module else none

end SourceType

namespace Reader

/-- What a goal asks for, given a reader for the goals inside it. -/
def step (sub : Productions) : Productions
  | .assignment => assignment sub
  | .expression => expression sub
  | .unary => unary sub
  | .exponent => exponent sub
  | .newCallee => newCallee sub
  | .callee => callee sub
  | .statement => statement sub
  | .item => item sub
  | .pattern declaration => pattern sub declaration

/-- The reader of all goals, down to a depth. -/
def productions : Nat → Productions
  | 0, _ => throw ⟨none, .tooDeep⟩
  | n + 1, goal => step (productions n) goal

/-- The state before the first token. -/
def start (source : String) : State :=
  let cursor := Cursor.start source
  { cursor := cursor, lookahead := ⟨.endOfInput, "", cursor.line, ""⟩, lookaheadAt := cursor
    newline := false, lastLine := cursor.line, context := .initial, bound := [] }

/-- A whole script. The first token is looked at before the mode is known. -/
def program (type : SourceType) (depth : Nat) : Read (List Node) := do
  skip
  if type = .module then
    modify fun s =>
      { s with
        cursor := { s.cursor with inModule := true }
        context := { s.context with strict := true, isModule := true } }
  let sub := productions depth
  let first ← directives sub
  let items ← manyUntil atEnd (sub .item)
  return first ++ items

end Reader

/-- The items of a script's top level. -/
def read? (type : SourceType) (source : String) : Except Error (List Node) :=
  (Reader.program type (8 * source.length + 32)).run' (Reader.start source)

end ScriptGrader.Script
