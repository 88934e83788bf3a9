import ScriptGrader.Check.Fault
import ScriptGrader.Check.Outcome
import ScriptGrader.Program.Basic
import ScriptGrader.Report.Record

/-!
# Checks

A check looks at a program and answers. It should answer with an outcome,
but nothing forces it to: it may fail with an error of its own, answer
with some other value, or answer with an outcome that was never tested.
Grading has to cope with all of these.
-/

namespace ScriptGrader

/-- What comes out of running a check. -/
inductive Evaluation
  | outcome (o : Outcome)
  /-- An outcome whose parts were never compared. -/
  | unchecked (passed : Value) (feedback : List Value)
  /-- Something that is no outcome. -/
  | other (v : Value)
  | raised (f : Fault)

/-- A run of a check: the notes it takes, and what comes out. -/
structure Evaluated where
  notes : List String
  result : Evaluation

/-- A check as a rubric may be given it; its name and category have still
to be looked at. -/
structure Check where
  /-- The family of checks that it belongs to. -/
  family : String
  name : Value
  /-- A category, or what stands in its place. -/
  category : Except Value Category
  evaluate : Program → Evaluated

namespace Check

/-- The literal form of a check. It names the category, so there is none if
something else stands in its place. -/
def literal? (c : Check) : Except Value String :=
  c.category.map fun k => s!"{c.family}(name={c.name.literal}, category={Text.quoted k.name})"

end Check
end ScriptGrader
