import ScriptGrader.Check.Basic

/-!
# Scripted checks

Checks whose behaviour is written down instead of programmed: they answer
always the same, fail always the same, or count functions. They serve to
show what grading makes of checks that misbehave.
-/

namespace ScriptGrader

/-- What a scripted check does. -/
inductive ScriptedAct
  | succeed
  | fail (messages : List Value)
  | raise (kind : String) (arguments : List Value)
  | answer (v : Value)
  | outcome (passed feedback : Value)
  | unchecked (passed : Value) (feedback : List Value)
  | hasFunctions (atLeast : Int)

namespace Fault

/-- An outcome that is refused, as an error of the check that asked for it.
A message that cannot be written cannot be complained about either. -/
def ofOutcomeError (e : OutcomeError) : Fault :=
  match e with
  | .notIterable _ => wrongType e.message
  | .badMessage v => told "ValueError" (if v.isWritable then e.message else Layout.tooManyDigits)
  | _ => told "ValueError" e.message

end Fault

namespace ScriptedAct

def ofOutcome : Except OutcomeError Outcome → Evaluation
  | .ok o => .outcome o
  | .error e => .raised (.ofOutcomeError e)

/-- What comes out of the act on a program. -/
def run (a : ScriptedAct) (p : Program) : Evaluation :=
  match a with
  | succeed => .outcome .success
  | fail messages => ofOutcome (Outcome.make? (.bool false) messages)
  | raise kind arguments => .raised (.ofArguments kind arguments)
  | answer v => .other v
  | outcome passed feedback => ofOutcome (Outcome.ofValue? passed feedback)
  | unchecked passed feedback => .unchecked passed feedback
  | hasFunctions n =>
    let count := p.functions.length
    if n ≤ count then .outcome .success
    else ofOutcome (Outcome.make? (.bool false) [.text s!"found {count}"])

end ScriptedAct

/-- A check that does what it was told. -/
def Check.scripted (name : Value) (category : Except Value Category) (act : ScriptedAct) : Check :=
  ⟨"ScriptedCheck", name, category, fun p => ⟨[], act.run p⟩⟩

end ScriptGrader
