import ScriptGrader.CommandLine.Arguments
import ScriptGrader.CommandLine.Usage
import ScriptGrader.Grader.Grade

/-!
# A run of the program

A run sets a grader up, grades once, and ends with a status: zero when there
is a result, whatever it is, and one when the configuration, the submission,
a report of an earlier run or a current directory that is gone stands in the
way. Every other error passes through.
-/

namespace ScriptGrader.CommandLine

def version : String := "0.1.0"

/-- Why a run comes to no result. -/
inductive RunError
  | setup (e : SetupError)
  | grade (e : GradeError)
  deriving Repr

namespace RunError

def message : RunError → String
  | setup e => e.message
  | grade e => e.message

/-- The note about an error of the system. -/
def systemLine (message : String) : LogLine := .error .grader s!"Failed to prepare report files: {message}"

/-- The note about an error that a run is prepared for. Every error of the
system is taken for one of the reports. -/
def line? : RunError → Option LogLine
  | setup (.configuration e) => some (.error .grader s!"Invalid configuration: {e.message}")
  | setup (.noDirectory e) => some (systemLine e.message)
  | grade (.submission e) => some (.error .grader e.message)
  | grade (.report f p) => some (systemLine (FileError.fault f p).message)
  | _ => none

end RunError

namespace Arguments

/-- The least level of the lines that are shown. -/
def level (a : Arguments) : Level := if a.isDebug then .debug else .info

def levelLine (a : Arguments) : LogLine :=
  .debug .grader s!"Logging configured at level: {a.level.rank}"

end Arguments

def welcomeLine : LogLine := .info .grader s!"{programName} v{version}"

/-- Set a grader up and grade. -/
def gradeOnce (cwd : Configuration.CurrentDirectory) (connection : Connection) (a : Arguments) :
    Work RunError Bundle := do
  let g ← Work.failingWith .setup (Grader.setUp cwd a.options connection)
  Work.failingWith .grade g.grade

/-- The status that an error ends a run with, if the run is prepared for it. -/
def recover (e : RunError) : Work RunError Nat :=
  match e.line? with
  | some line => do
    Work.note [line]
    return 1
  | none => throw e

/-- **A run** in a directory, up to its status. -/
def run (cwd : Configuration.CurrentDirectory) (connection : Connection) (a : Arguments) : Work RunError Nat := do
  Work.note [a.levelLine, welcomeLine]
  tryCatch (do
    let _ ← gradeOnce cwd connection a
    return 0) recover

end ScriptGrader.CommandLine
