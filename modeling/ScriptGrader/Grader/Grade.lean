import ScriptGrader.Files.Cleaning
import ScriptGrader.Grader.Basic
import ScriptGrader.Grading.Basic
import ScriptGrader.Program.Reading

/-!
# Grading a submission

Reports of an earlier run are taken away, the submission is read and
graded, and the bundle goes to every sink. A sink that fails for a reason
that lies outside keeps neither the others nor the result back. The data
that is passed on may be missing; a submission may not.
-/

namespace ScriptGrader

/-- Why a submission is no program. -/
inductive SubmissionError
  | unreadable (path : Path) (fault : FileFault)
  | undecodable (path : Path) (e : Text.Utf8Error)
  | script (e : Script.Error)
  deriving Repr

namespace SubmissionError

def message : SubmissionError → String
  | unreadable p f => s!"Error reading submission {p.text}: {(FileError.fault f p).message}"
  | undecodable p e => s!"Error reading submission {p.text}: {e.message}"
  | script e => (Program.ReadError.script e).message

end SubmissionError

/-- Why a submission is not graded. -/
inductive GradeError
  /-- A report of an earlier run cannot be taken away. -/
  | report (fault : FileFault) (path : Path)
  | submission (e : SubmissionError)
  /-- The data that is passed on is not text. -/
  | customData (e : Text.Utf8Error)
  /-- A path with a character zero in it. -/
  | zeroInPath
  | grading (e : GradingError)
  /-- A sink fails for a reason that does not lie outside. -/
  | sink (e : SinkError)
  deriving Repr

namespace GradeError

def message : GradeError → String
  | report f p => (FileError.fault f p).message
  | submission e => e.message
  | customData e => e.message
  | zeroInPath => FileError.zero.message
  | grading e => e.message
  | sink e => e.message

end GradeError

namespace Grader

/-! ## What is read -/

def submissionLine (p : Path) : LogLine := .info .grader s!"Read submission from {p.text}"

/-- The text of the submission. -/
def submissionText (g : Grader) (fs : Files) : Except GradeError String :=
  match fs.read? g.submission with
  | .error .zero => .error .zeroInPath
  | .error (.fault f p) => .error (.submission (.unreadable p f))
  | .ok bytes => (Text.decodeFile bytes).mapError fun e => .submission (.undecodable g.submission e)

/-- The submission as a program. -/
def readSubmission (g : Grader) : Work GradeError Program := do
  let source ← Work.given (g.submissionText (← Work.files))
  Work.note [submissionLine g.submission]
  let program ← Work.given ((Program.read? g.sourceType source).mapError fun e => .submission (.script e))
  Work.note [program.readLog]
  return program

def noDataLine (p : Path) (f : FileFault) : LogLine :=
  .warning .grader s!"Error reading custom data file {p.text}: {(FileError.fault f p).message}"

/-- The data that is passed on with the results; what cannot be read is none. -/
def readCustomData (g : Grader) : Work GradeError String := do
  match g.customData with
  | none => return ""
  | some path =>
    match (← Work.files).read? path with
    | .error .zero => throw .zeroInPath
    | .error (.fault f p) =>
      Work.note [noDataLine p f]
      return ""
    | .ok bytes => Work.given ((Text.decodeFile bytes).mapError .customData)

/-! ## Handing over -/

def handedLine (s : Sink) : LogLine := .debug .grader s!"Results handed to {s.name}"

def failedLine (s : Sink) (e : SinkError) : LogLine := .error .grader s!"{s.name} failed: {e.message}"

/-- Hand a bundle to a sink; its failure is noted if the reason lies outside. -/
def handOver (b : Bundle) (s : Sink) : SinkWork Unit :=
  tryCatch (do s.write b; Work.note [handedLine s]) fun e =>
    if e.isExternal then Work.note [failedLine s e] else throw e

/-! ## Grading -/

def startLine : LogLine := .info .grader "Starting grading process"

def scoreLine (total max : String) : LogLine := .info .grader s!"Total score: {total}/{max}"

/-- What is noted about a bundle that was handed over. -/
def resultLog (b : Bundle) : Except ScoreError (List LogLine) := do
  let total ← (← b.totalScore).text?
  let max ← (← b.maxScore).text?
  return scoreLine total max ::
    (if b.accepted then [] else [.warning .grader "Submission failed at least one mandatory check"])

def cleaningError : FileError → GradeError
  | .zero => .zeroInPath
  | .fault f p => .report f p

/-- The bundle of a program. -/
def gradeProgram (g : Grader) (p : Program) (metadata : String) : Work GradeError Bundle := do
  let base ← Work.given ((Grading.base? (.text g.id)).mapError .grading)
  let (log, b) := Grading.run base p g.rubric metadata
  Work.note log
  Work.given (b.mapError .grading)

/-- **Grade the submission** and hand the results over. -/
def grade (g : Grader) : Work GradeError Bundle := do
  Work.note [startLine]
  let _ ← Work.failingWith cleaningError (clean .grader g.reportPaths)
  let program ← g.readSubmission
  let metadata ← g.readCustomData
  let b ← g.gradeProgram program metadata
  Work.failingWith .sink (g.sinks.forM (handOver b))
  Work.note (← Work.given ((resultLog b).mapError fun e => .grading (.score e)))
  return b

end Grader
end ScriptGrader
