import ScriptGrader.Report.Bundle
import ScriptGrader.Sink.Basic
import ScriptGrader.Text.Utf8

/-!
# Text reports

One file for each category of checks. Every record adds a line to the file
of its category; a category without a file is passed over.
-/

namespace ScriptGrader

/-- The text reports of a run. -/
structure TextReport where
  paths : List (Category × Path)
  channel : Channel
  deriving Repr

namespace TextReport

/-- The line of a record. -/
def line (r : Record) : String :=
  let verdict := if r.passed then "PASS" else "FAIL"
  s!"{r.checkName}={verdict}\n"

/-- The error of a report that a line does not get into. -/
def failure (p : Path) : WriteError → SinkError
  | .unopened (.fault f q) => .textReport q f
  | .unopened .zero => .zeroInPath
  | .cut e => .textCut p e

/-- Add the line of a record to its report. -/
def writeRecord (t : TextReport) (r : Record) : SinkWork Unit :=
  match t.paths.lookup r.category with
  | none => Work.note [.debug t.channel s!"No report file for category '{r.category.name}'"]
  | some p => Work.failingWith (failure p) (Work.change fun fs => fs.append p (Text.encode (line r)))

/-- Add the lines of a bundle, one record after the other. -/
def write (t : TextReport) (b : Bundle) : SinkWork Unit := b.records.forM t.writeRecord

end TextReport
end ScriptGrader
