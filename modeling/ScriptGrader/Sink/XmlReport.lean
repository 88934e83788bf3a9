import ScriptGrader.Markup.Reading
import ScriptGrader.Report.Bundle
import ScriptGrader.Sink.Basic

/-!
# XML reports

A document with a case for each record. Every record reads the document,
adds its case at the end and writes the document again; where there is no
file yet, the document begins empty.
-/

namespace ScriptGrader

namespace Record

/-- The case of a record. -/
def case (r : Record) : Markup.Element :=
  .branch "case"
    [.leaf "test-case-type" r.category.name, .leaf "name" r.checkName, .leaf "status" r.status.name]

end Record

namespace XmlReport

/-- A document without cases. -/
def empty : Markup.Element := .branch "test-cases" []

/-- The bytes of a document. -/
def bytesOf (e : Markup.Element) : List UInt8 := Text.encode (String.ofList e.indent.document)

/-- The error of a report that cannot be looked at, read or opened. -/
def failure : FileError → SinkError
  | .fault f p => .xmlReport p f
  | .zero => .zeroInPath

/-- The error of a report that a document does not get into. -/
def writeFailure (p : Path) : WriteError → SinkError
  | .unopened e => failure e
  | .cut e => .xmlCut p e

/-- The document in a file. -/
def parse? (path : Path) (bytes : List UInt8) : Except SinkError Markup.Element :=
  (Markup.read? bytes).mapError fun
    | .malformed c place => .xmlDocument path c place
    | e => .encoding e

/-- The document at a path so far. -/
def current? (fs : Files) (path : Path) : Except SinkError Markup.Element := do
  if ← (fs.isFile? path).mapError failure then
    parse? path (← (fs.read? path).mapError failure)
  else return empty

/-- Add a record to the document at a path. -/
def add (path : Path) (r : Record) : SinkWork Unit := do
  let document ← Work.given (current? (← Work.files) path)
  Work.failingWith (writeFailure path) (Work.change fun fs => fs.write path (bytesOf (document.append r.case)))

/-- Add the records of a bundle, one after the other. -/
def write (path : Path) (b : Bundle) : SinkWork Unit := b.records.forM (add path)

end XmlReport
end ScriptGrader
