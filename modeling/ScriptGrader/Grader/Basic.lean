import ScriptGrader.Rubric.Basic
import ScriptGrader.Script.Reader
import ScriptGrader.Sink.Publisher
import ScriptGrader.Sink.TextReport
import ScriptGrader.Sink.XmlReport

/-!
# Graders

A grader is what a configuration comes down to: where the submission is
and what kind of script it is, the rubric, and the sinks that results go to.
Everything in it is settled before the first submission is read.
-/

namespace ScriptGrader

/-- What a report holds: the lines of a category, or a document of all cases. -/
inductive ReportKind
  | text (c : Category)
  | xml
  deriving DecidableEq, Repr

namespace ReportKind

def name : ReportKind → String
  | text c => c.name
  | xml => "xml"

def all : List ReportKind := [text .functional, text .boundary, text .exception, xml]

def ofName? (s : String) : Option ReportKind := all.find? (·.name = s)

/-- The category whose lines a report holds. -/
def category? : ReportKind → Option Category
  | text c => some c
  | xml => none

end ReportKind

/-- Where results go. -/
inductive Sink
  | text (report : TextReport)
  | xml (path : Path)
  | publisher (p : Publisher)
  deriving Repr

namespace Sink

def name : Sink → String
  | text _ => "TextReportWriter"
  | xml _ => "XmlReportWriter"
  | publisher _ => "ResultPublisher"

/-- Hand a bundle to a sink. -/
def write (b : Bundle) : Sink → SinkWork Unit
  | text t => t.write b
  | xml p => XmlReport.write p b
  | publisher p => p.write b

end Sink

/-- What is needed to grade a submission, over and over. -/
structure Grader where
  /-- The base of the keys of results. -/
  id : String
  submission : Path
  sourceType : Script.SourceType
  /-- Where the data is that is passed on with the results. -/
  customData : Option Path
  rubric : Rubric
  reports : List (ReportKind × Path)
  publisher : Option Publisher

namespace Grader

def reportPaths (g : Grader) : List Path := g.reports.map (·.2)

/-- The reports of single categories. -/
def textPaths (g : Grader) : List (Category × Path) :=
  g.reports.filterMap fun (k, p) => k.category?.map fun c => (c, p)

def textReport? (g : Grader) : Option TextReport :=
  if g.textPaths.isEmpty then none else some ⟨g.textPaths, .grader⟩

/-- The sinks in the order in which results go to them. -/
def sinks (g : Grader) : List Sink :=
  g.textReport?.toList.map .text ++ (g.reports.lookup .xml).toList.map .xml ++
    g.publisher.toList.map .publisher

/-- The grader after its connection was closed. -/
def close (g : Grader) : Grader := { g with publisher := g.publisher.map Publisher.close }

end Grader
end ScriptGrader
