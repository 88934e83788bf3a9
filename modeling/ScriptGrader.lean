import ScriptGrader.Check.Scripted
import ScriptGrader.Main
import ScriptGrader.Proofs.Grading.Record
import ScriptGrader.Proofs.Grading.Bundle
import ScriptGrader.Proofs.Number.Overflow
import ScriptGrader.Proofs.Number.Decimal
import ScriptGrader.Proofs.Number.Rounding
import ScriptGrader.Proofs.Number.Shortest
import ScriptGrader.Proofs.Number.ReadBack
import ScriptGrader.Proofs.Report.Total
import ScriptGrader.Proofs.Report.JsonRoundTrip
import ScriptGrader.Proofs.Grading.Total
import ScriptGrader.Proofs.Grading.Verdict
import ScriptGrader.Proofs.Grading.Answer
import ScriptGrader.Proofs.Grading.Points
import ScriptGrader.Proofs.Program.Binding
import ScriptGrader.Proofs.Markup.Content
import ScriptGrader.Proofs.Markup.Element
import ScriptGrader.Proofs.Markup.Indent
import ScriptGrader.Proofs.Markup.Reading
import ScriptGrader.Proofs.Markup.NamedEncoding
import ScriptGrader.Proofs.Files.Cleaning
import ScriptGrader.Proofs.Sink.TextLines
import ScriptGrader.Proofs.Rubric.Items
import ScriptGrader.Proofs.Rubric.Spelling
import ScriptGrader.Proofs.Sink.XmlText
import ScriptGrader.Proofs.Sink.XmlReport
import ScriptGrader.Proofs.Sink.XmlReadBack
import ScriptGrader.Proofs.Sink.XmlFailure
import ScriptGrader.Proofs.Files.Path
import ScriptGrader.Proofs.Grader.Setup
import ScriptGrader.Proofs.Sink.Publisher
import ScriptGrader.Proofs.Grader.Growth
import ScriptGrader.Proofs.Grader.Stages
import ScriptGrader.Proofs.Files.Agree
import ScriptGrader.Proofs.Files.Removal
import ScriptGrader.Proofs.Files.Differ
import ScriptGrader.Proofs.Outside.Frame
import ScriptGrader.Proofs.Outside.TwoRuns
import ScriptGrader.Proofs.Markup.Refusal
import ScriptGrader.Proofs.Markup.CutOff
import ScriptGrader.Proofs.Sink.Effect
import ScriptGrader.Proofs.Sink.Failure
import ScriptGrader.Proofs.Sink.Delivery
import ScriptGrader.Proofs.Sink.Interruption
import ScriptGrader.Proofs.Grader.Course
import ScriptGrader.Proofs.Grader.Outputs
import ScriptGrader.Proofs.Grader.Isolation
import ScriptGrader.Proofs.Grader.Metadata
import ScriptGrader.Proofs.Grader.Stale
import ScriptGrader.Proofs.Grader.Inputs
import ScriptGrader.Proofs.Grader.SetupFailure
import ScriptGrader.Proofs.Grader.Failure
import ScriptGrader.Proofs.CommandLine.Status
