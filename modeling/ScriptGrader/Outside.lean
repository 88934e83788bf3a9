import ScriptGrader.Files.Basic
import ScriptGrader.Log
import ScriptGrader.Web.Exchange

/-!
# What a run meets outside

A run reads and writes files, takes notes, and talks to a server whose
answers are given in advance. All this is a value that a run passes on, and
what was done to it stays done when the run fails.
-/

namespace ScriptGrader

/-- Files, notes and a server. -/
structure Outside where
  files : Files
  /-- The notes taken so far, the first one first. -/
  log : List LogLine
  /-- The requests sent so far, the first one first. -/
  sent : List Web.Request
  /-- The answers to the next requests. -/
  answers : List Web.Answer

/-- A piece of a run: it changes what is outside and yields a result, or
fails with an error of a kind. -/
abbrev Work (ε : Type) := ExceptT ε (StateM Outside)

namespace Work

/-- What a piece of a run yields, and what is outside after it. -/
def on {ε α : Type} (o : Outside) (w : Work ε α) : Except ε α × Outside := w.run o

variable {ε : Type}

/-- What is known without looking outside. -/
def given {α : Type} (r : Except ε α) : Work ε α := ExceptT.mk (pure r)

/-- A piece of a run whose errors are told as errors of another kind. -/
def failingWith {δ α : Type} (f : δ → ε) (w : Work δ α) : Work ε α := w.adapt f

/-- Take notes. -/
def note (lines : List LogLine) : Work ε Unit :=
  modify fun o => { o with log := o.log ++ lines }

def files : Work ε Files := return (← get).files

/-- Do something to the files. What was done to them stays done if it fails. -/
def change (f : Files → Except ε Unit × Files) : Work ε Unit := do
  let o ← get
  set { o with files := (f o.files).2 }
  Work.given (f o.files).1

/-- Send a request and wait for its answer. -/
def send (r : Web.Request) : Work ε Web.Answer := do
  let o ← get
  set { o with sent := o.sent ++ [r], answers := o.answers.tail }
  return o.answers.headD .standard

end Work
end ScriptGrader
