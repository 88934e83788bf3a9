/-!
# Log lines

What a run reports while it works. A line has a level, the channel it was
written to and a text; which levels are shown is up to the reader.
-/

namespace ScriptGrader

/-- How much a log line matters. -/
inductive Level
  | debug
  | info
  | warning
  | error
  deriving DecidableEq, Repr

namespace Level

def name : Level → String
  | debug => "DEBUG"
  | info => "INFO"
  | warning => "WARNING"
  | error => "ERROR"

/-- The rank of a level among the others. -/
def rank : Level → Nat
  | debug => 10
  | info => 20
  | warning => 30
  | error => 40

end Level

/-- Which part of the program writes a line. -/
inductive Channel
  | grader
  | engine
  | registry
  | script
  | sinks
  | checks
  deriving DecidableEq, Repr

namespace Channel

def name : Channel → String
  | grader => "astgrader"
  | engine => "astgrader.engine"
  | registry => "astgrader.registry"
  | script => "astgrader.syntax_tree"
  | sinks => "astgrader.sinks"
  | checks => "astgrader.base_check"

end Channel

/-- A line of the log. -/
structure LogLine where
  level : Level
  channel : Channel
  message : String
  deriving DecidableEq, Repr

namespace LogLine

def debug (c : Channel) (message : String) : LogLine := ⟨.debug, c, message⟩
def info (c : Channel) (message : String) : LogLine := ⟨.info, c, message⟩
def warning (c : Channel) (message : String) : LogLine := ⟨.warning, c, message⟩
def error (c : Channel) (message : String) : LogLine := ⟨.error, c, message⟩

/-- Is the line shown from a given level on? -/
def isShown (least : Level) (l : LogLine) : Bool := least.rank ≤ l.level.rank

end LogLine
end ScriptGrader
