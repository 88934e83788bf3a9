import ScriptGrader.CommandLine.Switch

/-!
# Usage

What the program tells about its command line: in short with every error,
and at length when it is asked for help.
-/

namespace ScriptGrader.CommandLine

def programName : String := "astgrader"

/-- The command line in short. -/
def usage : String :=
  s!"usage: {programName} [-h] [--config CONFIG] [--debug] [--id ID]\n" ++
    "                 [--submission SUBMISSION]\n"

namespace Switch

/-- What a switch does, in lines that fit beside the spellings. -/
def summary : Switch → List String
  | help => ["show this help message and exit"]
  | configuration =>
    ["Path to configuration file (YAML format). The built-in", "rubric is used when omitted."]
  | debug => ["Enable debug logging"]
  | id => ["Assignment identifier used to key the results"]
  | submission => ["Path to the submission source file"]

/-- The spellings of a switch, each with the name of its value. -/
def invocation (s : Switch) : String :=
  let value := (s.valueName?.map (" " ++ ·)).getD ""
  ", ".intercalate (s.spellings.map (· ++ value))

/-- Where the second column begins. -/
def summaryColumn : Nat := 24

def blanks (n : Nat) : String := String.ofList (List.replicate n ' ')

/-- The lines about a switch. Spellings that reach into the second column
have a line of their own. -/
def lines (s : Switch) : List String :=
  let head := "  " ++ s.invocation
  if head.length + 2 ≤ summaryColumn then
    match s.summary with
    | [] => [head]
    | first :: rest =>
      (head ++ blanks (summaryColumn - head.length) ++ first) :: rest.map (blanks summaryColumn ++ ·)
  else head :: s.summary.map (blanks summaryColumn ++ ·)

end Switch

/-- The command line at length. -/
def help : String :=
  usage ++ "\nStatic JavaScript Grader\n\noptions:\n" ++
    String.join ((Switch.all.flatMap Switch.lines).map (· ++ "\n"))

/-- What is told about a command line that is wrong. -/
def UsageError.text (e : UsageError) : String :=
  usage ++ s!"{programName}: error: {e.message}\n"

end ScriptGrader.CommandLine
