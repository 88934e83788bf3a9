import ScriptGrader.CommandLine.Switch
import ScriptGrader.Grader.Setup

/-!
# Arguments

What a command line asks for. Switches count from left to right, so the
last value of one holds, and the switch that asks for help ends the reading.
What is neither a switch nor a value of one is told when all is read.
-/

namespace ScriptGrader.CommandLine

/-- What is asked for. -/
structure Arguments where
  options : Grader.Options
  isDebug : Bool
  deriving Repr

namespace Arguments

def nothing : Arguments := ⟨⟨"", "", ""⟩, false⟩

/-- A switch without a value. -/
def raise (a : Arguments) : Switch → Arguments
  | .debug => { a with isDebug := true }
  | _ => a

/-- A switch with its value. -/
def give (a : Arguments) (value : String) : Switch → Arguments
  | .configuration => { a with options.configuration := value }
  | .submission => { a with options.submission := value }
  | .id => { a with options.id := value }
  | _ => a

end Arguments

/-- How a word with switches ends. -/
inductive Ending
  | complete
  | value (s : Switch) (text : String)
  /-- The value of the last switch is the next word. -/
  | awaits (s : Switch)
  deriving DecidableEq, Repr

/-- The switches without a value in one word, and how it ends. -/
abbrev Cluster := List Switch × Ending

namespace Cluster

/-- A switch with nothing behind it. -/
def single (s : Switch) : Cluster := if s.takesValue then ([], .awaits s) else ([s], .complete)

/--
A switch with a text behind it: its value, or more switches as letters. A text that
begins with no such letter is told in full.
-/
def ofText? (s : Switch) (isLong : Bool) (text : List Char) : Except UsageError Cluster :=
  if s.takesValue then .ok ([], .value s (String.ofList text))
  else
    match text with
    | [] => .error (.ignored s "")
    | c :: rest =>
      match if isLong then none else Switch.ofSpelling? (String.ofList ['-', c]) with
      | none => .error (.ignored s (String.ofList (c :: rest)))
      | some t =>
        let more := if rest.isEmpty then .ok (single t) else ofText? t false rest
        more.map fun (ss, e) => (s :: ss, e)

def ofAttached? (s : Switch) (isLong : Bool) : Option (List Char) → Except UsageError Cluster
  | none => .ok (single s)
  | some text => ofText? s isLong text

end Cluster

/-- What a command line comes down to. -/
inductive Order
  | help
  | run (a : Arguments)
  deriving Repr

namespace Order

/-- Read words on: `a` is asked for so far, and `extra` is left over. -/
def ofWords? (a : Arguments) (extra : List String) : List (String × Word) → Except UsageError Order
  | [] => if extra.isEmpty then .ok (.run a) else .error (.unrecognized extra)
  | (_, .switch s isLong attached) :: rest => do
    let (switches, ending) ← Cluster.ofAttached? s isLong attached
    let a' := switches.foldl Arguments.raise a
    let asksHelp := switches.contains .help
    match ending, rest with
    | .awaits t, (v, .plain) :: rest =>
      if asksHelp then return .help else ofWords? (a'.give v t) extra rest
    | .awaits t, _ => throw (.missing t)
    | .value t v, rest => if asksHelp then return .help else ofWords? (a'.give v t) extra rest
    | .complete, rest => if asksHelp then return .help else ofWords? a' extra rest
  | (w, _) :: rest => ofWords? a (extra ++ [w]) rest

/-- What a command line asks for. -/
def ofCommandLine? (words : List String) : Except UsageError Order := do
  ofWords? Arguments.nothing [] (← Word.readAll? words)

end Order
end ScriptGrader.CommandLine
