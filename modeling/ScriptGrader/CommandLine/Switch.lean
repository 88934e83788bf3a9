import ScriptGrader.Number.Digit
import ScriptGrader.Text.Quoted

/-!
# Switches

A word of the command line is a switch, with or without something attached
to it, or it stands for itself. A long spelling may be cut short as long as
only one switch begins so. After two hyphens on their own every word stands
for itself.
-/

namespace ScriptGrader.CommandLine

/-- What can be switched or set from the command line. -/
inductive Switch
  | help
  | configuration
  | debug
  | id
  | submission
  deriving DecidableEq, Repr

namespace Switch

/-- All switches, in the order in which they are told. -/
def all : List Switch := [help, configuration, debug, id, submission]

def spellings : Switch → List String
  | help => ["-h", "--help"]
  | configuration => ["--config", "-c"]
  | debug => ["--debug", "-d"]
  | id => ["--id", "-i"]
  | submission => ["--submission", "-s"]

/-- What the value of a switch is called, if it takes one. -/
def valueName? : Switch → Option String
  | help | debug => none
  | configuration => some "CONFIG"
  | id => some "ID"
  | submission => some "SUBMISSION"

def takesValue (s : Switch) : Bool := s.valueName?.isSome

def title (s : Switch) : String := "/".intercalate s.spellings

/-- Every spelling with its switch. -/
def table : List (String × Switch) := all.flatMap fun s => s.spellings.map (·, s)

/-- The switch of a spelling in full. -/
def ofSpelling? (spelling : String) : Option Switch := table.lookup spelling

/-- The spellings that begin in a way. -/
def startingWith (start : List Char) : List (String × Switch) :=
  table.filter fun (spelling, _) => start.isPrefixOf spelling.toList

end Switch

/-- What is wrong with a command line. -/
inductive UsageError
  /-- A switch takes a value, and there is none. -/
  | missing (s : Switch)
  /-- A switch takes no value, and there is one. -/
  | ignored (s : Switch) (value : String)
  | ambiguous (word : String) (spellings : List String)
  | unrecognized (words : List String)
  deriving DecidableEq, Repr

namespace UsageError

def message : UsageError → String
  | missing s => s!"argument {s.title}: expected one argument"
  | ignored s v => s!"argument {s.title}: ignored explicit argument {Text.quoted v}"
  | ambiguous w spellings =>
    let list := ", ".intercalate spellings
    s!"ambiguous option: {w} could match {list}"
  | unrecognized words =>
    let list := " ".intercalate words
    s!"unrecognized arguments: {list}"

end UsageError

/-- How a word is read. -/
inductive Word
  /-- A word that stands for itself. -/
  | plain
  /-- Two hyphens. -/
  | mark
  /-- A switch, and what stands behind it in the same word. -/
  | switch (s : Switch) (isLong : Bool) (attached : Option (List Char))
  /-- A word that looks like a switch and is none. -/
  | unknown
  deriving DecidableEq, Repr

namespace Word

/-- The text before the first equals sign, and what is attached by it. -/
def cut (cs : List Char) : List Char × Option (List Char) :=
  match cs.dropWhile (· ≠ '=') with
  | _ :: value => (cs.takeWhile (· ≠ '='), some value)
  | [] => (cs, none)

/-- Is the text a number? It may have digits, a point and a line end behind them. -/
def isNumber (cs : List Char) : Bool :=
  let body := if cs.getLast? = some '\n' then cs.dropLast else cs
  match body.dropWhile Numeral.isDigit with
  | [] => !body.isEmpty
  | '.' :: fraction => !fraction.isEmpty && fraction.all Numeral.isDigit
  | _ => false

/-- A word that begins with a hyphen and spells no switch: behind it stands `rest`. -/
def readLoose (rest : List Char) : Word :=
  if rest.isEmpty || isNumber rest || rest.contains ' ' then .plain else .unknown

/-- A word that begins with two hyphens: a switch may be cut short. -/
def readLong (word : String) (rest : List Char) : Except UsageError Word :=
  let (start, attached) := cut word.toList
  match Switch.startingWith start with
  | [] => .ok (readLoose rest)
  | [(_, s)] => .ok (.switch s true attached)
  | candidates => .error (.ambiguous word (candidates.map (·.1)))

/-- A word that begins with one hyphen: anything may stand behind a switch. -/
def readShort (rest : List Char) : Word :=
  match rest with
  | [] => .plain
  | c :: text =>
    match Switch.ofSpelling? (String.ofList ['-', c]) with
    | some s => .switch s false (some text)
    | none => readLoose rest

/-- How a word is read that no mark stands before. -/
def read? (word : String) : Except UsageError Word :=
  match word.toList with
  | '-' :: rest =>
    let isLong := rest.head? = some '-'
    let (name, attached) := cut word.toList
    match Switch.ofSpelling? (String.ofList name) with
    | some s => .ok (.switch s isLong attached)
    | none => if isLong then readLong word rest else .ok (readShort rest)
  | _ => .ok .plain

/-- How the words of a command line are read. -/
def readAll? : List String → Except UsageError (List (String × Word))
  | [] => .ok []
  | w :: ws =>
    if w = "--" then .ok ((w, .mark) :: ws.map (·, .plain))
    else do return (w, ← read? w) :: (← readAll? ws)

end Word
end ScriptGrader.CommandLine
