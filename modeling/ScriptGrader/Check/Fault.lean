import ScriptGrader.Text.Quoted
import ScriptGrader.Value.Literal

/-!
# Faults

An error of a check has a kind and a text, and both follow from what the
error was raised with: errors of the system are shown by their number and
the files they concern, errors of a syntax by their place, and errors of a
text's encoding by the characters. Arguments that do not fit the kind make
an error of their own.

The text is made when it is asked for, and that may fail too: an integer may
have too many digits to be written, and an error of a class of its own may do
anything. So an error need not have a text.
-/

namespace ScriptGrader

/-- An error of a check: its kind, and what comes of asking for its text. -/
inductive Fault
  | told (kind text : String)
  /-- Asking for the text is an error itself. -/
  | untold (kind : String) (telling : Fault)
  deriving DecidableEq, Repr

namespace Fault

def kind : Fault → String
  | told kind _ | untold kind _ => kind

/-- The text of an error; one that cannot be told has none. -/
def text : Fault → String
  | told _ text => text
  | untold _ _ => ""

/-- An error whose text shows values. An integer with too many digits cannot be shown. -/
def showing (kind : String) (shown : List Value) (text : String) : Fault :=
  if shown.all Value.isWritable then told kind text
  else untold kind (told "ValueError" Layout.tooManyDigits)

def wrongType (text : String) : Fault := told "TypeError" text

/-- An error that shows its arguments. -/
def plain (kind : String) (arguments : List Value) : Fault :=
  showing kind arguments <|
    match arguments with
    | [] => ""
    | [v] => v.plain
    | vs => (Value.tuple vs).literal

/-- What a value is called where a text is expected. -/
def kindText : Value → String
  | .null => "None"
  | v => v.fullKind

def notInteger (v : Value) : Fault :=
  wrongType s!"'{v.fullKind}' object cannot be interpreted as an integer"

/-- A value as an index; `tooLarge` is the fault of an integer beyond 64 bits. -/
def index? (tooLarge : Fault) (v : Value) : Except Fault Int :=
  match v.integer? with
  | none => .error (notInteger v)
  | some n => if -0x8000000000000000 ≤ n ∧ n < 0x8000000000000000 then .ok n else .error tooLarge

/-! ## Errors of the system -/

/-- The kinds that the system gives to errors with a number. -/
def systemKinds : List (Int × String) := [
  (1, "PermissionError"), (2, "FileNotFoundError"), (3, "ProcessLookupError"), (4, "InterruptedError"),
  (10, "ChildProcessError"), (11, "BlockingIOError"), (13, "PermissionError"), (17, "FileExistsError"),
  (20, "NotADirectoryError"), (21, "IsADirectoryError"), (32, "BrokenPipeError"),
  (103, "ConnectionAbortedError"), (104, "ConnectionResetError"), (108, "BrokenPipeError"),
  (110, "TimeoutError"), (111, "ConnectionRefusedError"), (114, "BlockingIOError"), (115, "BlockingIOError")]

/-- The kind of an error of the system whose number is a value. -/
def systemKind (number : Value) : String := (number.integer?.bind fun code => systemKinds.lookup code).getD "OSError"

/-- The names of the general kind of errors of the system. -/
def generalKinds : List String := ["OSError", "IOError", "EnvironmentError"]

/-- Is this a kind of errors of the system? -/
def isSystemKind (kind : String) : Bool :=
  kind = "ConnectionError" || systemKinds.any (·.2 = kind)

/-- An error of the system with a number, a text and what follows them: a
file, a number that counts nothing here, and another file. Where writing
would block, a number in place of the file says how much was written. -/
def withFiles (kind : String) (number text : Value) (rest : List Value) : Fault :=
  let head := s!"[Errno {number.plain}] {text.plain}"
  let unnamed := showing kind [number, text] head
  match rest with
  | [] | .null :: _ => unnamed
  | file :: rest =>
    let other? := match rest with
      | [_, .null] => none
      | [_, other] => some other
      | _ => none
    let other := (other?.map fun v => s!" -> {v.literal}").getD ""
    let isNumber := match file with
      | .int _ | .bool _ | .float _ => true
      | _ => false
    if kind = "BlockingIOError" && isNumber then
      match index? (told "ValueError" s!"cannot fit '{file.fullKind}' into an index-sized integer") file with
      | .ok _ => unnamed
      | .error f => f
    else showing kind ([number, text, file] ++ other?.toList) s!"{head}: {file.literal}{other}"

/-- An error of the system. The general kind becomes a special one by the error's number. -/
def ofSystem (kind : String) (arguments : List Value) : Fault :=
  let isGeneral := generalKinds.contains kind
  let kind := if isGeneral then "OSError" else kind
  match arguments with
  | number :: text :: rest =>
    if 3 < rest.length then plain kind arguments
    else withFiles (if isGeneral then systemKind number else kind) number text rest
  | _ => plain kind arguments

/-! ## Errors of a syntax -/

/-- What follows the last slash of a path. -/
def baseName (path : String) : String :=
  String.ofList (path.toList.reverse.takeWhile (· ≠ '/')).reverse

/-- The place of an error: a file and a line, as far as they are given. -/
def placeText (file line : Value) : String :=
  let line? := match line with
    | .int n => some (if -0x8000000000000000 ≤ n ∧ n < 0x8000000000000000 then n else -1)
    | _ => none
  match file, line? with
  | .text f, some n => s!" ({baseName f}, line {Layout.int n})"
  | .text f, none => s!" ({baseName f})"
  | _, some n => s!" (line {Layout.int n})"
  | _, none => ""

/-- An error of a syntax: a text and its place, which has a file, a line, a
column and the line's text, and may have where the wrong part ends. -/
def ofSyntax (kind : String) : List Value → Fault
  | [] => told kind "None"
  | [message, place] =>
    match place.items? with
    | none => wrongType s!"'{place.fullKind}' object is not iterable"
    | some items =>
      match items with
      | file :: line :: _ :: _ :: rest =>
        match rest.length with
        | 0 | 2 => showing kind [message] (message.plain ++ placeText file line)
        | 1 => wrongType "end_offset must be provided when end_lineno is provided"
        | n => wrongType s!"function takes at most 6 arguments ({4 + n} given)"
      | items => wrongType s!"function takes at least 4 arguments ({items.length} given)"
  | message :: _ => showing kind [message] message.plain

/-! ## Errors of an encoding -/

/-- A text that an argument has to be. -/
def text? (place : Nat) : Value → Except Fault String
  | .text s => .ok s
  | v => .error (wrongType s!"argument {place} must be str, not {kindText v}")

def tooLargeIndex : Fault := told "OverflowError" "Python int too large to convert to C ssize_t"

/-- The characters of a text that are wrong. -/
def characters (text : String) (start stop : Int) : String :=
  match if stop = start + 1 then text.toList[start.toNat]? else none with
  | some c => s!"character '{Text.codeText c}' in position {Layout.int start}"
  | none => s!"characters in position {Layout.int start}-{Layout.int (stop - 1)}"

/-- An error about characters of a text. A single character is looked up, which
fails before the beginning of the text; the error then names an address in
memory that is left out here. -/
def aboutCharacters (kind head : String) (text : String) (start stop : Int) (reason : String) : Fault :=
  if start < 0 ∧ stop = start + 1 then
    untold kind (told "SystemError"
      s!"<built-in method __format__ of {kind} object> returned a result with an exception set")
  else told kind s!"{head} {characters text start stop}: {reason}"

def wrongCount (expected given : Nat) : Fault :=
  wrongType s!"function takes exactly {expected} arguments ({given} given)"

/-- An error of encoding a text, of decoding bytes, or of translating a text. -/
def ofEncoding (kind : String) (arguments : List Value) : Except Fault Fault := do
  match kind, arguments with
  | "UnicodeTranslateError", [text, start, stop, reason] =>
    let t ← text? 1 text
    let a ← index? tooLargeIndex start
    let b ← index? tooLargeIndex stop
    return aboutCharacters kind "can't translate" t a b (← text? 4 reason)
  | "UnicodeTranslateError", vs => throw (wrongCount 4 vs.length)
  | "UnicodeEncodeError", [encoding, text, start, stop, reason] =>
    let e ← text? 1 encoding
    let t ← text? 2 text
    let a ← index? tooLargeIndex start
    let b ← index? tooLargeIndex stop
    return aboutCharacters kind s!"'{e}' codec can't encode" t a b (← text? 5 reason)
  | _, [encoding, bytes, start, stop, reason] =>
    let _ ← text? 1 encoding
    let _ ← index? tooLargeIndex start
    let _ ← index? tooLargeIndex stop
    let _ ← text? 5 reason
    throw (wrongType s!"a bytes-like object is required, not '{bytes.fullKind}'")
  | _, vs => throw (wrongCount 5 vs.length)

/-! ## All errors -/

/-- An error of a kind with given arguments. A missing key is shown in literal form. -/
def ofArguments (kind : String) (arguments : List Value) : Fault :=
  if generalKinds.contains kind || isSystemKind kind then ofSystem kind arguments
  else if ["SyntaxError", "IndentationError", "TabError"].contains kind then ofSyntax kind arguments
  else if ["UnicodeEncodeError", "UnicodeDecodeError", "UnicodeTranslateError"].contains kind then
    match ofEncoding kind arguments with
    | .ok f | .error f => f
  else
    match kind, arguments with
    | "KeyError", [v] => showing kind [v] v.literal
    | _, vs => plain kind vs

end Fault
end ScriptGrader
