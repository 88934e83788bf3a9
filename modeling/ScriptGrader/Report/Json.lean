import ScriptGrader.Value.Literal

/-!
# JSON text

What reports and requests are made of, and how it is written: compact or
over several lines with an indentation, with characters beyond ASCII as
they are or escaped, with or without doubles that are not finite.
-/

namespace ScriptGrader

/-- A JSON value. The fields of an object keep their order. -/
inductive Json
  | null
  | bool (b : Bool)
  | int (n : Int)
  | float (x : Binary64)
  | text (s : String)
  | array (items : List Json)
  | object (fields : List (String × Json))
  deriving Repr, Inhabited

namespace Json

/-- How JSON is laid out. -/
structure Style where
  /-- What stands after a comma when all is on one line. -/
  comma : String
  /-- What stands after a field's name. -/
  colon : String
  /-- One level of indentation, when every item has a line of its own. -/
  indent : Option String
  /-- Are characters beyond ASCII escaped? -/
  ascii : Bool
  deriving Repr

namespace Style

/-- The text of a report. -/
def report (indent : Option String) : Style := ⟨", ", ": ", indent, true⟩

/-- The body of a request. -/
def body : Style := ⟨",", ":", none, false⟩

/-- What stands between two items at a depth. -/
def separator (s : Style) (depth : Nat) : String :=
  match s.indent with
  | none => s.comma
  | some unit => ",\n" ++ String.join (List.replicate depth unit)

/-- What stands before the first item or after the last one. -/
def newline (s : Style) (depth : Nat) : String :=
  match s.indent with
  | none => ""
  | some unit => "\n" ++ String.join (List.replicate depth unit)

end Style

/-- A code unit as a backslash, a `u` and four digits. -/
def unitEscape (n : Nat) : List Char := '\\' :: 'u' :: Text.hex 4 n

/-- One character between quotes. -/
def escapeChar (ascii : Bool) (c : Char) : List Char :=
  let n := c.toNat
  if c = '"' then ['\\', '"']
  else if c = '\\' then ['\\', '\\']
  else if c = '\n' then ['\\', 'n']
  else if c = '\r' then ['\\', 'r']
  else if c = '\t' then ['\\', 't']
  else if n = 8 then ['\\', 'b']
  else if n = 12 then ['\\', 'f']
  else if n < 0x20 then unitEscape n
  else if ascii && 0x7f ≤ n then
    if n < 0x10000 then unitEscape n
    else
      let m := n - 0x10000
      unitEscape (0xd800 + m / 0x400) ++ unitEscape (0xdc00 + m % 0x400)
  else [c]

/-- A text between quotes. -/
def quoted (ascii : Bool) (s : String) : String :=
  String.ofList (['"'] ++ s.toList.flatMap (escapeChar ascii) ++ ['"'])

mutual

/-- The JSON text of a value at a depth. -/
def render (s : Style) (depth : Nat) : Json → String
  | null => "null"
  | bool b => if b then "true" else "false"
  | int n => Layout.int n
  | float x => Layout.json.binary64 x
  | text t => quoted s.ascii t
  | array [] => "[]"
  | array xs =>
    "[" ++ s.newline (depth + 1) ++ (s.separator (depth + 1)).intercalate (renderItems s (depth + 1) xs)
      ++ s.newline depth ++ "]"
  | object [] => "\x7b\x7d"
  | object fs =>
    "\x7b" ++ s.newline (depth + 1) ++
      (s.separator (depth + 1)).intercalate (renderFields s (depth + 1) fs) ++ s.newline depth ++ "\x7d"

def renderItems (s : Style) (depth : Nat) : List Json → List String
  | [] => []
  | x :: xs => render s depth x :: renderItems s depth xs

def renderFields (s : Style) (depth : Nat) : List (String × Json) → List String
  | [] => []
  | (k, v) :: fs => (quoted s.ascii k ++ s.colon ++ render s depth v) :: renderFields s depth fs

end

mutual

/-- Are all doubles finite? -/
def isFinite : Json → Bool
  | float x => x.isFinite
  | array xs => allFinite xs
  | object fs => fieldsFinite fs
  | _ => true

def allFinite : List Json → Bool
  | [] => true
  | x :: xs => isFinite x && allFinite xs

def fieldsFinite : List (String × Json) → Bool
  | [] => true
  | (_, v) :: fs => isFinite v && fieldsFinite fs

end

mutual

/-- The same content as a value. -/
def toValue : Json → Value
  | null => .null
  | bool b => .bool b
  | int n => .int n
  | float x => .float x
  | text s => .text s
  | array xs => .list (toValues xs)
  | object fs => .map (toEntries fs)

def toValues : List Json → List Value
  | [] => []
  | x :: xs => toValue x :: toValues xs

def toEntries : List (String × Json) → List (Value × Value)
  | [] => []
  | (k, v) :: fs => (.text k, toValue v) :: toEntries fs

end

/-- Why a value is no indentation. -/
inductive IndentError
  | kind (name : String)
  /-- An integer that cannot count blanks, not even none of them. -/
  | tooLarge
  deriving DecidableEq, Repr

namespace IndentError

def message : IndentError → String
  | .kind k => s!"can't multiply sequence by non-int of type '{k}'"
  | .tooLarge => "cannot fit 'int' into an index-sized integer"

end IndentError

/-- An integer that can count blanks: one of 64 bits. -/
def isCount (n : Int) : Bool := -0x8000000000000000 ≤ n && n < 0x8000000000000000

/-- The indentation that a value asks for: none for nothing, so many
blanks for an integer, a text for itself. -/
def indentOf? : Value → Except IndentError (Option String)
  | .null => .ok none
  | .text s => .ok (some s)
  | v =>
    match v.integer? with
    | some n =>
      if isCount n then .ok (some (String.ofList (List.replicate n.toNat ' '))) else .error .tooLarge
    | none => .error (.kind v.fullKind)

/-- Why a value is not written as a text. -/
inductive TextError
  | indent (e : IndentError)
  /-- An integer has more digits than are written. -/
  | tooManyDigits
  deriving DecidableEq, Repr

namespace TextError

def message : TextError → String
  | indent e => e.message
  | tooManyDigits => Layout.tooManyDigits

end TextError

/-- The text of a value with an indentation that is asked for. -/
def text? (j : Json) (indent : Value) : Except TextError String := do
  let unit ← (indentOf? indent).mapError .indent
  if j.toValue.isWritable then return j.render (.report unit) 0 else throw .tooManyDigits

end Json
end ScriptGrader
