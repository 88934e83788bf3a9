import ScriptGrader.Value.Basic
import ScriptGrader.Text.Quoted

/-!
# Values as text

Messages and log lines show values in two forms. The literal form quotes
texts and names kinds, so that different values look different; the plain
form differs from it only for a text, a date or a moment at the top.
-/

namespace ScriptGrader.Value

/-- Items between brackets, with a comma and a blank between them. -/
def bracket (opening closing : String) (items : List String) : String :=
  opening ++ ", ".intercalate items ++ closing

mutual

/-- The literal form. Every value has one, however deep it is. -/
def literal : Value → String
  | null => "None"
  | bool b => if b then "True" else "False"
  | int n => Layout.int n
  | float x => Layout.plain.binary64 x
  | text s => Text.quoted s
  | list xs => bracket "[" "]" (literals xs)
  | tuple [x] => "(" ++ literal x ++ ",)"
  | tuple xs => bracket "(" ")" (literals xs)
  | map es => bracket "\x7b" "\x7d" (entryLiterals es)
  | set [] => "set()"
  | set xs => bracket "\x7b" "\x7d" (literals xs)
  | bytes bs => Text.quotedBytes bs
  | date d => d.literal
  | moment m => m.literal

def literals : List Value → List String
  | [] => []
  | x :: xs => literal x :: literals xs

def entryLiterals : List (Value × Value) → List String
  | [] => []
  | (k, v) :: es => (literal k ++ ": " ++ literal v) :: entryLiterals es

end

/-- The least natural number that has too many digits. -/
def unwritten : Nat := Nat.pow 10 Layout.digitLimit

mutual

/-- Can every integer in the value be written? -/
def isWritable : Value → Bool
  | int n => decide (n.natAbs < unwritten)
  | list xs | tuple xs | set xs => areWritable xs
  | map es => entriesAreWritable es
  | _ => true

def areWritable : List Value → Bool
  | [] => true
  | x :: xs => isWritable x && areWritable xs

def entriesAreWritable : List (Value × Value) → Bool
  | [] => true
  | (k, v) :: es => isWritable k && isWritable v && entriesAreWritable es

end

/-- The plain form. -/
def plain : Value → String
  | text s => s
  | date d => d.iso
  | moment m => m.iso
  | v => v.literal

/-- A list of names in literal form. -/
def nameList (names : List String) : String := bracket "[" "]" (names.map Text.quoted)

end ScriptGrader.Value
