import ScriptGrader.Value.Calendar

/-!
# Values

A configuration file, the arguments of a check and the scores of a record
hold values whose kind is known only when they are read. Equality is by
content: truth values are the integers one and zero, and numbers of
different kinds are equal when they are the same number.
-/

namespace ScriptGrader

/-- A value of any kind. Maps keep the order in which their keys came. -/
inductive Value
  | null
  | bool (b : Bool)
  | int (n : Int)
  | float (x : Binary64)
  | text (s : String)
  | list (items : List Value)
  | tuple (items : List Value)
  | map (entries : List (Value × Value))
  | set (items : List Value)
  | bytes (bs : List UInt8)
  | date (d : Date)
  | moment (m : Moment)
  deriving Repr, Inhabited

namespace Value

/-- All values hold except nothing, false, zeros and what is empty. -/
def isTrue : Value → Bool
  | null => false
  | bool b => b
  | int n => n ≠ 0
  | float (.zero _) => false
  | float _ => true
  | text s => s ≠ ""
  | list xs => !xs.isEmpty
  | tuple xs => !xs.isEmpty
  | map es => !es.isEmpty
  | set xs => !xs.isEmpty
  | bytes bs => !bs.isEmpty
  | date _ => true
  | moment _ => true

/-- A truth value or integer, as an integer. -/
def integer? : Value → Option Int
  | bool b => some (if b then 1 else 0)
  | int n => some n
  | _ => none

/-- Numeric equality, when both values are numbers. -/
def sameNumber? (a b : Value) : Option Bool :=
  match a.integer?, b.integer?, a, b with
  | some m, some n, _, _ => some (m = n)
  | some m, none, _, float y => some (y.isInt m)
  | none, some n, float x, _ => some (x.isInt n)
  | none, none, float x, float y => some (x.same y)
  | _, _, _, _ => none

mutual

/-- Equality by content. -/
def same : Value → Value → Bool
  | null, null => true
  | text s, text t => s = t
  | bytes s, bytes t => s = t
  | date d, date e => d = e
  | moment d, moment e => d.same e
  | list xs, list ys => sameAll xs ys
  | tuple xs, tuple ys => sameAll xs ys
  | set xs, set ys => xs.length = ys.length && subset xs ys
  | map es, map fs => es.length = fs.length && submap es fs
  | a, b => (sameNumber? a b).getD false

/-- Equality item by item. -/
def sameAll : List Value → List Value → Bool
  | [], [] => true
  | x :: xs, y :: ys => same x y && sameAll xs ys
  | _, _ => false

/-- Is every item equal to one of the other list? -/
def subset : List Value → List Value → Bool
  | [], _ => true
  | x :: xs, ys => ys.any (same x ·) && subset xs ys

/-- Does the other map hold an equal entry for every entry? -/
def submap : List (Value × Value) → List (Value × Value) → Bool
  | [], _ => true
  | (k, v) :: es, fs => fs.any (fun (l, w) => same k l && same v w) && submap es fs

end

/-- The items of a collection: characters of a text, keys of a map. -/
def items? : Value → Option (List Value)
  | text s => some (s.toList.map fun c => text (String.singleton c))
  | list xs | tuple xs | set xs => some xs
  | map es => some (es.map (·.1))
  | bytes bs => some (bs.map fun b => int b.toNat)
  | _ => none

/-- The entry of a key in a map's entries. -/
def lookup (key : Value) (entries : List (Value × Value)) : Option Value :=
  (entries.find? fun (k, _) => same k key).map (·.2)

/-- Put an entry: the value of a known key is replaced where the key
stands, a new key comes last. -/
def put (key value : Value) : List (Value × Value) → List (Value × Value)
  | [] => [(key, value)]
  | (k, v) :: r => if same k key then (k, value) :: r else (k, v) :: put key value r

/-- The value under a name in a map's entries. -/
def field (name : String) (entries : List (Value × Value)) : Option Value :=
  lookup (.text name) entries

/-- The name of a value's kind. -/
def kind : Value → String
  | null => "NoneType"
  | bool _ => "bool"
  | int _ => "int"
  | float _ => "float"
  | text _ => "str"
  | list _ => "list"
  | tuple _ => "tuple"
  | map _ => "dict"
  | set _ => "set"
  | bytes _ => "bytes"
  | date _ => "date"
  | moment _ => "datetime"

/-- The name of a value's kind with the family it belongs to. -/
def fullKind : Value → String
  | date _ => "datetime.date"
  | moment _ => "datetime.datetime"
  | v => v.kind

end Value
end ScriptGrader
