import ScriptGrader.Value.Basic

/-!
# The order of values

Values of one kind can be put in order: numbers by size, texts and bytes
item by item, dates and moments by time. Values of different kinds cannot,
and neither can a moment with a clock and one without.
-/

namespace ScriptGrader

/-- Why two values have no order. -/
inductive OrderError
  | kinds (a b : Value)
  /-- A moment and a date. -/
  | momentAndDate
  /-- A moment with a clock and one without. -/
  | clocks
  deriving Repr

namespace OrderError

def message : OrderError → String
  | kinds a b => s!"'<' not supported between instances of '{a.fullKind}' and '{b.fullKind}'"
  | momentAndDate => "can't compare datetime.datetime to datetime.date"
  | clocks => "can't compare offset-naive and offset-aware datetimes"

end OrderError

namespace Value

/-- A number; an integer counts as itself and a double as what it stands for. -/
inductive Number
  | whole (n : Int)
  | binary (x : Binary64)

def number? : Value → Option Number
  | float x => some (.binary x)
  | v => v.integer?.map .whole

/-- The strict order of numbers. -/
def Number.less : Number → Number → Bool
  | .whole m, .whole n => decide (m < n)
  | .binary x, .binary y => x.less y
  | .whole m, .binary y =>
    match y with
    | .infinity negative => !negative
    | y => (y.rational?.map fun v => decide ((m : Rat) < v)).getD false
  | .binary x, .whole n =>
    match x with
    | .infinity negative => negative
    | x => (x.rational?.map fun v => decide (v < (n : Rat))).getD false

/-- The strict order of moments. -/
def momentLess (a b : Moment) : Except OrderError Bool :=
  match a.offset, b.offset with
  | none, none => .ok (decide (a.localTime < b.localTime))
  | some x, some y => .ok (decide (a.localTime - x * 60000000 < b.localTime - y * 60000000))
  | _, _ => .error .clocks

/-- The strict order of values that have no items. -/
def less (a b : Value) : Except OrderError Bool :=
  match a.number?, b.number?, a, b with
  | some m, some n, _, _ => .ok (m.less n)
  | _, _, text s, text t => .ok (decide (s < t))
  | _, _, bytes s, bytes t => .ok (decide (s.map UInt8.toNat < t.map UInt8.toNat))
  | _, _, date d, date e => .ok (decide (d.ordinal < e.ordinal))
  | _, _, moment d, moment e => momentLess d e
  | _, _, moment _, date _ => .error .momentAndDate
  | _, _, date _, moment _ => .error .momentAndDate
  | _, _, a, b => .error (.kinds a b)

/-- Put a value before the first one of a sorted list that is greater. -/
def insertSorted (v : Value) : List Value → Except OrderError (List Value)
  | [] => .ok [v]
  | w :: ws => do
    if ← less v w then return v :: w :: ws
    else return w :: (← insertSorted v ws)

/-- Values from the least to the greatest. -/
def sorted (vs : List Value) : Except OrderError (List Value) :=
  vs.foldlM (fun done v => insertSorted v done) []

end Value
end ScriptGrader
