import ScriptGrader.Value.Literal

/-!
# Scores

A score is a number that keeps its kind: a truth value, an integer of any
size, or a double. Sums start from the integer zero and add from left to
right; an integer joins a double by becoming the double nearest to it, and
one that is too large for that makes the sum fail.
-/

namespace ScriptGrader

/-- A number of points. -/
inductive Score
  | flag (b : Bool)
  | whole (n : Int)
  | binary (x : Binary64)
  deriving DecidableEq, Repr, Inhabited

/-- The cause for which a sum of scores has no value, or its value no text. -/
inductive ScoreError
  /-- An integer is larger than every finite double. -/
  | tooLarge
  /-- An integer has more digits than are written. -/
  | tooManyDigits
  deriving DecidableEq, Repr

namespace ScoreError

def message : ScoreError → String
  | .tooLarge => "int too large to convert to float"
  | .tooManyDigits => Layout.tooManyDigits

end ScoreError

namespace Score

def ofValue? : Value → Option Score
  | .bool b => some (.flag b)
  | .int n => some (.whole n)
  | .float x => some (.binary x)
  | _ => none

def toValue : Score → Value
  | flag b => .bool b
  | whole n => .int n
  | binary x => .float x

def text (s : Score) : String := s.toValue.literal

/-- The text of a sum, which may be larger than every score in it. -/
def text? (s : Score) : Except ScoreError String :=
  if s.toValue.isWritable then .ok s.text else .error .tooManyDigits

@[simp]
theorem isWritable_toValue_whole (n : Int) :
    (whole n).toValue.isWritable = decide (n.natAbs < Value.unwritten) := rfl

@[simp]
theorem isWritable_toValue_binary (x : Binary64) : (binary x).toValue.isWritable = true := rfl

theorem exists_text?_eq_ok_iff {s : Score} : (∃ t, s.text? = .ok t) ↔ s.toValue.isWritable = true := by
  rw [text?]
  cases s.toValue.isWritable <;> simp

/-- The integer that a truth value or integer is. -/
def integer? : Score → Option Int
  | flag b => some (if b then 1 else 0)
  | whole n => some n
  | binary _ => none

/-- Are the two scores the same number? -/
def same (a b : Score) : Bool :=
  match a, b with
  | binary x, binary y => x.same y
  | binary x, b => (b.integer?.map x.isInt).getD false
  | a, binary y => (a.integer?.map y.isInt).getD false
  | a, b => a.integer? = b.integer?

def isZero (s : Score) : Bool := s.same (whole 0)

/-- At most zero; a double without a value is not. -/
def atMostZero : Score → Bool
  | flag b => !b
  | whole n => n ≤ 0
  | binary x => x.atMostZero

/-- The score as a double, if it is small enough. -/
def binary? : Score → Except ScoreError Binary64
  | flag b => .ok (if b then .finite 1 else .zero false)
  | whole n =>
    match Binary64.ofInt? n with
    | some x => .ok x
    | none => .error .tooLarge
  | binary x => .ok x

/-- The sum of two scores. -/
def add (a b : Score) : Except ScoreError Score :=
  match a.integer?, b.integer? with
  | some m, some n => .ok (whole (m + n))
  | _, _ => do
    let x ← a.binary?
    let y ← b.binary?
    return binary (x + y)

/-- The sum of a list of scores, from left to right. -/
def total (scores : List Score) : Except ScoreError Score :=
  scores.foldlM add (whole 0)

/-- Does the score have a place on the line of numbers? -/
def isFinite : Score → Bool
  | binary x => x.isFinite
  | _ => true

end Score
end ScriptGrader
