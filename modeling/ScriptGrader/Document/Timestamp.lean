import ScriptGrader.Value.Calendar

/-!
# Timestamps

A timestamp is a date, or a date and a time of day with an optional
fraction of the second and an optional clock. Here it is taken apart as it
is written; whether the calendar has it is another question.
-/

namespace ScriptGrader.Document

/-- The clock that a timestamp is told on. -/
inductive Zone
  | absent
  | universal
  /-- Ahead of the universal clock, or behind it. -/
  | offset (behind : Bool) (hours minutes : Nat)
  deriving DecidableEq, Repr

/-- The time of day of a timestamp. -/
structure TimeOfDay where
  hour : Nat
  minute : Nat
  second : Nat
  /-- The digits of the fraction of the second. -/
  fraction : List Char
  zone : Zone
  deriving DecidableEq, Repr

/-- The parts of a timestamp. -/
structure Timestamp where
  year : Nat
  month : List Char
  day : List Char
  time : Option TimeOfDay
  deriving DecidableEq, Repr

namespace Timestamp

def isDigit (c : Char) : Bool := '0' ≤ c && c ≤ '9'

def number (cs : List Char) : Nat := cs.foldl (fun n c => n * 10 + (c.toNat - 48)) 0

/-- A run of digits of a length within bounds, and the rest. -/
def digits? (least most : Nat) (cs : List Char) : Option (List Char × List Char) :=
  let ds := cs.takeWhile isDigit
  if least ≤ ds.length ∧ ds.length ≤ most then some (ds, cs.drop ds.length) else none

/-- The rest after a character. -/
def after? (c : Char) : List Char → Option (List Char)
  | d :: r => if d = c then some r else none
  | [] => none

def isBlank (c : Char) : Bool := c = ' ' || c = '\t'

/-- The clock that a time ends with. -/
def zone? (cs : List Char) : Option Zone :=
  match cs, cs.dropWhile isBlank with
  | [], _ => some .absent
  | _, ['Z'] => some .universal
  | _, s :: r =>
    if s = '+' || s = '-' then do
      let (h, r) ← digits? 1 2 r
      match r with
      | [] => some (.offset (s = '-') (number h) 0)
      | _ => do
        let (m, r) ← digits? 2 2 (← after? ':' r)
        if r.isEmpty then some (.offset (s = '-') (number h) (number m)) else none
    else none
  | _, [] => none

/-- What follows the date: a `T` or blanks, and the time. -/
def time? (cs : List Char) : Option TimeOfDay := do
  let r ← match cs with
    | c :: r => if c = 'T' || c = 't' then some r else if isBlank c then some (r.dropWhile isBlank) else none
    | [] => none
  let (hour, r) ← digits? 1 2 r
  let (minute, r) ← digits? 2 2 (← after? ':' r)
  let (second, r) ← digits? 2 2 (← after? ':' r)
  let (fraction, r) := match r with
    | '.' :: r => (r.takeWhile isDigit, r.dropWhile isDigit)
    | r => ([], r)
  return ⟨number hour, number minute, number second, fraction, ← zone? r⟩

/-- The timestamp that is written. -/
def parse? (cs : List Char) : Option Timestamp := do
  let (year, r) ← digits? 4 4 cs
  let (month, r) ← digits? 1 2 (← after? '-' r)
  let (day, r) ← digits? 1 2 (← after? '-' r)
  match r with
  | [] => return ⟨number year, month, day, none⟩
  | r => return ⟨number year, month, day, some (← time? r)⟩

/-- Does a plain text count as a timestamp? A date alone has two digits
for the month and for the day. -/
def isPlain (cs : List Char) : Bool :=
  match parse? cs with
  | some t => t.time.isSome || (t.month.length = 2 && t.day.length = 2)
  | none => false

end Timestamp

namespace TimeOfDay

/-- The fraction in microseconds; further digits are cut off. -/
def microsecond (t : TimeOfDay) : Nat :=
  Timestamp.number ((t.fraction ++ List.replicate 6 '0').take 6)

end TimeOfDay

namespace Zone

/-- Minutes ahead of the universal clock. -/
def minutes? : Zone → Option Int
  | absent => none
  | universal => some 0
  | offset behind h m => some (if behind then -((h * 60 + m : Nat) : Int) else (h * 60 + m : Nat))

end Zone

end ScriptGrader.Document
