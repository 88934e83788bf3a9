/-!
# Properties of characters as sorted ranges

A Unicode property is a sorted array of ranges of code points, both ends
included, and membership is a binary search. A property with values has a
value for each range (`CharTable`).
-/

namespace ScriptGrader

/-- Ranges of code points, sorted and without overlaps. -/
structure CharRanges where
  ranges : Array (Nat × Nat)
  deriving Inhabited

namespace CharRanges

/-- Is the code point in one of the ranges from `low` on and before
`low + width`? The width is halved, so its own size bounds the steps. -/
def search (r : CharRanges) (code : Nat) : Nat → Nat → Nat → Bool
  | 0, _, _ => false
  | fuel + 1, low, width =>
    if width = 0 then false
    else
      let half := width / 2
      match r.ranges[low + half]? with
      | none => false
      | some (first, last) =>
        if code < first then r.search code fuel low half
        else if last < code then r.search code fuel (low + half + 1) (width - half - 1)
        else true

def containsCode (r : CharRanges) (code : Nat) : Bool :=
  r.search code (r.ranges.size.log2 + 2) 0 r.ranges.size

def contains (r : CharRanges) (c : Char) : Bool := r.containsCode c.toNat

end CharRanges

/-! ## Values -/

/-- Ranges of code points with values, sorted and without overlaps. -/
structure CharTable (α : Type) where
  entries : Array (Nat × Nat × α)

namespace CharTable

variable {α : Type}

/-- The value of the code point in the ranges from `low` on and before
`low + width`. The width is halved, so its own size bounds the steps. -/
def search (t : CharTable α) (code : Nat) : Nat → Nat → Nat → Option α
  | 0, _, _ => none
  | fuel + 1, low, width =>
    if width = 0 then none
    else
      let half := width / 2
      match t.entries[low + half]? with
      | none => none
      | some (first, last, value) =>
        if code < first then t.search code fuel low half
        else if last < code then t.search code fuel (low + half + 1) (width - half - 1)
        else some value

def value? (t : CharTable α) (c : Char) : Option α :=
  t.search c.toNat (t.entries.size.log2 + 2) 0 t.entries.size

end CharTable
end ScriptGrader
