/-!
# Slugs

The slug of a check name is the name in lower case with one hyphen
between its words. A word starts after a gap of other characters, and
where a capital follows a small letter or a digit. `slug` says so in
stages, each over the whole name; `slugOnePass` reads the name once and
remembers only what stood before.
-/

namespace ScriptGrader.Rubric

def isSmall (c : Char) : Bool := ('a' ≤ c && c ≤ 'z') || ('0' ≤ c && c ≤ '9')

def isCapital (c : Char) : Bool := 'A' ≤ c && c ≤ 'Z'

/-- The letters and digits that a slug keeps. -/
def isKept (c : Char) : Bool := isSmall c || isCapital c

/-- A hyphen before every capital that follows a small letter or a digit. -/
def splitHumps : List Char → List Char
  | [] => []
  | [c] => [c]
  | a :: b :: r =>
    if isSmall a && isCapital b then a :: '-' :: splitHumps (b :: r) else a :: splitHumps (b :: r)

theorem splitHumps_cons_cons (a b : Char) (r : List Char) : splitHumps (a :: b :: r) =
    if isSmall a && isCapital b then a :: '-' :: splitHumps (b :: r) else a :: splitHumps (b :: r) := rfl

/-- Every run of characters that are not kept becomes one hyphen. -/
def joinGaps : List Char → List Char
  | [] => []
  | c :: r =>
    if isKept c then c :: joinGaps r
    else
      match joinGaps r with
      | '-' :: t => '-' :: t
      | t => '-' :: t

theorem joinGaps_cons (c : Char) (r : List Char) : joinGaps (c :: r) =
    if isKept c then c :: joinGaps r
    else
      match joinGaps r with
      | '-' :: t => '-' :: t
      | t => '-' :: t := rfl

/-- No hyphens at the ends. -/
def trimHyphens (cs : List Char) : List Char :=
  ((cs.dropWhile (· == '-')).reverse.dropWhile (· == '-')).reverse

/-- The slug of a name's characters, in stages. -/
def slugChars (cs : List Char) : List Char :=
  (trimHyphens (joinGaps (splitHumps cs))).map Char.toLower

/-- The slug of a name. -/
def slug (name : String) : String := String.ofList (slugChars name.toList)

/-- What stood before the place that a single reading has reached. -/
structure Behind where
  /-- The last kept character. -/
  last : Option Char
  /-- Has something stood after it that is not kept? -/
  gap : Bool

/-- One reading of the name. -/
def slugFrom (behind : Behind) : List Char → List Char
  | [] => []
  | c :: r =>
    if isKept c then
      let hyphen := match behind.last with
        | none => false
        | some b => behind.gap || (isSmall b && isCapital c)
      let rest := c.toLower :: slugFrom ⟨some c, false⟩ r
      if hyphen then '-' :: rest else rest
    else slugFrom { behind with gap := true } r

@[simp]
theorem slugFrom_nil (behind : Behind) : slugFrom behind [] = [] := rfl

theorem slugFrom_cons (behind : Behind) (c : Char) (r : List Char) : slugFrom behind (c :: r) =
    if isKept c then
      let hyphen := match behind.last with
        | none => false
        | some b => behind.gap || (isSmall b && isCapital c)
      let rest := c.toLower :: slugFrom ⟨some c, false⟩ r
      if hyphen then '-' :: rest else rest
    else slugFrom { behind with gap := true } r := rfl

/-- The slug of a name's characters, in one reading. -/
def slugOnePass (cs : List Char) : List Char := slugFrom ⟨none, false⟩ cs

/-- The key of a check's result: the grading's base and the check's slug. -/
def resultKey (base name : String) : String := base ++ "-" ++ slug name

end ScriptGrader.Rubric
