import ScriptGrader.Text.Composed
import ScriptGrader.Text.Punycode
import ScriptGrader.Web.HostName.Character
import ScriptGrader.Web.HostName.Direction
import ScriptGrader.Web.HostName.Fault

/-!
# Labels of host names

A name that is not ASCII is written label by label in Punycode, if its
labels are such as may be registered: composed letters, marks and digits, a
few signs beside certain others, and no mixture of directions.
-/

namespace ScriptGrader.Web.HostName

/-! ## Joining letters

In some scripts a letter changes its form where it meets the next one.
Between letters that would join, a sign may stand that keeps them apart. -/

/-- Letters that join on both sides. -/
def bothSidesRanges : CharRanges := ⟨#[
  (0x620, 0x620), (0x626, 0x626), (0x628, 0x628), (0x62a, 0x62e), (0x633, 0x63f), (0x641, 0x647),
  (0x649, 0x64a), (0x66e, 0x66f), (0x679, 0x687), (0x69a, 0x6bf), (0x6c1, 0x6c2), (0x6cc, 0x6cc),
  (0x6ce, 0x6ce), (0x6d0, 0x6d1), (0x6fa, 0x6fc), (0x6ff, 0x6ff), (0x712, 0x714), (0x71a, 0x71d),
  (0x71f, 0x727), (0x729, 0x729), (0x72b, 0x72b), (0x72d, 0x72e), (0x74e, 0x758), (0x75c, 0x76a),
  (0x76d, 0x770), (0x772, 0x772), (0x775, 0x777), (0x77a, 0x77f), (0x7ca, 0x7ea), (0x841, 0x845),
  (0x848, 0x848), (0x84a, 0x853), (0x855, 0x855), (0x860, 0x860), (0x862, 0x865), (0x868, 0x868),
  (0x886, 0x886), (0x889, 0x88d), (0x8a0, 0x8a9), (0x8af, 0x8b0), (0x8b3, 0x8b8), (0x8ba, 0x8c8),
  (0x1820, 0x1878), (0x1887, 0x18a8), (0x18aa, 0x18aa), (0xa840, 0xa871), (0x10ac0, 0x10ac4),
  (0x10ad3, 0x10ad6), (0x10ad8, 0x10adc), (0x10ade, 0x10ae0), (0x10b80, 0x10b80),
  (0x10b82, 0x10b82), (0x10b86, 0x10b88), (0x10b8a, 0x10b8b), (0x10b8d, 0x10b8d),
  (0x10b90, 0x10b90), (0x10d01, 0x10d21), (0x10d23, 0x10d23), (0x10f30, 0x10f32),
  (0x10f34, 0x10f44), (0x10f70, 0x10f73), (0x10f76, 0x10f81), (0x10fb0, 0x10fb0),
  (0x10fb2, 0x10fb3), (0x10fb8, 0x10fb8), (0x10fbb, 0x10fbc), (0x10fbe, 0x10fbf),
  (0x10fc1, 0x10fc1), (0x10fc4, 0x10fc4), (0x1e922, 0x1e943)]⟩

/-- Letters that join with the next one only. -/
def leftSideRanges : CharRanges := ⟨#[
  (0xa872, 0xa872), (0x10acd, 0x10acd), (0x10ad7, 0x10ad7), (0x10d00, 0x10d00)]⟩

/-- Letters that join with the one before only. -/
def rightSideRanges : CharRanges := ⟨#[
  (0x622, 0x625), (0x627, 0x627), (0x629, 0x629), (0x62f, 0x632), (0x648, 0x648), (0x671, 0x673),
  (0x688, 0x699), (0x6c0, 0x6c0), (0x6c3, 0x6cb), (0x6cd, 0x6cd), (0x6cf, 0x6cf), (0x6d2, 0x6d3),
  (0x6d5, 0x6d5), (0x6ee, 0x6ef), (0x710, 0x710), (0x715, 0x719), (0x71e, 0x71e), (0x728, 0x728),
  (0x72a, 0x72a), (0x72c, 0x72c), (0x72f, 0x72f), (0x74d, 0x74d), (0x759, 0x75b), (0x76b, 0x76c),
  (0x771, 0x771), (0x773, 0x774), (0x778, 0x779), (0x840, 0x840), (0x846, 0x847), (0x849, 0x849),
  (0x854, 0x854), (0x856, 0x858), (0x867, 0x867), (0x869, 0x86a), (0x870, 0x882), (0x88e, 0x88e),
  (0x8aa, 0x8ac), (0x8ae, 0x8ae), (0x8b1, 0x8b2), (0x8b9, 0x8b9), (0x10ac5, 0x10ac5),
  (0x10ac7, 0x10ac7), (0x10ac9, 0x10aca), (0x10ace, 0x10ad2), (0x10add, 0x10add),
  (0x10ae1, 0x10ae1), (0x10ae4, 0x10ae4), (0x10b81, 0x10b81), (0x10b83, 0x10b85),
  (0x10b89, 0x10b89), (0x10b8c, 0x10b8c), (0x10b8e, 0x10b8f), (0x10b91, 0x10b91),
  (0x10d22, 0x10d22), (0x10f33, 0x10f33), (0x10f74, 0x10f75), (0x10fb4, 0x10fb6),
  (0x10fb9, 0x10fba), (0x10fbd, 0x10fbd), (0x10fc2, 0x10fc3)]⟩

/-- Spacing marks over which letters join. -/
def lightMarks : List Nat := [0xcbf, 0xcc6, 0x11a07, 0x11a08, 0x11c3f, 0x1e94b]

/-- Marks over which letters do not join. -/
def heavyMarks : List Nat := [0x1171e]

/-- Does a letter join over the character? -/
def isTransparent (c : Char) : Bool :=
  (markRanges.contains c && !heavyMarks.contains c.toNat) || lightMarks.contains c.toNat

/-- Does the letter join with the next one? -/
def joinsNext (c : Char) : Bool := bothSidesRanges.contains c || leftSideRanges.contains c

/-- Does the letter join with the one before? -/
def joinsBefore (c : Char) : Bool := bothSidesRanges.contains c || rightSideRanges.contains c

/-! ## Signs -/

/-- A mark that takes the vowel from the consonant before it. -/
def isVowelKiller (c : Char) : Bool := Text.markClass c = 9

def isArabicDigit (c : Char) : Bool := 0x660 ≤ c.toNat && c.toNat ≤ 0x669

def isPersianDigit (c : Char) : Bool := 0x6f0 ≤ c.toNat && c.toNat ≤ 0x6f9

def isJoiner (c : Char) : Bool := c = '\u200c' || c = '\u200d'

/-- May a joiner stand between the characters before it, the nearest first,
and those behind it? -/
def joinsBetween (before : List Char) (c : Char) (after : List Char) : Bool :=
  before.head?.any isVowelKiller ||
    (c = '\u200c' && (before.dropWhile isTransparent).head?.any joinsNext &&
      (after.dropWhile isTransparent).head?.any joinsBefore)

def isSign (c : Char) : Bool :=
  "\xb7\u0375\u05f3\u05f4\u30fb".toList.contains c || isArabicDigit c || isPersianDigit c

/-- May a sign stand between the characters before it, the nearest first,
and those behind it? -/
def fitsBetween (label before : List Char) (c : Char) (after : List Char) : Bool :=
  match c.toNat with
  | 0xb7 => before.head? = some 'l' && after.head? = some 'l'
  | 0x375 => after.head?.any greekRanges.contains
  | 0x5f3 => before.head?.any hebrewRanges.contains
  | 0x5f4 => before.head?.any hebrewRanges.contains
  | 0x30fb => label.any eastAsianRanges.contains
  | _ =>
    (isArabicDigit c && !label.any isPersianDigit) || (isPersianDigit c && !label.any isArabicDigit)

/-- Check that all characters may stand where they do in a label. -/
def checkCharacters (label : List Char) : List Char → List Char → Checked
  | _, [] => .ok ()
  | before, c :: r => do
    let position := before.length + 1
    if isLetter c || undirectedRanges.contains c then pure ()
    else if isJoiner c then refuseIf (!joinsBetween before c r) (.joiner c position label)
    else if isSign c then refuseIf (!fitsBetween label before c r) (.sign c position label)
    else throw (.letter c position label)
    checkCharacters label (c :: before) r

/-! ## Directions -/

/-- May a character of the direction stand in a label that begins with one
from right to left? -/
def Direction.fitsRight : Direction → Bool
  | left => false
  | _ => true

/-- May a character of the direction stand in a label that begins with one
from left to right? -/
def Direction.fitsLeft : Direction → Bool
  | right | arabic | arabicNumber => false
  | _ => true

/-- Check the characters of a label that is written in one direction.
`numbers` is the kind of the numbers so far. -/
def Direction.check (isRight : Bool) : (position : Nat) → (numbers : Option Direction) →
    List Direction → Checked
  | _, _, [] => .ok ()
  | position, numbers, d :: ds => do
    refuseIf (!(if isRight then d.fitsRight else d.fitsLeft)) (.wrongDirection position isRight)
    let isNumber := d = number || d = arabicNumber
    refuseIf (isRight && isNumber && numbers.any (· ≠ d)) .mixedNumbers
    Direction.check isRight (position + 1) (if isNumber then some d else numbers) ds

/-- May a label end with a character of the direction, apart from marks? -/
def Direction.ends (isRight : Bool) (d : Direction) : Bool :=
  d = number || if isRight then d = right || d = arabic || d = arabicNumber else d = left

/-- Check that a label runs in one direction, which has to be known of all
its characters. One without characters from right to left does. -/
def checkDirections (label : List Char) : Checked := do
  match label.findIdx? undirectedRanges.contains with
  | some i => throw (.unknownDirection label (i + 1))
  | none => pure ()
  let ds := label.map direction
  if ds.any fun d => d = .right || d = .arabic || d = .arabicNumber then
    let first := ds.head?
    let isRight := first = some .right || first = some .arabic
    refuseIf (!isRight && first ≠ some .left) (.firstDirection label)
    Direction.check isRight 1 none ds
    let last := (ds.filter (· ≠ .mark)).getLast?
    refuseIf (!last.any (Direction.ends isRight)) .lastDirection

/-! ## Labels -/

/-- The longest name that a label may come from. -/
def nameLimit : Nat := 254

/-- Check that a label may be registered. -/
def check (label : List Char) : Checked := do
  refuseIf label.isEmpty .empty
  refuseIf (nameLimit < label.length) .tooLong
  refuseIf (!Text.isComposed label) .notComposed
  refuseIf ((label.drop 2).take 2 = ['-', '-']) .hyphensInside
  refuseIf (label.head? = some '-' || label.getLast? = some '-') .hyphenAtEnd
  refuseIf (label.head?.any isMark) .startsWithMark
  checkCharacters label [] label
  checkDirections label

/-- What stands in front of a label in Punycode. -/
def mark : List Char := "xn--".toList

/-- Check a label that is written in ASCII, so maybe in Punycode. -/
def checkWritten (label : List Char) : Checked :=
  if label.take 4 = mark then do
    let code := label.drop 4
    refuseIf code.isEmpty .emptyCode
    refuseIf (code.getLast? = some '-') .codeEndsWithHyphen
    match Text.Punycode.decode? code with
    | none => throw .code
    | some text => check text
  else check label

/-- The longest label. -/
def labelLimit : Nat := 63

/-- The written form of a label. -/
def label? (label : List Char) : Option (List Char) :=
  let isPlain := label.all fun c => c.toNat < 0x80
  let checked := if isPlain then checkWritten label else check label
  let written := if isPlain then label else mark ++ Text.Punycode.encode label
  if checked.isOk && written.length ≤ labelLimit then some written else none

/-! ## Names -/

/-- A full stop in any of the scripts that have one. -/
def isStop (c : Char) : Bool := c = '.' || c = '\u3002' || c = '\uff0e' || c = '\uff61'

/-- The written form of a name that is not ASCII. -/
def written? (cs : List Char) : Option (List Char) := do
  let parts := (cs.map fun c => if isStop c then '.' else c).splitOn '.'
  let isDotted := parts.getLast? = some []
  let labels ← (if isDotted then parts.dropLast else parts).mapM label?
  let written := (['.'] : List Char).intercalate (if isDotted then labels ++ [[]] else labels)
  if parts ≠ [[]] ∧ written.length ≤ (if isDotted then nameLimit else nameLimit - 1) then some written else none

/-- Check a name that is written in ASCII, if its first label is in Punycode:
such a name is shown as it was before. -/
def checkShown (written : List Char) : Checked := do
  if written.take 4 = mark then
    refuseIf (nameLimit < written.length) .nameTooLong
    let parts := written.splitOn '.'
    (if parts.getLast? = some [] then parts.dropLast else parts).forM fun l => checkWritten l

end ScriptGrader.Web.HostName
