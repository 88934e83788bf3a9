import ScriptGrader.Text.CharRanges
import ScriptGrader.Text.Composition
import ScriptGrader.Text.MarkClass

/-!
# Composed texts

The same text can be written with marks of its own or with characters that
are composed with their marks, and the marks in several orders. One of
these ways is the composed one: marks are in the order of their classes,
and what can be composed is. Main definition: `isComposed`.
-/

namespace ScriptGrader.Text

/-- The character that two compose to. -/
def compose? (a b : Char) : Option Char := do
  let firsts ← compositions.lookup b.toNat
  let code ← firsts.lookup a.toNat
  return Char.ofNat code

/-- The two characters that one is composed of. -/
def parts? (c : Char) : Option (Char × Char) :=
  compositions.findSome? fun (second, firsts) =>
    (firsts.find? fun x => x.2 = c.toNat).map fun x => (Char.ofNat x.1, Char.ofNat second)

/-- A character with its marks apart. No character is composed in more than three steps. -/
def apart (c : Char) : List Char := go 3 c []
where
  go : Nat → Char → List Char → List Char
    | 0, c, marks => c :: marks
    | depth + 1, c, marks =>
      match parts? c with
      | some (a, b) => go depth a (b :: marks)
      | none => c :: marks

/-- A mark in front of others, behind those of a lower class. -/
def insertMark (c : Char) : List Char → List Char
  | [] => [c]
  | d :: r =>
    if markClass d ≠ 0 ∧ markClass d < markClass c then d :: insertMark c r else c :: d :: r

/-- A text with its marks in the order of their classes. -/
def sortMarks (cs : List Char) : List Char :=
  cs.foldr (fun c r => if markClass c = 0 then c :: r else insertMark c r) []

/-- The characters behind a letter: those that it composes with are taken
into it, the others are kept. A mark is out of reach behind one that is
kept and is not of a lower class. -/
def join (letter : Char) (kept : List Char) : List Char → List Char
  | [] => letter :: kept.reverse
  | c :: r =>
    let isNear := match kept with
      | [] => true
      | d :: _ => markClass d ≠ 0 && markClass d < markClass c
    match if isNear then compose? letter c else none with
    | some whole => join whole kept r
    | none => if markClass c = 0 then letter :: kept.reverse ++ join c [] r else join letter (c :: kept) r

/-- The composed form of a text. -/
def composed (cs : List Char) : List Char :=
  let sorted := sortMarks (cs.flatMap apart)
  let lead := sorted.takeWhile (markClass · ≠ 0)
  match sorted.dropWhile (markClass · ≠ 0) with
  | [] => lead
  | c :: r => lead ++ join c [] r

/-- Characters that stand for others and so are in no composed text. -/
def substitutes : CharRanges := ⟨#[
  (0x340, 0x341), (0x343, 0x344), (0x374, 0x374), (0x37e, 0x37e), (0x387, 0x387), (0x958, 0x95f),
  (0x9dc, 0x9dd), (0x9df, 0x9df), (0xa33, 0xa33), (0xa36, 0xa36), (0xa59, 0xa5b), (0xa5e, 0xa5e),
  (0xb5c, 0xb5d), (0xf43, 0xf43), (0xf4d, 0xf4d), (0xf52, 0xf52), (0xf57, 0xf57), (0xf5c, 0xf5c),
  (0xf69, 0xf69), (0xf73, 0xf73), (0xf75, 0xf76), (0xf78, 0xf78), (0xf81, 0xf81), (0xf93, 0xf93),
  (0xf9d, 0xf9d), (0xfa2, 0xfa2), (0xfa7, 0xfa7), (0xfac, 0xfac), (0xfb9, 0xfb9), (0x1f71, 0x1f71),
  (0x1f73, 0x1f73), (0x1f75, 0x1f75), (0x1f77, 0x1f77), (0x1f79, 0x1f79), (0x1f7b, 0x1f7b),
  (0x1f7d, 0x1f7d), (0x1fbb, 0x1fbb), (0x1fbe, 0x1fbe), (0x1fc9, 0x1fc9), (0x1fcb, 0x1fcb),
  (0x1fd3, 0x1fd3), (0x1fdb, 0x1fdb), (0x1fe3, 0x1fe3), (0x1feb, 0x1feb), (0x1fee, 0x1fef),
  (0x1ff9, 0x1ff9), (0x1ffb, 0x1ffb), (0x1ffd, 0x1ffd), (0x2000, 0x2001), (0x2126, 0x2126),
  (0x212a, 0x212b), (0x2329, 0x232a), (0x2adc, 0x2adc), (0xf900, 0xfa0d), (0xfa10, 0xfa10),
  (0xfa12, 0xfa12), (0xfa15, 0xfa1e), (0xfa20, 0xfa20), (0xfa22, 0xfa22), (0xfa25, 0xfa26),
  (0xfa2a, 0xfa6d), (0xfa70, 0xfad9), (0xfb1d, 0xfb1d), (0xfb1f, 0xfb1f), (0xfb2a, 0xfb36),
  (0xfb38, 0xfb3c), (0xfb3e, 0xfb3e), (0xfb40, 0xfb41), (0xfb43, 0xfb44), (0xfb46, 0xfb4e),
  (0x1d15e, 0x1d164), (0x1d1bb, 0x1d1c0), (0x2f800, 0x2fa1d)]⟩

/-- Do two letters of Hangul, or a syllable and a letter, make one syllable? -/
def makesSyllable (a b : Char) : Bool :=
  (0x1100 ≤ a.toNat && a.toNat ≤ 0x1112 && 0x1161 ≤ b.toNat && b.toNat ≤ 0x1175) ||
    (0xac00 ≤ a.toNat && a.toNat ≤ 0xd7a3 && (a.toNat - 0xac00) % 28 = 0 &&
      0x11a8 ≤ b.toNat && b.toNat ≤ 0x11c2)

/-- Is a text written in the composed form? -/
def isComposed (cs : List Char) : Bool :=
  !cs.any substitutes.contains && !(cs.zip (cs.drop 1)).any (fun (a, b) => makesSyllable a b) &&
    composed cs = cs

end ScriptGrader.Text
