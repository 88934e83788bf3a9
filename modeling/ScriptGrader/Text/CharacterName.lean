import ScriptGrader.Text.CharacterName.Alias
import ScriptGrader.Text.CharacterName.Alphabets
import ScriptGrader.Text.CharacterName.Ancient
import ScriptGrader.Text.CharacterName.Forms
import ScriptGrader.Text.CharacterName.Pictures
import ScriptGrader.Text.CharacterName.Scripts
import ScriptGrader.Text.CharacterName.Symbols

/-!
# Names of characters

The character that a name stands for. Most names are listed. Ideographs are
named by their numbers, and syllables of Hangul by the sounds they are put
together from; these two kinds of names are written in capital letters only.
-/

namespace ScriptGrader.Text.CharacterName

/-- A code point of four or five hexadecimal digits, with letters as capitals. -/
def number? (digits : List Char) : Option Nat :=
  if digits.length = 4 ∨ digits.length = 5 then
    digits.foldlM (fun n c =>
      if '0' ≤ c ∧ c ≤ '9' then some (n * 16 + (c.toNat - 48))
      else if 'A' ≤ c ∧ c ≤ 'F' then some (n * 16 + (c.toNat - 55))
      else none) 0
  else none

def isWithin (ranges : List (Nat × Nat)) (code : Nat) : Bool :=
  ranges.any fun (low, high) => low ≤ code && code ≤ high

/-- What is behind a text that a name begins with. -/
def behind? (start : String) (name : List Char) : Option (List Char) :=
  if start.toList.isPrefixOf name then some (name.drop start.length) else none

/-- Ideographs. -/
def ideographs : List (Nat × Nat) :=
  [(0x3400, 0x4dbf), (0x4e00, 0x9fff), (0x20000, 0x2a6df), (0x2a700, 0x2b738), (0x2b740, 0x2b81d),
    (0x2b820, 0x2cea1), (0x2ceb0, 0x2ebe0), (0x30000, 0x3134a)]

/-- Names that end in the number of their character, with the ranges they are for. -/
def numbered : List (String × List (Nat × Nat)) :=
  [("CJK COMPATIBILITY IDEOGRAPH-", [(0xf900, 0xfa6d), (0xfa70, 0xfad9), (0x2f800, 0x2fa1d)]),
    ("KHITAN SMALL SCRIPT CHARACTER-", [(0x18b00, 0x18cd5)]),
    ("NUSHU CHARACTER-", [(0x1b170, 0x1b2fb)])]

/-- The code point of a character that is named by its number, without digits to spare. -/
def numberedCode? (name : List Char) : Option Nat :=
  numbered.findSome? fun (start, ranges) => do
    let digits ← behind? start name
    let code ← number? digits
    if isWithin ranges code && (digits.length = 4 || 0x10000 ≤ code) then some code else none

/-- The sounds that begin a syllable. -/
def initials : List String :=
  ["G", "GG", "N", "D", "DD", "R", "M", "B", "BB", "S", "SS", "", "J", "JJ", "C", "K", "T", "P", "H"]

/-- The vowels of a syllable. -/
def vowels : List String :=
  ["A", "AE", "YA", "YAE", "EO", "E", "YEO", "YE", "O", "WA", "WAE", "OE", "YO", "U", "WEO", "WE",
    "WI", "YU", "EU", "YI", "I"]

/-- The sounds that end a syllable. -/
def finals : List String :=
  ["", "G", "GG", "GS", "N", "NJ", "NH", "D", "L", "LG", "LM", "LB", "LS", "LT", "LP", "LH", "M",
    "B", "BS", "S", "SS", "NG", "J", "C", "K", "T", "P", "H"]

/-- The longest sound that a name begins with, by its place, and the rest. -/
def sound? (sounds : List String) (name : List Char) : Option (Nat × List Char) :=
  let fitting := sounds.zipIdx.filter fun (s, _) => s.toList.isPrefixOf name
  (fitting.foldl (fun (best : Option (String × Nat)) s =>
    match best with
    | some b => if b.1.length < s.1.length then some s else some b
    | none => some s) none).map fun (s, i) => (i, name.drop s.length)

/-- The code point of a syllable that is written by its sounds. -/
def syllable? (name : List Char) : Option Nat := do
  let (initial, r) ← sound? initials name
  let (vowel, r) ← sound? vowels r
  let (final, r) ← sound? finals r
  if r.isEmpty then some (0xac00 + (initial * vowels.length + vowel) * finals.length + final) else none

/-- Selectors of variants have short names with their numbers. -/
def selector? (name : List Char) : Option Nat := do
  let digits ← behind? "VS" name
  let n := digits.foldl (fun n c => n * 10 + (c.toNat - 48)) 0
  if digits.all Char.isDigit && digits.head? ≠ some '0' && 1 ≤ n && n ≤ 256 then
    some (if n ≤ 16 then 0xfe00 + (n - 1) else 0xe0100 + (n - 17))
  else none

/-- All names that are listed. -/
def runs : List Run := alphabets ++ scripts ++ symbols ++ forms ++ ancient ++ pictures

/-- The code point of a name in capital letters that is neither an ideograph's nor a syllable's. -/
def listed? (name : List Char) : Option Nat :=
  match aliases.lookup (String.ofList name) with
  | some code => some code
  | none => (selector? name).or ((numberedCode? name).or (runs.findSome? (·.code? name)))

/-- The code point of the character with a name. -/
def code? (name : String) : Option Nat :=
  let name := name.toList
  match behind? "HANGUL SYLLABLE " name, behind? "CJK UNIFIED IDEOGRAPH-" name with
  | some sounds, _ => syllable? sounds
  | _, some digits => do
    let code ← number? digits
    if isWithin ideographs code then some code else none
  | _, _ => listed? (name.map Char.toUpper)

end ScriptGrader.Text.CharacterName
