import ScriptGrader.Text.Charset.Piece
import ScriptGrader.Text.CharGrid.Chinese
import ScriptGrader.Text.CharGrid.ChineseNumbered
import ScriptGrader.Text.CharGrid.HongKong
import ScriptGrader.Text.CharGrid.Japanese
import ScriptGrader.Text.CharGrid.JapaneseExtension
import ScriptGrader.Text.CharGrid.JapaneseSupplement
import ScriptGrader.Text.CharGrid.Korean
import ScriptGrader.Text.CharGrid.Traditional

/-!
# Characters of East Asia in several bytes

ASCII takes one byte. Of other characters the first byte is beyond ASCII, and
mostly there are two: a row and a column of a grid. What the bytes after the
first one can be differs; a first byte that begins no character is skipped
alone.
-/

namespace ScriptGrader.Text.Charset

open CharGrid

/-- Whether a number is in a range, both ends included. -/
def isFrom (low high n : Nat) : Bool := low ≤ n && n ≤ high

/-- The character of a grid whose rows and columns are written with the highest bit set. -/
def ofHigh (g : CharGrid) (a b : Nat) : Option Char :=
  if 0x80 ≤ a ∧ 0x80 ≤ b then g.find? (a - 0x80) (b - 0x80) else none

/-- A character that is read by itself. -/
def alone (c : Option Char) : Option (List Char) := c.map ([·])

/-- What is in two bytes, if there are two. Of a pair that is no character
both bytes are wrong or only the first one. -/
def inTwoOr (isWrong : Nat → Nat → Bool) (pair : Nat → Nat → Option (List Char)) : List UInt8 → Piece
  | a :: b :: _ =>
    match pair a.toNat b.toNat with
    | some cs => .chars cs 2
    | none => .wrong (if isWrong a.toNat b.toNat then 2 else 1)
  | _ => .short

/-- No pair is wrong as a whole. -/
def neverWrong (_ _ : Nat) : Bool := false

/-- What is in two bytes, where of a pair that is no character only the first byte is wrong. -/
def inTwo (pair : Nat → Nat → Option (List Char)) : List UInt8 → Piece := inTwoOr neverWrong pair

/-- What bytes begin with, where characters up to `last` take one byte. -/
def singleUpTo (last : Nat) (others : List UInt8 → Piece) : List UInt8 → Piece
  | [] => .short
  | b :: r => if b.toNat ≤ last then .chars [Char.ofNat b.toNat] 1 else others (b :: r)

/-! ## Chinese -/

/-- Ideographs beyond those of simplified Chinese, in order. -/
def addedIdeographs : Thunk (Array Nat) := Thunk.mk fun _ =>
  let count := 20902
  let listed := simplified.chars.foldl (fun (marks : Array Bool) c =>
    if 0x4e00 ≤ c.toNat then marks.setIfInBounds (c.toNat - 0x4e00) true else marks)
    (Array.replicate count false)
  ((List.range count).filter fun i => listed[i]? = some false).toArray.map (0x4e00 + ·)

/-- The place of a second byte from 0x40 on, where 0x7f is left out. -/
def columnFrom40 (b : Nat) : Nat := if b < 0x7f then b - 0x40 else b - 0x41

/-- The place among added ideographs that two bytes are for. -/
def ideographPlace? (a b : Nat) : Option Nat :=
  if b < 0x40 ∨ b = 0x7f ∨ b = 0xff then none
  else if isFrom 0x81 0xa0 a then some ((a - 0x81) * 190 + columnFrom40 b)
  else if isFrom 0xaa 0xfe a && b ≤ 0xa0 then some (32 * 190 + (a - 0xaa) * 96 + columnFrom40 b)
  else none

/-- A character of simplified Chinese with the ideographs that were added. -/
def ofSimplified (a b : Nat) : Option Char :=
  match a, b with
  | 0xa1, 0xaa => some '—'
  | 0xa1, 0xa4 => some '·'
  | _, _ =>
    (ofHigh simplified a b).or <| (otherSimplified.find? a b).or do
      let place ← ideographPlace? a b
      let code ← addedIdeographs.get[place]?
      some (Char.ofNat code)

/-- The character in a place that other sets leave free. -/
def ofFreePlace (a b : Nat) : Option Char :=
  freePlaces.findSome? fun (row, column, first, count) =>
    if row = a ∧ column ≤ b ∧ b < column + count then some (charOf (first + (b - column))) else none

/-- The code point of a form in four bytes with a number. -/
def fourByteCode? (n : Nat) : Option Nat :=
  if fourByteCount ≤ n then none
  else
    (fourByteRuns.reverse.find? fun (first, _) => first ≤ n).map fun (first, code) => code + (n - first)

/-- A character in four bytes, of which the second and the last are digits. -/
def ofFour (a b c d : Nat) : Option Char :=
  if isFrom 0x81 0xfe a && isFrom 0x81 0xfe c && isFrom 0x30 0x39 d then
    let rest := (b - 0x30) * 1260 + (c - 0x81) * 10 + (d - 0x30)
    if a < 0x85 then (fourByteCode? ((a - 0x81) * 12600 + rest)).map Char.ofNat
    else if 0x90 ≤ a then
      let code := 0x10000 + (a - 0x90) * 12600 + rest
      if code ≤ 0x10ffff then some (Char.ofNat code) else none
    else none
  else none

/-- What is in two or four bytes. -/
def inTwoOrFour : List UInt8 → Piece
  | a :: b :: r =>
    if isFrom 0x30 0x39 b.toNat then
      match r with
      | c :: d :: _ =>
        match ofFour a.toNat b.toNat c.toNat d.toNat with
        | some x => .chars [x] 4
        | none => .wrong 1
      | _ => .short
    else
      match (ofSimplified a.toNat b.toNat).or (ofFreePlace a.toNat b.toNat) with
      | some x => .chars [x] 2
      | none => .wrong 1
  | _ => .short

/-- Letters with two marks, which are two characters. -/
def hongKongPairs : List ((Nat × Nat) × List Char) :=
  [((0x88, 0x62), ['\u00ca', '\u0304']), ((0x88, 0x64), ['\u00ca', '\u030c']),
    ((0x88, 0xa3), ['\u00ea', '\u0304']), ((0x88, 0xa5), ['\u00ea', '\u030c'])]

/-- Characters of Hong Kong, which take the place of some others. -/
def ofHongKong (a b : Nat) : Option (List Char) :=
  let isReplaced := isFrom 0xc6 0xc8 a && !(a = 0xc6 && b < 0xa1)
  let common := if isReplaced then none else traditional.find? a b
  (alone (common.or (hongKong.find? a b))).or (hongKongPairs.lookup (a, b))

/-! ## Japanese -/

/-- The row and the column that two bytes are for. Two rows share a first
byte; rows begin at 0x21. -/
def rowColumn? (a b : Nat) : Option (Nat × Nat) :=
  if b < 0x40 ∨ b = 0x7f ∨ 0xfc < b then none
  else
    let column := columnFrom40 b
    let row := 2 * (if a < 0xe0 then a - 0x81 else a - 0xc1)
    some (if column < 94 then (row + 0x21, column + 0x21) else (row + 0x22, column - 94 + 0x21))

/-- A kana of half the width in one byte. -/
def ofKanaByte (b : Nat) : Option Char := if isFrom 0xa1 0xdf b then some (Char.ofNat (0xfec0 + b)) else none

/-- Whether a byte is the first of two where rows share bytes. -/
def leadsRows (a : Nat) : Bool := isFrom 0x81 0x9f a || isFrom 0xe0 0xfc a

/-- Which edition of the extended characters of Japanese is meant. -/
inductive Edition
  | first
  | second
  deriving DecidableEq, Repr

/-- Places that only the second edition has a character in. In the first one
they are known to be no characters. -/
def addedPlaces : List (Nat × Nat) :=
  [(0x2e, 0x21), (0x2f, 0x7e), (0x4f, 0x54), (0x4f, 0x7e), (0x74, 0x27), (0x7e, 0x7a), (0x7e, 0x7b),
    (0x7e, 0x7c), (0x7e, 0x7d), (0x7e, 0x7e)]

/-- Rows with characters that are written as two: the row, the first column,
the first characters, and what follows each. -/
def pairRows : List (Nat × Nat × String × String) :=
  [(0x24, 0x77, "かきくけこ", "\u309a\u309a\u309a\u309a\u309a"),
    (0x25, 0x77, "カキクケコセツト", "\u309a\u309a\u309a\u309a\u309a\u309a\u309a\u309a"), (0x26, 0x78, "ㇷ", "\u309a"),
    (0x2b, 0x44, "æ", "\u0300"),
    (0x2b, 0x48, "ɔɔʌʌəəɚɚ", "\u0300\u0301\u0300\u0301\u0300\u0301\u0300\u0301"),
    (0x2b, 0x65, "\u02e9\u02e5", "\u02e5\u02e9")]

def ofPairRows (row column : Nat) : Option (List Char) :=
  pairRows.findSome? fun (r, c, firsts, seconds) =>
    if r = row ∧ c ≤ column then do
      return [← firsts.toList[column - c]?, ← seconds.toList[column - c]?]
    else none

def isAdded (e : Edition) (row column : Nat) : Bool := e = .first && addedPlaces.contains (row, column)

/-- Characters of Japanese with those that fill the grid. -/
def ofExtended (e : Edition) (row column : Nat) : Option (List Char) :=
  if isAdded e row column then none
  else (alone ((japanese.find? row column).or (extension.find? row column))).or (ofPairRows row column)

/-- The same where a backslash and a tilde are not wide. -/
def ofExtendedNarrow (e : Edition) (row column : Nat) : Option (List Char) :=
  match row, column with
  | 0x21, 0x40 => some ['\\']
  | 0x22, 0x32 => some ['~']
  | _, _ => ofExtended e row column

/-- Characters of the second grid, of which one changed its form. -/
def ofSecondPlane (e : Edition) (row column : Nat) : Option Char :=
  if e = .first ∧ row = 0x7d ∧ column = 0x3b then some '鬝' else secondPlane.find? row column

/-- The row of the second grid that comes behind the rows of the first one. -/
def secondRow (row : Nat) : Nat :=
  let place := row - 0x21
  if 0x67 ≤ place then place + 7
  else if 0x63 ≤ place ∨ place = 0x5f then place - 0x37
  else place - 0x3d

/-- Characters in one byte or in two of shared rows. -/
def inSharedRows (isWrong : Nat → Nat → Bool) (pair : Nat → Nat → Option (List Char)) : List UInt8 → Piece
  | [] => .short
  | a :: r =>
    match ofKanaByte a.toNat with
    | some c => .chars [c] 1
    | none =>
      if leadsRows a.toNat then
        inTwoOr (fun a b => (rowColumn? a b).any fun (row, column) => isWrong row column)
          (fun a b => (rowColumn? a b).bind fun (row, column) => pair row column) (a :: r)
      else .wrong 1

/-- Characters in one byte, among them those that take the place of two of ASCII, or in two. -/
def inExtendedRows (e : Edition) : List UInt8 → Piece
  | [] => .short
  | 0x5c :: _ => .chars ['¥'] 1
  | 0x7e :: _ => .chars ['‾'] 1
  | b :: r =>
    let pair (row column : Nat) :=
      if row < 0x7f then ofExtendedNarrow e row column
      else alone (ofSecondPlane e (secondRow row) column)
    singleUpTo 0x7f (inSharedRows (isAdded e) pair) (b :: r)

/-- A character of one vendor in two bytes. -/
def ofVendorJapanese (a b : Nat) : Option Char :=
  (vendorJapanese.find? a b).or do
    let (row, column) ← rowColumn? a b
    if isFrom 0x81 0x9f a || isFrom 0xe0 0xea a then japanese.find? row column
    else if isFrom 0xf0 0xf9 a then some (charOf (0xe000 + 188 * (a - 0xf0) + columnFrom40 b))
    else none

/-- Characters of one vendor in one or two bytes. -/
def inVendorJapanese : List UInt8 → Piece
  | [] => .short
  | a :: r =>
    match ofKanaByte a.toNat with
    | some c => .chars [c] 1
    | none =>
      if a = 0xa0 then .chars ['\uf8f0'] 1
      else if 0xfd ≤ a.toNat then .chars [charOf (0xf8f1 + (a.toNat - 0xfd))] 1
      else inTwo (fun a b => alone (ofVendorJapanese a b)) (a :: r)

/-- Characters of a grid in two bytes, kana in two and other characters in three. -/
def inMarkedBytes (isWrong : Nat → Nat → Bool) (pair supplement : Nat → Nat → Option (List Char)) :
    List UInt8 → Piece
  | 0x8e :: r =>
    match r with
    | [] => .short
    | b :: _ =>
      match ofKanaByte b.toNat with
      | some c => .chars [c] 2
      | none => .wrong 1
  | 0x8f :: r =>
    match r with
    | a :: b :: _ =>
      match supplement a.toNat b.toNat with
      | some cs => .chars cs 3
      | none => .wrong 1
    | _ => .short
  | r => inTwoOr isWrong pair r

/-- A pair of bytes with the highest bit set, as a row and a column. -/
def withHigh (pair : Nat → Nat → Option (List Char)) (a b : Nat) : Option (List Char) :=
  if 0x80 ≤ a ∧ 0x80 ≤ b then pair (a - 0x80) (b - 0x80) else none

/-- What extended Japanese begins with: rarer characters of either kind are in three bytes. -/
def inExtendedBytes (e : Edition) : List UInt8 → Piece :=
  inMarkedBytes (fun a b => 0x80 ≤ a && 0x80 ≤ b && isAdded e (a - 0x80) (b - 0x80))
    (withHigh (ofExtended e)) (withHigh fun row column =>
      alone ((ofSecondPlane e row column).or (supplement.find? row column)))

/-! ## Korean -/

/-- Syllables beyond those of the grid, in order. -/
def addedSyllables : Thunk (Array Nat) := Thunk.mk fun _ =>
  let count := 11172
  let listed := korean.chars.foldl (fun (marks : Array Bool) c =>
    if 0xac00 ≤ c.toNat then marks.setIfInBounds (c.toNat - 0xac00) true else marks)
    (Array.replicate count false)
  ((List.range count).filter fun i => listed[i]? = some false).toArray.map (0xac00 + ·)

/-- The place of a second byte among letters and bytes beyond ASCII. -/
def letterColumn? (b : Nat) : Option Nat :=
  if isFrom 0x41 0x5a b then some (b - 0x41)
  else if isFrom 0x61 0x7a b then some (b - 0x61 + 26)
  else if isFrom 0x81 0xfe b then some (b - 0x81 + 52)
  else none

/-- A syllable beyond those of the grid. -/
def ofAddedSyllable (a b : Nat) : Option Char := do
  let column ← letterColumn? b
  let place ←
    if isFrom 0x81 0xa0 a then some ((a - 0x81) * 178 + column)
    else if isFrom 0xa1 0xc6 a && b ≤ 0xa0 then some (32 * 178 + (a - 0xa1) * 84 + column)
    else none
  let code ← addedSyllables.get[place]?
  some (Char.ofNat code)

/-- The syllable of an initial sound, a vowel and a final sound. -/
def syllable (initial vowel final : Nat) : Char := Char.ofNat (0xac00 + (initial * 21 + vowel) * 28 + final)

/-- The consonants, in order, that begin a syllable. -/
def initialPlaces : List Nat :=
  [0, 1, 3, 6, 7, 8, 16, 17, 18, 20, 21, 22, 23, 24, 25, 26, 27, 28, 29]

/-- The consonants, in order, that end a syllable. -/
def finalPlaces : List Nat :=
  [0, 1, 2, 3, 4, 5, 6, 8, 9, 10, 11, 12, 13, 14, 15, 16, 17, 19, 20, 21, 22, 23, 25, 26, 27, 28, 29]

/-- A syllable that is put together from letters, each in two bytes behind a filler. -/
def inEight : List UInt8 → Piece
  | 0xa4 :: 0xd4 :: 0xa4 :: a :: 0xa4 :: b :: 0xa4 :: c :: _ =>
    let built : Option Char := do
      let initial ← if 0xa1 ≤ a.toNat then initialPlaces.idxOf? (a.toNat - 0xa1) else none
      let vowel ← if isFrom 0xbf 0xd3 b.toNat then some (b.toNat - 0xbf) else none
      let final ←
        if c = 0xd4 then some 0
        else if 0xa1 ≤ c.toNat then (finalPlaces.idxOf? (c.toNat - 0xa1)).map (· + 1)
        else none
      some (syllable initial vowel final)
    match built with
    | some x => .chars [x] 8
    | none => .wrong 1
  | r => if r.length < 8 then .short else .wrong 1

/-- What Korean begins with, where a filler stands in front of letters. -/
def inKorean : List UInt8 → Piece
  | 0xa4 :: 0xd4 :: r => inEight (0xa4 :: 0xd4 :: r)
  | r => inTwo (fun a b => alone (ofHigh korean a b)) r

/-- A sound of five bits: none, or one of a list. -/
inductive Sound
  | empty
  | place (n : Nat)
  deriving DecidableEq, Repr

/-- The sound in five bits: `none` is no sound. Ranges of bits are for sounds in order. -/
def sound? (empty : Nat) (ranges : List (Nat × Nat × Nat)) (bits : Nat) : Option Sound :=
  if bits = empty then some .empty
  else ranges.findSome? fun (low, high, first) =>
    if isFrom low high bits then some (.place (first + (bits - low))) else none

def initialSound? : Nat → Option Sound := sound? 1 [(2, 20, 0)]

def vowelSound? : Nat → Option Sound :=
  sound? 2 [(3, 7, 0), (10, 15, 5), (18, 23, 11), (26, 29, 17)]

def finalSound? : Nat → Option Sound := sound? 1 [(2, 17, 1), (19, 29, 17)]

/-- The letter in a place among the consonants. -/
def consonant (places : List Nat) (n : Nat) : Option Char :=
  places[n]?.map fun place => Char.ofNat (0x3131 + place)

/-- A syllable whose sounds take five bits each, or a letter. -/
def ofSounds (a b : Nat) : Option Char := do
  let bits := a * 256 + b
  let initial ← initialSound? (bits / 1024 % 32)
  let vowel ← vowelSound? (bits / 32 % 32)
  let final ← finalSound? (bits % 32)
  match initial, vowel, final with
  | .empty, .empty, .empty => some '\u3000'
  | .empty, .empty, .place n => consonant finalPlaces (n - 1)
  | .empty, .place n, .empty => some (Char.ofNat (0x314f + n))
  | .empty, .place _, .place _ => none
  | .place n, .empty, .empty => consonant initialPlaces n
  | .place _, .empty, .place _ => none
  | .place i, .place v, .empty => some (syllable i v 0)
  | .place i, .place v, .place f => some (syllable i v f)

/-- A character of the grid that is no letter of Korean, in shared rows. -/
def ofSharedRows (a b : Nat) : Option Char :=
  if a = 0xdf ∨ 0xf9 < a ∨ a < 0xd9 ∨ b < 0x31 ∨ isFrom 0x80 0x90 b ∨ b % 0x80 = 0x7f
      ∨ (a = 0xda ∧ isFrom 0xa1 0xd3 b) then none
  else
    let row := if a < 0xe0 then 2 * (a - 0xd9) else 2 * a - 0x197
    let column := if b < 0x91 then b - 0x31 else b - 0x43
    if column < 94 then korean.find? (row + 0x21) (column + 0x21)
    else korean.find? (row + 0x22) (column - 94 + 0x21)

/-! ## All of them -/

/-- What bytes begin with, for the sets that do not switch. -/
def eastAsianPiece : EastAsian → List UInt8 → Piece
  | .gb2312 => singleUpTo 0x7f (inTwo fun a b => alone (ofHigh simplified a b))
  | .gbk => singleUpTo 0x7f (inTwo fun a b => alone (ofSimplified a b))
  | .gb18030 => singleUpTo 0x7f inTwoOrFour
  | .big5 => singleUpTo 0x7f (inTwo fun a b => alone (traditional.find? a b))
  | .windows950 => singleUpTo 0x7f (inTwo fun a b =>
      alone ((vendorTraditional.find? a b).or (traditional.find? a b)))
  | .big5Extended => singleUpTo 0x7f (inTwo ofHongKong)
  | .windows932 => singleUpTo 0x80 inVendorJapanese
  | .shiftJis => singleUpTo 0x7f (inSharedRows neverWrong fun row column => alone (japanese.find? row column))
  | .shiftJis2000 => inExtendedRows .first
  | .shiftJis2004 => inExtendedRows .second
  | .extendedJapanese => singleUpTo 0x7f (inMarkedBytes neverWrong (fun a b => alone (ofHigh japanese a b))
      fun a b => alone (ofHigh supplement a b))
  | .extendedJapanese2000 => singleUpTo 0x7f (inExtendedBytes .first)
  | .extendedJapanese2004 => singleUpTo 0x7f (inExtendedBytes .second)
  | .extendedKorean => singleUpTo 0x7f inKorean
  | .windows949 => singleUpTo 0x7f (inTwo fun a b =>
      alone ((ofHigh korean a b).or (ofAddedSyllable a b)))
  | .johab => singleUpTo 0x7f (inTwo fun a b => alone (if a < 0xd8 then ofSounds a b else ofSharedRows a b))
  | _ => fun _ => .wrong 1

end ScriptGrader.Text.Charset
