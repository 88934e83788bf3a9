import ScriptGrader.Text.Charset.EastAsian

/-!
# Characters of East Asia in seven bits

Where all bytes are ASCII, escapes choose the set of characters that the
bytes behind them are of.
-/

namespace ScriptGrader.Text.Charset

open CharGrid

/-! ## Chinese between tildes -/

/-- What bytes begin with, where a tilde and a brace switch between ASCII and Chinese. -/
def tildePiece (isChinese : Bool) : List UInt8 → Piece × Bool
  | [] => (.short, isChinese)
  | 0x7e :: r =>
    match r with
    | [] => (.short, isChinese)
    | b :: _ =>
      match b.toNat, isChinese with
      | 0x7e, false => (.chars ['~'] 2, false)
      | 0x7b, false => (.chars [] 2, true)
      | 0x0a, false => (.chars [] 2, false)
      | 0x7d, true => (.chars [] 2, false)
      | _, _ => (.wrong 1, isChinese)
  | b :: r =>
    if 0x80 ≤ b.toNat then (.wrong 1, isChinese)
    else if isChinese then
      (inTwo (fun row column => alone (simplified.find? row column)) (b :: r), true)
    else (.chars [Char.ofNat b.toNat] 1, false)

/-! ## Sets that escapes choose -/

/-- A set of characters that can be chosen. -/
inductive Subset
  | ascii
  | latin
  | greek
  /-- ASCII with two characters changed. -/
  | roman
  | kana
  | chinese
  | japanese
  | korean
  | supplement
  | extended (e : Edition)
  | secondPlane
  deriving DecidableEq, Repr

namespace Subset

/-- How many bytes a character takes. -/
def width : Subset → Nat
  | ascii | latin | greek | roman | kana => 1
  | _ => 2

/-- The character of bytes that are the first half of a set. The sets that
are the second half of another one have none. -/
def decode (s : Subset) (a b : Nat) : Option (List Char) :=
  match s with
  | ascii => some [Char.ofNat a]
  | latin | greek => none
  | roman => some [if a = 0x5c then '¥' else if a = 0x7e then '‾' else Char.ofNat a]
  | kana => alone (ofKanaByte (a + 0x80))
  | chinese => alone (simplified.find? a b)
  | japanese => alone (CharGrid.japanese.find? a b)
  | korean => alone (CharGrid.korean.find? a b)
  | supplement => alone (CharGrid.supplement.find? a b)
  | extended e => if a = 0x22 ∧ b = 0x32 then some ['~'] else ofExtended e a b
  | secondPlane => alone (CharGrid.secondPlane.find? a b)

/-- The second half of Greek. -/
def greekHalf : String :=
  "\u00a0‘’£��¦§\u00a8©�«¬\u00ad�―°±²³\u0384\u0385Ά·ΈΉΊ»Ό½ΎΏ" ++
  "ΐΑΒΓΔΕΖΗΘΙΚΛΜΝΞΟΠΡ�ΣΤΥΦΧΨΩΪΫάέήίΰαβγδεζηθικλμνξοπρςστυφχψωϊϋόύώ�"

/-- A character of the second half of a set. -/
def decodeHigh (s : Subset) (b : Nat) : Except CharsetError (Option Char) :=
  match s with
  | latin => .ok (if b < 0x80 then some (Char.ofNat (b + 0x80)) else none)
  | greek =>
    if 0x80 ≤ b then .ok (some (Char.ofNat (b - 0x80)))
    else if b < 0x20 then .ok (some (Char.ofNat (b + 0x80)))
    else .ok ((greekHalf.toList[b - 0x20]?).filter (· ≠ '\ufffd'))
  | ascii => .ok (if b < 0x80 then some (Char.ofNat b) else none)
  | _ => .error .unusable

end Subset

/-- How sets are chosen in a way to write texts: the sets by their marks,
where a mark is for a set of one or two bytes. -/
structure Switching where
  sets : List ((Char × Bool) × Subset)
  /-- Whether two bytes shift between the first two sets that are chosen. -/
  canShift : Bool := false
  /-- Whether single characters of a third set can be written. -/
  hasThird : Bool := false
  /-- Whether an escape may have another one in front. -/
  hasRevised : Bool := true

namespace Switching

def oldAndNew : List ((Char × Bool) × Subset) := [(('B', true), .japanese), (('@', true), .japanese)]

def romanSet : (Char × Bool) × Subset := (('J', false), .roman)

def supplementSet : (Char × Bool) × Subset := (('D', true), .supplement)

def koreanSet : (Char × Bool) × Subset := (('C', true), .korean)

/-- The sets of a way that switches. -/
def of? : EastAsian → Option Switching
  | .korean => some { sets := [koreanSet], canShift := true, hasRevised := false }
  | .japanese => some { sets := romanSet :: oldAndNew }
  | .japanese1 => some { sets := supplementSet :: romanSet :: oldAndNew }
  | .japanese2 =>
    some { sets := [supplementSet, koreanSet, (('A', true), .chinese), (('A', false), .latin),
        (('F', false), .greek), romanSet] ++ oldAndNew, hasThird := true }
  | .japanese3 =>
    some { sets := [(('B', true), .japanese), (('O', true), .extended .first), (('P', true), .secondPlane)] }
  | .japanese2004 =>
    some { sets := [(('B', true), .japanese), (('Q', true), .extended .second), (('P', true), .secondPlane)] }
  | .japaneseExtended => some { sets := [supplementSet, romanSet, (('I', false), .kana)] ++ oldAndNew }
  | _ => none

end Switching

/-- The sets that are chosen. -/
structure Chosen where
  sets : Nat → Subset := fun _ => .ascii
  isShifted : Bool := false
  /-- Within an escape that is none of ours. -/
  isInEscape : Bool := false

/-- Whether a byte ends an escape. -/
def endsEscape (b : UInt8) : Bool := isFrom 0x41 0x5a b.toNat || b = 0x40

/-- How long an escape is; zero where it does not end within the limit, and
`none` where the bytes end before. -/
def escapeLength? (hasRevised : Bool) (bytes : List UInt8) : Option Nat :=
  go 16 1
where
  go : Nat → Nat → Option Nat
    | 0, _ => some 0
    | fuel + 1, i =>
      if 16 ≤ i then some 0
      else
        match bytes[i]? with
        | none => none
        | some b =>
          if endsEscape b then some (i + 1)
          else if hasRevised && b = 0x26 && bytes[i + 1]? = some 0x40 then go fuel (i + 3)
          else go fuel (i + 1)

/-- Which of the chosen sets an escape is for, and the mark of the set. -/
def designation? (w : Switching) (escape : List UInt8) : Option (Nat × Char × Bool) :=
  let mark (b : UInt8) : Char := Char.ofNat b.toNat
  match escape.drop 1 with
  | [a, b] =>
    if a = 0x24 then some (0, mark b, true)
    else if a = 0x28 then some (0, mark b, false)
    else if a = 0x29 then some (1, mark b, false)
    else if a = 0x2e && w.hasThird then some (2, mark b, false)
    else none
  | [0x24, a, b] =>
    if a = 0x28 then some (0, mark b, true) else if a = 0x29 then some (1, mark b, true) else none
  | [_, _, 0x1b, 0x24, 0x42] => if w.hasRevised then some (0, 'B', true) else none
  | _ => none

/-- What an escape that chooses a set does. -/
def chooseSet (w : Switching) (c : Chosen) (bytes : List UInt8) : Piece × Chosen :=
  match escapeLength? w.hasRevised bytes with
  | none => (.short, c)
  | some 0 => (.wrong 1, c)
  | some size =>
    match designation? w (bytes.take size) with
    | none => (.wrong size, c)
    | some (place, mark) =>
      let set? := if mark = ('B', false) then some Subset.ascii else w.sets.lookup mark
      match set? with
      | none => (.wrong size, c)
      | some s => (.chars [] size, { c with sets := fun n => if n = place then s else c.sets n })

/-- A character of the third set. -/
def thirdPiece (c : Chosen) : List UInt8 → Piece × Chosen
  | _ :: _ :: b :: _ =>
    match (c.sets 2).decodeHigh b.toNat with
    | .ok (some x) => (.chars [x] 3, c)
    | .ok none => (.wrong 3, c)
    | .error e => (.failed e, c)
  | _ => (.short, c)

/-- What the bytes of a chosen set begin with. -/
def setPiece (c : Chosen) (bytes : List UInt8) : Piece × Chosen :=
  let s := c.sets (if c.isShifted then 1 else 0)
  if bytes.length < s.width then (.short, c)
  else
    let a := (bytes[0]?.getD 0).toNat
    let b := (bytes[1]?.getD 0).toNat
    match s.decode a b with
    | some cs => (.chars cs s.width, c)
    | none => (.wrong s.width, c)

/-- What bytes begin with, where escapes choose sets. -/
def switchingPiece (w : Switching) (c : Chosen) : List UInt8 → Piece × Chosen
  | [] => (.short, c)
  | b :: r =>
    let plain := (Piece.chars [Char.ofNat b.toNat] 1, c)
    if c.isInEscape then
      (.chars [Char.ofNat b.toNat] 1, { c with isInEscape := !endsEscape b })
    else if b = 0x1b then
      match r with
      | [] => (.short, c)
      | d :: _ =>
        if [0x28, 0x29, 0x24, 0x2e, 0x26].contains d then chooseSet w c (b :: r)
        else if w.hasThird && d = 0x4e then thirdPiece c (b :: r)
        else (.chars ['\x1b'] 1, { c with isInEscape := true })
    else if b = 0x0f && w.canShift then (.chars [] 1, { c with isShifted := false })
    else if b = 0x0e && w.canShift then (.chars [] 1, { c with isShifted := true })
    else if b = 0x0a then (.chars ['\n'] 1, { c with isShifted := false })
    else if b.toNat < 0x20 then plain
    else if 0x80 ≤ b.toNat then (.wrong 1, c)
    else setPiece c (b :: r)

/-- The text of bytes in a way to write characters of East Asia. -/
def ofEastAsian (e : EastAsian) (bytes : List UInt8) : Except CharsetError (List Char) :=
  match e, Switching.of? e with
  | .hz, _ => ofPieces tildePiece false bytes
  | _, some w => ofPieces (switchingPiece w) {} bytes
  | _, none => ofPieces (fun (_ : Unit) r => (eastAsianPiece e r, ())) () bytes

end ScriptGrader.Text.Charset
