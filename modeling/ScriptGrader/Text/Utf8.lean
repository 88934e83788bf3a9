import ScriptGrader.Text.Quoted

/-!
# Text files

A text file holds UTF-8. Decoding is strict: the first byte that does not
continue a character is an error, which names the offending bytes. Three
spellings of the end of a line are read as one.
-/

namespace ScriptGrader.Text

/-- Why bytes are not UTF-8: where, how many bytes, and what is wrong. -/
inductive Utf8Error
  /-- No character starts with this byte. -/
  | invalidStart (byte : UInt8) (position : Nat)
  /-- A character that is not continued: `count` bytes of it are there. -/
  | invalidContinuation (byte : UInt8) (position count : Nat)
  /-- The bytes end inside a character. -/
  | unexpectedEnd (byte : UInt8) (position count : Nat)
  deriving DecidableEq, Repr

namespace Utf8Error

/-- The place: one byte by its value, several by their first and last position. -/
def place (byte : UInt8) (position count : Nat) : String :=
  if count ≤ 1 then
    s!"byte 0x{String.ofList (hex 2 byte.toNat)} in position {position}"
  else s!"bytes in position {position}-{position + count - 1}"

def message : Utf8Error → String
  | .invalidStart b p => s!"'utf-8' codec can't decode {place b p 1}: invalid start byte"
  | .invalidContinuation b p n =>
    s!"'utf-8' codec can't decode {place b p n}: invalid continuation byte"
  | .unexpectedEnd b p n =>
    s!"'utf-8' codec can't decode {place b p n}: unexpected end of data"

end Utf8Error

/-- What the first byte of a character promises: how many more bytes, the
bounds of the second byte, and the bits it gives. -/
def leadByte? (b : UInt8) : Option (Nat × Nat × Nat × Nat) :=
  let n := b.toNat
  if n < 0xc2 then none
  else if n < 0xe0 then some (1, 0x80, 0xbf, n - 0xc0)
  else if n = 0xe0 then some (2, 0xa0, 0xbf, 0)
  else if n = 0xed then some (2, 0x80, 0x9f, 0xd)
  else if n < 0xf0 then some (2, 0x80, 0xbf, n - 0xe0)
  else if n = 0xf0 then some (3, 0x90, 0xbf, 0)
  else if n < 0xf4 then some (3, 0x80, 0xbf, n - 0xf0)
  else if n = 0xf4 then some (3, 0x80, 0x8f, 4)
  else none

/-- The rest of a character: `more` bytes, the next one within bounds. -/
def continuation (more low high code count : Nat) :
    List UInt8 → Except Nat (Nat × List UInt8)
  | [] => if more = 0 then .ok (code, []) else .error count
  | b :: r =>
    match more with
    | 0 => .ok (code, b :: r)
    | m + 1 =>
      if low ≤ b.toNat && b.toNat ≤ high then
        continuation m 0x80 0xbf (code * 64 + (b.toNat - 0x80)) (count + 1) r
      else .error count

/-- The characters of bytes in UTF-8; `position` counts the bytes before them. -/
def decodeFrom (position : Nat) (bytes : List UInt8) : Except Utf8Error (List Char) :=
  go bytes.length position bytes []
where
  go : Nat → Nat → List UInt8 → List Char → Except Utf8Error (List Char)
    | _, _, [], done => .ok done.reverse
    | 0, _, _ :: _, done => .ok done.reverse
    | fuel + 1, pos, b :: r, done =>
      if b.toNat < 0x80 then go fuel (pos + 1) r (Char.ofNat b.toNat :: done)
      else
        match leadByte? b with
        | none => .error (.invalidStart b pos)
        | some (more, low, high, bits) =>
          match continuation more low high bits 1 r with
          | .ok (code, rest) => go fuel (pos + more + 1) rest (Char.ofNat code :: done)
          | .error count =>
            if r.length + 1 ≤ count then .error (.unexpectedEnd b pos count)
            else .error (.invalidContinuation b pos count)

/-- The text that bytes hold in UTF-8. -/
def decode (bytes : List UInt8) : Except Utf8Error String :=
  (decodeFrom 0 bytes).map String.ofList

/-- The UTF-8 bytes of a text. -/
def encode (s : String) : List UInt8 := s.toUTF8.toList

/-- Every spelling of the end of a line becomes a line feed. -/
def universalNewlines : List Char → List Char
  | [] => []
  | '\r' :: '\n' :: r => '\n' :: universalNewlines r
  | '\r' :: r => '\n' :: universalNewlines r
  | c :: r => c :: universalNewlines r

@[simp]
theorem universalNewlines_nil : universalNewlines [] = [] := rfl

@[simp]
theorem universalNewlines_pair (r : List Char) :
    universalNewlines ('\r' :: '\n' :: r) = '\n' :: universalNewlines r := rfl

/-- What is no carriage return is kept. -/
theorem universalNewlines_cons {c : Char} (hc : c ≠ '\r') (r : List Char) :
    universalNewlines (c :: r) = c :: universalNewlines r := by
  rw [universalNewlines]
  · exact fun r' h => absurd h hc
  · exact hc

/-- A carriage return before no line feed is the end of a line by itself. -/
theorem universalNewlines_return {r : List Char} (hr : ∀ r', r ≠ '\n' :: r') :
    universalNewlines ('\r' :: r) = '\n' :: universalNewlines r := by
  rw [universalNewlines]
  exact hr

/-- No carriage return is left. -/
theorem not_mem_universalNewlines (cs : List Char) : '\r' ∉ universalNewlines cs := by
  induction cs using universalNewlines.induct with
  | case1 => exact List.not_mem_nil
  | case2 r ih => simpa using ih
  | case3 r hfeed ih => simpa [universalNewlines_return hfeed] using ih
  | case4 c r _ hreturn ih =>
    have hc : c ≠ '\r' := fun h => hreturn h
    simpa [universalNewlines_cons hc, hc.symm] using ih

/-- A text file as its reader sees it. -/
def decodeFile (bytes : List UInt8) : Except Utf8Error String :=
  (decodeFrom 0 bytes).map fun cs => String.ofList (universalNewlines cs)

end ScriptGrader.Text
