import ScriptGrader.Text.CharacterName
import ScriptGrader.Text.Charset.Unicode

/-!
# Texts with escapes

Bytes that are characters with the same number, some of which begin
escapes: by a number, by a name, or for a character that is hard to see. An
escape that is cut off or means nothing is replaced.
-/

namespace ScriptGrader.Text.Charset

/-- The value of a hexadecimal digit. -/
def hexValue? (c : Char) : Option Nat :=
  if '0' ≤ c ∧ c ≤ '9' then some (c.toNat - 48)
  else if 'a' ≤ c ∧ c ≤ 'f' then some (c.toNat - 87)
  else if 'A' ≤ c ∧ c ≤ 'F' then some (c.toNat - 55)
  else none

/-- The character with a number of so many hexadecimal digits, and the rest.
Of digits that are too few, all are taken. -/
def hexEscape : (digits code : Nat) → List Char → Char × List Char
  | 0, code, r => (charOf code, r)
  | _ + 1, _, [] => (replacement, [])
  | digits + 1, code, c :: r =>
    match hexValue? c with
    | some d => hexEscape digits (code * 16 + d) r
    | none => (replacement, c :: r)

def isOctalDigit (c : Char) : Bool := '0' ≤ c && c ≤ '7'

/-- The character with a number of up to three octal digits. -/
def octalEscape (cs : List Char) : Char × List Char :=
  let digits := (cs.take 3).takeWhile isOctalDigit
  (charOf (digits.foldl (fun n d => n * 8 + (d.toNat - 48)) 0), cs.drop digits.length)

/-- The character with a name in braces. -/
def nameEscape : List Char → Char × List Char
  | '\x7b' :: r =>
    let name := r.takeWhile (· ≠ '\x7d')
    match r.dropWhile (· ≠ '\x7d') with
    | [] => (replacement, [])
    | brace :: rest =>
      if name.isEmpty then (replacement, brace :: rest)
      else (charOf ((CharacterName.code? (String.ofList name)).getD 0x110000), rest)
  | r => (replacement, r)

/-- Characters that are written as a letter behind a backslash. -/
def lettered : List (Char × Char) :=
  [('\\', '\\'), ('\'', '\''), ('"', '"'), ('b', '\x08'), ('f', '\x0c'), ('t', '\t'), ('n', '\n'),
    ('r', '\r'), ('v', '\x0b'), ('a', '\x07')]

/-- What an escape stands for, after its backslash, and the rest. -/
def escape : List Char → List Char × List Char
  | [] => ([replacement], [])
  | '\n' :: r => ([], r)
  | c :: r =>
    let single (x : Char × List Char) : List Char × List Char := ([x.1], x.2)
    match lettered.lookup c with
    | some d => ([d], r)
    | none =>
      match c with
      | 'x' => single (hexEscape 2 0 r)
      | 'u' => single (hexEscape 4 0 r)
      | 'U' => single (hexEscape 8 0 r)
      | 'N' => single (nameEscape r)
      | _ => if isOctalDigit c then single (octalEscape (c :: r)) else (['\\', c], r)

/-- What an escape by a number stands for; others are none. -/
def numberEscape : List Char → List Char × List Char
  | [] => (['\\'], [])
  | 'u' :: r => ([(hexEscape 4 0 r).1], (hexEscape 4 0 r).2)
  | 'U' :: r => ([(hexEscape 8 0 r).1], (hexEscape 8 0 r).2)
  | c :: r => (['\\', c], r)

/-- A text with its escapes replaced; an escape takes a character at least. -/
def replaceEscapes (escape : List Char → List Char × List Char) (text : List Char) : List Char :=
  go text.length text
where
  go : Nat → List Char → List Char
    | 0, _ => []
    | _, [] => []
    | fuel + 1, '\\' :: r => (escape r).1 ++ go fuel (escape r).2
    | fuel + 1, c :: r => c :: go fuel r

/-- The characters that have the bytes' numbers. -/
def ofNumbers (bytes : List UInt8) : List Char := bytes.map fun b => Char.ofNat b.toNat

end ScriptGrader.Text.Charset
