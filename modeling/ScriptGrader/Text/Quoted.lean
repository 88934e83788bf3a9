import ScriptGrader.Text.Printable

/-!
# Quoted text

A text is shown between quotes: single ones, or double ones when it has a
single quote and no double one. A backslash and the quote in use are
escaped, three controls have letters of their own, and every other
character that is not printable is written by its code in two, four or
eight hexadecimal digits.
-/

namespace ScriptGrader.Text

/-- A hexadecimal digit in lower case. -/
def hexDigit (n : Nat) : Char := Nat.digitChar n

/-- The last `width` hexadecimal digits of a number. -/
def hex (width n : Nat) : List Char :=
  match width with
  | 0 => []
  | w + 1 => hex w (n / 16) ++ [hexDigit (n % 16)]

/-- One character between quotes of the given kind. -/
def quoteChar (quote c : Char) : List Char :=
  if c = '\\' then ['\\', '\\']
  else if c = quote then ['\\', quote]
  else if c = '\n' then ['\\', 'n']
  else if c = '\r' then ['\\', 'r']
  else if c = '\t' then ['\\', 't']
  else if isPrintable c then [c]
  else if c.toNat < 0x100 then '\\' :: 'x' :: hex 2 c.toNat
  else if c.toNat < 0x10000 then '\\' :: 'u' :: hex 4 c.toNat
  else '\\' :: 'U' :: hex 8 c.toNat

/-- The quote that a text is shown between. -/
def quoteFor (cs : List Char) : Char :=
  if cs.contains '\'' && !cs.contains '"' then '"' else '\''

/-- A text between quotes. -/
def quoted (s : String) : String :=
  let cs := s.toList
  let q := quoteFor cs
  String.ofList ([q] ++ cs.flatMap (quoteChar q) ++ [q])

/-- One byte between quotes of the given kind; only printable ASCII is shown as it is. -/
def quoteByte (quote : Char) (b : UInt8) : List Char :=
  let c := Char.ofNat b.toNat
  if c = '\\' then ['\\', '\\']
  else if c = quote then ['\\', quote]
  else if c = '\n' then ['\\', 'n']
  else if c = '\r' then ['\\', 'r']
  else if c = '\t' then ['\\', 't']
  else if 0x20 ≤ b.toNat && b.toNat < 0x7f then [c]
  else '\\' :: 'x' :: hex 2 b.toNat

/-- Bytes between quotes, marked by a `b`. -/
def quotedBytes (bs : List UInt8) : String :=
  let q := quoteFor (bs.map fun b => Char.ofNat b.toNat)
  String.ofList (['b', q] ++ bs.flatMap (quoteByte q) ++ [q])

/-! ## Texts that have to be ASCII

Where a text that is not ASCII stops being so, and how that is told. -/

/-- Where the first run of characters beyond ASCII begins, and the run. -/
def beyondAscii (cs : List Char) : Nat × List Char :=
  let before := cs.takeWhile (·.toNat < 128)
  (before.length, (cs.drop before.length).takeWhile (128 ≤ ·.toNat))

/-- A character by its code, in as few digits as fit. -/
def codeText (c : Char) : String :=
  let n := c.toNat
  String.ofList ('\\' ::
    (if n < 0x100 then 'x' :: hex 2 n
      else if n < 0x10000 then 'u' :: hex 4 n
      else 'U' :: hex 8 n))

/-- What is wrong with a text in which a run beyond ASCII begins at a position. -/
def asciiDetail (position : Nat) (run : List Char) : String :=
  let what :=
    match run with
    | [c] => s!"character '{codeText c}' in position {position}"
    | _ => s!"characters in position {position}-{position + run.length - 1}"
  s!"'ascii' codec can't encode {what}: ordinal not in range(128)"

end ScriptGrader.Text
