import ScriptGrader.Markup.Declaration
import ScriptGrader.Markup.EncodingName
import ScriptGrader.Text.Utf8

/-!
# Encodings of documents

The first bytes of a document tell whether its characters take one byte or
two; its declaration may name the encoding. Bytes that are no character of
a document end the text.
-/

namespace ScriptGrader.Markup

/-- The characters that bytes hold up to an end. -/
structure Decoded where
  chars : List Char
  ending : Ending
  deriving Repr

/-- A way to write characters as bytes. -/
inductive Encoding
  | utf8
  | utf16 (isLittle : Bool)
  | latin1
  /-- One byte for each character; some bytes are none. -/
  | singleByte (char? : UInt8 → Option Char)

namespace Encoding

/-- Why bytes are no character. -/
inductive Flaw
  /-- Their first byte may or may not begin a character of several. -/
  | invalid (isLong : Bool)
  | cut

/-- What comes of some bytes: a character and the bytes behind it. -/
abbrev Step := Except Flaw (Char × List UInt8)

/-- A byte that only an overlong form could begin with counts as a beginning
at the very end. -/
def utf8Step (b : UInt8) (r : List UInt8) : Step :=
  if b.toNat < 0x80 then .ok (Char.ofNat b.toNat, r)
  else
    match Text.leadByte? b with
    | none =>
      let isLong := b = 0xc0 ∨ b = 0xc1
      .error (if isLong ∧ r.isEmpty then .cut else .invalid isLong)
    | some (more, low, high, bits) =>
      if r.length < more then .error .cut
      else
        match Text.continuation more low high bits 1 r with
        | .ok (code, rest) => .ok (Char.ofNat code, rest)
        | .error _ => .error (.invalid true)

/-- A number of two bytes. -/
def unit (isLittle : Bool) (a b : UInt8) : Nat :=
  if isLittle then b.toNat * 256 + a.toNat else a.toNat * 256 + b.toNat

/-- A last byte is half a character. Of the second half of a pair only the lower ten bits count, whatever they are in. -/
def utf16Step (isLittle : Bool) (a : UInt8) : List UInt8 → Step
  | [] => .ok (half, [])
  | b :: r =>
    let n := unit isLittle a b
    if n < 0xd800 ∨ 0xe000 ≤ n then .ok (Char.ofNat n, r)
    else if 0xdc00 ≤ n then .error (.invalid false)
    else
      match r with
      | c :: d :: r =>
        .ok (Char.ofNat (0x10000 + (n - 0xd800) * 0x400 + unit isLittle c d % 0x400), r)
      | _ => .error .cut

def step : Encoding → UInt8 → List UInt8 → Step
  | utf8, b, r => utf8Step b r
  | utf16 isLittle, b, r => utf16Step isLittle b r
  | latin1, b, r => .ok (Char.ofNat b.toNat, r)
  | singleByte char?, b, r =>
    match char? b with
    | some c => .ok (c, r)
    | none => .error (.invalid false)

/-- Does a character take two bytes? -/
def isWide : Encoding → Bool
  | utf16 _ => true
  | _ => false

def isUtf8 : Encoding → Bool
  | utf8 => true
  | _ => false

/-- How many bytes a unit takes. -/
def unitSize (e : Encoding) : Nat := if e.isWide then 2 else 1

/-- Is the character half a one at the end of a text? -/
def isHalf (e : Encoding) (c : Char) (rest : List UInt8) (taken : Nat) : Bool :=
  e.isWide && c = half && rest.isEmpty && taken = 1

/-- The characters of bytes. -/
def decode (e : Encoding) (bytes : List UInt8) : Decoded :=
  go bytes.length bytes []
where
  go : Nat → List UInt8 → List Char → Decoded
    | 0, _, done => ⟨done.reverse, .whole⟩
    | _, [], done => ⟨done.reverse, .whole⟩
    | fuel + 1, b :: r, done =>
      let units := (r.length + 1) / e.unitSize
      match e.step b r with
      | .error (.invalid isLong) => ⟨done.reverse, .invalid isLong units⟩
      | .error .cut => ⟨done.reverse, .cut units⟩
      | .ok (c, left) =>
        if isAllowed c || e.isHalf c left (r.length + 1) then go fuel left (c :: done)
        else ⟨done.reverse, .invalid (e.isUtf8 && 0x80 ≤ b.toNat) units⟩

/-! ## Encodings by name -/

def ascii : Encoding :=
  singleByte fun b => if b.toNat < 0x80 then some (Char.ofNat b.toNat) else none

/-- The encoding that takes its characters from a map. -/
def ofMap (m : ByteMap) : Encoding := singleByte fun b => (m[b.toNat]?).join

/-- Does each byte stand for a character? -/
def isPage : Encoding → Bool
  | latin1 => true
  | singleByte _ => true
  | _ => false

/-- The letters of a text that is written so. Where the characters up to
U+00FF are looked up first, the signs among them that look like letters
count. -/
@[reducible] def alphabet : Encoding → Alphabet
  | utf8 => .standard
  | utf16 _ => ⟨true, 0x100, fun c => if c.toNat < 0x10000 then 1 else 2⟩
  | latin1 => ⟨true, 0x100, fun _ => 1⟩
  | singleByte _ => ⟨false, 0x110000, fun _ => 1⟩

/-- Why no use is made of an encoding that a declaration names. -/
inductive Refusal
  /-- What is wrong with the name, where it stands. -/
  | unfit (cause : Cause)
  | unusable (e : Error)
  deriving Repr

/-- The encoding that a declaration names in a document whose first bytes
tell of the encoding `e`. One of the standard names has to go together with
these. -/
def declared (e : Encoding) (name : String) : Except Refusal Encoding :=
  let fitting (fits : Bool) (new : Encoding) : Except Refusal Encoding :=
    if fits then .ok new else .error (.unfit .incorrectEncoding)
  let wide (isLittle : Bool) : Except Refusal Encoding :=
    match e with
    | utf16 little => fitting (little = isLittle) e
    | _ => fitting false e
  match name.toLower with
  | "utf-8" => fitting (!e.isWide) utf8
  | "iso-8859-1" => fitting (!e.isWide) latin1
  | "us-ascii" => fitting (!e.isWide) ascii
  | "utf-16" => fitting e.isWide e
  | "utf-16be" => wide false
  | "utf-16le" => wide true
  | _ =>
    match Naming.ofName name with
    | .bytes m => .ok (ofMap m)
    | .unfit => .error (.unfit .unknownEncoding)
    | .unusable e => .error (.unusable e)

/-- The encoding of which the first bytes of a document tell. -/
def ofFirst : List UInt8 → Encoding
  | 0xfe :: 0xff :: _ => utf16 false
  | 0xff :: 0xfe :: _ => utf16 true
  | 0 :: _ :: _ => utf16 false
  | _ :: 0 :: _ => utf16 true
  | _ => utf8

end Encoding
end ScriptGrader.Markup
