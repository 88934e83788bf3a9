import ScriptGrader.Text.Charset.Escapes
import ScriptGrader.Text.Charset.Switching
import ScriptGrader.Text.Punycode

/-!
# Decoding texts

The text that bytes stand for in a way to write texts. Bytes that are no
character are replaced, so decoding fails only where the way as a whole
cannot be used.
-/

namespace ScriptGrader.Text

namespace Charset

/-- The text of bytes in a code page. -/
def ofPage (p : CodePage) (bytes : List UInt8) : List Char :=
  let chars := p.chars
  bytes.map fun b => ((chars[b.toNat]?).join).getD replacement

/-- The text of bytes whose order a mark in front tells. Less than one unit is no text. -/
def ofMarked (size bits : Nat) (read : ByteOrder → List UInt8 → List Char) (bytes : List UInt8) :
    Except CharsetError (List Char) :=
  let first := bytes.take size
  if bytes.length < size then .ok (read .little bytes)
  else if ByteOrder.number .little first = 0xfeff then .ok (read .little (bytes.drop size))
  else if ByteOrder.number .big first = 0xfeff then .ok (read .big (bytes.drop size))
  else .error (.noMark bits)

/-- The text of bytes in Punycode. What is in front of the last hyphen is
the ASCII of the text; the numbers behind it have to be ASCII. -/
def ofPunycode (bytes : List UInt8) : Except CharsetError (List Char) :=
  let numbers := (bytes.reverse.takeWhile (· ≠ 45)).reverse
  match numbers.zipIdx.find? fun (b, _) => 0x80 ≤ b.toNat with
  | some (b, position) => .error (.notAscii b position)
  | none =>
    let basic := (bytes.take (bytes.length - numbers.length)).dropLast
    let text := basic.map fun b => if b.toNat < 0x80 then Char.ofNat b.toNat else replacement
    .ok (Punycode.insertAll text (ofNumbers numbers))

/-- The text that bytes stand for. No bytes are no text in any way. -/
def decode (c : Charset) (bytes : List UInt8) : Except CharsetError String :=
  if bytes.isEmpty then .ok ""
  else String.ofList <$>
    match c with
    | page p => .ok (ofPage p bytes)
    | utf8 => .ok (ofUtf8 bytes)
    | markedUtf8 => .ok (ofMarkedUtf8 bytes)
    | utf16 (some order) => .ok (ofUtf16 order bytes)
    | utf16 none => ofMarked 2 16 ofUtf16 bytes
    | utf32 (some order) => .ok (ofUtf32 order bytes)
    | utf32 none => ofMarked 4 32 ofUtf32 bytes
    | utf7 => .ok (ofUtf7 none bytes)
    | escapes => .ok (replaceEscapes escape (ofNumbers bytes))
    | fewEscapes => .ok (replaceEscapes numberEscape (ofNumbers bytes))
    | eastAsian e => ofEastAsian e bytes
    | punycode => ofPunycode bytes
    | hostNames => .error .cannotReplace
    | undefined => .error .undefined
    | letters => .error .notBytes
    | .bytes => .error .notText

end Charset
end ScriptGrader.Text
