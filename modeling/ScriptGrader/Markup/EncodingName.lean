import ScriptGrader.Markup.Character
import ScriptGrader.Markup.Error
import ScriptGrader.Text.Charset

/-!
# Names of encodings

What a document's declaration may name besides the standard encodings: a
way to write texts in which every character is one byte and those that
markup needs have the bytes that they have in ASCII. Of others no use is
made, for reasons that differ.
-/

namespace ScriptGrader.Markup

/-- Each byte's character, as far as a document can use it. -/
abbrev ByteMap := Array (Option Char)

namespace ByteMap

/-- The characters of ASCII. -/
def ascii : ByteMap := ((List.range 0x80).map fun n => some (Char.ofNat n)).toArray

/-- The characters up to U+00FF. -/
def latin : ByteMap := ((List.range 0x100).map fun n => some (Char.ofNat n)).toArray

/-- Does markup use the character? -/
def isNeeded (n : Nat) : Bool :=
  let c := Char.ofNat n
  n < 0x80 && (isSpace c || isLetter c || isDigit c || "!\"#%&'()*+,-./:;<=>?[]_|".toList.contains c)

/-- Is every character that markup uses where it is in ASCII, and only there? -/
def isUsable (m : ByteMap) : Bool :=
  m.toList.zipIdx.all fun (c?, n) =>
    match c? with
    | none => true
    | some c => c.toNat = n || !(isNeeded n || isNeeded c.toNat)

end ByteMap

/-- What is made of the name of an encoding. -/
inductive Naming
  | bytes (map : ByteMap)
  /-- The name is at fault where it stands. -/
  | unfit
  /-- The encoding cannot be used at all. -/
  | unusable (e : Error)
  deriving Repr

namespace Naming

/-- What is made of a name that is not one of the standard ones. An
encoding is tried on every single byte, so those that only now and then
take several bytes count as ASCII. -/
def ofName (name : String) : Naming :=
  match Text.Charset.ofName? name with
  | none => unusable (.unknownEncoding name)
  | some (.page p) => if ByteMap.isUsable p.chars then bytes p.chars else unfit
  | some .utf8 | some .markedUtf8 => bytes .ascii
  | some .escapes | some .fewEscapes => bytes .latin
  | some (.eastAsian e) =>
    match e with
    | .japanese | .japanese1 | .japanese2 | .japanese3 | .japanese2004 | .japaneseExtended =>
      bytes .ascii
    | .hz => bytes (ByteMap.ascii.setIfInBounds '~'.toNat none)
    | _ => unusable .multiByteEncoding
  | some (.utf16 _) | some (.utf32 _) | some .utf7 => unusable .multiByteEncoding
  | some .punycode => unusable (.byteBeyondAscii 0x80 82)
  | some .hostNames => unusable (.failedEncoding name "Unsupported error handling replace")
  | some .undefined => unusable (.failedEncoding name "undefined encoding")
  | some .letters | some .bytes => unusable (.encodingOfBytes name)

end Naming
end ScriptGrader.Markup
