/-!
# Errors of markup

Why a text is no document, and where. A line is counted from one and a
column from zero; a carriage return with a line feed ends one line.
-/

namespace ScriptGrader.Markup

/-- What is wrong. -/
inductive Cause
  | unexpected
  | noElement
  | invalidToken
  | unclosedToken
  | partialCharacter
  | mismatchedTag
  | duplicateAttribute
  | junkAfterRoot
  | parameterEntity
  | undefinedEntity
  | recursiveEntity
  | unbalancedEntity
  | invalidCharacterNumber
  | binaryEntity
  | externalEntityInValue
  | misplacedDeclaration
  | incorrectEncoding
  | unknownEncoding
  | unclosedSection
  /-- Entities make the document too large. -/
  | overgrown
  | unboundLabel
  | undeclaredLabel
  | malformedDeclaration
  | invalidPublicId
  | reservedXml
  | reservedXmlns
  | reservedSpace
  /-- An entity that is not known because its declarations were not read. -/
  | skippedEntity (name : String)
  deriving DecidableEq, Repr

namespace Cause

def text : Cause → String
  | unexpected => "syntax error"
  | noElement => "no element found"
  | invalidToken => "not well-formed (invalid token)"
  | unclosedToken => "unclosed token"
  | partialCharacter => "partial character"
  | mismatchedTag => "mismatched tag"
  | duplicateAttribute => "duplicate attribute"
  | junkAfterRoot => "junk after document element"
  | parameterEntity => "illegal parameter entity reference"
  | undefinedEntity => "undefined entity"
  | recursiveEntity => "recursive entity reference"
  | unbalancedEntity => "asynchronous entity"
  | invalidCharacterNumber => "reference to invalid character number"
  | binaryEntity => "reference to binary entity"
  | externalEntityInValue => "reference to external entity in attribute"
  | misplacedDeclaration => "XML or text declaration not at start of entity"
  | unknownEncoding => "unknown encoding"
  | incorrectEncoding => "encoding specified in XML declaration is incorrect"
  | unclosedSection => "unclosed CDATA section"
  | overgrown => "limit on input amplification factor (from DTD and entities) breached"
  | unboundLabel => "unbound prefix"
  | undeclaredLabel => "must not undeclare prefix"
  | malformedDeclaration => "XML declaration not well-formed"
  | invalidPublicId => "illegal character(s) in public id"
  | reservedXml => "reserved prefix (xml) must not be undeclared or bound to another namespace name"
  | reservedXmlns => "reserved prefix (xmlns) must not be declared or undeclared"
  | reservedSpace => "prefix must not be bound to one of the reserved namespace names"
  | skippedEntity name => s!"undefined entity &{name};"

end Cause

/-- A place in a text. -/
structure Place where
  line : Nat
  column : Nat
  deriving DecidableEq, Repr

namespace Place

/-- The place behind a text that begins at a place. -/
def after (p : Place) : List Char → Place
  | [] => p
  | '\r' :: '\n' :: r => after ⟨p.line + 1, 0⟩ r
  | '\r' :: r => after ⟨p.line + 1, 0⟩ r
  | '\n' :: r => after ⟨p.line + 1, 0⟩ r
  | _ :: r => after ⟨p.line, p.column + 1⟩ r

def start : Place := ⟨1, 0⟩

end Place

/-- Why a text is no document. -/
inductive Error
  | malformed (cause : Cause) (place : Place)
  /-- An encoding that is not known. -/
  | unknownEncoding (name : String)
  /-- An encoding in which a character may take several bytes. -/
  | multiByteEncoding
  /-- An encoding of something other than text. -/
  | encodingOfBytes (name : String)
  /-- An encoding that fails on any text. -/
  | failedEncoding (name reason : String)
  /-- An encoding that needs ASCII met another byte. -/
  | byteBeyondAscii (byte position : Nat)
  deriving DecidableEq, Repr

namespace Error

def message : Error → String
  | malformed c p => s!"{c.text}: line {p.line}, column {p.column}"
  | unknownEncoding name => s!"unknown encoding: {name}"
  | multiByteEncoding => "multi-byte encodings are not supported"
  | encodingOfBytes name =>
    s!"'{name}' is not a text encoding; use codecs.decode() to handle arbitrary codecs"
  | failedEncoding name reason => s!"decoding with '{name}' codec failed (UnicodeError: {reason})"
  | byteBeyondAscii byte position =>
    s!"'ascii' codec can't decode byte 0x{String.ofList (Nat.toDigits 16 byte)} in position {position}: ordinal not in range(128)"

end Error
end ScriptGrader.Markup
