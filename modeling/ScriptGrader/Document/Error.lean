import ScriptGrader.Document.Source
import ScriptGrader.Document.Token
import ScriptGrader.Text.Quoted
import ScriptGrader.Value.Calendar

/-!
# Errors of a document

Why a document is refused. Most causes are told with the place where the
problem is and with what was being read, which often has a place of its
own. Two kinds of causes have no place: a file that is not text, and a
scalar that is not of the kind its tag says. There are also documents in
which nothing is wrong, but which hold what no value here is.
-/

namespace ScriptGrader.Document

/-- What was being read. -/
inductive Activity
  | nextToken
  | simpleKey
  | directive
  | directiveLead
  | reference
  | anchor
  | tag
  | tagText
  | blockScalar
  | quotedScalar
  | doubleQuotedScalar
  | node
  | blockNode
  | flowNode
  | blockCollection
  | blockMapping
  | flowSequence
  | flowMapping
  | document
  | firstAnchor (name : String)
  | mapping
  | orderedMap
  | pairs
  deriving DecidableEq, Repr

namespace Activity

def text : Activity → String
  | nextToken => "while scanning for the next token"
  | simpleKey => "while scanning a simple key"
  | directive => "while scanning a directive"
  | directiveLead => "while parsing a directive"
  | reference => "while scanning an alias"
  | anchor => "while scanning an anchor"
  | tag => "while scanning a tag"
  | tagText => "while parsing a tag"
  | blockScalar => "while scanning a block scalar"
  | quotedScalar => "while scanning a quoted scalar"
  | doubleQuotedScalar => "while scanning a double-quoted scalar"
  | node => "while parsing a node"
  | blockNode => "while parsing a block node"
  | flowNode => "while parsing a flow node"
  | blockCollection => "while parsing a block collection"
  | blockMapping => "while parsing a block mapping"
  | flowSequence => "while parsing a flow sequence"
  | flowMapping => "while parsing a flow mapping"
  | document => "expected a single document in the stream"
  | firstAnchor name => s!"found duplicate anchor {Text.quoted name}; first occurrence"
  | mapping => "while constructing a mapping"
  | orderedMap => "while constructing an ordered map"
  | pairs => "while constructing pairs"

end Activity

/-- What should stand in place of a character. -/
inductive Expectation
  | alphanumeric
  | digit
  | digitOrPoint
  | digitOrBlank
  | blank
  | commentOrBreak
  | exclamation
  | closingAngle
  | uri
  | uriEscape
  | hexadecimal (count : Nat)
  | blockIndicator
  deriving DecidableEq, Repr

namespace Expectation

def text : Expectation → String
  | alphanumeric => "expected alphabetic or numeric character"
  | digit => "expected a digit"
  | digitOrPoint => "expected a digit or '.'"
  | digitOrBlank => "expected a digit or ' '"
  | blank => "expected ' '"
  | commentOrBreak => "expected a comment or a line break"
  | exclamation => "expected '!'"
  | closingAngle => "expected '>'"
  | uri => "expected URI"
  | uriEscape => "expected URI escape sequence of 2 hexadecimal numbers"
  | hexadecimal n => s!"expected escape sequence of {n} hexadecimal numbers"
  | blockIndicator => "expected chomping or indentation indicators"

end Expectation

/-- The shape of a node. -/
inductive Shape
  | scalar
  | sequence
  | mapping
  deriving DecidableEq, Repr

namespace Shape

def name : Shape → String
  | scalar => "scalar"
  | sequence => "sequence"
  | mapping => "mapping"

end Shape

/-- What is wrong. -/
inductive Problem
  | expected (what : Expectation) (found : Char)
  | noKeyMark
  | cannotStart (c : Char)
  | sequenceEntry
  | mappingKey
  | mappingValue
  | noIndentation
  | unknownEscape (c : Char)
  | invalidEscape (e : Text.Utf8Error)
  | endOfStream
  | documentSeparator
  | nodeContent (found : TokenKind)
  | blockEnd (found : TokenKind)
  | sequenceSeparator (found : TokenKind)
  | mappingSeparator (found : TokenKind)
  | documentStart (found : TokenKind)
  | duplicateVersion
  | incompatibleVersion
  | duplicateHandle (handle : String)
  | undefinedHandle (handle : String)
  | undefinedAlias (name : String)
  | secondAnchor
  | anotherDocument
  | undefinedTag (tag : String)
  | expectedShape (expected found : Shape)
  | expectedSequence (found : Shape)
  | unhashableKey
  | mergeMapping (found : Shape)
  | mergeMappings (found : Shape)
  | singleMapping (found : Shape)
  | singleItem (count : Nat)
  | notAscii (detail : String)
  | notBase64 (detail : String)
  deriving Repr

namespace Problem

def quotedName (k : TokenKind) : String := Text.quoted k.name

def text : Problem → String
  | expected what found => s!"{what.text}, but found {Text.quoted (String.singleton found)}"
  | noKeyMark => "could not find expected ':'"
  | cannotStart c => s!"found character {Text.quoted (String.singleton c)} that cannot start any token"
  | sequenceEntry => "sequence entries are not allowed here"
  | mappingKey => "mapping keys are not allowed here"
  | mappingValue => "mapping values are not allowed here"
  | noIndentation => "expected indentation indicator in the range 1-9, but found 0"
  | unknownEscape c => s!"found unknown escape character {Text.quoted (String.singleton c)}"
  | invalidEscape e => e.message
  | endOfStream => "found unexpected end of stream"
  | documentSeparator => "found unexpected document separator"
  | nodeContent k => s!"expected the node content, but found {quotedName k}"
  | blockEnd k => s!"expected <block end>, but found {quotedName k}"
  | sequenceSeparator k => s!"expected ',' or ']', but got {quotedName k}"
  | mappingSeparator k => "expected ',' or '\x7d', but got " ++ quotedName k
  | documentStart k => s!"expected '<document start>', but found {quotedName k}"
  | duplicateVersion => "found duplicate YAML directive"
  | incompatibleVersion => "found incompatible YAML document (version 1.* is required)"
  | duplicateHandle h => s!"duplicate tag handle {Text.quoted h}"
  | undefinedHandle h => s!"found undefined tag handle {Text.quoted h}"
  | undefinedAlias name => s!"found undefined alias {Text.quoted name}"
  | secondAnchor => "second occurrence"
  | anotherDocument => "but found another document"
  | undefinedTag tag => s!"could not determine a constructor for the tag {Text.quoted tag}"
  | expectedShape e f => s!"expected a {e.name} node, but found {f.name}"
  | expectedSequence f => s!"expected a sequence, but found {f.name}"
  | unhashableKey => "found unhashable key"
  | mergeMapping f => s!"expected a mapping for merging, but found {f.name}"
  | mergeMappings f => s!"expected a mapping or list of mappings for merging, but found {f.name}"
  | singleMapping f => s!"expected a mapping of length 1, but found {f.name}"
  | singleItem n => s!"expected a single mapping item, but found {n} items"
  | notAscii detail => s!"failed to convert base64 data into ascii: {detail}"
  | notBase64 detail => s!"failed to decode base64 data: {detail}"

end Problem

/-- Why the text of a scalar is not what its tag says. -/
inductive ScalarFault
  /-- A number without characters. -/
  | noDigits
  | notInteger (base : Nat) (text : String)
  /-- An integer of more decimal digits than are read. -/
  | tooManyDigits (count : Nat)
  | notFloat (text : String)
  /-- A place of a number in sixties is too large for a double. -/
  | tooLarge
  | notBool (text : String)
  | notTimestamp
  /-- A timestamp that is not a text of its own. -/
  | timestampShape
  | calendar (e : CalendarError)
  /-- An escape whose code is no character: within 31 bits or beyond. -/
  | notCharacter (beyond : Bool)
  deriving Repr

namespace ScalarFault

/-- How many characters of a refused integer are shown. -/
def shownLength : Nat := 200

def message : ScalarFault → String
  | noDigits => "string index out of range"
  | notInteger base text =>
    s!"invalid literal for int() with base {base}: {String.ofList ((Text.quoted text).toList.take shownLength)}"
  | tooManyDigits n =>
    s!"Exceeds the limit ({Layout.digitLimit} digits) for integer string conversion: value has {n} digits; use sys.set_int_max_str_digits() to increase the limit"
  | notFloat text => s!"could not convert string to float: {Text.quoted text}"
  | tooLarge => "int too large to convert to float"
  | notBool text => Text.quoted text
  | notTimestamp => "'NoneType' object has no attribute 'groupdict'"
  | timestampShape => "expected string or bytes-like object, got 'list'"
  | calendar e => e.message
  | notCharacter beyond =>
    if beyond then "Python int too large to convert to C int" else "chr() arg not in range(0x110000)"

end ScalarFault

/-- What a document can hold and a value here cannot: a document that holds
it is put aside, and nothing is said of what would become of it. -/
inductive Beyond
  /-- A collection that holds itself. -/
  | cycle
  /-- Half of a pair of codes, which is no character of a text. -/
  | halfPair
  deriving DecidableEq, Repr

namespace Beyond

def message : Beyond → String
  | cycle => "the document has a collection that holds itself"
  | halfPair => "the document has half of a pair of codes in place of a character"

end Beyond

/-- Why a document is refused. -/
inductive Error
  | unacceptable (c : Char) (position : Nat)
  | undecodable (e : Text.Utf8Error)
  /-- A problem at a place, with what was being read and where that began. -/
  | marked (during : Option (Activity × Option Mark)) (problem : Problem) (place : Mark)
  | scalar (fault : ScalarFault)
  | beyond (what : Beyond)
  /-- The reader gave up; its step count covers every document. -/
  | tooDeep
  deriving Repr

namespace Error

/-- A place as it is shown, with lines and columns counted from one. -/
def placeText (file : String) (m : Mark) : String :=
  s!"  in \"{file}\", line {m.line + 1}, column {m.column + 1}"

/-- The first position of the context is left out where the problem has the same. -/
def contextLines (file : String) (place : Mark) : Option (Activity × Option Mark) → List String
  | none => []
  | some (a, none) => [a.text]
  | some (a, some m) =>
    if m.line = place.line ∧ m.column = place.column then [a.text] else [a.text, placeText file m]

/-- The message for a document in a file of the given name. -/
def message (file : String) : Error → String
  | unacceptable c p =>
    s!"unacceptable character #x{String.ofList (Text.hex 4 c.toNat)}: special characters are not allowed\n  in \"{file}\", position {p}"
  | undecodable e => e.message
  | marked during problem place =>
    "\n".intercalate (contextLines file place during ++ [problem.text, placeText file place])
  | scalar fault => fault.message
  | beyond what => what.message
  | tooDeep => "the document is too deep"

end Error
end ScriptGrader.Document
