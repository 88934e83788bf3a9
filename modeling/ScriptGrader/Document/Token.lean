/-!
# The tokens of a document

A token has a kind and the places where it begins and ends. Apart from
what is written, there are tokens for what indentation opens and closes.
-/

namespace ScriptGrader.Document

/-- A place in a document, counted from zero. -/
structure Mark where
  index : Nat
  line : Nat
  column : Nat
  deriving DecidableEq, Repr, Inhabited

/-- A line that begins with a percent sign. -/
inductive Directive
  /-- The version of the language that the document is written in. -/
  | version (major minor : Nat)
  /-- What a tag that begins with `handle` stands for. -/
  | tagHandle (handle stem : String)
  | unknown
  deriving DecidableEq, Repr

inductive TokenKind
  | directive (d : Directive)
  | documentStart
  | documentEnd
  | streamEnd
  | blockSequenceStart
  | blockMappingStart
  | blockEnd
  | flowSequenceStart
  | flowSequenceEnd
  | flowMappingStart
  | flowMappingEnd
  | blockEntry
  | flowEntry
  | key
  | value
  /-- An alias, by the name of the anchor. -/
  | reference (name : String)
  | anchor (name : String)
  /-- A tag by its handle, if it has one, and the rest. -/
  | tag (handle : Option String) (suffix : String)
  /-- A text; `plain` if it is neither quoted nor in a block. -/
  | scalar (text : String) ( plain : Bool)
  deriving DecidableEq, Repr

namespace TokenKind

/-- The name of a kind of token in messages. -/
def name : TokenKind → String
  | directive _ => "<directive>"
  | documentStart => "<document start>"
  | documentEnd => "<document end>"
  | streamEnd => "<stream end>"
  | blockSequenceStart => "<block sequence start>"
  | blockMappingStart => "<block mapping start>"
  | blockEnd => "<block end>"
  | flowSequenceStart => "["
  | flowSequenceEnd => "]"
  | flowMappingStart => "\x7b"
  | flowMappingEnd => "\x7d"
  | blockEntry => "-"
  | flowEntry => ","
  | key => "?"
  | value => ":"
  | reference _ => "<alias>"
  | anchor _ => "<anchor>"
  | tag _ _ => "<tag>"
  | scalar _ _ => "<scalar>"

end TokenKind

structure Token where
  kind : TokenKind
  start : Mark
  stop : Mark
  deriving DecidableEq, Repr

end ScriptGrader.Document
