import ScriptGrader.Script.Error
import ScriptGrader.Number.Layout

/-!
# Tokens of a script

A token has a kind, a text and the line on which it ends. Names of the
grammar are words of their own kind; which words those are depends on the
mode, so the reader may turn an identifier into a keyword.
-/

namespace ScriptGrader.Script

/-- What a token is. -/
inductive TokenKind
  | endOfInput
  | identifier
  | keyword
  | punctuator
  /-- A number or a string may be written with an octal number. -/
  | number (octal : Bool)
  | string (octal : Bool)
  | boolean
  | null
  | regex
  /-- A stretch of a template: does it begin it, does it end it? -/
  | template (head tail : Bool)
  deriving DecidableEq, Repr

/-- A token. The text of a number is its value, of a string what it stands
for, of a template what is written between its marks. -/
structure Token where
  kind : TokenKind
  text : String
  line : Nat
  /-- The text between the quotes of a string, as it is written. -/
  raw : String
  deriving DecidableEq, Repr

namespace Token

def isPunctuator (t : Token) (text : String) : Bool := t.kind = .punctuator && t.text = text

def isKeyword (t : Token) (word : String) : Bool := t.kind = .keyword && t.text = word

def isIdentifier (t : Token) (name : String) : Bool := t.kind = .identifier && t.text = name

def isString (t : Token) : Bool :=
  match t.kind with
  | .string _ => true
  | _ => false

def isTemplateHead (t : Token) : Bool :=
  match t.kind with
  | .template head _ => head
  | _ => false

/-- Is the token a number or string with an octal number in it? -/
def isOctal (t : Token) : Bool :=
  match t.kind with
  | .number octal | .string octal => octal
  | _ => false

/-- May the token name a property after a point? -/
def isName (t : Token) : Bool :=
  match t.kind with
  | .identifier | .keyword | .boolean | .null => true
  | _ => false

/-- May the token begin the name of a property of an object? -/
def isPropertyName (t : Token) : Bool :=
  match t.kind with
  | .identifier | .keyword | .boolean | .null | .number _ | .string _ => true
  | .punctuator => t.text = "["
  | _ => false

/-- Is the token a number that has more digits than are written? -/
def isTooLong (t : Token) : Bool :=
  match t.kind with
  | .number _ => Layout.digitLimit < t.text.length
  | _ => false

/-- Does the token stand for nothing: an empty text or the number zero? -/
def isBlank (t : Token) : Bool :=
  match t.kind with
  | .number _ => t.text = "0"
  | _ => t.text = ""

end Token

/-! ## Words -/

def keywords : List String :=
  ["if", "in", "do", "var", "for", "new", "try", "let", "this", "else", "case", "void", "with",
    "enum", "while", "break", "catch", "throw", "const", "yield", "class", "super", "return",
    "typeof", "delete", "switch", "export", "import", "default", "finally", "extends", "function",
    "continue", "debugger", "instanceof"]

/-- Keywords that only some constructs may use. -/
def isReserved (word : String) : Bool := ["enum", "export", "import", "super"].contains word

/-- Words that are reserved in strict mode. -/
def isStrictReserved (word : String) : Bool :=
  ["implements", "interface", "package", "private", "protected", "public", "static", "yield",
    "let"].contains word

/-- Names that strict mode does not let a script bind. -/
def isRestricted (word : String) : Bool := word = "eval" || word = "arguments"

/-- The kind of token that a word is. One character is never a keyword. -/
def wordKind (word : String) : TokenKind :=
  if keywords.contains word then .keyword
  else if word = "null" then .null
  else if word = "true" || word = "false" then .boolean
  else .identifier

/-- The punctuators, those with more characters first. -/
def punctuators : List String :=
  [">>>=", "===", "!==", ">>>", "<<=", ">>=", "**=", "...",
    "&&", "||", "==", "!=", "+=", "-=", "*=", "/=", "++", "--", "<<", ">>", "&=", "|=", "^=",
    "%=", "<=", ">=", "=>", "**",
    "(", ")", "\x7b", "\x7d", "[", "]", ";", ",", ":", "?", "~", ".", "<", ">", "=", "!", "+", "-",
    "*", "%", "&", "|", "^", "/"]

/-- The operators that assign. -/
def assignmentOperators : List String :=
  ["=", "*=", "**=", "/=", "%=", "+=", "-=", "<<=", ">>=", ">>>=", "&=", "^=", "|="]

/-- The punctuators that stand between two operands. -/
def binaryPunctuators : List String :=
  ["||", "&&", "|", "^", "&", "==", "!=", "===", "!==", "<", ">", "<=", ">=", "<<", ">>", ">>>",
    "+", "-", "*", "%", "/"]

end ScriptGrader.Script
