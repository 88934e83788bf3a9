import ScriptGrader.Markup.Content
import ScriptGrader.Markup.Doctype
import ScriptGrader.Markup.Encoding

/-!
# Reading documents

A document is a root, in front of which a declaration and a document type
may stand; comments, instructions and blanks may be around them. The first
thing that is wrong is told with its place.
-/

namespace ScriptGrader.Markup

namespace Document

/-- What may come behind the root. Half a character does no harm behind a
carriage return, which waits for a line feed. -/
def epilogue [Alphabet] (ending : Ending) : Nat → List Char → Except Halt Unit
  | 0, _ => .ok ()
  | fuel + 1, rest =>
    let start := rest.dropWhile isSpace
    let blanks := rest.take (rest.length - start.length)
    if start.isEmpty && ending.isWhole then .ok ()
    else if start = [half] && blanks.getLast? = some '\r' then .ok ()
    else do
      let p ← Placed.next ending start
      match p.piece with
      | .comment => epilogue ending fuel p.rest
      | .instruction => epilogue ending fuel p.rest
      | _ => .error (.fault .junkAfterRoot p.start)

/-- The root and what comes behind it; `own` tells how many bytes are in front of a rest. -/
def root [Alphabet] (own : List Char → Nat) (d : Declared) (ending : Ending) (start : List Char) :
    Except Halt Element := do
  let fuel := start.length + 1
  let inValues := Growth.table true d
  let inContent := Growth.table false d
  let setting : Setting := ⟨d, ending, [], fun inValue => if inValue then inValues else inContent, own⟩
  let (tag, r) ← Scan.startTag fuel start (start.drop 1)
  let added ← setting.grow 0 true tag.references start r
  let (name, attributes, scope) ← (tag.resolve d []).mapError (Content.tagFault start)
  if tag.isEmpty then
    epilogue ending fuel r
    return .mk name attributes [] []
  else
    let (inside, stop, _, r) ←
      Content.read (Content.expand d d.entities.length) setting fuel scope added r
    match stop with
    | none => .error (.fault .noElement [])
    | some (endName, place) =>
      if endName ≠ tag.label.text then .error (.fault .mismatchedTag place)
      else
        epilogue ending fuel r
        return .mk name attributes inside.text inside.children

/-- What comes in front of the root, and the root. `isTyped` says that
there was a document type. -/
def prologue [Alphabet] (own : List Char → Nat) (ending : Ending) :
    Nat → Declared → (isTyped : Bool) → List Char → Except Halt Element
  | 0, _, _, rest => Scan.refuse rest []
  | fuel + 1, d, isTyped, rest => do
    let p ← Placed.next ending rest
    match p.piece with
    | .comment => prologue own ending fuel d isTyped p.rest
    | .instruction => prologue own ending fuel d isTyped p.rest
    | .opening "DOCTYPE" =>
      if isTyped then p.misfit
      else
        let (d, rest) ← Doctype.read ending d p.rest
        prologue own ending fuel d true rest
    | .root => root own d ending p.start
    | _ => p.misfit

/-- The mark of byte order that may stand in front of a document. -/
def byteOrderMark : Char := '\ufeff'

/-- The error that a halt means, in a text that ends in a certain way. -/
def errorOf (chars : List Char) (ending : Ending) : Halt → Error
  | .fault c rest => malformed c rest
  | .ended c start =>
    match ending with
    | .whole => malformed c start
    | .invalid _ _ => malformed .invalidToken []
    | .cut _ => malformed .partialCharacter start
  | .due start => if ending.isWhole then malformed .unclosedToken start else malformed .invalidToken []
where
  malformed (c : Cause) (rest : List Char) : Error :=
    .malformed c (Place.start.after ((chars.take (chars.length - rest.length)).filter (· ≠ half)))

/-- A document as its bytes are taken to begin. -/
structure Opening where
  encoding : Encoding
  /-- The bytes of the mark of byte order, if there is one. -/
  mark : List UInt8
  /-- The bytes behind the mark. -/
  bytes : List UInt8

namespace Opening

/-- The element of a text behind a declaration; `before` stands in front of
it. A unit has so many bytes. -/
def element [Alphabet] (unitSize : Nat) (before : List Char) (text : Decoded) (standalone : Bool) :
    Except Error Element :=
  let d := { Declared.empty with standalone := standalone }
  let all := unitsOf (before ++ text.chars)
  let own (rest : List Char) : Nat := (all - unitsOf rest) * unitSize
  (prologue own text.ending (text.chars.length + 1) d false text.chars).mapError
    (errorOf (before ++ text.chars) text.ending)

/-- The mark of byte order as it is counted in the encoding of the document. -/
def markText (o : Opening) : List Char := if o.mark.isEmpty then [] else [byteOrderMark]

/-- How many bytes a declaration of so many characters takes. -/
def size (o : Opening) (length : Nat) : Nat := length * o.encoding.unitSize

/-- The element of a document whose declaration has so many characters and
names an encoding. What stands in front is counted in that encoding too, so
in a code page by its bytes, none of which is half a character. -/
def recoded (o : Opening) (e : Encoding) (declaration : List Char) (standalone : Bool) :
    Except Error Element :=
  let size := o.size declaration.length
  let before :=
    if e.isPage then (o.mark ++ o.bytes.take size).map fun b => Char.ofNat (max b.toNat 1)
    else o.markText ++ declaration
  @element e.alphabet e.unitSize before (e.decode (o.bytes.drop size)) standalone

/-- The element of a document. -/
def element? (o : Opening) : Except Error Element :=
  let text := o.encoding.decode o.bytes
  let all := o.markText ++ text.chars
  letI := o.encoding.alphabet
  let fail {α : Type} (h : Halt) : Except Error α := .error (errorOf all text.ending h)
  match text.chars with
  | '<' :: '?' :: r => do
    let ((target, said), rest) ← (Scan.instruction text.chars r).mapError (errorOf all text.ending)
    if target ≠ "xml" then element o.encoding.unitSize o.markText text false
    else
      let placeOf (left : List Char) := r.drop (target.length + said.length - left.length)
      match Declaration.parse? said with
      | .error left => fail (.fault .malformedDeclaration (placeOf left))
      | .ok d =>
        let declaration := text.chars.take (text.chars.length - rest.length)
        match d.encoding with
        | none => element o.encoding.unitSize (o.markText ++ declaration) ⟨rest, text.ending⟩ d.standalone
        | some (name, left) =>
          match o.encoding.declared name with
          | .error (.unfit c) => fail (.fault c (placeOf left))
          | .error (.unusable e) => .error e
          | .ok e => o.recoded e declaration d.standalone
  | _ => element o.encoding.unitSize o.markText text false

end Opening

/-- The marks of byte order that may stand in front of a document, as bytes. -/
def marks : List (List UInt8) := [[0xfe, 0xff], [0xff, 0xfe], [0xef, 0xbb, 0xbf]]

/-- Bytes that only begin a mark, or a character in an encoding. -/
def beginnings : List (List UInt8) := [[0xfe], [0xff], [0xef], [0], [0x3c], [0xef, 0xbb]]

end Document

/-- The element that a document holds. Of bytes that only begin a mark or a
character in an encoding, nothing is known. -/
def read? (bytes : List UInt8) : Except Error Element :=
  if Document.beginnings.contains bytes then .error (.malformed .unclosedToken .start)
  else
    let mark := (Document.marks.find? fun m => m.isPrefixOf bytes).getD []
    (Document.Opening.mk (Encoding.ofFirst bytes) mark (bytes.drop mark.length)).element?

end ScriptGrader.Markup
