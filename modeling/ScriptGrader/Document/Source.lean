import ScriptGrader.Text.Utf8

/-!
# The text of a document

A document is read from a text file piece by piece, and a reader gets only
the pieces before the first one that cannot be had: because its bytes are
not text, or because it holds a character that documents may not hold.
What was wrong is noticed when a reader asks for more.
-/

namespace ScriptGrader.Document

/-- What stands behind the characters that a reader gets. -/
inductive Ending
  /-- Nothing: the document is complete. -/
  | complete
  | unacceptable (c : Char) (position : Nat)
  | undecodable (e : Text.Utf8Error)
  deriving DecidableEq, Repr

/-- The characters that a reader gets, and what stands behind them. -/
structure Source where
  text : List Char
  ending : Ending
  deriving Repr

namespace Source

/-- May a document hold the character? -/
def isAcceptable (c : Char) : Bool :=
  let n := c.toNat
  c = '\t' || c = '\n' || c = '\r' || (0x20 ≤ n && n ≤ 0x7e) || n = 0x85 ||
    (0xa0 ≤ n && n ≤ 0xd7ff) || (0xe000 ≤ n && n ≤ 0xfffd) || 0x10000 ≤ n

/-- How many characters a piece has. -/
def pieceSize : Nat := 4096

/-- How many bytes are decoded at a time. -/
def chunkSize : Nat := 8192

/-- The start of the piece that a position lies in. The first two pieces
come together. -/
def pieceStart (position : Nat) : Nat :=
  if position < 2 * pieceSize then 0 else position / pieceSize * pieceSize

/-- The characters of some bytes, and the bytes of one that is cut off at the end. -/
def decodeChunk (bytes : List UInt8) : Except Text.Utf8Error (List Char × List UInt8) :=
  match Text.decodeFrom 0 bytes with
  | .ok cs => .ok (cs, [])
  | .error (.unexpectedEnd _ position _) =>
    (Text.decodeFrom 0 (bytes.take position)).map fun cs => (cs, bytes.drop position)
  | .error e => .error e

/-- The characters of a file that is decoded in chunks, up to the first
chunk that is not text. -/
def decodeChunks : Nat → List UInt8 → List UInt8 → List Char × Option Text.Utf8Error
  | 0, _, _ => ([], none)
  | fuel + 1, carry, bytes =>
    if bytes.isEmpty then
      match Text.decodeFrom 0 carry with
      | .ok cs => (cs, none)
      | .error e => ([], some e)
    else
      match decodeChunk (carry ++ bytes.take chunkSize) with
      | .ok (cs, cut) =>
        let (more, e) := decodeChunks fuel cut (bytes.drop chunkSize)
        (cs ++ more, e)
      | .error e => ([], some e)

/-- The first character that a document may not hold. -/
def firstUnacceptable : Nat → List Char → Option (Char × Nat)
  | _, [] => none
  | position, c :: r => if isAcceptable c then firstUnacceptable (position + 1) r else some (c, position)

/-- The first piece that cannot be had: where it starts, and why. -/
def fault? (text : List Char) (undecodable : Option Text.Utf8Error) : Option (Nat × Ending) :=
  let unread := undecodable.map fun e => (pieceStart text.length, Ending.undecodable e)
  let refused := (firstUnacceptable 0 text).map fun (c, p) => (pieceStart p, Ending.unacceptable c p)
  match unread, refused with
  | some (m, e), some (n, f) => if n < m then some (n, f) else some (m, e)
  | some x, none => some x
  | none, y => y

/-- What a reader gets of a file. -/
def ofBytes (bytes : List UInt8) : Source :=
  let (cs, undecodable) := decodeChunks (bytes.length / chunkSize + 2) [] bytes
  let text := Text.universalNewlines cs
  match fault? text undecodable with
  | none => ⟨text, .complete⟩
  | some (start, ending) => ⟨text.take start, ending⟩

end Source
end ScriptGrader.Document
