import ScriptGrader.Text.Charset.Unicode

/-!
# Bytes in pieces

A text whose characters take different numbers of bytes is read piece by
piece from the front. A piece that is no character is replaced, and so is an
end at which more bytes were needed.
-/

namespace ScriptGrader.Text

/-- Why bytes are not decoded. -/
inductive CharsetError
  | noMark (bits : Nat)
  | cannotReplace
  | undefined
  /-- A byte that has to be ASCII is not. -/
  | notAscii (byte : UInt8) (position : Nat)
  | notBytes
  | notText
  /-- More bytes than can be kept wait for what follows them. -/
  | tooManyWaiting
  /-- A set of characters was chosen where it cannot be used. -/
  | unusable
  deriving DecidableEq, Repr

namespace CharsetError

def message : CharsetError → String
  | noMark bits => s!"UTF-{bits} stream does not start with BOM"
  | cannotReplace => "Unsupported error handling replace"
  | undefined => "undefined encoding"
  | notAscii b p =>
    s!"'ascii' codec can't decode byte 0x{String.ofList (hex 2 b.toNat)} in position {p}: ordinal not in range(128)"
  | notBytes => "descriptor 'translate' for 'str' objects doesn't apply to a 'bytes' object"
  | notText => ""
  | tooManyWaiting => "pending buffer overflow"
  | unusable => "internal codec error"

end CharsetError

namespace Charset

/-- What bytes begin with. A size is a number of bytes and not zero. -/
inductive Piece
  | chars (cs : List Char) (size : Nat)
  /-- Bytes that are no character. -/
  | wrong (size : Nat)
  /-- More bytes are needed. -/
  | short
  | failed (e : CharsetError)
  deriving Repr

/-- How many bytes can wait for more. -/
def waitingLimit : Nat := 8

/-- The text of bytes that are read in pieces. Reading a piece leaves a
state behind, as long as it is right. -/
def ofPieces {σ : Type} (piece : σ → List UInt8 → Piece × σ) (start : σ) (bytes : List UInt8) :
    Except CharsetError (List Char) :=
  go bytes.length start bytes []
where
  go : Nat → σ → List UInt8 → List Char → Except CharsetError (List Char)
    | 0, _, _, done => .ok done.reverse
    | _, _, [], done => .ok done.reverse
    | fuel + 1, state, bytes, done =>
      match piece state bytes with
      | (.chars cs size, next) => go fuel next (bytes.drop size) (cs.reverse ++ done)
      | (.wrong size, _) => go fuel state (bytes.drop size) (replacement :: done)
      | (.short, _) =>
        if bytes.length ≤ waitingLimit then .ok (replacement :: done).reverse else .error .tooManyWaiting
      | (.failed e, _) => .error e

end Charset
end ScriptGrader.Text
