import ScriptGrader.Web.ContentType
import ScriptGrader.Web.Deflate
import ScriptGrader.Web.Exchange

/-!
# Replies

What is read of an answer: its headers, and its text, which may be
compressed, in one way or in several one after the other, and may be in a
character set of its own. Ways to compress that are not known are passed
over. A body is taken in one piece.
-/

namespace ScriptGrader.Web

/-- A way to compress an answer. -/
inductive Compression
  | file
  /-- In a frame, or without one. -/
  | framed
  deriving DecidableEq, Repr

namespace Compression

/-- The way that goes by a name, if it is known. -/
def ofName? (name : String) : Option Compression :=
  match name with
  | "gzip" => some file
  | "deflate" => some framed
  | _ => none

/-- Undo a compression. What cannot be read in a frame is read without one. -/
def undo (bytes : List UInt8) : Compression → Except Deflate.Fault (List UInt8)
  | file => Deflate.output (Deflate.file bytes) bytes
  | framed =>
    match Deflate.output Deflate.framed bytes with
    | .ok out => .ok out
    | .error _ => Deflate.output Deflate.all bytes

/-- Undo several compressions, the last one first. -/
def undoAll (bytes : List UInt8) (cs : List Compression) : Except Deflate.Fault (List UInt8) :=
  cs.reverse.foldlM (fun bytes c => c.undo bytes) bytes

end Compression

/-- An answer as it was read. -/
structure Reply where
  status : Int
  headers : Headers
  body : List UInt8
  deriving Repr

/-- Why the text of an answer cannot be read. -/
inductive ReplyTextError
  | contentType (e : ContentType.Error)
  | charset (e : Text.CharsetError)
  deriving DecidableEq, Repr

namespace ReplyTextError

def message : ReplyTextError → String
  | contentType e => e.message
  | charset e => e.message

end ReplyTextError

namespace Reply

/-- The compressions that headers tell of. -/
def compressions (hs : Headers) : List Compression :=
  ((hs.values "content-encoding").flatMap (·.toList.splitOn ',')).filterMap fun name =>
    Compression.ofName? (String.ofList ((ContentType.trim name).map Char.toLower))

/-- Read an answer. -/
def read (status : Int) (headers : List Header) (body : List UInt8) : Except Deflate.Fault Reply := do
  let hs := Headers.ofSent headers
  let body ← if body.isEmpty then pure [] else Compression.undoAll body (compressions hs)
  return ⟨status, hs, body⟩

/-- The content type of an answer that tells none. -/
def standardType : String := "text/plain; charset=utf-8"

/-- The text of an answer. A character set that is not known is that of most texts. -/
def text (r : Reply) : Except ReplyTextError String :=
  if r.body.isEmpty then .ok ""
  else do
    let type := (r.headers.value? "content-type").getD standardType
    let name ← (ContentType.charset? type).mapError .contentType
    let charset ← match name with
      | some name => (ContentType.named? name).mapError .contentType
      | none => pure none
    ((charset.getD .utf8).decode r.body).mapError .charset

/-- The place at which something is to be asked instead. -/
def elsewhere? (status : Int) (headers : List Header) : Option String :=
  if Status.redirects status then (Headers.ofSent headers).value? "location" else none

end Reply
end ScriptGrader.Web
