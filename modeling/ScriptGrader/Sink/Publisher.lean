import ScriptGrader.Report.Bundle
import ScriptGrader.Sink.Basic
import ScriptGrader.Web.Redirect
import ScriptGrader.Web.Reply

/-!
# Publishing results

Results are posted to a service, one request for each record or one for
the whole bundle. Only an answer that tells of success is good; the first
request that gets none ends the publishing.
-/

namespace ScriptGrader

/-- Why results cannot be published to where they should be. -/
inductive PublisherError
  | noAddress
  | invalidAddress (text : String) (e : Web.AddressError)
  /-- An address that is not a text. -/
  | notText (v : Value)
  deriving Repr

namespace PublisherError

def message : PublisherError → String
  | noAddress => "Publish URL is required"
  | invalidAddress t e => s!"Invalid publish URL {Text.quoted t}: {e.message}"
  | notText v =>
    s!"Invalid type for url.  Expected str or httpx.URL, got <class '{v.fullKind}'>: {v.literal}"

end PublisherError

/-- What a publisher sends its requests through. -/
structure Connection where
  /-- Is it the publisher's own, to be closed with it? -/
  isOwned : Bool
  /-- Does it know only some schemes? -/
  isStrict : Bool
  deriving DecidableEq, Repr

/-- The connection that a publisher makes where it is given none. -/
def Connection.own : Connection := ⟨true, true⟩

/-- Where results are published, and how. -/
structure Publisher where
  /-- The address as it was given. -/
  address : String
  /-- Where requests go. -/
  target : Web.Address
  perRecord : Bool
  connection : Connection
  /-- How long a connection of its own is to wait. What it makes of that
  shows in the answers. -/
  timeout : Value
  isOpen : Bool
  channel : Channel
  deriving Repr

namespace Publisher

/-- How many seconds a connection waits where nothing is said. -/
def defaultTimeout : Value := .float (.finite 10)

/-- The publisher to an address. -/
def make? (address perRecord timeout : Value) (connection : Connection) (channel : Channel) :
    Except PublisherError Publisher :=
  if !address.isTrue then .error .noAddress
  else
    match address with
    | .text s =>
      match Web.Address.ofText? s with
      | .ok a => .ok ⟨s, a.target, perRecord.isTrue, connection, timeout, true, channel⟩
      | .error e => .error (.invalidAddress s e)
    | v => .error (.notText v)

/-- The publisher after it was closed. A connection that was given stays open. -/
def close (p : Publisher) : Publisher := { p with isOpen := p.isOpen && !p.connection.isOwned }

/-! ## Requests -/

/-- What is posted for some records. -/
def payload (items : List (String × Record)) (metadata : String) : Json :=
  .object [("testCaseResults", .object (items.map fun (k, r) => (k, r.toWire))),
    ("customData", .text metadata)]

/-- What is posted for a bundle, one after the other. -/
def payloads (p : Publisher) (b : Bundle) : List Json :=
  if p.perRecord then b.items.map fun x => payload [x] b.metadata else [payload b.items b.metadata]

/-- The request that posts something. -/
def request (p : Publisher) (content : Json) : Web.Request :=
  ⟨"POST", p.target.text, "application/json", content.render Json.Style.body 0⟩

/-- The schemes that a strict connection knows. -/
def knownSchemes : List String := ["http", "https", "ws", "wss"]

/-- Why a strict connection does not even send a request. -/
def unsupported? (p : Publisher) : Option String :=
  let scheme := String.ofList p.target.scheme
  if !p.connection.isStrict then none
  else if scheme = "" then some "Request URL is missing an 'http://' or 'https://' protocol."
  else if knownSchemes.contains scheme then none
  else some s!"Request URL has an unsupported protocol '{scheme}://'."

/-- Where to read about statuses. -/
def statusPage : String := "https://" ++ "developer.mozilla.org/en-US/docs/Web/HTTP/Status/"

/-- What is told of a status that is no success. -/
def statusText (address : String) (status : Int) (location : Option String) : String :=
  let redirect := match location with
    | some l => s!"Redirect location: '{l}'\n"
    | none => ""
  s!"{Web.Status.className status} '{Layout.int status} {Web.Status.phrase status}' for url '{address}'\n" ++
    redirect ++ s!"For more information check: {statusPage}{Layout.int status}"

/-- A reason why a reply is not good. -/
def refusal (p : Publisher) (reason : String) : SinkError := .publishing p.address reason

/-- Check the place that a reply names. -/
def checkRedirect (p : Publisher) (location : String) : Except SinkError Unit :=
  (Web.Redirect.check p.target location).mapError fun e =>
    match e with
    | .location e => p.refusal s!"Invalid URL in location header: {e.message}."
    | .address e => p.refusal e.message
    | .host e => .host e

/-- The note about a reply that is good, once the place that it names has been looked at. -/
def noteOfReply (p : Publisher) (address : String) (status : Int) (headers : List Web.Header)
    (body : List UInt8) : Except SinkError LogLine := do
  let r ← (Web.Reply.read status headers body).mapError fun f => p.refusal f.message
  if !Web.Status.isSuccess status then
    throw (p.refusal (statusText address status (Web.Reply.elsewhere? status headers)))
  let text ← r.text.mapError .text
  return .debug p.channel s!"Server response: {Layout.int status} {text}"

/-- The note about the answer to a request, if the answer is good. -/
def noteOf (p : Publisher) (address : String) : Web.Answer → Except SinkError LogLine
  | .failure message => throw (p.refusal message)
  | .raised kind message => throw (.raised kind message)
  | .response status headers body => do
    if !p.target.isAbsolute then throw (.noServer address)
    (Web.Reply.elsewhere? status headers).forM p.checkRedirect
    p.noteOfReply address status headers body

/-- Post something. -/
def post (p : Publisher) (content : Json) : SinkWork Unit := do
  if !content.toValue.isWritable then throw .tooManyDigits
  Work.note [.debug p.channel s!"Sending results to {p.address}: {content.toValue.literal}"]
  if let .error e := p.target.checkRequest then throw (p.refusal e.message)
  if !content.isFinite then throw .notFinite
  if !p.isOpen then throw .closed
  if let some reason := p.unsupported? then throw (p.refusal reason)
  let r := p.request content
  Work.note [← Work.given (p.noteOf r.address (← Work.send r))]

/-- Post the results of a bundle. -/
def write (p : Publisher) (b : Bundle) : SinkWork Unit := (p.payloads b).forM p.post

end Publisher
end ScriptGrader
