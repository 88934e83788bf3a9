import ScriptGrader.Markup.Error
import ScriptGrader.Outside
import ScriptGrader.Web.HostName.Fault
import ScriptGrader.Web.Reply

/-!
# Sinks

A sink takes a finished bundle and puts it somewhere. When it cannot, the
reason is either one that lies outside, and is told as the sink's failure,
or a fault in what the sink was given, which is no failure of the outside.
-/

namespace ScriptGrader

/-- Why a bundle does not get to where a sink puts it. -/
inductive SinkError
  /-- A text report cannot be opened. -/
  | textReport (path : Path) (fault : FileFault)
  /-- A line does not fit into a text report. -/
  | textCut (path : Path) (e : SystemError)
  /-- An XML report cannot be looked at, read or opened. -/
  | xmlReport (path : Path) (fault : FileFault)
  /-- A document does not fit into an XML report. -/
  | xmlCut (path : Path) (e : SystemError)
  /-- An XML report holds no document. -/
  | xmlDocument (path : Path) (cause : Markup.Cause) (place : Markup.Place)
  /-- A request fails, or its answer is no success. -/
  | publishing (address reason : String)
  /-- A path with a character zero in it. -/
  | zeroInPath
  /-- An XML report is in an encoding that cannot be read. -/
  | encoding (e : Markup.Error)
  /-- A score has more digits than are written. -/
  | tooManyDigits
  /-- A score is no number that can be sent. -/
  | notFinite
  /-- Nothing can be sent any more. -/
  | closed
  /-- An address that names no server. -/
  | noServer (address : String)
  /-- Something that is no matter of the connection. -/
  | raised (kind message : String)
  /-- An answer whose text cannot be read. -/
  | text (e : Web.ReplyTextError)
  /-- A host in Punycode that stands for no name. -/
  | host (e : Web.HostName.LabelFault)
  deriving Repr

namespace SinkError

/-- Does the reason lie outside? -/
def isExternal : SinkError → Bool
  | textReport _ _ | textCut _ _ | xmlReport _ _ | xmlCut _ _ | xmlDocument _ _ _ | publishing _ _ => true
  | _ => false

def message : SinkError → String
  | textReport p f => s!"Failed to write report {p.text}: {(FileError.fault f p).message}"
  | textCut p e => s!"Failed to write report {p.text}: {e.message}"
  | xmlReport p f => s!"Failed to write XML report {p.text}: {(FileError.fault f p).message}"
  | xmlCut p e => s!"Failed to write XML report {p.text}: {e.message}"
  | xmlDocument p c place =>
    s!"Failed to write XML report {p.text}: {(Markup.Error.malformed c place).message}"
  | publishing address reason => s!"Failed to publish results to {address}: {reason}"
  | zeroInPath => FileError.zero.message
  | encoding e => e.message
  | tooManyDigits => Layout.tooManyDigits
  | notFinite => "Out of range float values are not JSON compliant"
  | closed => "Cannot send a request, as the client has been closed."
  | noServer address => s!"unknown url type: {Text.quoted address}"
  | raised _ message => message
  | text e => e.message
  | host e => e.message

end SinkError

/-- A piece of a run that a sink does. -/
abbrev SinkWork := Work SinkError

end ScriptGrader
