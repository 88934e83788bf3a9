import ScriptGrader.Document.Reading
import ScriptGrader.Files.Basic
import ScriptGrader.Rubric.Basic
import ScriptGrader.Sink.Publisher
import ScriptGrader.Value.Order

/-!
# Configurations

A configuration is a mapping in a file; an empty file is an empty one.
What a user can get wrong in it is a configuration error, with a message
of its own. A few faults are not told as configuration errors: they are
faults of the values in the file, not of what the file is for.
-/

namespace ScriptGrader

/-- What is wrong with a configuration. -/
inductive ConfigurationError
  | unreadable (path : Path) (fault : FileFault)
  | document (path : Path) (e : Document.Error)
  | notMapping (path : Path)
  | sourceType (v : Value)
  | rubric (e : RubricError)
  | reportsMapping
  | unknownReports (names : List Value)
  | publishMapping
  /-- Results cannot be published to the address that is set. -/
  | publisher (e : PublisherError)
  deriving Repr

namespace ConfigurationError

def message : ConfigurationError → String
  | unreadable p f => s!"Failed to load configuration {p.text}: {(FileError.fault f p).message}"
  | document p e => s!"Failed to load configuration {p.text}: {e.message p.text}"
  | notMapping p => s!"Configuration {p.text} must be a mapping"
  | sourceType v => s!"Unknown source type: {v.plain}"
  | rubric e => e.message
  | reportsMapping => "'reports' must be a mapping"
  | unknownReports names => s!"Unknown report types: {(Value.list names).literal}"
  | publishMapping => "'publish' must be a mapping"
  | publisher e => e.message

end ConfigurationError

/-- Why no grader can be set up. -/
inductive SetupError
  | configuration (e : ConfigurationError)
  /-- The current directory is not there any more. -/
  | noDirectory (e : SystemError)
  /-- A path with a character zero in it. -/
  | zeroInPath
  /-- The configuration file is not text. -/
  | undecodable (e : Text.Utf8Error)
  /-- A text in the configuration file is not what its tag says. -/
  | scalar (fault : Document.ScalarFault)
  /-- The configuration file holds what no value here is, and was put aside. -/
  | beyond (what : Document.Beyond)
  /-- A path that is not a text. -/
  | notPath (v : Value)
  /-- An integer with more digits than are ever written. -/
  | tooManyDigits
  /-- Names of reports that cannot be put in order, to be told. -/
  | unordered (e : OrderError)
  /-- An address that is not a text. -/
  | notAddress (v : Value)
  deriving Repr

namespace SetupError

def message : SetupError → String
  | configuration e => e.message
  | noDirectory e => e.message
  | zeroInPath => FileError.zero.message
  | undecodable e => e.message
  | scalar f => f.message
  | beyond what => what.message
  | notPath (.bytes _) =>
    "argument should be a str object or an os.PathLike object returning str, not <class 'bytes'>"
  | notPath v => s!"expected str, bytes or os.PathLike object, not {v.kind}"
  | tooManyDigits => Layout.tooManyDigits
  | unordered e => e.message
  | notAddress v => (PublisherError.notText v).message

end SetupError

/-- The settings of a grader, by name. -/
structure Configuration where
  settings : List (Value × Value)
  deriving Repr, Inhabited

namespace Configuration

/-- The fault of a document that a configuration file holds. -/
def documentError (path : Path) : Document.Error → SetupError
  | .undecodable e => .undecodable e
  | .scalar f => .scalar f
  | .beyond what => .beyond what
  | e => .configuration (.document path e)

/-- The configuration that a value is. -/
def ofValue? (path : Path) : Value → Except SetupError Configuration
  | .null => .ok ⟨[]⟩
  | .map settings => .ok ⟨settings⟩
  | _ => .error (.configuration (.notMapping path))

/-- The configuration in a file. -/
def load? (fs : Files) (path : Path) : Except SetupError Configuration :=
  match fs.read? path with
  | .error .zero => .error .zeroInPath
  | .error (.fault f p) => .error (.configuration (.unreadable p f))
  | .ok bytes =>
    match Document.read? bytes with
    | .error e => .error (documentError path e)
    | .ok v => ofValue? path v

/-- The note taken when a configuration was read. -/
def loadLine (path : Path) : LogLine := .info .grader s!"Loaded configuration from {path.text}"

/-- A setting, unless it is absent. -/
def setting? (c : Configuration) (name : String) : Option Value := Value.field name c.settings

/-- A setting, or its default. -/
def setting (c : Configuration) (name : String) (default : Value) : Value :=
  (c.setting? name).getD default

end Configuration
end ScriptGrader
