import ScriptGrader.Grader.Basic
import ScriptGrader.Grader.Configuration
import ScriptGrader.Rubric.Config

/-!
# Setting up a grader

A grader is set up from a configuration and from what was asked for beside
it. Settings are looked at in a fixed order, and the first one that is
wrong decides; what was noted before stays noted. Paths that were asked for
lead on from the current directory, paths of the configuration from the
directory that its file lies in. The current directory may have been taken
away; that is noticed where it is needed.
-/

namespace ScriptGrader

/-- What is asked of a grader beside its configuration. An empty text asks
for nothing. -/
structure Grader.Options where
  configuration : String
  submission : String
  id : String
  deriving Repr

namespace Configuration

/-! ## What a configuration says where it says nothing -/

def defaultId : String := "d805050e-a0d8-49b0-afbd-46a486105170"
def defaultSubmission : String := "../index.js"
def defaultSourceType : String := "script"
def defaultCustomData : String := "../custom.ih"

/-- The reports and the files they go to. -/
def defaultReports : List (Value × Value) :=
  [(.text "functional", .text "./output_revised.txt"),
    (.text "boundary", .text "./output_boundary_revised.txt"),
    (.text "exception", .text "./output_exception_revised.txt"),
    (.text "xml", .text "./yaksha-test-cases.xml")]

/-! ## Single settings -/

/-- The path that a value is, before it is resolved. -/
def named? : Value → Except SetupError Path
  | .text s => if (Path.ofText s).hasZero then .error .zeroInPath else .ok (Path.ofText s)
  | v => .error (.notPath v)

/-- The path that a value is, as seen from a directory. -/
def path? (base : Path) (v : Value) : Except SetupError Path := (named? v).map base.resolve

/-- The current directory, or the error of asking where it is. -/
abbrev CurrentDirectory := Except SystemError Path

/-- The directory that a path leads on from. An absolute path leads on from the root. -/
def base? (cwd : CurrentDirectory) (p : Path) : Except SetupError Path :=
  if p.isAbsolute then .ok Path.root else cwd.mapError .noDirectory

/-- The path that a text is, as seen from the current directory. -/
def asked? (cwd : CurrentDirectory) (s : String) : Except SetupError Path := do
  let p ← named? (.text s)
  return (← base? cwd p).resolve p

/-- The base of the keys of results: the text of any value. -/
def id (c : Configuration) : String := (c.setting "assignment_id" (.text defaultId)).plain

def submission? (c : Configuration) (base : Path) : Except SetupError Path :=
  path? base (c.setting "submission" (.text defaultSubmission))

def sourceType? (c : Configuration) : Except SetupError Script.SourceType :=
  let refused (v : Value) := Except.error (.configuration (.sourceType v))
  match c.setting "source_type" (.text defaultSourceType) with
  | .text s =>
    match Script.SourceType.ofName? s with
    | some t => .ok t
    | none => refused (.text s)
  | v => refused v

/-- A value that does not hold asks for no data. -/
def customData? (c : Configuration) (base : Path) : Except SetupError (Option Path) :=
  let v := c.setting "custom_data" (.text defaultCustomData)
  if v.isTrue then (path? base v).map some else .ok none

/-- The rubric of a configuration, with what is noted while it is built. -/
def rubric (c : Configuration) : List LogLine × Except SetupError Rubric :=
  let (log, r) := match c.setting? "checks" with
    | some v => (Rubric.configLog v, Rubric.ofConfig? v)
    | none =>
      let r := Rubric.ofOffers? Rubric.defaultOffers
      (Rubric.buildLog r, r)
  (log, r.mapError fun e => .configuration (.rubric e))

/-! ## Reports -/

/-- The report that a key names. -/
def reportKind? : Value → Option ReportKind
  | .text s => ReportKind.ofName? s
  | _ => none

/-- The keys that name no report. -/
def unknownReports (entries : List (Value × Value)) : List Value :=
  (entries.map (·.1)).filter fun k => (reportKind? k).isNone

/-- The reports and where they go; an entry that does not hold asks for none. -/
def reportPaths? (base : Path) :
    List (Value × Value) → Except SetupError (List (ReportKind × Path))
  | [] => .ok []
  | (k, v) :: rest =>
    match reportKind? k, v.isTrue with
    | some kind, true => do
      let p ← path? base v
      return (kind, p) :: (← reportPaths? base rest)
    | _, _ => reportPaths? base rest

def reports? (c : Configuration) (base : Path) : Except SetupError (List (ReportKind × Path)) :=
  match c.setting "reports" (.map defaultReports) with
  | .null => .ok []
  | .map entries =>
    match unknownReports entries with
    | [] => reportPaths? base entries
    | names =>
      match Value.sorted names with
      | .ok names => .error (.configuration (.unknownReports names))
      | .error e => .error (.unordered e)
  | _ => .error (.configuration .reportsMapping)

/-! ## Publishing -/

/-- The settings of publishing; a value that does not hold sets nothing. -/
def publishing? (c : Configuration) : Except SetupError Configuration :=
  let v := c.setting "publish" .null
  if !v.isTrue then .ok ⟨[]⟩
  else
    match v with
    | .map settings => .ok ⟨settings⟩
    | _ => .error (.configuration .publishMapping)

/-- Is nothing to be published, even if there is an address? -/
def isSkipped (publishing : Configuration) : Bool :=
  (publishing.setting "skip" (.bool false)).isTrue

def skipLine : LogLine := .info .grader "Skipping result publishing"

def publisherError : PublisherError → SetupError
  | .notText v => .notAddress v
  | e => .configuration (.publisher e)

/-- The publisher that is asked for. -/
def publisher? (publishing : Configuration) (connection : Connection) : Except SetupError (Option Publisher) :=
  let address := publishing.setting "url" .null
  let perRecord := publishing.setting "per_record" (.bool true)
  let timeout := publishing.setting "timeout_sec" Publisher.defaultTimeout
  if publishing.isSkipped || !address.isTrue then .ok none
  else ((Publisher.make? address perRecord timeout connection .grader).mapError publisherError).map some

/-! ## The configuration as a whole -/

/-- The note that shows a configuration. -/
def shownLine (c : Configuration) : LogLine :=
  .debug .grader s!"Configuration: {(Value.map c.settings).literal}"

end Configuration

namespace Grader

/-- The configuration that is asked for, and the directory its paths lead on from. -/
def configuration (cwd : Configuration.CurrentDirectory) (name : String) :
    Work SetupError (Configuration × Path) := do
  if name = "" then return (⟨[]⟩, ← Work.given (cwd.mapError .noDirectory))
  else
    let path ← Work.given (Configuration.asked? cwd name)
    let c ← Work.given (Configuration.load? (← Work.files) path)
    Work.note [Configuration.loadLine path]
    return (c, path.parent)

def rubricLine (r : Rubric) : LogLine := .info .grader s!"Loaded checks: {Value.nameList r.names}"

/-- **Set up a grader** in a directory, with a connection to the results service. -/
def setUp (cwd : Configuration.CurrentDirectory) (o : Options) (connection : Connection) :
    Work SetupError Grader := do
  let (c, base) ← configuration cwd o.configuration
  if !(Value.map c.settings).isWritable then throw .tooManyDigits
  Work.note [c.shownLine]
  let submission ← Work.given <|
    if o.submission = "" then c.submission? base else Configuration.asked? cwd o.submission
  let sourceType ← Work.given c.sourceType?
  let customData ← Work.given (c.customData? base)
  let (log, rubric) := c.rubric
  Work.note log
  let rubric ← Work.given rubric
  Work.note [rubricLine rubric]
  let reports ← Work.given (c.reports? base)
  let publishing ← Work.given c.publishing?
  if publishing.isSkipped then Work.note [Configuration.skipLine]
  let publisher ← Work.given (publishing.publisher? connection)
  return {
    id := if o.id = "" then c.id else o.id
    submission, sourceType, customData, rubric, reports, publisher }

end Grader
end ScriptGrader
