import ScriptGrader.CommandLine.Run

/-!
# The program

Everything a run decides is decided on values. Here the files that a run may
look at are read from the disk, and what it did to its reports is done to
the disk. Results are published only where there is a connection to the
service, and this program opens none: every request fails, and is noted.
-/

namespace ScriptGrader.CommandLine

/-- What stands at a place of the disk. -/
def look (place : List String) : IO (Option FileNode) := do
  try
    let bytes ← IO.FS.readBinFile (Path.text ⟨true, place⟩)
    return some (.file bytes.toList)
  catch
    | .inappropriateType .. => return some .directory
    | _ => return none

/-- Files with what the disk has on the way to some paths. -/
def gather (fs : Files) (paths : List Path) : IO Files := do
  let places := paths.flatMap fun p => (List.range p.parts.length).map fun n => p.parts.take (n + 1)
  places.foldlM (fun fs place => return ((← look place).map (fs.put place)).getD fs) fs

/-- Do to the disk what was done at a path. -/
def settle (before after : Files) (p : Path) : IO Unit :=
  match before.node? p.parts, after.node? p.parts with
  | some (.file _), none => IO.FS.removeFile p.text
  | old, some (.file bytes) =>
    if old = some (.file bytes) then return
    else IO.FS.writeBinFile p.text (ByteArray.mk bytes.toArray)
  | _, _ => return

/-- The answer to every request. -/
def unconnected : Web.Answer := .failure "There is no connection to the results service"

/-- Show the lines of a log. -/
def printLog (least : Level) (lines : List LogLine) : IO Unit :=
  (lines.filter (·.isShown least)).forM fun l =>
    IO.eprintln s!"{l.channel.name} [{l.level.name}]: {l.message}"

/-- The current directory. The only thing that can be wrong with it is that it is gone. -/
def currentDirectory : IO Configuration.CurrentDirectory := do
  try
    return .ok (Path.ofText (← IO.currentDir).toString)
  catch
    | _ => return .error FileFault.notFound.error

/-- A run on the files of the disk, up to its status. -/
def runOnDisk (cwd : Configuration.CurrentDirectory) (a : Arguments) : IO UInt32 := do
  let asked := if a.options.configuration = "" then .ok []
    else (Configuration.asked? cwd a.options.configuration).map fun p => [p]
  let files ← gather { entries := [] } (asked.toOption.getD [])
  let (grader, _) := Work.on ⟨files, [], [], []⟩ (Grader.setUp cwd a.options .own)
  let (needed, reports, count) := match grader with
    | .ok g => (g.submission :: g.customData.toList, g.reportPaths, g.rubric.size)
    | .error _ => ([], [], 0)
  let files ← gather files (needed ++ reports)
  let (ending, after) := Work.on ⟨files, [], [], List.replicate count unconnected⟩ (run cwd .own a)
  reports.forM (settle files after.files)
  printLog a.level after.log
  match ending with
  | .ok status => return status.toUInt32
  | .error e =>
    IO.eprintln e.message
    return 1

end ScriptGrader.CommandLine

open ScriptGrader

/-- The program. -/
def main (words : List String) : IO UInt32 := do
  match CommandLine.Order.ofCommandLine? words with
  | .error e =>
    IO.eprint e.text
    return 2
  | .ok .help =>
    IO.print CommandLine.help
    return 0
  | .ok (.run a) => CommandLine.runOnDisk (← CommandLine.currentDirectory) a
