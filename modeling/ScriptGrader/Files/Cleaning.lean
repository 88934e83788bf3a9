import ScriptGrader.Outside

/-!
# Cleaning

Files that an earlier run left behind are taken away before a new one.
What is not there, or is a directory, is passed over.
-/

namespace ScriptGrader

/-- The note about a file that was taken away. -/
def Path.deletedLine (channel : Channel) (p : Path) : LogLine :=
  .info channel s!"Deleted: {p.text}"

/-- Take away the files among some paths, and tell which there were. A file
that cannot be taken away ends it, and so does a path that cannot be looked at. -/
def clean (channel : Channel) : List Path → Work FileError (List Path)
  | [] => return []
  | p :: ps => do
    match (← Work.files).isFile? p with
    | .error e => throw e
    | .ok false => clean channel ps
    | .ok true =>
      Work.change fun fs => fs.unlink p
      Work.note [p.deletedLine channel]
      return p :: (← clean channel ps)

end ScriptGrader
