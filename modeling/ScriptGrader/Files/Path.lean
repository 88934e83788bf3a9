/-!
# Paths

A path is absolute or relative and has components. Empty components and
single dots name nothing and are dropped when a text is read as a path; a
double dot is kept, because what it leads to is only known on the way,
until the path is resolved.
-/

namespace ScriptGrader

/-- A path to a file or directory. -/
structure Path where
  isAbsolute : Bool
  parts : List String
  deriving DecidableEq, Repr, Inhabited

namespace Path

/-- The step to the directory above. -/
def above : String := ".."

def ofText (s : String) : Path :=
  ⟨s.toList.head? = some '/',
    ((s.toList.splitOn '/').map String.ofList).filter fun p => p ≠ "" ∧ p ≠ "."⟩

def text (p : Path) : String :=
  let joined := "/".intercalate p.parts
  if p.isAbsolute then "/" ++ joined
  else if p.parts.isEmpty then "."
  else joined

/-- The path as seen from a directory; an absolute path stays what it is. -/
def join (base p : Path) : Path := if p.isAbsolute then p else ⟨base.isAbsolute, base.parts ++ p.parts⟩

/-- Components without double dots: each takes back the component before it. -/
def flatten (parts : List String) : List String :=
  (parts.foldl (fun done p => if p = above then done.tail else p :: done) []).reverse

/-- The absolute path without double dots that a path leads to from a directory. -/
def resolve (base p : Path) : Path := ⟨true, flatten (base.join p).parts⟩

/-- The directory that every absolute path leads on from. -/
def root : Path := ⟨true, []⟩

/-- The directory that a path lies in. -/
def parent (p : Path) : Path := ⟨p.isAbsolute, p.parts.dropLast⟩

/-- Does the character zero occur in the path? No file system has such a path. -/
def hasZero (p : Path) : Bool := p.parts.any fun s => s.toList.contains '\x00'

/-- No double dot is left in a resolved path. -/
theorem above_notMem_flatten (parts : List String) : above ∉ flatten parts := by
  have step : ∀ (l done : List String), above ∉ done →
      above ∉ l.foldl (fun done p => if p = above then done.tail else p :: done) done := by
    intro l
    induction l with
    | nil => exact fun _ h => h
    | cons p l ih =>
      intro done h
      refine ih _ ?_
      by_cases hp : p = above
      · simpa [hp] using fun hm => h (List.mem_of_mem_tail hm)
      · simpa [hp] using ⟨fun he => hp he.symm, h⟩
  simpa [flatten] using step parts [] (by simp)

end Path
end ScriptGrader
