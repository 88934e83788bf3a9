import ScriptGrader.Files.Path
import ScriptGrader.Text.Quoted

/-!
# Files

The files and directories that a run finds and leaves behind, and what the
system lets it do with them. A path is walked component by component from
the root. Every step of an operation may be refused, and what is written may
turn out not to fit when the file is open already; then the part that fits
stays. There are no symbolic links, and a hard link is a file of its own.
-/

namespace ScriptGrader

/-- What stands at a place. -/
inductive FileNode
  | file (bytes : List UInt8)
  | directory
  deriving DecidableEq, Repr

/-- An error of the system: its number and its text. -/
structure SystemError where
  code : Nat
  text : String
  deriving DecidableEq, Repr

namespace SystemError

def message (e : SystemError) : String := s!"[Errno {e.code}] {e.text}"

/-- Does the error only tell that there is nothing? A loop of links and a
descriptor that is not open count as nothing too. -/
def isAbsence (e : SystemError) : Bool := [2, 20, 9, 40].contains e.code

end SystemError

/-- What is wrong with a path. -/
inductive FileFault
  | notFound
  | notDirectory
  | isDirectory
  | nameTooLong
  /-- The system refuses something where the path leads. -/
  | refused (e : SystemError)
  deriving DecidableEq, Repr

namespace FileFault

/-- The error of the system that it is. -/
def error : FileFault → SystemError
  | notFound => ⟨2, "No such file or directory"⟩
  | notDirectory => ⟨20, "Not a directory"⟩
  | isDirectory => ⟨21, "Is a directory"⟩
  | nameTooLong => ⟨36, "File name too long"⟩
  | refused e => e

def message (f : FileFault) : String := f.error.message

end FileFault

/-- What can be done at a place and be refused. -/
inductive Deed
  /-- Look for something in a directory. -/
  | search
  | read
  /-- Open a file to write to it, or make one. -/
  | write
  /-- Take a file away. -/
  | remove
  deriving DecidableEq, Repr

/-- What the system allows. -/
structure Rights where
  /-- The error that something is refused with at a place. -/
  refusal? : Deed → List String → Option SystemError := fun _ _ => none
  /-- The number of bytes that a file at a place can hold, and the error of writing more. -/
  room? : List String → Option (Nat × SystemError) := fun _ => none

/-- Files and directories by the components that lead to them from the root. -/
structure Files where
  entries : List (List String × FileNode)
  rights : Rights := {}

/-- Why a file operation fails. -/
inductive FileError
  | fault (f : FileFault) (path : Path)
  /-- The path has a character zero in it. -/
  | zero
  deriving DecidableEq, Repr

namespace FileError

def message : FileError → String
  | fault f p => s!"{f.message}: {Text.quoted p.text}"
  | zero => "embedded null byte"

end FileError

/-- Why something does not get into a file. -/
inductive WriteError
  | unopened (e : FileError)
  /-- The file is open, but not everything fits into it. -/
  | cut (e : SystemError)
  deriving DecidableEq, Repr

namespace Files

/-- The longest name of a component, in bytes. -/
def nameLimit : Nat := 255

/-- The longest path, in bytes. -/
def pathLimit : Nat := 4095

/-- What stands at a place. The root is always a directory. -/
def node? (fs : Files) (place : List String) : Option FileNode :=
  if place.isEmpty then some .directory else fs.entries.lookup place

/-- Put something at a place. -/
def put (fs : Files) (place : List String) (e : FileNode) : Files :=
  { fs with entries := (place, e) :: fs.entries.filter fun x => x.1 ≠ place }

/-- Take away what stands at a place. -/
def erase (fs : Files) (place : List String) : Files :=
  { fs with entries := fs.entries.filter fun x => x.1 ≠ place }

/-- The system does not refuse something at a place. -/
def Grants (fs : Files) (d : Deed) (place : List String) : Prop := fs.rights.refusal? d place = none

instance (fs : Files) (d : Deed) (place : List String) : Decidable (fs.Grants d place) :=
  inferInstanceAs (Decidable (_ = none))

/-- The place that components lead to from a directory, and what stands there. -/
def walk (fs : Files) (place : List String) :
    List String → Except FileFault (List String × Option FileNode)
  | [] => .ok (place, fs.node? place)
  | name :: rest =>
    match fs.rights.refusal? .search place with
    | some e => .error (.refused e)
    | none =>
      if name = Path.above then fs.walk place.dropLast rest
      else if nameLimit < name.utf8ByteSize then .error .nameTooLong
      else
        match fs.node? (place ++ [name]), rest with
        | e, [] => .ok (place ++ [name], e)
        | none, _ :: _ => .error .notFound
        | some (.file _), _ :: _ => .error .notDirectory
        | some .directory, _ :: _ => fs.walk (place ++ [name]) rest

/-- Nothing is found where the system lets nothing be searched for. -/
theorem walk_refused {fs : Files} {place : List String} {err : SystemError}
    (hsearch : fs.rights.refusal? .search place = some err) (name : String) (rest : List String) :
    fs.walk place (name :: rest) = .error (.refused err) := by
  rw [walk.eq_def]
  simp only [hsearch]

/-- The place that a path leads to, and what stands there. -/
def locate (fs : Files) (p : Path) : Except FileError (List String × Option FileNode) :=
  if p.hasZero then .error .zero
  else if pathLimit < p.text.utf8ByteSize then .error (.fault .nameTooLong p)
  else (fs.walk [] p.parts).mapError (.fault · p)

/-- Is there a file at the path? What is not there is no file, and neither
is what cannot be: other errors are errors here too. -/
def isFile? (fs : Files) (p : Path) : Except FileError Bool :=
  match fs.locate p with
  | .ok (_, some (.file _)) => .ok true
  | .error (.fault f q) => if f.error.isAbsence then .ok false else .error (.fault f q)
  | _ => .ok false

/-- Refuse something about a path, if the system does so at its place. -/
def check (fs : Files) (d : Deed) (place : List String) (p : Path) : Except FileError Unit :=
  match fs.rights.refusal? d place with
  | some e => .error (.fault (.refused e) p)
  | none => .ok ()

/-- The bytes of a file. -/
def read? (fs : Files) (p : Path) : Except FileError (List UInt8) := do
  match ← fs.locate p with
  | (place, some e) => do
    fs.check .read place p
    match e with
    | .file bytes => return bytes
    | .directory => .error (.fault .isDirectory p)
  | (_, none) => .error (.fault .notFound p)

/-- Open a file to write to it: its place, and the bytes that it has. -/
def open? (fs : Files) (p : Path) : Except FileError (List String × List UInt8) := do
  match ← fs.locate p with
  | (_, some .directory) => .error (.fault .isDirectory p)
  | (place, some (.file bytes)) => do
    fs.check .write place p
    return (place, bytes)
  | (place, none) => do
    fs.check .write place p
    return (place, [])

/-- Write bytes into a file that is open, behind some that it keeps. Those
for which there is room stay, even if not all of them fit. -/
def fill (fs : Files) (place : List String) (kept bytes : List UInt8) : Except WriteError Unit × Files :=
  match fs.rights.room? place with
  | none => (.ok (), fs.put place (.file (kept ++ bytes)))
  | some (size, e) =>
    (if kept.length + bytes.length ≤ size then .ok () else .error (.cut e),
      fs.put place (.file (kept ++ bytes.take (size - kept.length))))

/-- Give a file new bytes; a file that is not there is made. What it held is
gone as soon as it is open. -/
def write (fs : Files) (p : Path) (bytes : List UInt8) : Except WriteError Unit × Files :=
  match fs.open? p with
  | .ok (place, _) => fs.fill place [] bytes
  | .error e => (.error (.unopened e), fs)

/-- Add bytes at the end of a file; a file that is not there is made. -/
def append (fs : Files) (p : Path) (bytes : List UInt8) : Except WriteError Unit × Files :=
  match fs.open? p with
  | .ok (place, old) => fs.fill place old bytes
  | .error e => (.error (.unopened e), fs)

/-- Take away the file at a path. -/
def unlink? (fs : Files) (p : Path) : Except FileError Files := do
  match ← fs.locate p with
  | (place, some (.file _)) => do
    fs.check .remove place p
    return fs.erase place
  | (_, some .directory) => .error (.fault .isDirectory p)
  | (_, none) => .error (.fault .notFound p)

/-- Take away the file at a path; where that fails, nothing changes. -/
def unlink (fs : Files) (p : Path) : Except FileError Unit × Files :=
  match fs.unlink? p with
  | .ok fs' => (.ok (), fs')
  | .error e => (.error e, fs)

/-! ## What stands where -/

theorem node?_put_self (fs : Files) (place : List String) (e : FileNode) (h : place ≠ []) :
    (fs.put place e).node? place = some e := by
  simp [node?, put, h]

theorem lookup_filter_ne (l : List (List String × FileNode)) {p q : List String} (h : q ≠ p) :
    (l.filter fun x => x.1 ≠ p).lookup q = l.lookup q := by
  induction l with
  | nil => rfl
  | cons x l ih =>
    obtain ⟨r, e⟩ := x
    by_cases hr : r = p
    · have hq : (q == r) = false := by simpa [hr] using h
      rw [List.filter_cons_of_neg (by simpa using hr), ih, List.lookup_cons, hq]
    · rw [List.filter_cons_of_pos (by simpa using hr), List.lookup_cons, List.lookup_cons, ih]

theorem node?_put_of_ne (fs : Files) {p q : List String} (e : FileNode) (h : q ≠ p) :
    (fs.put p e).node? q = fs.node? q := by
  have hq : (q == p) = false := by simpa using h
  simp only [node?, put, List.lookup_cons, hq, lookup_filter_ne fs.entries h]

theorem node?_erase_of_ne (fs : Files) {p q : List String} (h : q ≠ p) :
    (fs.erase p).node? q = fs.node? q := by
  simp only [node?, erase, lookup_filter_ne fs.entries h]

theorem lookup_filter_self (l : List (List String × FileNode)) (p : List String) :
    (l.filter fun x => x.1 ≠ p).lookup p = none := by
  induction l with
  | nil => rfl
  | cons x l ih =>
    obtain ⟨r, e⟩ := x
    by_cases hr : r = p
    · rw [List.filter_cons_of_neg (by simpa using hr), ih]
    · have hp : (p == r) = false := by simpa using fun h => hr h.symm
      rw [List.filter_cons_of_pos (by simpa using hr), List.lookup_cons, hp, ih]

theorem node?_erase_self (fs : Files) {p : List String} (h : p ≠ []) :
    (fs.erase p).node? p = none := by
  have : p.isEmpty = false := by simpa using h
  simp only [node?, erase, this, lookup_filter_self, Bool.false_eq_true, if_false]

end Files
end ScriptGrader
