import Mathlib.Data.List.TakeWhile
import ScriptGrader.Outside
import ScriptGrader.Proofs.Files.Agree

/-!
# What cleaned files are

Files are cleaned at some paths when regular files there are gone and
nothing else has changed. What can still be read was there before, and
where a path that was cleaned leads, a file can be made.

Cleaning goes through its paths up to the first at which it has to stop: one
that cannot be looked at, or one whose file the system does not let be taken
away (`fault?`). It takes away the regular files among those before it
(`Emptied`).
-/

namespace ScriptGrader

variable {fs fs' : Files} {p q : Path} {ps : List Path} {bytes : List UInt8} {place r : List String}

namespace Files

/-- Some files at the given paths are gone, and nothing else has changed. -/
structure Cleaned (fs fs' : Files) (ps : List Path) : Prop where
  rights : fs'.rights = fs.rights
  node?_eq_or : ∀ place, fs'.node? place = fs.node? place ∨
    fs'.node? place = none ∧ (∃ bytes, fs.node? place = some (.file bytes)) ∧ ∃ p ∈ ps, p.parts = place

namespace Cleaned

/-- Directories stay what they are. -/
theorem sameDirectories (h : fs.Cleaned fs' ps) : fs.SameDirectories fs' := by
  refine ⟨fun place => ?_, h.rights.symm⟩
  rcases h.node?_eq_or place with h | ⟨hnone, ⟨bytes, hfile⟩, -⟩
  · rw [h]
  · rw [hnone, hfile]
    simp

/-- What stands elsewhere stays. -/
theorem node?_eq (h : fs.Cleaned fs' ps) {place : List String} (hplace : ∀ p ∈ ps, p.parts ≠ place) :
    fs'.node? place = fs.node? place := by
  rcases h.node?_eq_or place with h | ⟨-, -, p, hp, heq⟩
  · exact h
  · exact absurd heq (hplace p hp)

/-- A file that is there now was there before. -/
theorem file_before (h : fs.Cleaned fs' ps) {place : List String}
    (hfile : fs'.node? place = some (.file bytes)) : fs.node? place = some (.file bytes) := by
  rcases h.node?_eq_or place with h | ⟨hnone, -, -⟩
  · rw [← h, hfile]
  · rw [hnone] at hfile
    cases hfile

/-- What can be read now could be read before. -/
theorem read?_before (h : fs.Cleaned fs' ps) (habove : Path.above ∉ p.parts)
    (hread : fs'.read? p = .ok bytes) : fs.read? p = .ok bytes := by
  have hsame := h.sameDirectories.symm
  obtain ⟨hreaches, hgrants, hfile⟩ := (read?_eq_ok_iff habove).1 hread
  exact (read?_eq_ok_iff habove).2 ⟨hsame.reaches hreaches, hsame.grants hgrants, h.file_before hfile⟩

/-- What could be read elsewhere can still be read. -/
theorem read?_after (h : fs.Cleaned fs' ps) (habove : Path.above ∉ p.parts)
    (hplace : ∀ q ∈ ps, q.parts ≠ p.parts) (hread : fs.read? p = .ok bytes) : fs'.read? p = .ok bytes := by
  have hsame := h.sameDirectories
  obtain ⟨hreaches, hgrants, hfile⟩ := (read?_eq_ok_iff habove).1 hread
  refine (read?_eq_ok_iff habove).2 ⟨hsame.reaches hreaches, hsame.grants hgrants, ?_⟩
  rw [h.node?_eq hplace, hfile]

end Cleaned
end Files

/-- What a run has done when it has only looked at files and cleaned some. -/
structure OnlyCleaned (o o' : Outside) (ps : List Path) : Prop where
  files : o.files.Cleaned o'.files ps
  sent : o'.sent = o.sent
  answers : o'.answers = o.answers

/-- A path that was cleaned: it could be looked at, and where it leads is no file any more. -/
def IsClean (fs fs' : Files) (p : Path) : Prop :=
  (∃ fs₁ b, fs.SameDirectories fs₁ ∧ fs₁.isFile? p = .ok b) ∧
    (fs.Reaches p → ∀ bytes, fs'.node? p.parts ≠ some (.file bytes))

/-- **What a cleaned path leads to**: a file can be opened there, and none is there. -/
theorem IsClean.opens (h : IsClean fs fs' p) (hsame : fs.SameDirectories fs')
    (habove : Path.above ∉ p.parts) (hzero : p.hasZero = false) (hparent : fs.HasDirectory p.parent)
    (hsearch : fs.Grants .search p.parent.parts) (hfree : fs.IsFree p.parts) (hdirectory : ¬ fs.HasDirectory p) :
    fs'.Opens p ∧ fs'.node? p.parts = none := by
  obtain ⟨⟨fs₁, b, hsame₁, hfile⟩, hclean⟩ := h
  have habove' : Path.above ∉ p.parent.parts := fun h => habove (p.parts.dropLast_subset h)
  have hparent₁ : fs₁.HasDirectory p.parent := by
    obtain ⟨place, hlocate⟩ := hparent
    obtain ⟨hreaches, -, hnode⟩ := (Files.locate_eq_ok_iff habove').1 hlocate
    exact ⟨_, (Files.locate_eq_ok_iff habove').2
      ⟨hsame₁.reaches hreaches, rfl, ((hsame₁.directories _).1 hnode.symm).symm⟩⟩
  have hreaches : fs.Reaches p :=
    hsame₁.symm.reaches (Files.reaches_of_parent habove hzero hparent₁ (hsame₁.grants hsearch) hfile)
  have hnot : fs'.node? p.parts ≠ some .directory := by
    intro hnode
    have hbefore := (hsame.directories _).2 hnode
    exact hdirectory ⟨p.parts, hbefore ▸ hreaches.locate_eq habove⟩
  refine ⟨⟨habove, hsame.reaches hreaches, hnot, hfree.of_sameDirectories hsame⟩, ?_⟩
  rcases hnode : fs'.node? p.parts with _ | ⟨bytes | _⟩
  · rfl
  · exact absurd hnode (hclean hreaches bytes)
  · exact absurd hnode hnot

/-! ## Files at places -/

namespace Files

/-- A path leads to a regular file at a place. -/
def FileAt (fs : Files) (p : Path) (place : List String) : Prop :=
  ∃ bytes, fs.locate p = .ok (place, some (.file bytes))

/-- There is a regular file at a path if the path leads to one. -/
theorem isFile?_iff_fileAt : fs.isFile? p = .ok true ↔ ∃ place, fs.FileAt p place :=
  isFile?_eq_true_iff_locate

/-- Without double dots, the place is the one that the components name. -/
theorem fileAt_iff_of_flat (hflat : Path.above ∉ p.parts) :
    fs.FileAt p place ↔ p.parts = place ∧ fs.isFile? p = .ok true := by
  rw [isFile?_iff_fileAt]
  constructor
  · rintro ⟨bytes, hlocate⟩
    exact ⟨((locate_eq_ok_iff hflat).1 hlocate).2.1.symm, place, bytes, hlocate⟩
  · rintro ⟨rfl, q, bytes, hlocate⟩
    obtain rfl := ((locate_eq_ok_iff hflat).1 hlocate).2.1
    exact ⟨bytes, hlocate⟩

/-- Taking a file away leaves the directories as they are. -/
theorem sameDirectories_erase (hnode : fs.node? place = some (.file bytes)) :
    fs.SameDirectories (fs.erase place) := by
  have hne : place ≠ [] := ne_nil_of_not_directory (by rw [hnode]; simp)
  refine ⟨fun q => ?_, rfl⟩
  by_cases hq : q = place
  · rw [hq, node?_erase_self _ hne, hnode]
    simp
  · rw [node?_erase_of_ne _ hq]

namespace FileAt

theorem node?_eq (h : fs.FileAt p place) : ∃ bytes, fs.node? place = some (.file bytes) := by
  obtain ⟨bytes, hlocate⟩ := h
  exact ⟨bytes, ((SameDirectories.refl fs).locate_eq_ok hlocate).1.symm⟩

theorem unique (h : fs.FileAt p place) (h' : fs.FileAt p r) : place = r := by
  obtain ⟨_, hlocate⟩ := h
  obtain ⟨_, hlocate'⟩ := h'
  rw [hlocate] at hlocate'
  cases hlocate'
  rfl

/-- Where the directories are the same, a path leads to the same file as long as that is there. -/
theorem of_sameDirectories (h : fs.FileAt p place) (hfs : fs.SameDirectories fs')
    (hnode : fs'.node? place = fs.node? place) : fs'.FileAt p place := by
  obtain ⟨bytes, hlocate⟩ := h
  obtain ⟨hbytes, hlocate'⟩ := hfs.locate_eq_ok hlocate
  exact ⟨bytes, by rw [hlocate', hnode, hbytes]⟩

/-- A file that a path leads to can be taken away if the system does not refuse that. -/
theorem unlink?_eq (h : fs.FileAt p place) (hgrants : fs.Grants .remove place) :
    fs.unlink? p = .ok (fs.erase place) := by
  obtain ⟨bytes, hlocate⟩ := h
  rw [unlink?, hlocate]
  simp [bind, Except.bind, check_of_grants hgrants, pure, Except.pure]

theorem unlink?_of_refused (h : fs.FileAt p place) {err : SystemError}
    (hrefused : fs.rights.refusal? .remove place = some err) :
    fs.unlink? p = .error (.fault (.refused err) p) := by
  obtain ⟨bytes, hlocate⟩ := h
  rw [unlink?, hlocate]
  simp [bind, Except.bind, check_of_refused hrefused]

theorem node?_erase (h : fs.FileAt p place) : (fs.erase place).node? place = none := by
  obtain ⟨bytes, hnode⟩ := h.node?_eq
  exact node?_erase_self _ (ne_nil_of_not_directory (by rw [hnode]; simp))

theorem sameDirectories (h : fs.FileAt p place) : fs.SameDirectories (fs.erase place) := by
  obtain ⟨bytes, hnode⟩ := h.node?_eq
  exact sameDirectories_erase hnode

/-- **With a file taken away**, every path leads to the file that it led to,
except for the paths to that one. -/
theorem erase_iff (h : fs.FileAt p place) : (fs.erase place).FileAt q r ↔ fs.FileAt q r ∧ r ≠ place := by
  have hsame := h.sameDirectories
  constructor
  · intro hq
    have hne : r ≠ place := by
      rintro rfl
      obtain ⟨bytes', hnode'⟩ := hq.node?_eq
      rw [h.node?_erase] at hnode'
      cases hnode'
    exact ⟨hq.of_sameDirectories hsame.symm (node?_erase_of_ne _ hne).symm, hne⟩
  · rintro ⟨hq, hne⟩
    exact hq.of_sameDirectories hsame (node?_erase_of_ne _ hne)

end FileAt

/-! ## Where cleaning stops -/

/-- Why cleaning stops at a path. -/
def fault? (fs : Files) (p : Path) : Option FileError :=
  match fs.isFile? p, fs.unlink? p with
  | .error e, _ => some e
  | .ok true, .error e => some e
  | .ok true, .ok _ => none
  | .ok false, _ => none

/-- **Cleaning stops** at a path that cannot be looked at, and at a file that
the system does not let be taken away. -/
theorem fault?_eq_some_iff {e : FileError} : fs.fault? p = some e ↔
    fs.isFile? p = .error e ∨
    ∃ place err, fs.FileAt p place ∧ fs.rights.refusal? .remove place = some err ∧ e = .fault (.refused err) p := by
  have hnone : fs.isFile? p ≠ .ok true → ∀ place, ¬ fs.FileAt p place := fun h place hp =>
    h (isFile?_iff_fileAt.2 ⟨place, hp⟩)
  rw [fault?]
  rcases hfile : fs.isFile? p with f | _ | _
  · have hnot := hnone (by simp [hfile])
    simp only [Option.some.injEq, Except.error.injEq]
    exact ⟨.inl, fun h => h.elim id fun ⟨place, _, hp, _⟩ => absurd hp (hnot place)⟩
  · refine iff_of_false (by simp) ?_
    rintro (h | ⟨place, -, hp, -⟩)
    · cases h
    · exact hnone (by simp [hfile]) place hp
  · -- there is a file, so it is its removal that decides
    obtain ⟨place, hp⟩ := isFile?_iff_fileAt.1 hfile
    rcases hrefused : fs.rights.refusal? .remove place with _ | err
    · rw [hp.unlink?_eq hrefused]
      refine iff_of_false (by simp) ?_
      rintro (h | ⟨r, err, hr, herr, -⟩)
      · cases h
      · rw [hr.unique hp, hrefused] at herr
        cases herr
    · rw [hp.unlink?_of_refused hrefused]
      simp only [Option.some.injEq]
      constructor
      · rintro rfl
        exact .inr ⟨place, err, hp, hrefused, rfl⟩
      · rintro (h | ⟨r, err', hr, herr, rfl⟩)
        · cases h
        · rw [hr.unique hp, hrefused] at herr
          cases herr
          rfl

/-- It goes on where there is no file, and where there is one that can be taken away. -/
theorem fault?_eq_none_iff : fs.fault? p = none ↔
    fs.isFile? p = .ok false ∨ ∃ place, fs.FileAt p place ∧ fs.Grants .remove place := by
  rcases hfile : fs.isFile? p with f | _ | _
  · rw [fault?_eq_some_iff.2 (.inl hfile)]
    refine iff_of_false (by simp) ?_
    rintro (h | ⟨place, hp, -⟩)
    · cases h
    · rw [isFile?_iff_fileAt.2 ⟨place, hp⟩] at hfile
      cases hfile
  · rw [fault?, hfile]
    simp
  · obtain ⟨place, hp⟩ := isFile?_iff_fileAt.1 hfile
    rcases hrefused : fs.rights.refusal? .remove place with _ | err
    · rw [fault?, hfile, hp.unlink?_eq hrefused]
      exact iff_of_true rfl (.inr ⟨place, hp, hrefused⟩)
    · rw [fault?_eq_some_iff.2 (.inr ⟨place, err, hp, hrefused, rfl⟩)]
      refine iff_of_false (by simp) ?_
      rintro (h | ⟨r, hr, hgrants⟩)
      · cases h
      · rw [hr.unique hp, Grants, hrefused] at hgrants
        cases hgrants

/-- A path at which cleaning goes on can be looked at. -/
theorem isFile?_of_fault? (h : fs.fault? p = none) : ∃ b, fs.isFile? p = .ok b := by
  rcases fault?_eq_none_iff.1 h with h | ⟨place, hp, -⟩
  · exact ⟨false, h⟩
  · exact ⟨true, isFile?_iff_fileAt.2 ⟨place, hp⟩⟩

/-- What cleaning stops for names the path. -/
theorem exists_fault_of_fault? {e : FileError} (h : fs.fault? p = some e) : ∃ f, e = .fault f p := by
  rcases fault?_eq_some_iff.1 h with h | ⟨-, err, -, -, rfl⟩
  · obtain ⟨f, rfl, -⟩ := isFile?_eq_error_iff.1 h
    exact ⟨f, rfl⟩
  · exact ⟨.refused err, rfl⟩

/-- **Cleaning stops alike** at a path where the same directories are there,
and the same of those files that cannot be taken away. -/
theorem SameDirectories.fault?_eq (h : fs.SameDirectories fs')
    (hfixed : ∀ place, ¬ fs.Grants .remove place → (fs.FileAt p place ↔ fs'.FileAt p place)) :
    fs.fault? p = fs'.fault? p := by
  refine Option.ext fun e => ?_
  rw [fault?_eq_some_iff, fault?_eq_some_iff, h.isFile?_eq_error_iff, h.rights]
  refine or_congr_right (exists_congr fun place => exists_congr fun err => ?_)
  constructor
  · rintro ⟨hp, herr, rfl⟩
    refine ⟨(hfixed place ?_).1 hp, herr, rfl⟩
    rw [Grants, h.rights, herr]
    simp
  · rintro ⟨hp, herr, rfl⟩
    refine ⟨(hfixed place ?_).2 hp, herr, rfl⟩
    rw [Grants, h.rights, herr]
    simp

/-- Taking a file away does not matter to where cleaning stops. -/
theorem FileAt.fault?_erase (h : fs.FileAt p place) (hgrants : fs.Grants .remove place) (q : Path) :
    (fs.erase place).fault? q = fs.fault? q := by
  refine (h.sameDirectories.fault?_eq fun r hr => ?_).symm
  rw [h.erase_iff]
  refine (and_iff_left ?_).symm
  rintro rfl
  exact hr hgrants

/-- The paths in front of the first one at which cleaning stops. -/
def passable (fs : Files) (ps : List Path) : List Path := ps.takeWhile fun p => (fs.fault? p).isNone

/-- Why cleaning stops at some path. -/
def firstFault? (fs : Files) (ps : List Path) : Option FileError := ps.findSome? fs.fault?

theorem passable_subset (fs : Files) (ps : List Path) : fs.passable ps ⊆ ps := ps.takeWhile_subset _

theorem fault?_eq_none_of_mem (h : fs.firstFault? ps = none) (hp : p ∈ ps) : fs.fault? p = none :=
  List.findSome?_eq_none_iff.1 h p hp

/-- Where cleaning stops at no path, none is left out. -/
theorem passable_eq_self (h : fs.firstFault? ps = none) : fs.passable ps = ps := by
  have hall : ∀ p ∈ ps, (fs.fault? p).isNone = true := by
    intro p hp
    rw [Option.isNone_iff_eq_none]
    exact fault?_eq_none_of_mem h hp
  simpa [passable] using @List.takeWhile_append_of_pos _ _ ps [] hall

theorem fault?_eq_none_of_mem_passable (hp : p ∈ fs.passable ps) : fs.fault? p = none := by
  simpa using List.mem_takeWhile_imp hp

/-- **The first path** at which cleaning stops, with those in front of it. -/
theorem exists_eq_append_of_firstFault? {e : FileError} (h : fs.firstFault? ps = some e) :
    ∃ p after, ps = fs.passable ps ++ p :: after ∧ fs.fault? p = some e := by
  obtain ⟨before, p, after, rfl, hp, hbefore⟩ := List.findSome?_eq_some_iff.1 h
  refine ⟨p, after, ?_, hp⟩
  have htake : fs.passable (before ++ p :: after) = before := by
    rw [passable, List.takeWhile_append_of_pos (by simpa using hbefore), List.takeWhile_cons_of_neg (by simp [hp]),
      List.append_nil]
  rw [htake]

/-- Paths at which cleaning stops alike, each by itself. -/
theorem firstFault?_congr (h : ∀ p ∈ ps, fs.fault? p = fs'.fault? p) :
    fs.firstFault? ps = fs'.firstFault? ps := by
  induction ps with
  | nil => rfl
  | cons p ps ih =>
    rw [List.forall_mem_cons] at h
    rw [firstFault?, firstFault?, List.findSome?_cons, List.findSome?_cons, h.1]
    have hrest := ih h.2
    rw [firstFault?, firstFault?] at hrest
    rw [hrest]

theorem passable_congr (h : ∀ p ∈ ps, fs.fault? p = fs'.fault? p) : fs.passable ps = fs'.passable ps := by
  induction ps with
  | nil => rfl
  | cons p ps ih =>
    rw [List.forall_mem_cons] at h
    rw [passable, passable, List.takeWhile_cons, List.takeWhile_cons, h.1]
    have hrest := ih h.2
    rw [passable, passable] at hrest
    rw [hrest]

/-! ## Exactly what cleaning does -/

/-- The regular files at some paths are gone, and nothing else has changed. -/
structure Emptied (fs fs' : Files) (ps : List Path) : Prop where
  gone : ∀ p ∈ ps, fs.isFile? p = .ok true → fs'.node? p.parts = none
  kept : ∀ place, (∀ p ∈ ps, p.parts = place → fs.isFile? p ≠ .ok true) →
    fs'.node? place = fs.node? place
  rights : fs'.rights = fs.rights

namespace Emptied

/-- What was emptied is cleaned. -/
theorem cleaned (h : fs.Emptied fs' ps) (hflat : ∀ p ∈ ps, Path.above ∉ p.parts) : fs.Cleaned fs' ps := by
  refine ⟨h.rights, fun place => ?_⟩
  by_cases hplace : ∃ p ∈ ps, p.parts = place ∧ fs.isFile? p = .ok true
  · obtain ⟨p, hp, rfl, hfile⟩ := hplace
    obtain ⟨-, hnode⟩ := (isFile?_eq_true_iff (hflat p hp)).1 hfile
    exact .inr ⟨h.gone p hp hfile, hnode, p, hp, rfl⟩
  · exact .inl (h.kept place fun p hp heq hfile => hplace ⟨p, hp, heq, hfile⟩)

theorem sameDirectories (h : fs.Emptied fs' ps) (hflat : ∀ p ∈ ps, Path.above ∉ p.parts) :
    fs.SameDirectories fs' := (h.cleaned hflat).sameDirectories

/-- **What was emptied** is no regular file any more. -/
theorem isFile?_eq_false (h : fs.Emptied fs' ps) (hflat : ∀ p ∈ ps, Path.above ∉ p.parts) (hp : p ∈ ps)
    (hlook : ∃ b, fs.isFile? p = .ok b) : fs'.isFile? p = .ok false := by
  have hsame := h.sameDirectories hflat
  rcases hfile : fs'.isFile? p with e | _ | _
  · obtain ⟨b, hb⟩ := hlook
    rw [hsame.isFile?_eq_error_iff.2 hfile] at hb
    cases hb
  · rfl
  · -- a regular file would have been one before, and would be gone
    obtain ⟨hreaches, bytes, hnode⟩ := (isFile?_eq_true_iff (hflat p hp)).1 hfile
    have hbefore : fs.isFile? p = .ok true := (isFile?_eq_true_iff (hflat p hp)).2
      ⟨hsame.symm.reaches hreaches, bytes, (h.cleaned hflat).file_before hnode⟩
    rw [h.gone p hp hbefore] at hnode
    cases hnode

/-- A path where no file is left, in spite of a way that leads there. -/
theorem node?_ne_file (h : fs.Emptied fs' ps) (hflat : ∀ p ∈ ps, Path.above ∉ p.parts) (hp : p ∈ ps)
    (hreaches : fs.Reaches p) : fs'.node? p.parts ≠ some (.file bytes) := by
  intro hnode
  have hlook : ∃ b, fs.isFile? p = .ok b := by
    rw [isFile?, hreaches.locate_eq (hflat p hp)]
    split
    · exact ⟨_, rfl⟩
    · next hlocate => cases hlocate
    · exact ⟨_, rfl⟩
  have hfalse := h.isFile?_eq_false hflat hp hlook
  have htrue := (isFile?_eq_true_iff (hflat p hp)).2
    ⟨(h.sameDirectories hflat).reaches hreaches, bytes, hnode⟩
  rw [hfalse] at htrue
  cases htrue

/-- Where cleaning stops at no path, each of them is clean. -/
theorem isClean (h : fs.Emptied fs' ps) (hflat : ∀ p ∈ ps, Path.above ∉ p.parts)
    (hfault : fs.firstFault? ps = none) (hp : p ∈ ps) : IsClean fs fs' p := by
  obtain ⟨b, hb⟩ := isFile?_of_fault? (fault?_eq_none_of_mem hfault hp)
  exact ⟨⟨fs, b, .refl fs, hb⟩, fun hreaches bytes => h.node?_ne_file hflat hp hreaches⟩

end Emptied
end Files

end ScriptGrader
