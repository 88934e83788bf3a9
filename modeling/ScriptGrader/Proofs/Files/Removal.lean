import ScriptGrader.Files.Cleaning
import ScriptGrader.Proofs.Files.Cleaning
import ScriptGrader.Proofs.Outside
import ScriptGrader.Proofs.Position

/-!
# Which files cleaning takes away

Several paths may lead to one file, spelled alike or with double dots in
them. Only files are taken away, so every path leads to the same place all
the time (`FileAt.erase_iff`), and a path takes its file away if it is the
first of the list that leads there (`IsFirst`). `CleansTo` says how cleaning
ends, with every path behind it or at one where it has to stop, and what is
left of the files then. A file that has several names is a file under each of
them, for taking one name away leaves the others.
-/

namespace ScriptGrader

variable {fs fs' : Files} {o : Outside} {p q : Path} {ps : List Path} {place r : List String} {i : ℕ}

namespace Files

/-! ## Files that are gone -/

/-- The regular files that some paths lead to are gone, and nothing else has changed. -/
structure Removed (fs fs' : Files) (ps : List Path) : Prop where
  gone : ∀ p ∈ ps, ∀ place, fs.FileAt p place → fs'.node? place = none
  kept : ∀ place, (∀ p ∈ ps, ¬ fs.FileAt p place) → fs'.node? place = fs.node? place
  rights : fs'.rights = fs.rights

namespace Removed

theorem nil (fs : Files) : fs.Removed fs [] := ⟨by simp, fun _ _ => rfl, rfl⟩

/-- A path that leads to no regular file may be listed or not. -/
theorem cons_of_not (h : fs.Removed fs' ps) (hp : ∀ place, ¬ fs.FileAt p place) : fs.Removed fs' (p :: ps) := by
  refine ⟨?_, fun place hplace => h.kept place fun q hq => hplace q (List.mem_cons_of_mem p hq), h.rights⟩
  intro q hq place hfile
  rcases List.mem_cons.1 hq with rfl | hq
  · exact absurd hfile (hp place)
  · exact h.gone q hq place hfile

/-- A file that is taken away in front of the others. -/
theorem cons_of_fileAt (hp : fs.FileAt p place) (h : (fs.erase place).Removed fs' ps) :
    fs.Removed fs' (p :: ps) := by
  have hgone : fs'.node? place = none := by
    rw [h.kept, hp.node?_erase]
    exact fun q _ hq => (hp.erase_iff.1 hq).2 rfl
  refine ⟨fun q hq r hfile => ?_, fun r hr => ?_, h.rights⟩
  · by_cases hne : r = place
    · rw [hne, hgone]
    · rcases List.mem_cons.1 hq with rfl | hq
      · exact absurd (hfile.unique hp) hne
      · exact h.gone q hq r (hp.erase_iff.2 ⟨hfile, hne⟩)
  · have hne : r ≠ place := by
      rintro rfl
      exact hr p List.mem_cons_self hp
    rw [h.kept, node?_erase_of_ne _ hne]
    exact fun q hq hfile => hr q (List.mem_cons_of_mem p hq) (hp.erase_iff.1 hfile).1

/-- Directories stay what they are. -/
theorem sameDirectories (h : fs.Removed fs' ps) : fs.SameDirectories fs' := by
  refine ⟨fun place => ?_, h.rights.symm⟩
  by_cases hplace : ∃ p ∈ ps, fs.FileAt p place
  · obtain ⟨p, hp, hfile⟩ := hplace
    obtain ⟨bytes, hnode⟩ := hfile.node?_eq
    rw [h.gone p hp place hfile, hnode]
    simp
  · rw [h.kept place fun p hp hfile => hplace ⟨p, hp, hfile⟩]

/-- **A path that was listed**, if it can be looked at, leads to no regular file any more. -/
theorem isFile?_eq_false (h : fs.Removed fs' ps) (hp : p ∈ ps) (hlook : ∃ b, fs.isFile? p = .ok b) :
    fs'.isFile? p = .ok false := by
  have hsame := h.sameDirectories
  rcases hfile : fs'.isFile? p with e | _ | _
  · obtain ⟨b, hb⟩ := hlook
    rw [hsame.isFile?_eq_error_iff.2 hfile] at hb
    cases hb
  · rfl
  · exfalso
    obtain ⟨place, hfile⟩ := isFile?_iff_fileAt.1 hfile
    obtain ⟨bytes, hnode⟩ := hfile.node?_eq
    by_cases hplace : ∃ q ∈ ps, fs.FileAt q place
    · obtain ⟨q, hq, hfile'⟩ := hplace
      rw [h.gone q hq place hfile'] at hnode
      cases hnode
    · -- the file that is there now was there before, and the path led to it
      have hkept := h.kept place fun q hq hfile' => hplace ⟨q, hq, hfile'⟩
      exact hplace ⟨p, hp, hfile.of_sameDirectories hsame.symm hkept.symm⟩

/-- Where no path has a double dot, the places are those that the paths name. -/
theorem emptied (h : fs.Removed fs' ps) (hflat : ∀ p ∈ ps, Path.above ∉ p.parts) : fs.Emptied fs' ps := by
  refine ⟨fun p hp hfile => ?_, fun place hplace => h.kept place fun p hp hfile => ?_, h.rights⟩
  · exact h.gone p hp p.parts ((fileAt_iff_of_flat (hflat p hp)).2 ⟨rfl, hfile⟩)
  · obtain ⟨heq, hfile⟩ := (fileAt_iff_of_flat (hflat p hp)).1 hfile
    exact hplace p hp heq hfile

end Removed

/-! ## First paths to files -/

/-- The path at a position is the first of the list that leads to its regular file. -/
def IsFirst (fs : Files) (ps : List Path) (i : ℕ) : Prop :=
  ∃ place, IsLeast {j | HoldsAt (fs.FileAt · place) ps j} i

theorem isFirst_cons_zero : fs.IsFirst (p :: ps) 0 ↔ ∃ place, fs.FileAt p place := by
  simp only [IsFirst, isLeast_holdsAt_cons_zero]

/-- Behind a path that leads to no regular file, the first paths are what they are without it. -/
theorem isFirst_cons_succ_of_not (hp : ∀ place, ¬ fs.FileAt p place) :
    fs.IsFirst (p :: ps) (i + 1) ↔ fs.IsFirst ps i := by
  simp only [IsFirst, isLeast_holdsAt_cons_succ, hp, not_false_eq_true, true_and]

/-- **Behind a path to a file**, the first paths are those among the files that are left. -/
theorem FileAt.isFirst_cons_succ (hp : fs.FileAt p place) :
    fs.IsFirst (p :: ps) (i + 1) ↔ (fs.erase place).IsFirst ps i := by
  refine exists_congr fun r => ?_
  rw [isLeast_holdsAt_cons_succ]
  by_cases hne : r = place
  · subst hne
    refine iff_of_false (fun h => h.1 hp) ?_
    rintro ⟨⟨q, -, hq⟩, -⟩
    exact (hp.erase_iff.1 hq).2 rfl
  · have hnot : ¬ fs.FileAt p r := fun h => hne (h.unique hp)
    have heq : (fun q => (fs.erase place).FileAt q r) = fun q => fs.FileAt q r := by
      funext q
      exact propext (hp.erase_iff.trans (and_iff_left hne))
    simp only [hnot, not_false_eq_true, true_and, heq]

/-! ## How cleaning ends -/

/-- **How cleaning ends.** It has come by every path, and lists those that were
the first to lead to a regular file; or it stops at a path, which cannot be looked
at or leads to a file that the system does not let be taken away. The regular
files at the paths that it came by are gone, and nothing else. -/
inductive CleansTo (fs : Files) (ps : List Path) (fs' : Files) : Except FileError (List Path) → Prop
  | returned {deleted : List Path} (empty : ∀ p ∈ ps, fs'.isFile? p = .ok false)
      (listed : PickedAt (fs.IsFirst ps) ps deleted) (removed : fs.Removed fs' ps) :
      CleansTo fs ps fs' (.ok deleted)
  | stopped {before after : List Path} {p : Path} {f : FileFault} (split : ps = before ++ p :: after)
      (passed : ∀ q ∈ before, fs.isFile? q = .ok false ∨ ∃ place, fs.FileAt q place ∧ fs.Grants .remove place)
      (fault : fs.isFile? p = .error (.fault f p) ∨
        ∃ place err, fs.FileAt p place ∧ fs.rights.refusal? .remove place = some err ∧ f = .refused err)
      (removed : fs.Removed fs' before) : CleansTo fs ps fs' (.error (.fault f p))

end Files

/-! ## What each path does -/

theorem on_clean_cons_of_not (hfile : o.files.isFile? p = .ok false) (channel : Channel) (ps : List Path) :
    Work.on o (clean channel (p :: ps)) = Work.on o (clean channel ps) := by
  rw [clean, Work.on_bind_ok (Work.on_files o), hfile]

/-- A path at which cleaning stops. -/
theorem on_clean_cons_of_fault {e : FileError} (hfault : o.files.fault? p = some e) (channel : Channel)
    (ps : List Path) : Work.on o (clean channel (p :: ps)) = (.error e, o) := by
  rw [clean, Work.on_bind_ok (Work.on_files o)]
  rcases Files.fault?_eq_some_iff.1 hfault with hfile | ⟨place, err, hp, hrefused, rfl⟩
  · rw [hfile]
    rfl
  · rw [Files.isFile?_iff_fileAt.2 ⟨place, hp⟩]
    refine Work.on_bind_error ?_ _
    rw [Work.on_change, Files.unlink, hp.unlink?_of_refused hrefused]

/-- A path to a regular file takes it away, and is listed in front of what comes of the others. -/
theorem on_clean_cons_of_fileAt (hp : o.files.FileAt p place) (hgrants : o.files.Grants .remove place)
    (channel : Channel) (ps : List Path) :
    Work.on o (clean channel (p :: ps)) =
      let rest := Work.on { o with files := o.files.erase place, log := o.log ++ [p.deletedLine channel] }
        (clean channel ps)
      (rest.1.map (p :: ·), rest.2) := by
  have hchange : Work.on o (Work.change fun fs => fs.unlink p) =
      (.ok (), { o with files := o.files.erase place }) := by
    rw [Work.on_change, Files.unlink, hp.unlink?_eq hgrants]
  rw [clean, Work.on_bind_ok (Work.on_files o), Files.isFile?_iff_fileAt.2 ⟨place, hp⟩]
  simp only
  rw [Work.on_bind_ok hchange, Work.on_bind_ok (Work.on_note _ _), Work.on_bind]
  rcases Work.on { o with files := o.files.erase place, log := o.log ++ [p.deletedLine channel] }
    (clean channel ps) with ⟨e | deleted, o'⟩
  · rfl
  · rfl

/-- **A whole run of cleaning**, from what each path does. -/
theorem on_clean_removed (channel : Channel) (ps : List Path) (o : Outside) :
    ∃ deleted o', Work.on o (clean channel ps) =
        ((o.files.firstFault? ps).elim (.ok deleted) .error, o') ∧
      o.files.Removed o'.files (o.files.passable ps) ∧
      (o.files.firstFault? ps = none → PickedAt (o.files.IsFirst ps) ps deleted) ∧
      o'.sent = o.sent ∧ o'.answers = o.answers := by
  induction ps generalizing o with
  | nil =>
    refine ⟨[], o, rfl, .nil _, fun _ => .nil ?_, rfl, rfl⟩
    rintro i ⟨place, h, -⟩
    exact absurd h.lt_length (Nat.not_lt_zero i)
  | cons p ps ih =>
    rw [Files.passable, Files.firstFault?]
    rcases hfault : o.files.fault? p with _ | e
    swap
    · -- nothing is done any more
      refine ⟨[], o, ?_, ?_, ?_, rfl, rfl⟩
      · rw [on_clean_cons_of_fault hfault, List.findSome?_cons, hfault]
        rfl
      · rw [List.takeWhile_cons_of_neg (by simp [hfault])]
        exact .nil _
      · rw [List.findSome?_cons, hfault]
        exact fun h => by cases h
    rw [List.findSome?_cons, hfault, List.takeWhile_cons_of_pos (by simp [hfault])]
    rcases Files.fault?_eq_none_iff.1 hfault with hfile | ⟨place, hp, hgrants⟩
    · -- the path leads to no regular file
      have hnot : ∀ place, ¬ o.files.FileAt p place := by
        intro place h
        rw [Files.isFile?_iff_fileAt.2 ⟨place, h⟩] at hfile
        cases hfile
      obtain ⟨deleted, o', hrun, hremoved, hlisted, hsent, hanswers⟩ := ih o
      rw [on_clean_cons_of_not hfile]
      refine ⟨deleted, o', hrun, hremoved.cons_of_not hnot, fun h => ?_, hsent, hanswers⟩
      refine ((hlisted h).congr fun i => (Files.isFirst_cons_succ_of_not hnot).symm).skip ?_
      exact fun hfirst => (Files.isFirst_cons_zero.1 hfirst).elim hnot
    · -- the path leads to a regular file, which is taken away
      obtain ⟨deleted, o', hrun, hremoved, hlisted, hsent, hanswers⟩ := ih
        { o with files := o.files.erase place, log := o.log ++ [p.deletedLine channel] }
      -- cleaning stops where it would have stopped before the file was taken away
      have hsame : ∀ q ∈ ps, (o.files.erase place).fault? q = o.files.fault? q := fun q _ =>
        hp.fault?_erase hgrants q
      rw [Files.firstFault?_congr hsame] at hrun hlisted
      rw [Files.passable_congr hsame] at hremoved
      rw [on_clean_cons_of_fileAt hp hgrants]
      refine ⟨p :: deleted, o', ?_, .cons_of_fileAt hp hremoved, fun h => ?_, hsent, hanswers⟩
      · rw [hrun, Files.firstFault?]
        rcases ps.findSome? o.files.fault? with _ | e
        · rfl
        · rfl
      · refine ((hlisted h).congr fun i => hp.isFirst_cons_succ.symm).pick ?_
        exact Files.isFirst_cons_zero.2 ⟨place, hp⟩

/-- **Cleaning at paths without double dots**, whether it comes to its end or not. -/
theorem on_clean (hflat : ∀ p ∈ ps, Path.above ∉ p.parts) (channel : Channel) (o : Outside) :
    ∃ deleted o', Work.on o (clean channel ps) =
        ((o.files.firstFault? ps).elim (.ok deleted) .error, o') ∧
      o.files.Emptied o'.files (o.files.passable ps) ∧ o'.sent = o.sent ∧ o'.answers = o.answers := by
  obtain ⟨deleted, o', hrun, hremoved, -, hsent, hanswers⟩ := on_clean_removed channel ps o
  exact ⟨deleted, o', hrun, hremoved.emptied fun p hp => hflat p (o.files.passable_subset ps hp), hsent, hanswers⟩

end ScriptGrader
