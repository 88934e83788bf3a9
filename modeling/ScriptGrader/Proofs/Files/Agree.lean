import ScriptGrader.Proofs.Files.Walk

/-!
# Files that agree

Files agree when the same stands at every place, in whatever order their
entries are kept, and the system allows the same. Nothing that is done to
files can tell them apart: it fails alike, and leaves files that agree again.
Where only the directories are the same, at least the same paths can be
looked at.
-/

namespace ScriptGrader.Files

/-- The same stands at every place, and the system allows the same. -/
structure Agree (fs fs' : Files) : Prop where
  node?_eq : ∀ place, fs.node? place = fs'.node? place
  rights : fs.rights = fs'.rights

/-- What is done to files comes to the same, and leaves files that agree. -/
structure AgreeAfter {ε : Type} (x x' : Except ε Unit × Files) : Prop where
  result : x.1 = x'.1
  files : x.2.Agree x'.2

variable {fs fs' : Files} {p : Path} {place : List String} {bytes : List UInt8}

namespace Agree

theorem symm (h : fs.Agree fs') : fs'.Agree fs := ⟨fun place => (h.node?_eq place).symm, h.rights.symm⟩

/-- The same is put at a place. -/
theorem put (h : fs.Agree fs') (place : List String) (e : FileNode) :
    (fs.put place e).Agree (fs'.put place e) := by
  refine ⟨fun q => ?_, h.rights⟩
  by_cases hq : q = place
  · subst hq
    by_cases hnil : q = []
    · rw [hnil]
      rfl
    · rw [node?_put_self _ _ _ hnil, node?_put_self _ _ _ hnil]
  · rw [node?_put_of_ne _ _ hq, node?_put_of_ne _ _ hq, h.node?_eq q]

/-! ## Looking -/

theorem walk_eq (h : fs.Agree fs') (place names : List String) : fs.walk place names = fs'.walk place names := by
  induction names generalizing place with
  | nil => rw [walk, walk, h.node?_eq place]
  | cons name rest ih =>
    rw [walk.eq_def, walk.eq_def fs']
    simp only [h.node?_eq (place ++ [name]), h.rights, ih]

theorem locate_eq (h : fs.Agree fs') (p : Path) : fs.locate p = fs'.locate p := by
  rw [locate, locate, h.walk_eq]

theorem isFile?_eq (h : fs.Agree fs') (p : Path) : fs.isFile? p = fs'.isFile? p := by
  rw [isFile?, isFile?, h.locate_eq]

theorem check_eq (h : fs.Agree fs') (d : Deed) (place : List String) (p : Path) :
    fs.check d place p = fs'.check d place p := by
  rw [check, check, h.rights]

theorem read?_eq (h : fs.Agree fs') (p : Path) : fs.read? p = fs'.read? p := by
  simp only [read?, h.locate_eq, h.check_eq]

theorem open?_eq (h : fs.Agree fs') (p : Path) : fs.open? p = fs'.open? p := by
  simp only [open?, h.locate_eq, h.check_eq]

/-! ## Writing -/

theorem fill (h : fs.Agree fs') (place : List String) (kept bytes : List UInt8) :
    AgreeAfter (fs.fill place kept bytes) (fs'.fill place kept bytes) := by
  rw [Files.fill, Files.fill, h.rights]
  rcases fs'.rights.room? place with _ | ⟨size, e⟩
  · exact ⟨rfl, h.put place _⟩
  · exact ⟨rfl, h.put place _⟩

theorem write (h : fs.Agree fs') (p : Path) (bytes : List UInt8) :
    AgreeAfter (fs.write p bytes) (fs'.write p bytes) := by
  rw [Files.write, Files.write, h.open?_eq]
  rcases fs'.open? p with e | ⟨place, old⟩
  · exact ⟨rfl, h⟩
  · exact h.fill place [] bytes

theorem append (h : fs.Agree fs') (p : Path) (bytes : List UInt8) :
    AgreeAfter (fs.append p bytes) (fs'.append p bytes) := by
  rw [Files.append, Files.append, h.open?_eq]
  rcases fs'.open? p with e | ⟨place, old⟩
  · exact ⟨rfl, h⟩
  · exact h.fill place old bytes

end Agree

/-! ## Paths that can be looked at -/

variable {f : FileFault}

/-- A walk is stopped by more than an absence through directories alone. -/
theorem SameDirectories.walk_eq_error_iff (h : fs.SameDirectories fs') (hf : f.error.isAbsence = false)
    (place names : List String) : fs.walk place names = .error f ↔ fs'.walk place names = .error f := by
  have hfound : FileFault.notFound ≠ f := by
    rintro rfl
    cases hf
  have hdirectory : FileFault.notDirectory ≠ f := by
    rintro rfl
    cases hf
  induction names generalizing place with
  | nil => simp [walk]
  | cons name rest ih =>
    rcases hsearch : fs.rights.refusal? .search place with _ | err
    swap
    · rw [walk_refused hsearch, walk_refused (h.rights ▸ hsearch)]
    have hsearch' : fs'.Grants .search place := h.grants hsearch
    by_cases habove : name = Path.above
    · rw [habove, walk_above hsearch, walk_above hsearch']
      exact ih _
    by_cases hlong : nameLimit < name.utf8ByteSize
    · rw [walk_long hsearch habove hlong, walk_long hsearch' habove hlong]
    have hshort := Nat.le_of_not_lt hlong
    by_cases hrest : rest = []
    · rw [hrest, walk_last hsearch habove hshort, walk_last hsearch' habove hshort]
      simp
    -- only a directory lets the walk go on, and then it does so in both
    by_cases hnode : fs.node? (place ++ [name]) = some .directory
    · rw [walk_directory hsearch habove hshort hnode,
        walk_directory hsearch' habove hshort ((h.directories _).1 hnode)]
      exact ih _
    · have hnode' : fs'.node? (place ++ [name]) ≠ some .directory := fun h' => hnode ((h.directories _).2 h')
      refine iff_of_false ?_ ?_
      · rcases walk_blocked hsearch habove hshort hrest hnode with hwalk | hwalk <;> simp [hwalk, hfound, hdirectory]
      · rcases walk_blocked hsearch' habove hshort hrest hnode' with hwalk | hwalk <;> simp [hwalk, hfound, hdirectory]

/-- So is a path that cannot be located. -/
theorem SameDirectories.locate_eq_error_iff (h : fs.SameDirectories fs') (hf : f.error.isAbsence = false) {q : Path} :
    fs.locate p = .error (.fault f q) ↔ fs'.locate p = .error (.fault f q) := by
  rw [locate, locate]
  split
  · rfl
  · split
    · rfl
    · have hwalk := h.walk_eq_error_iff hf [] p.parts
      rcases hfirst : fs.walk [] p.parts with f₁ | x₁ <;>
        rcases hsecond : fs'.walk [] p.parts with f₂ | x₂ <;>
        simp_all [Except.mapError]

/-- What is told of a path that cannot be located names it. -/
theorem eq_of_locate_eq_error {q : Path} (h : fs.locate p = .error (.fault f q)) : q = p := by
  rw [locate] at h
  split at h
  · cases h
  · split at h
    · cases h
      rfl
    · rcases hwalk : fs.walk [] p.parts with f' | x
      · rw [hwalk] at h
        cases h
        rfl
      · rw [hwalk] at h
        cases h

/-- **A path cannot be looked at** if more than an absence is wrong with it. -/
theorem isFile?_eq_error_iff {e : FileError} : fs.isFile? p = .error e ↔
    ∃ f, e = .fault f p ∧ f.error.isAbsence = false ∧ fs.locate p = .error (.fault f p) := by
  rw [isFile?]
  split
  · next hlocate => simp [hlocate]
  · next f q hlocate =>
    obtain rfl := eq_of_locate_eq_error hlocate
    rw [hlocate]
    split
    · next habsence =>
      constructor
      · intro h
        cases h
      · rintro ⟨f', -, hf', hlocate'⟩
        cases hlocate'
        simp [habsence] at hf'
    · next habsence =>
      constructor
      · intro h
        cases h
        exact ⟨f, rfl, by simpa using habsence, rfl⟩
      · rintro ⟨f', rfl, -, hlocate'⟩
        cases hlocate'
        rfl
  · next hother =>
    constructor
    · intro h
      cases h
    · rintro ⟨f, -, -, hlocate⟩
      exact absurd hlocate (hother f p)

/-- **Whether a path can be looked at** depends on the directories alone. -/
theorem SameDirectories.isFile?_eq_error_iff (h : fs.SameDirectories fs') {e : FileError} :
    fs.isFile? p = .error e ↔ fs'.isFile? p = .error e := by
  rw [Files.isFile?_eq_error_iff, Files.isFile?_eq_error_iff]
  exact exists_congr fun f => and_congr_right fun _ => and_congr_right fun hf => h.locate_eq_error_iff hf

end ScriptGrader.Files
