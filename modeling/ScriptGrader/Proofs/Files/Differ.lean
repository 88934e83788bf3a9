import ScriptGrader.Proofs.Files.Cleaning
import ScriptGrader.Proofs.Files.Path

/-!
# Files that differ at some paths

Files with the same directories that differ at some paths only do so in the
regular files there: in which of the paths there is one, and in what it
holds. Writing to one of the paths and taking away what stands there stay
within this, and once all the paths are emptied nothing differs any more.
-/

namespace ScriptGrader.Files

/-- The same directories, and elsewhere the same but for what stands where
some of the paths lead. -/
structure DifferAt (ps : List Path) (fs fs' : Files) : Prop where
  directories : fs.SameDirectories fs'
  elsewhere : ∀ place, (∀ p ∈ ps, p.parts = place → ¬ fs.Reaches p) → fs.node? place = fs'.node? place

variable {ps qs : List Path} {fs fs' fs'' : Files} {p : Path} {bytes : List UInt8}

namespace DifferAt

theorem refl (ps : List Path) (fs : Files) : DifferAt ps fs fs := ⟨.refl fs, fun _ _ => rfl⟩

theorem symm (h : DifferAt ps fs fs') : DifferAt ps fs' fs :=
  ⟨h.directories.symm, fun place hplace => (h.elsewhere place fun p hp heq hreaches =>
    hplace p hp heq (h.directories.reaches hreaches)).symm⟩

theorem trans (h : DifferAt ps fs fs') (h' : DifferAt ps fs' fs'') : DifferAt ps fs fs'' :=
  ⟨h.directories.trans h'.directories, fun place hplace => (h.elsewhere place hplace).trans
    (h'.elsewhere place fun p hp heq hreaches => hplace p hp heq (h.directories.symm.reaches hreaches))⟩

/-- More paths may be listed. -/
theorem mono (h : DifferAt ps fs fs') (hsub : ps ⊆ qs) : DifferAt qs fs fs' :=
  ⟨h.directories, fun place hplace => h.elsewhere place fun p hp => hplace p (hsub hp)⟩

/-- **What stands at another path** is read as before. -/
theorem read?_eq_ok_iff (h : DifferAt ps fs fs') (hps : ∀ q ∈ ps, q.IsResolved) (hp : p.IsResolved)
    (hmem : p ∉ ps) : fs'.read? p = .ok bytes ↔ fs.read? p = .ok bytes := by
  have hnode : fs.node? p.parts = fs'.node? p.parts := by
    refine h.elsewhere p.parts fun q hq hparts _ => ?_
    exact hmem (hp.eq_of_parts (hps q hq) hparts ▸ hq)
  rw [Files.read?_eq_ok_iff hp.flat, Files.read?_eq_ok_iff hp.flat, hnode]
  exact and_congr ⟨h.directories.symm.reaches, h.directories.reaches⟩
    (and_congr_left' ⟨h.directories.symm.grants, h.directories.grants⟩)

/-- Writing to a file that was opened at one of the paths. -/
theorem fill {place : List String} {old : List UInt8} (hflat : Path.above ∉ p.parts)
    (hopen : fs.open? p = .ok (place, old)) (hp : p ∈ ps) (kept bytes : List UInt8) :
    DifferAt ps fs (fs.fill place kept bytes).2 := by
  obtain ⟨hleads, -⟩ := leadsTo_of_open? hopen
  obtain ⟨hreaches, rfl, -⟩ := (locate_eq_ok_iff hflat).1 hleads.locate_eq
  obtain ⟨n, hfill⟩ := exists_fill_eq fs p.parts kept bytes
  rw [hfill]
  refine ⟨sameDirectories_put hleads.notDirectory _, fun place hplace => ?_⟩
  by_cases heq : p.parts = place
  · exact absurd hreaches (hplace p hp heq)
  · exact (node?_put_of_ne _ _ (Ne.symm heq)).symm

/-- Whether a file can be written or not. -/
theorem write (hflat : Path.above ∉ p.parts) (hp : p ∈ ps) (bytes : List UInt8) :
    DifferAt ps fs (fs.write p bytes).2 := by
  rw [Files.write]
  rcases hopen : fs.open? p with e | ⟨place, old⟩
  · exact .refl ps fs
  · exact fill hflat hopen hp [] bytes

theorem append (hflat : Path.above ∉ p.parts) (hp : p ∈ ps) (bytes : List UInt8) :
    DifferAt ps fs (fs.append p bytes).2 := by
  rw [Files.append]
  rcases hopen : fs.open? p with e | ⟨place, old⟩
  · exact .refl ps fs
  · exact fill hflat hopen hp old bytes

end DifferAt

namespace Emptied

/-- Emptying changes nothing but what stood at the paths. -/
theorem differAt (h : fs.Emptied fs' ps) (hflat : ∀ p ∈ ps, Path.above ∉ p.parts) : DifferAt ps fs fs' := by
  refine ⟨h.sameDirectories hflat, fun place hplace => (h.kept place fun p hp heq hfile => ?_).symm⟩
  exact hplace p hp heq ((isFile?_eq_true_iff (hflat p hp)).1 hfile).1

end Emptied

/-- **Once the paths are emptied**, nothing differs any more. -/
theorem DifferAt.agree_of_emptied {es es' : Files} (h : DifferAt ps fs fs')
    (hflat : ∀ p ∈ ps, Path.above ∉ p.parts) (he : fs.Emptied es ps) (he' : fs'.Emptied es' ps) :
    es.Agree es' := by
  have hdiffer : DifferAt ps es es' := ((he.differAt hflat).symm.trans h).trans (he'.differAt hflat)
  refine ⟨fun place => ?_, hdiffer.directories.rights⟩
  by_cases hplace : ∀ p ∈ ps, p.parts = place → ¬ es.Reaches p
  · exact hdiffer.elsewhere place hplace
  · -- a way leads there, so there is no file, and a directory is one in both
    simp only [not_forall, not_not] at hplace
    obtain ⟨p, hp, rfl, hreaches⟩ := hplace
    have hreaches₀ := (he.sameDirectories hflat).symm.reaches hreaches
    have hfile : ∀ bytes, es.node? p.parts ≠ some (.file bytes) := fun _ =>
      he.node?_ne_file hflat hp hreaches₀
    have hfile' : ∀ bytes, es'.node? p.parts ≠ some (.file bytes) := fun _ =>
      he'.node?_ne_file hflat hp (h.directories.reaches hreaches₀)
    have hdirectory := hdiffer.directories.directories p.parts
    rcases hnode : es.node? p.parts with _ | ⟨bytes | _⟩
    · rcases hnode' : es'.node? p.parts with _ | ⟨bytes' | _⟩
      · rfl
      · exact absurd hnode' (hfile' bytes')
      · rw [hdirectory.2 hnode'] at hnode
        cases hnode
    · exact absurd hnode (hfile bytes)
    · rw [hdirectory.1 hnode]

end ScriptGrader.Files
