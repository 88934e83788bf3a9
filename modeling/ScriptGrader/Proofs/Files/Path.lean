import ScriptGrader.Files.Path

/-!
# Resolved paths

A path that was resolved begins at the root and has no double dots, and
its components are among those it was made of.
-/

namespace ScriptGrader.Path

variable {base p : Path} {parts : List String}

/-- A path from the root without double dots that a file system can have. -/
structure IsResolved (p : Path) : Prop where
  isAbsolute : p.isAbsolute = true
  flat : above ∉ p.parts
  noZero : p.hasZero = false

/-- Resolved paths with the same components are the same. -/
theorem IsResolved.eq_of_parts {q : Path} (hp : p.IsResolved) (hq : q.IsResolved)
    (h : q.parts = p.parts) : q = p := by
  obtain ⟨a, parts⟩ := p
  obtain ⟨b, parts'⟩ := q
  have ha : a = true := hp.isAbsolute
  have hb : b = true := hq.isAbsolute
  simp only at h
  rw [ha, hb, h]

/-- Double dots take components back and add none. -/
theorem flatten_subset (parts : List String) : flatten parts ⊆ parts := by
  -- the fold keeps components in reverse, all of them among `parts`
  have hfold : ∀ (rest done : List String), done ⊆ parts → rest ⊆ parts →
      rest.foldl (fun done p => if p = above then done.tail else p :: done) done ⊆ parts := by
    intro rest
    induction rest with
    | nil => exact fun done hdone _ => hdone
    | cons s rest ih =>
      intro done hdone hrest
      refine ih _ ?_ fun x hx => hrest (List.mem_cons_of_mem s hx)
      intro x hx
      simp only at hx
      split at hx
      · exact hdone (List.mem_of_mem_tail hx)
      · rcases List.mem_cons.1 hx with rfl | hx
        · exact hrest List.mem_cons_self
        · exact hdone hx
  intro x hx
  rw [flatten, List.mem_reverse] at hx
  exact hfold parts [] (List.nil_subset _) (fun _ h => h) hx

theorem hasZero_eq_false_iff : p.hasZero = false ↔ ∀ s ∈ p.parts, s.toList.contains '\x00' = false := by
  simp [hasZero]

/-- **Resolving** paths without zeros. -/
theorem isResolved_resolve (hbase : base.hasZero = false) (hp : p.hasZero = false) :
    (base.resolve p).IsResolved := by
  refine ⟨rfl, above_notMem_flatten _, hasZero_eq_false_iff.2 ?_⟩
  intro s hs
  have hjoin := flatten_subset _ hs
  rw [join] at hjoin
  split at hjoin
  · exact hasZero_eq_false_iff.1 hp s hjoin
  · rcases List.mem_append.1 hjoin with hjoin | hjoin
    · exact hasZero_eq_false_iff.1 hbase s hjoin
    · exact hasZero_eq_false_iff.1 hp s hjoin

/-- The directory of a path without zeros. -/
theorem hasZero_parent (h : p.hasZero = false) : p.parent.hasZero = false :=
  hasZero_eq_false_iff.2 fun s hs => hasZero_eq_false_iff.1 h s (p.parts.dropLast_subset hs)

end ScriptGrader.Path
