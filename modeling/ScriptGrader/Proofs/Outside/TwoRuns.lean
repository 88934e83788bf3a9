import ScriptGrader.Proofs.Files.Agree
import ScriptGrader.Proofs.Outside

/-!
# Two runs side by side

A piece of a run goes the same way in two places that are alike: it yields
the same, and leaves them alike. What alike means may vary, as long as it
tells of all that stands in files. One instance tells of the files alone,
the other of the server too.
-/

namespace ScriptGrader

/-- What is outside of two runs, so that nothing that is done with files
can tell them apart. -/
structure Outside.IsLikeness (R : Outside → Outside → Prop) : Prop where
  files : ∀ {o o'}, R o o' → o.files.Agree o'.files
  note : ∀ {o o'} (lines : List LogLine), R o o' →
    R { o with log := o.log ++ lines } { o' with log := o'.log ++ lines }
  change : ∀ {o o'} {fs fs' : Files}, R o o' → fs.Agree fs' → R { o with files := fs } { o' with files := fs' }

/-- The same files and the same answers to come, and the same requests
since two points in time. -/
structure Outside.Alike (before before' : List Web.Request) (o o' : Outside) : Prop where
  files : o.files.Agree o'.files
  answers : o.answers = o'.answers
  sent : ∃ more, o.sent = before ++ more ∧ o'.sent = before' ++ more

/-- Likeness of the files alone. -/
theorem Outside.isLikeness_files : IsLikeness fun o o' => o.files.Agree o'.files :=
  ⟨fun h => h, fun _ h => h, fun _ h => h⟩

theorem Outside.isLikeness_alike (before before' : List Web.Request) : IsLikeness (Alike before before') :=
  ⟨fun h => h.files, fun _ h => ⟨h.files, h.answers, h.sent⟩, fun h hfs => ⟨hfs, h.answers, h.sent⟩⟩

namespace Work

variable {ε δ α β : Type} {R : Outside → Outside → Prop} {w : Work ε α}

/-- In places that are alike, a piece of a run yields the same and leaves
them alike. -/
def Uniform (R : Outside → Outside → Prop) (w : Work ε α) : Prop :=
  ∀ o o', R o o' → ∃ r o₁ o₁', Work.on o w = (r, o₁) ∧ Work.on o' w = (r, o₁') ∧ R o₁ o₁'

theorem uniform_given (R : Outside → Outside → Prop) (r : Except ε α) : Uniform R (Work.given r) :=
  fun o o' h => ⟨r, o, o', rfl, rfl, h⟩

theorem uniform_note (hR : Outside.IsLikeness R) (lines : List LogLine) :
    Uniform R (Work.note lines : Work ε Unit) := fun _ _ h => ⟨.ok (), _, _, rfl, rfl, hR.note lines h⟩

/-- A change that files which agree do not tell apart. -/
theorem uniform_change (hR : Outside.IsLikeness R) {f : Files → Except ε Unit × Files}
    (hf : ∀ fs fs', fs.Agree fs' → Files.AgreeAfter (f fs) (f fs')) : Uniform R (Work.change f) := by
  intro o o' h
  have hafter := hf _ _ (hR.files h)
  rw [on_change, on_change, hafter.result]
  exact ⟨_, _, _, rfl, rfl, hR.change h hafter.files⟩

/-- The same request gets the same answer. -/
theorem uniform_send (before before' : List Web.Request) (r : Web.Request) :
    Uniform (Outside.Alike before before') (Work.send r : Work ε Web.Answer) := by
  intro o o' h
  obtain ⟨more, hsent, hsent'⟩ := h.sent
  rw [on_send, on_send, h.answers]
  refine ⟨.ok (o'.answers.headD .standard), _, _, rfl, rfl, h.files, rfl, more ++ [r], ?_, ?_⟩
  · rw [hsent, List.append_assoc]
  · rw [hsent', List.append_assoc]

namespace Uniform

theorem bind (hw : Uniform R w) {f : α → Work ε β} (hf : ∀ a, Uniform R (f a)) : Uniform R (w >>= f) := by
  intro o o' h
  obtain ⟨r, o₁, o₁', ho, ho', hR⟩ := hw o o' h
  rw [on_bind, on_bind, ho, ho']
  rcases r with e | a
  · exact ⟨.error e, o₁, o₁', rfl, rfl, hR⟩
  · exact hf a o₁ o₁' hR

theorem failingWith (hw : Uniform R w) (f : ε → δ) : Uniform R (Work.failingWith f w) := by
  intro o o' h
  obtain ⟨r, o₁, o₁', ho, ho', hR⟩ := hw o o' h
  rw [on_failingWith, on_failingWith, ho, ho']
  rcases r with e | a
  · exact ⟨.error (f e), o₁, o₁', rfl, rfl, hR⟩
  · exact ⟨.ok a, o₁, o₁', rfl, rfl, hR⟩

theorem tryCatch (hw : Uniform R w) {f : ε → Work ε α} (hf : ∀ e, Uniform R (f e)) :
    Uniform R (tryCatch w f) := by
  intro o o' h
  obtain ⟨r, o₁, o₁', ho, ho', hR⟩ := hw o o' h
  rw [on_tryCatch, on_tryCatch, ho, ho']
  rcases r with e | a
  · exact hf e o₁ o₁' hR
  · exact ⟨.ok a, o₁, o₁', rfl, rfl, hR⟩

/-- **From one piece to all of them.** -/
theorem forM {f : α → Work ε PUnit} {as : List α} (hf : ∀ a ∈ as, Uniform R (f a)) : Uniform R (as.forM f) := by
  induction as with
  | nil => exact uniform_given R (.ok PUnit.unit)
  | cons a as ih =>
    intro o o' h
    rw [on_forM_cons, on_forM_cons]
    exact bind (hf a List.mem_cons_self) (fun _ => ih fun b hb => hf b (List.mem_cons_of_mem a hb)) o o' h

end Uniform
end Work
end ScriptGrader
