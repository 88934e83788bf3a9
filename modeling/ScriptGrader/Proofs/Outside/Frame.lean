import ScriptGrader.Proofs.Outside

/-!
# What a run leaves alone

A relation between what is outside before and after a piece of a run holds
of a whole run as soon as it holds of its pieces, whether the run succeeds
or fails on the way. So does what is known of the errors that it fails with.
-/

namespace ScriptGrader

/-- A relation to measure runs by: it holds where nothing but notes was
taken, and from one piece of a run to the next. -/
structure Outside.IsFrame (R : Outside → Outside → Prop) : Prop where
  refl : ∀ o, R o o
  note : ∀ (o : Outside) lines, R o { o with log := o.log ++ lines }
  trans : ∀ {o o₁ o₂}, R o o₁ → R o₁ o₂ → R o o₂

theorem Outside.isFrame_onlyNoted : IsFrame OnlyNoted := ⟨.refl, .note, .trans⟩

namespace Work

variable {ε δ α β : Type} {R : Outside → Outside → Prop} {w : Work ε α} {o : Outside}

/-- However a piece of a run ends, what is outside after it is related to
what was outside before. -/
def Keeps (R : Outside → Outside → Prop) (w : Work ε α) : Prop := ∀ o, R o (Work.on o w).2

theorem keeps_given (hR : Outside.IsFrame R) (r : Except ε α) : Keeps R (Work.given r) := hR.refl

theorem keeps_note (hR : Outside.IsFrame R) (lines : List LogLine) :
    Keeps R (Work.note lines : Work ε Unit) := fun o => hR.note o lines

theorem keeps_files (hR : Outside.IsFrame R) : Keeps R (Work.files : Work ε Files) := hR.refl

theorem keeps_change {f : Files → Except ε Unit × Files} (h : ∀ o : Outside, R o { o with files := (f o.files).2 }) :
    Keeps R (Work.change f) := h

namespace Keeps

/-- A relation that says less. -/
theorem mono {S : Outside → Outside → Prop} (hw : Keeps R w) (h : ∀ {o o'}, R o o' → S o o') : Keeps S w :=
  fun o => h (hw o)

theorem bind (hR : Outside.IsFrame R) (hw : Keeps R w) {f : α → Work ε β} (hf : ∀ a, Keeps R (f a)) :
    Keeps R (w >>= f) := by
  intro o
  have ho := hw o
  rw [on_bind]
  generalize Work.on o w = out at ho ⊢
  rcases out with ⟨e | a, o₁⟩
  · exact ho
  · exact hR.trans ho (hf a o₁)

theorem failingWith (hw : Keeps R w) (f : ε → δ) : Keeps R (Work.failingWith f w) := by
  intro o
  have ho := hw o
  rw [on_failingWith]
  generalize Work.on o w = out at ho ⊢
  rcases out with ⟨e | a, o₁⟩
  · exact ho
  · exact ho

theorem tryCatch (hR : Outside.IsFrame R) (hw : Keeps R w) {f : ε → Work ε α} (hf : ∀ e, Keeps R (f e)) :
    Keeps R (tryCatch w f) := by
  intro o
  have ho := hw o
  rw [on_tryCatch]
  generalize Work.on o w = out at ho ⊢
  rcases out with ⟨e | a, o₁⟩
  · exact hR.trans ho (hf e o₁)
  · exact ho

/-- **From one piece to all of them.** -/
theorem forM (hR : Outside.IsFrame R) {f : α → Work ε PUnit} {as : List α} (hf : ∀ a ∈ as, Keeps R (f a)) :
    Keeps R (as.forM f) := by
  induction as with
  | nil => exact hR.refl
  | cons a as ih =>
    intro o
    rw [on_forM_cons]
    exact bind hR (hf a List.mem_cons_self) (fun _ => ih fun b hb => hf b (List.mem_cons_of_mem a hb)) o

end Keeps

/-- Every error that a piece of a run fails with is of a kind. -/
def FailsOnly (P : ε → Prop) (w : Work ε α) : Prop := ∀ o e o', Work.on o w = (.error e, o') → P e

theorem failsOnly_given {P : ε → Prop} {r : Except ε α} (h : ∀ e, r = .error e → P e) :
    FailsOnly P (Work.given r) := by
  intro o e o' hrun
  rw [on_given] at hrun
  exact h e (congrArg Prod.fst hrun)

theorem failsOnly_note (P : ε → Prop) (lines : List LogLine) : FailsOnly P (Work.note lines : Work ε Unit) := by
  intro o e o' h
  rw [on_note] at h
  cases h

theorem failsOnly_files (P : ε → Prop) : FailsOnly P (Work.files : Work ε Files) := by
  intro o e o' h
  rw [on_files] at h
  cases h

theorem failsOnly_change {P : ε → Prop} {f : Files → Except ε Unit × Files}
    (h : ∀ fs e, (f fs).1 = .error e → P e) : FailsOnly P (Work.change f) := by
  intro o e o' hrun
  rw [on_change] at hrun
  exact h _ _ (congrArg Prod.fst hrun)

namespace FailsOnly

variable {P : ε → Prop}

theorem bind (hw : FailsOnly P w) {f : α → Work ε β} (hf : ∀ a, FailsOnly P (f a)) :
    FailsOnly P (w >>= f) := by
  intro o e o' h
  rcases hrun : Work.on o w with ⟨e' | a, o₁⟩
  · rw [on_bind_error hrun] at h
    cases h
    exact hw o _ _ hrun
  · rw [on_bind_ok hrun] at h
    exact hf a o₁ e o' h

theorem failingWith {Q : δ → Prop} {f : ε → δ} (hw : FailsOnly P w) (h : ∀ e, P e → Q (f e)) :
    FailsOnly Q (Work.failingWith f w) := by
  intro o d o' hrun
  rw [on_failingWith] at hrun
  rcases hw' : Work.on o w with ⟨e | a, o₁⟩
  · rw [hw'] at hrun
    cases hrun
    exact h e (hw o e _ hw')
  · rw [hw'] at hrun
    cases hrun

/-- **From one piece to all of them.** -/
theorem forM {f : α → Work ε PUnit} {as : List α} (hf : ∀ a ∈ as, FailsOnly P (f a)) :
    FailsOnly P (as.forM f) := by
  induction as with
  | nil =>
    intro o e o' h
    cases h
  | cons a as ih =>
    intro o e o' h
    rw [on_forM_cons] at h
    exact bind (hf a List.mem_cons_self) (fun _ => ih fun b hb => hf b (List.mem_cons_of_mem a hb)) o e o' h

end FailsOnly
end Work
end ScriptGrader
