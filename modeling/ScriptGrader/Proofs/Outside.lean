import ScriptGrader.Outside
import ScriptGrader.Proofs.Results

/-!
# Pieces of a run

What each piece of a run yields and leaves outside, so that a run can be
followed step by step without looking into how pieces are put together. A
run that succeeds is taken apart into its pieces by `bind_eq_ok_iff`.
-/

namespace ScriptGrader

/-- Nothing has changed outside but the notes. -/
structure OnlyNoted (o o' : Outside) : Prop where
  files : o'.files = o.files
  sent : o'.sent = o.sent
  answers : o'.answers = o.answers

namespace OnlyNoted

variable {o o' o'' : Outside}

theorem refl (o : Outside) : OnlyNoted o o := ⟨rfl, rfl, rfl⟩

theorem trans (h : OnlyNoted o o') (h' : OnlyNoted o' o'') : OnlyNoted o o'' :=
  ⟨h'.files.trans h.files, h'.sent.trans h.sent, h'.answers.trans h.answers⟩

theorem note (o : Outside) (lines : List LogLine) : OnlyNoted o { o with log := o.log ++ lines } :=
  ⟨rfl, rfl, rfl⟩

end OnlyNoted

namespace Work

variable {ε δ α β : Type} {o o' : Outside}

@[simp] theorem on_given (o : Outside) (r : Except ε α) : Work.on o (Work.given r) = (r, o) := rfl

@[simp] theorem on_note (o : Outside) (lines : List LogLine) :
    Work.on o (Work.note lines : Work ε Unit) = (.ok (), { o with log := o.log ++ lines }) := rfl

@[simp] theorem on_files (o : Outside) : Work.on o (Work.files : Work ε Files) = (.ok o.files, o) := rfl

@[simp] theorem on_send (o : Outside) (r : Web.Request) :
    Work.on o (Work.send r : Work ε Web.Answer) =
      (.ok (o.answers.headD .standard), { o with sent := o.sent ++ [r], answers := o.answers.tail }) :=
  rfl

/-- What was found before a run, and found well. -/
theorem given_eq_ok_iff {r : Except ε α} {a : α} :
    Work.on o (Work.given r) = (.ok a, o') ↔ r = .ok a ∧ o = o' := by
  rw [on_given, Prod.mk.injEq]

/-- One piece after the other. -/
theorem on_bind (o : Outside) (w : Work ε α) (f : α → Work ε β) :
    Work.on o (w >>= f) =
      match Work.on o w with
      | (.ok a, o') => Work.on o' (f a)
      | (.error e, o') => (.error e, o') := by
  change (ExceptT.bindCont f (w o).1 (w o).2) = _
  rw [Work.on, ExceptT.run]
  rcases w o with ⟨a | a, o'⟩
  · rfl
  · rfl

theorem on_bind_ok {w : Work ε α} {a : α} (h : Work.on o w = (.ok a, o')) (f : α → Work ε β) :
    Work.on o (w >>= f) = Work.on o' (f a) := by
  rw [on_bind, h]

theorem on_bind_error {w : Work ε α} {e : ε} (h : Work.on o w = (.error e, o')) (f : α → Work ε β) :
    Work.on o (w >>= f) = (.error e, o') := by
  rw [on_bind, h]

/-- **Two pieces that succeed** meet in the middle. -/
theorem bind_eq_ok_iff {w : Work ε α} {f : α → Work ε β} {b : β} :
    Work.on o (w >>= f) = (.ok b, o') ↔
      ∃ a o₁, Work.on o w = (.ok a, o₁) ∧ Work.on o₁ (f a) = (.ok b, o') := by
  rw [on_bind]
  rcases Work.on o w with ⟨e | a, o₁⟩
  · simp
  · refine ⟨fun h => ⟨a, o₁, rfl, h⟩, ?_⟩
    rintro ⟨a', o₂, h, hf⟩
    cases h
    exact hf

/-- A piece that yields something of which a test holds has succeeded. -/
theorem exists_of_any {w : Work ε α} {test : α → Bool}
    (h : (Work.on o w).1.toOption.any test = true) :
    ∃ a o', Work.on o w = (.ok a, o') ∧ test a = true := by
  obtain ⟨a, ha, htest⟩ := exists_ok_of_any h
  exact ⟨a, (Work.on o w).2, Prod.ext ha rfl, htest⟩

/-- What is done to the files. -/
theorem on_change (o : Outside) (f : Files → Except ε Unit × Files) :
    Work.on o (Work.change f) = ((f o.files).1, { o with files := (f o.files).2 }) := rfl

/-- Errors of another kind. -/
theorem on_failingWith (o : Outside) (f : δ → ε) (w : Work δ α) :
    Work.on o (Work.failingWith f w) =
      match Work.on o w with
      | (.ok a, o') => (.ok a, o')
      | (.error e, o') => (.error (f e), o') := by
  change ((Work.on o w).1.mapError f, (Work.on o w).2) = _
  rcases Work.on o w with ⟨e | a, o'⟩
  · rfl
  · rfl

theorem failingWith_eq_ok_iff {f : δ → ε} {w : Work δ α} {a : α} :
    Work.on o (Work.failingWith f w) = (.ok a, o') ↔ Work.on o w = (.ok a, o') := by
  rw [on_failingWith]
  rcases Work.on o w with ⟨e | a', o₁⟩
  · simp
  · simp

/-- What is tried, and what is done when it fails. -/
theorem on_tryCatch (o : Outside) (w : Work ε α) (f : ε → Work ε α) :
    Work.on o (tryCatch w f) =
      match Work.on o w with
      | (.ok a, o') => (.ok a, o')
      | (.error e, o') => Work.on o' (f e) := by
  simp only [Work.on, tryCatch, tryCatchThe, MonadExceptOf.tryCatch, ExceptT.tryCatch, ExceptT.run,
    ExceptT.mk, bind, StateT.bind]
  rcases w o with ⟨e | a, o'⟩
  · rfl
  · rfl

theorem on_forM_cons (o : Outside) (f : α → Work ε PUnit) (a : α) (as : List α) :
    Work.on o ((a :: as).forM f) = Work.on o (f a >>= fun _ => as.forM f) := rfl

/-- One list after the other. -/
theorem on_forM_append (o : Outside) (f : α → Work ε PUnit) (as bs : List α) :
    Work.on o ((as ++ bs).forM f) = Work.on o (as.forM f >>= fun _ => bs.forM f) := by
  induction as generalizing o with
  | nil => rfl
  | cons a as ih =>
    rw [List.cons_append, on_forM_cons, on_bind, on_bind, on_forM_cons, on_bind]
    rcases Work.on o (f a) with ⟨e | ⟨⟨⟩⟩, o₁⟩
    · rfl
    · simp only
      rw [ih, on_bind]

end Work
end ScriptGrader
