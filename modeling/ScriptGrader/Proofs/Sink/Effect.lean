import ScriptGrader.Grader.Grade
import ScriptGrader.Proofs.Files.Differ
import ScriptGrader.Proofs.Outside.Frame
import ScriptGrader.Proofs.Outside.TwoRuns
import ScriptGrader.Proofs.Sink.Publisher

/-!
# What sinks do outside

Each sink changes files at its own paths alone, a publisher none, and what
it does is decided by what stands in the files and what a server answers.
So much holds whether it succeeds or fails on the way.
-/

namespace ScriptGrader

open Work (Keeps Uniform)

variable {R : Outside → Outside → Prop} {ps : List Path} {p : Path} {b : Bundle}

/-- Files have changed at some paths at most. -/
def Outside.ChangedAt (ps : List Path) (o o' : Outside) : Prop := Files.DifferAt ps o.files o'.files

theorem Outside.isFrame_changedAt (ps : List Path) : IsFrame (ChangedAt ps) :=
  ⟨fun o => .refl ps o.files, fun o _ => .refl ps o.files, fun h h' => h.trans h'⟩

/-- Nothing has changed but files at some paths, and notes. -/
structure Outside.OnlyWrote (ps : List Path) (o o' : Outside) : Prop where
  files : Files.DifferAt ps o.files o'.files
  sent : o'.sent = o.sent
  answers : o'.answers = o.answers

theorem Outside.isFrame_onlyWrote (ps : List Path) : IsFrame (OnlyWrote ps) :=
  ⟨fun _ => ⟨.refl _ _, rfl, rfl⟩, fun _ _ => ⟨.refl _ _, rfl, rfl⟩,
    fun h h' => ⟨h.files.trans h'.files, h'.sent.trans h.sent, h'.answers.trans h.answers⟩⟩

/-- No file has changed. -/
theorem Outside.isFrame_files : IsFrame fun o o' => o'.files = o.files :=
  ⟨fun _ => rfl, fun _ _ => rfl, fun h h' => h'.trans h⟩

/-! ## Text reports -/

namespace TextReport

theorem keeps_write {t : TextReport} (hflat : ∀ p ∈ ps, Path.above ∉ p.parts)
    (hpaths : ∀ c p, t.paths.lookup c = some p → p ∈ ps) (b : Bundle) :
    Keeps (Outside.OnlyWrote ps) (t.write b) := by
  refine Keeps.forM (Outside.isFrame_onlyWrote ps) fun r _ => ?_
  rw [writeRecord]
  rcases hlookup : t.paths.lookup r.category with _ | p
  · exact Work.keeps_note (Outside.isFrame_onlyWrote ps) _
  · have hp := hpaths _ p hlookup
    exact (Work.keeps_change fun o => ⟨.append (hflat p hp) hp _, rfl, rfl⟩).failingWith (failure p)

theorem uniform_write (hR : Outside.IsLikeness R) (t : TextReport) (b : Bundle) : Uniform R (t.write b) := by
  refine Uniform.forM fun r _ => ?_
  rw [writeRecord]
  rcases t.paths.lookup r.category with _ | p
  · exact Work.uniform_note hR _
  · exact (Work.uniform_change hR fun fs fs' h => h.append p _).failingWith (failure p)

end TextReport

/-! ## XML reports -/

namespace XmlReport

theorem keeps_write (hflat : Path.above ∉ p.parts) (hp : p ∈ ps) (b : Bundle) :
    Keeps (Outside.OnlyWrote ps) (write p b) := by
  have hR := Outside.isFrame_onlyWrote ps
  refine Keeps.forM hR fun r _ => Keeps.bind hR (Work.keeps_files hR) fun fs => ?_
  refine Keeps.bind hR (Work.keeps_given hR _) fun document => ?_
  exact (Work.keeps_change fun o => ⟨.write hflat hp _, rfl, rfl⟩).failingWith (writeFailure p)

/-- What is found at a path is the same in files that agree. -/
theorem current?_congr {fs fs' : Files} (h : fs.Agree fs') (p : Path) : current? fs p = current? fs' p := by
  rw [current?, current?, h.isFile?_eq, h.read?_eq]

theorem uniform_write (hR : Outside.IsLikeness R) (p : Path) (b : Bundle) : Uniform R (write p b) := by
  refine Uniform.forM fun r _ o o' h => ?_
  rw [add, Work.on_bind_ok (Work.on_files o), Work.on_bind_ok (Work.on_files o'), current?_congr (hR.files h)]
  refine Uniform.bind (Work.uniform_given R _) (fun document => ?_) o o' h
  exact (Work.uniform_change hR fun fs fs' h => h.write p _).failingWith (writeFailure p)

end XmlReport

/-! ## Publishers -/

namespace Publisher

theorem keeps_write (p : Publisher) (b : Bundle) : Keeps (fun o o' => o'.files = o.files) (p.write b) := by
  refine Keeps.forM Outside.isFrame_files fun content _ o => ?_
  rw [on_post]
  split
  swap
  · rfl
  split
  · rfl
  · rw [Work.on_bind_ok (Work.on_send _ _)]
    refine (Keeps.bind Outside.isFrame_files (Work.keeps_given Outside.isFrame_files _)
      fun line => Work.keeps_note Outside.isFrame_files [line]) _

theorem uniform_write (before before' : List Web.Request) (p : Publisher) (b : Bundle) :
    Uniform (Outside.Alike before before') (p.write b) := by
  have hR := Outside.isLikeness_alike before before'
  refine Uniform.forM fun content _ o o' h => ?_
  have hannounced : Outside.Alike before before' (p.announced content o) (p.announced content o') :=
    hR.note _ h
  rw [on_post, on_post]
  split
  swap
  · exact ⟨.error .tooManyDigits, _, _, rfl, rfl, h⟩
  split
  · next e _ => exact ⟨.error e, _, _, rfl, rfl, hannounced⟩
  · refine Uniform.bind (Work.uniform_send before before' _) (fun a => ?_) _ _ hannounced
    exact Uniform.bind (Work.uniform_given _ _) fun line => Work.uniform_note hR [line]

end Publisher

/-! ## Handing over -/

namespace Grader

/-- Handing over takes no more than notes beside what the sink does. -/
theorem keeps_handOver (hR : Outside.IsFrame R) {s : Sink} (h : Keeps R (s.write b)) :
    Keeps R (handOver b s) := by
  refine Keeps.tryCatch hR (Keeps.bind hR h fun _ => Work.keeps_note hR _) fun e => ?_
  split
  · exact Work.keeps_note hR _
  · exact Work.keeps_given hR (.error e)

theorem uniform_handOver (hR : Outside.IsLikeness R) {s : Sink} (h : Uniform R (s.write b)) :
    Uniform R (handOver b s) := by
  refine Uniform.tryCatch (Uniform.bind h fun _ => Work.uniform_note hR _) fun e => ?_
  split
  · exact Work.uniform_note hR _
  · exact Work.uniform_given R (.error e)

end Grader
end ScriptGrader
