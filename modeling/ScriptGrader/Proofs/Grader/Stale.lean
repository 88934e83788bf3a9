import ScriptGrader.Proofs.Grader.Outputs

/-!
# Stale reports

Whatever an earlier run left in the reports does not matter to a grading.
Files with the same directories that differ at the paths of reports alone
agree once the reports are cleaned, and from there two gradings go the same
way. So does a grading that follows another one.
-/

namespace ScriptGrader.Grader

open Work (Uniform)

variable {g : Grader} {o o' : Outside} {b : Bundle} {R : Outside → Outside → Prop}

/-! ## Delivering side by side -/

theorem uniform_reportSinks (hR : Outside.IsLikeness R) (g : Grader) (b : Bundle) :
    Uniform R (g.reportSinks.forM (handOver b)) := by
  refine Uniform.forM fun s hs => uniform_handOver hR ?_
  rcases mem_reportSinks_iff.1 hs with ⟨t, -, rfl⟩ | ⟨p, -, rfl⟩
  · exact t.uniform_write hR b
  · exact XmlReport.uniform_write hR p b

theorem uniform_publisherSinks (before before' : List Web.Request) (g : Grader) (b : Bundle) :
    Uniform (Outside.Alike before before') (g.publisherSinks.forM (handOver b)) := by
  refine Uniform.forM fun s hs => uniform_handOver (Outside.isLikeness_alike before before') ?_
  obtain ⟨p, -, rfl⟩ := List.mem_map.1 hs
  exact p.uniform_write before before' b

/-- **Delivering** goes the same way with the same answers. -/
theorem uniform_deliver (before before' : List Web.Request) (g : Grader) (b : Bundle) :
    Uniform (Outside.Alike before before') (g.deliver b) := by
  have hR := Outside.isLikeness_alike before before'
  have hsinks : Uniform (Outside.Alike before before') (g.sinks.forM (handOver b)) := by
    intro o o' h
    rw [sinks_eq, Work.on_forM_append, Work.on_forM_append]
    exact Uniform.bind (uniform_reportSinks hR g b) (fun _ => uniform_publisherSinks before before' g b) o o' h
  refine Uniform.bind (hsinks.failingWith GradeError.sink) fun _ => ?_
  refine Uniform.bind (Work.uniform_given _ _) fun lines => ?_
  exact Uniform.bind (Work.uniform_note hR lines) fun _ => Work.uniform_given _ (.ok b)

/-- The files that delivering leaves are those that the reports' sinks leave. -/
theorem files_deliver (g : Grader) (b : Bundle) (o : Outside) :
    (Work.on o (g.deliver b)).2.files = (Work.on o (g.reportSinks.forM (handOver b))).2.files := by
  rw [deliver, Work.on_bind, Work.on_failingWith, sinks_eq, Work.on_forM_append, Work.on_bind]
  rcases Work.on o (g.reportSinks.forM (handOver b)) with ⟨e | ⟨⟨⟩⟩, o₁⟩
  · rfl
  · have hpublisher : (Work.on o₁ (g.publisherSinks.forM (handOver b))).2.files = o₁.files :=
      keeps_publisherSinks g b o₁
    simp only
    generalize Work.on o₁ (g.publisherSinks.forM (handOver b)) = out at hpublisher ⊢
    rcases out with ⟨e | ⟨⟨⟩⟩, o₂⟩
    · exact hpublisher
    · rcases resultLog b with e | lines
      · exact hpublisher
      · exact hpublisher

/-- Whatever a server answers, delivering leaves files that agree. -/
theorem agree_deliver (h : o.files.Agree o'.files) (g : Grader) (b : Bundle) :
    (Work.on o (g.deliver b)).2.files.Agree (Work.on o' (g.deliver b)).2.files := by
  obtain ⟨r, o₁, o₁', ho, ho', hfiles⟩ := uniform_reportSinks Outside.isLikeness_files g b o o' h
  rw [files_deliver, files_deliver, ho, ho']
  exact hfiles

/-! ## Gradings side by side -/

/-- Of the reports that cannot be taken away, the same are there. -/
def SameFixed (g : Grader) (fs fs' : Files) : Prop :=
  ∀ p ∈ g.reportPaths, ¬ fs.Grants .remove p.parts → (fs.isFile? p = .ok true ↔ fs'.isFile? p = .ok true)

/-- Then cleaning stops alike at each report. -/
theorem SameFixed.fault?_eq {fs fs' : Files} (h : g.SameFixed fs fs') (hg : g.IsSettled)
    (hsame : fs.SameDirectories fs') : ∀ p ∈ g.reportPaths, fs.fault? p = fs'.fault? p := by
  intro p hp
  have hflat := hg.flat_reports p hp
  refine hsame.fault?_eq fun place hrefused => ?_
  rw [Files.fileAt_iff_of_flat hflat, Files.fileAt_iff_of_flat hflat]
  exact and_congr_right fun hplace => h p hp (hplace ▸ hrefused)

/-- **Once the reports are cleaned**, two gradings are prepared alike. -/
theorem prepared_alike (hg : g.IsSettled) (hdiffer : Files.DifferAt g.reportPaths o.files o'.files)
    (hfixed : g.SameFixed o.files o'.files) (hfault : o.files.firstFault? g.reportPaths = none) :
    ∃ r o₁ o₁', Work.on o g.prepare = (r, o₁) ∧ Work.on o' g.prepare = (r, o₁') ∧
      g.Cleared o o₁ ∧ g.Cleared o' o₁' ∧ o₁.files.Agree o₁'.files := by
  obtain ⟨o₁, hprepare, hcleared⟩ := on_prepare hg o
  obtain ⟨o₁', hprepare', hcleared'⟩ := on_prepare hg o'
  have hfault' : o'.files.firstFault? g.reportPaths = none := by
    rw [← Files.firstFault?_congr (hfixed.fault?_eq hg hdiffer.directories), hfault]
  have hagree := hdiffer.agree_of_emptied hg.flat_reports (hcleared.emptied hfault) (hcleared'.emptied hfault')
  refine ⟨_, o₁, o₁', hprepare, ?_, hcleared, hcleared', hagree⟩
  rw [hprepare', preparation, preparation, hfault, hfault', assessment_congr hagree]

/-- **Two gradings leave files that agree**, whatever servers answer. -/
theorem agree_grade (hg : g.IsSettled) (hdiffer : Files.DifferAt g.reportPaths o.files o'.files)
    (hfixed : g.SameFixed o.files o'.files) (hfault : o.files.firstFault? g.reportPaths = none) :
    (Work.on o g.grade).2.files.Agree (Work.on o' g.grade).2.files := by
  obtain ⟨r, o₁, o₁', hprepare, hprepare', -, -, hagree⟩ := prepared_alike hg hdiffer hfixed hfault
  rw [grade_eq, Work.on_bind, Work.on_bind, hprepare, hprepare']
  rcases r with e | b
  · exact hagree
  · exact agree_deliver hagree g b

/-- **A grading after a grading** leaves files that agree with those it found. -/
theorem agree_twice (hg : g.IsSettled) (hfiles : o'.files = (Work.on o g.grade).2.files)
    (hfixed : g.SameFixed o.files o'.files) : (Work.on o' g.grade).2.files.Agree o'.files := by
  have hchanged : Files.DifferAt g.reportPaths o.files o'.files := hfiles ▸ keeps_grade hg o
  rcases hfault : o.files.firstFault? g.reportPaths with _ | e
  · rw [hfiles]
    exact (agree_grade hg hchanged hfixed hfault).symm
  · -- both gradings clean the same paths and end there
    have hsame := hfixed.fault?_eq hg hchanged.directories
    obtain ⟨o₁, hgrade, hcleared⟩ := on_grade_of_fault hg hfault
    have hfault' : o'.files.firstFault? g.reportPaths = some e := by
      rw [← Files.firstFault?_congr hsame, hfault]
    obtain ⟨o₁', hgrade', hcleared'⟩ := on_grade_of_fault hg hfault'
    rw [hgrade] at hfiles
    have hsub := o.files.passable_subset g.reportPaths
    have hflat : ∀ p ∈ o.files.passable g.reportPaths, Path.above ∉ p.parts := fun p hp =>
      hg.flat_reports p (hsub hp)
    have hemptied : o.files.Emptied o'.files _ := hfiles ▸ hcleared.files
    have hemptied' := hcleared'.files
    rw [← Files.passable_congr hsame] at hemptied'
    rw [hgrade']
    exact ((hemptied.differAt hflat).agree_of_emptied hflat hemptied hemptied').symm

/-- The same directory, with something else in a report of an earlier run. -/
def rewrittenOutside : Outside :=
  { fullOutside with files := fullOutside.files.put ["w", "f"] (.file [9]) }

/-- A directory without a report that could not be taken away. -/
def guardedOutside : Outside :=
  let o := sampleOutside "reports:\n functional: f\n" []
  { o with files :=
      { o.files.erase ["w", "f"] with
        rights := { refusal? := fun d place =>
          if d = .remove ∧ place = ["w", "f"] then some ⟨1, "Operation not permitted"⟩ else none } } }

/-- The same directory with this report. -/
def occupiedOutside : Outside :=
  { guardedOutside with files := guardedOutside.files.put ["w", "f"] (.file [9]) }

/-- What is tested of a report that ends a grading where it is, and only there. -/
def endsAtReport (g : Grader) : Bool :=
  decide (⟨true, ["w", "f"]⟩ ∈ g.reportPaths) && (Work.on guardedOutside g.grade).1.isOk &&
    !(Work.on occupiedOutside g.grade).1.isOk

end ScriptGrader.Grader
