import ScriptGrader.Proofs.Files.Removal
import ScriptGrader.Proofs.Grader.Stages
import ScriptGrader.Proofs.Grading.Bundle
import ScriptGrader.Proofs.Sink.Effect

/-!
# The course of a grading

A grading is prepared and then delivered. What preparing it comes to is
told by the files alone: the first report that cannot be looked at ends it,
and otherwise it is what the inputs come to once the reports are gone. Up
to there only reports were taken away, and no request was sent. Delivering
changes reports alone, and it fails only over a sink or a sum.
-/

namespace ScriptGrader.Grader

variable {g : Grader} {o o' : Outside} {b : Bundle} {e : GradeError} {fs fs' : Files}

/-- A grading up to its bundle. -/
def prepare (g : Grader) : Work GradeError Bundle := do
  Work.note [startLine]
  let _ ← Work.failingWith cleaningError (clean .grader g.reportPaths)
  let program ← g.readSubmission
  let metadata ← g.readCustomData
  g.gradeProgram program metadata

/-- What is done with the bundle. -/
def deliver (g : Grader) (b : Bundle) : Work GradeError Bundle := do
  Work.failingWith .sink (g.sinks.forM (handOver b))
  Work.note (← Work.given ((resultLog b).mapError fun e => .grading (.score e)))
  return b

/-- **A grading** is prepared and delivered. -/
theorem grade_eq (g : Grader) : g.grade = g.prepare >>= g.deliver := by
  simp only [grade, prepare, bind_assoc]
  rfl

/-! ## What the inputs come to -/

/-- The program that the submission is, by the files as they are. -/
def programIn (g : Grader) (fs : Files) : Except GradeError Program := do
  let source ← g.submissionText fs
  (Program.read? g.sourceType source).mapError fun e => .submission (.script e)

/-- The bundle of a program. -/
def bundleOf (g : Grader) (p : Program) (metadata : String) : Except GradeError Bundle := do
  let base ← (Grading.base? (.text g.id)).mapError .grading
  (Grading.run base p g.rubric metadata).2.mapError .grading

/-- What the inputs come to, by the files as they are. -/
def assessment (g : Grader) (fs : Files) : Except GradeError Bundle := do
  let program ← g.programIn fs
  let metadata ← g.dataIn fs
  g.bundleOf program metadata

theorem on_readSubmission (g : Grader) (o : Outside) :
    ∃ o', Work.on o g.readSubmission = (g.programIn o.files, o') ∧ OnlyNoted o o' := by
  rw [readSubmission, Work.on_bind_ok (Work.on_files o), programIn]
  rcases g.submissionText o.files with e | source
  · exact ⟨o, rfl, .refl o⟩
  · rw [Work.on_bind_ok (Work.on_given _ _), Work.on_bind_ok (Work.on_note _ _), Work.on_bind, Work.on_given]
    change ∃ o', _ = ((Program.read? g.sourceType source).mapError _, o') ∧ _
    rcases (Program.read? g.sourceType source).mapError fun e =>
      GradeError.submission (.script e) with e | program
    · exact ⟨_, rfl, .note o _⟩
    · exact ⟨_, rfl, (OnlyNoted.note o _).trans (.note _ _)⟩

theorem on_gradeProgram (g : Grader) (p : Program) (metadata : String) (o : Outside) :
    ∃ o', Work.on o (g.gradeProgram p metadata) = (g.bundleOf p metadata, o') ∧ OnlyNoted o o' := by
  rw [gradeProgram, bundleOf]
  rcases (Grading.base? (.text g.id)).mapError GradeError.grading with e | base
  · exact ⟨o, rfl, .refl o⟩
  · exact ⟨_, rfl, .note o _⟩

/-- What the inputs come to depends only on what stands where. -/
theorem assessment_congr (h : fs.Agree fs') (g : Grader) : g.assessment fs = g.assessment fs' := by
  have hprogram : g.programIn fs = g.programIn fs' := by
    rw [programIn, programIn, submissionText, submissionText, h.read?_eq]
  have hdata : g.dataIn fs = g.dataIn fs' := by
    rw [dataIn, dataIn]
    rcases g.customData with _ | path
    · rfl
    · simp only [h.read?_eq]
  rw [assessment, assessment, hprogram, hdata]

/-- **A bundle comes of** a program that was read and graded, and carries
the data that was read. -/
theorem assessment_eq_ok (h : g.assessment fs = .ok b) :
    ∃ source program, g.submissionText fs = .ok source ∧ Program.read? g.sourceType source = .ok program ∧
      g.dataIn fs = .ok b.metadata ∧ (Grading.run g.id program g.rubric b.metadata).2 = .ok b := by
  obtain ⟨program, hprogram, h⟩ := Except.bind_eq_ok_iff.1 h
  obtain ⟨source, hsource, hread⟩ := Except.bind_eq_ok_iff.1 hprogram
  obtain ⟨metadata, hdata, h⟩ := Except.bind_eq_ok_iff.1 h
  obtain ⟨base, hbase, h⟩ := Except.bind_eq_ok_iff.1 h
  obtain rfl := Grading.eq_of_base? (Except.mapError_eq_ok_iff.1 hbase)
  have hrun := Except.mapError_eq_ok_iff.1 h
  have hmetadata : b.metadata = metadata := by
    rw [Grading.eq_bundleOf_of_run hrun]
    rfl
  subst hmetadata
  exact ⟨source, program, hsource, Except.mapError_eq_ok_iff.1 hread, hdata, hrun⟩

/-- No input is told to be a report. -/
theorem ne_report_of_assessment (h : g.assessment fs = .error e) (f : FileFault) (p : Path) :
    e ≠ .report f p := by
  rintro rfl
  rcases Except.bind_eq_error_iff.1 h with hprogram | ⟨program, -, h⟩
  · rcases Except.bind_eq_error_iff.1 hprogram with hsource | ⟨source, -, hread⟩
    · rw [submissionText] at hsource
      split at hsource
      · cases hsource
      · cases hsource
      · obtain ⟨e, -, he⟩ := Except.mapError_eq_error_iff.1 hsource
        cases he
    · obtain ⟨e, -, he⟩ := Except.mapError_eq_error_iff.1 hread
      cases he
  · rcases Except.bind_eq_error_iff.1 h with hdata | ⟨metadata, -, h⟩
    · rw [dataIn] at hdata
      split at hdata
      · cases hdata
      · rw [dataOf.eq_def] at hdata
        split at hdata
        · cases hdata
        · cases hdata
        · obtain ⟨e, -, he⟩ := Except.mapError_eq_error_iff.1 hdata
          cases he
    · rcases Except.bind_eq_error_iff.1 h with hbase | ⟨base, -, hrun⟩
      · obtain ⟨e, -, he⟩ := Except.mapError_eq_error_iff.1 hbase
        cases he
      · obtain ⟨e, -, he⟩ := Except.mapError_eq_error_iff.1 hrun
        cases he

/-! ## Preparing -/

/-- What preparing comes to. -/
def preparation (g : Grader) (before cleaned : Files) : Except GradeError Bundle :=
  match before.firstFault? g.reportPaths with
  | some e => .error (cleaningError e)
  | none => g.assessment cleaned

/-- What is outside once reports were taken away. -/
structure Cleared (g : Grader) (o o' : Outside) : Prop where
  files : o.files.Emptied o'.files (o.files.passable g.reportPaths)
  sent : o'.sent = o.sent
  answers : o'.answers = o.answers

theorem Cleared.noted {o'' : Outside} (h : g.Cleared o o') (hnoted : OnlyNoted o' o'') : g.Cleared o o'' := by
  refine ⟨?_, hnoted.sent.trans h.sent, hnoted.answers.trans h.answers⟩
  rw [hnoted.files]
  exact h.files

/-- If cleaning stopped at none of them, all of them are gone. -/
theorem Cleared.emptied (h : g.Cleared o o') (hfault : o.files.firstFault? g.reportPaths = none) :
    o.files.Emptied o'.files g.reportPaths := by
  have hfiles := h.files
  rwa [Files.passable_eq_self hfault] at hfiles

theorem IsSettled.isResolved_reports (hg : g.IsSettled) : ∀ p ∈ g.reportPaths, p.IsResolved := by
  intro p hp
  obtain ⟨x, hx, rfl⟩ := List.mem_map.1 hp
  exact hg.reports x hx

theorem IsSettled.flat_reports (hg : g.IsSettled) : ∀ p ∈ g.reportPaths, Path.above ∉ p.parts :=
  fun p hp => (hg.isResolved_reports p hp).flat

/-- **Preparing a grading**, whether it comes to its end or not. -/
theorem on_prepare (hg : g.IsSettled) (o : Outside) :
    ∃ o', Work.on o g.prepare = (g.preparation o.files o'.files, o') ∧ g.Cleared o o' := by
  obtain ⟨deleted, o₁, hclean, hemptied, hsent, hanswers⟩ :=
    on_clean hg.flat_reports .grader { o with log := o.log ++ [startLine] }
  have hcleared : g.Cleared o o₁ := ⟨hemptied, hsent, hanswers⟩
  rw [prepare, Work.on_bind_ok (Work.on_note _ _)]
  have hclean' : Work.on { o with log := o.log ++ [startLine] }
      (Work.failingWith cleaningError (clean .grader g.reportPaths)) = _ := Work.on_failingWith _ _ _
  rw [hclean] at hclean'
  -- what follows on cleaning takes notes alone, so each stage finds the files that cleaning left
  rcases hfault : o.files.firstFault? g.reportPaths with _ | e
  · simp only [hfault, Option.elim] at hclean'
    rw [Work.on_bind_ok hclean']
    obtain ⟨o₂, hsubmission, hnoted₂⟩ := on_readSubmission g o₁
    rcases hprogram : g.programIn o₁.files with e | program
    · rw [hprogram] at hsubmission
      refine ⟨o₂, ?_, hcleared.noted hnoted₂⟩
      rw [Work.on_bind_error hsubmission, preparation, hfault, hnoted₂.files, assessment, hprogram]
      rfl
    rw [hprogram] at hsubmission
    obtain ⟨o₃, hread, hnoted₃⟩ := on_readCustomData g o₂
    rw [Work.on_bind_ok hsubmission]
    rcases hdata : g.dataIn o₂.files with e | metadata
    · rw [hdata] at hread
      refine ⟨o₃, ?_, hcleared.noted (hnoted₂.trans hnoted₃)⟩
      rw [Work.on_bind_error hread, preparation, hfault, hnoted₃.files, assessment, hnoted₂.files, hprogram,
        ← hnoted₂.files, hdata]
      rfl
    · rw [hdata] at hread
      obtain ⟨o₄, hgraded, hnoted₄⟩ := on_gradeProgram g program metadata o₃
      have hnoted := (hnoted₂.trans hnoted₃).trans hnoted₄
      refine ⟨o₄, ?_, hcleared.noted hnoted⟩
      rw [hnoted₂.files] at hdata
      rw [Work.on_bind_ok hread, hgraded, preparation, hfault, hnoted.files, assessment, hprogram, hdata]
      rfl
  · simp only [hfault, Option.elim] at hclean'
    refine ⟨o₁, ?_, hcleared⟩
    rw [Work.on_bind_error hclean', preparation, hfault]

/-- A grading that has its bundle has cleared all reports. -/
theorem cleared_of_prepare (hg : g.IsSettled) (h : Work.on o g.prepare = (.ok b, o')) :
    o.files.firstFault? g.reportPaths = none ∧ g.assessment o'.files = .ok b ∧ g.Cleared o o' := by
  obtain ⟨o₁, hprepare, hcleared⟩ := on_prepare hg o
  rw [h, Prod.mk.injEq] at hprepare
  obtain ⟨hbundle, rfl⟩ := hprepare
  rw [preparation] at hbundle
  split at hbundle
  · cases hbundle
  · next hfault => exact ⟨hfault, hbundle.symm, hcleared⟩

/-- A report at which cleaning stops ends a grading. -/
theorem on_grade_of_fault (hg : g.IsSettled) {e : FileError}
    (hfault : o.files.firstFault? g.reportPaths = some e) :
    ∃ o₁, Work.on o g.grade = (.error (cleaningError e), o₁) ∧ g.Cleared o o₁ := by
  obtain ⟨o₁, hprepare, hcleared⟩ := on_prepare hg o
  rw [preparation, hfault] at hprepare
  exact ⟨o₁, by rw [grade_eq, Work.on_bind_error hprepare], hcleared⟩

/-- Such an error tells of the report. -/
theorem exists_report_of_fault {e : FileError} (hfault : o.files.firstFault? g.reportPaths = some e) :
    ∃ f p, cleaningError e = .report f p := by
  obtain ⟨p, -, -, hp⟩ := Files.exists_eq_append_of_firstFault? hfault
  obtain ⟨f, rfl⟩ := Files.exists_fault_of_fault? hp
  exact ⟨f, p, rfl⟩

/-! ## Delivering -/

/-- The sinks that write reports. -/
def reportSinks (g : Grader) : List Sink :=
  g.textReport?.toList.map .text ++ (g.reports.lookup .xml).toList.map .xml

/-- The sinks that talk to a server. -/
def publisherSinks (g : Grader) : List Sink := g.publisher.toList.map .publisher

theorem sinks_eq (g : Grader) : g.sinks = g.reportSinks ++ g.publisherSinks := rfl

theorem mem_reports_of_lookup {k : ReportKind} {p : Path} (h : g.reports.lookup k = some p) :
    (k, p) ∈ g.reports := by
  obtain ⟨before, after, heq, -⟩ := List.lookup_eq_some_iff.1 h
  rw [heq]
  simp

theorem mem_reportPaths_of_lookup {k : ReportKind} {p : Path} (h : g.reports.lookup k = some p) :
    p ∈ g.reportPaths := List.mem_map.2 ⟨(k, p), mem_reports_of_lookup h, rfl⟩

theorem mem_reportSinks_iff {s : Sink} : s ∈ g.reportSinks ↔
    (∃ t, g.textReport? = some t ∧ s = .text t) ∨ ∃ p, g.reports.lookup .xml = some p ∧ s = .xml p := by
  simp [reportSinks, eq_comm]

/-- A text report is that of the grader. -/
theorem eq_of_textReport? {t : TextReport} (h : g.textReport? = some t) : t = g.textReport := by
  rw [textReport?] at h
  split at h
  · cases h
  · exact (Option.some.inj h).symm

/-- **The sinks that write reports** change reports alone. -/
theorem keeps_reportSinks (hg : g.IsSettled) (b : Bundle) :
    Work.Keeps (Outside.OnlyWrote g.reportPaths) (g.reportSinks.forM (handOver b)) := by
  have hframe := Outside.isFrame_onlyWrote g.reportPaths
  refine Work.Keeps.forM hframe fun s hs => keeps_handOver hframe ?_
  rcases mem_reportSinks_iff.1 hs with ⟨t, ht, rfl⟩ | ⟨p, hp, rfl⟩
  · obtain rfl := eq_of_textReport? ht
    refine TextReport.keeps_write hg.flat_reports (fun c p hlookup => ?_) b
    rw [textReport, lookup_textPaths] at hlookup
    exact mem_reportPaths_of_lookup hlookup
  · have hmem := mem_reportPaths_of_lookup hp
    exact XmlReport.keeps_write (hg.flat_reports p hmem) hmem b

/-- The others change no file. -/
theorem keeps_publisherSinks (g : Grader) (b : Bundle) :
    Work.Keeps (fun o o' => o'.files = o.files) (g.publisherSinks.forM (handOver b)) := by
  refine Work.Keeps.forM Outside.isFrame_files fun s hs => keeps_handOver Outside.isFrame_files ?_
  obtain ⟨p, -, rfl⟩ := List.mem_map.1 hs
  exact p.keeps_write b

theorem keeps_deliver (hg : g.IsSettled) (b : Bundle) :
    Work.Keeps (Outside.ChangedAt g.reportPaths) (g.deliver b) := by
  have hframe := Outside.isFrame_changedAt g.reportPaths
  have hsinks : Work.Keeps (Outside.ChangedAt g.reportPaths) (g.sinks.forM (handOver b)) := by
    intro o
    rw [sinks_eq, Work.on_forM_append]
    refine Work.Keeps.bind hframe ((keeps_reportSinks hg b).mono fun h => h.files) (fun _ => ?_) o
    refine (keeps_publisherSinks g b).mono fun h => ?_
    rw [Outside.ChangedAt, h]
    exact .refl _ _
  refine Work.Keeps.bind hframe (hsinks.failingWith GradeError.sink) fun _ => ?_
  refine Work.Keeps.bind hframe (Work.keeps_given hframe _) fun lines => ?_
  exact Work.Keeps.bind hframe (Work.keeps_note hframe lines) fun _ => Work.keeps_given hframe (.ok b)

/-- Delivering that comes to its end returns the bundle that all sinks were handed. -/
theorem deliver_eq_ok {b' : Bundle} (h : Work.on o (g.deliver b') = (.ok b, o')) :
    b' = b ∧ ∃ o₁, Work.on o (g.sinks.forM (handOver b)) = (.ok (), o₁) ∧ OnlyNoted o₁ o' := by
  obtain ⟨⟨⟩, o₁, hsinks, h⟩ := Work.bind_eq_ok_iff.1 h
  rw [Work.failingWith_eq_ok_iff] at hsinks
  obtain ⟨lines, o₂, hlines, h⟩ := Work.bind_eq_ok_iff.1 h
  obtain ⟨-, rfl⟩ := Work.given_eq_ok_iff.1 hlines
  rw [Work.on_bind_ok (Work.on_note _ _)] at h
  cases h
  exact ⟨rfl, o₁, hsinks, .note _ _⟩

/-- Delivering fails only over a sink or a sum. -/
theorem failsOnly_deliver (g : Grader) (b : Bundle) :
    Work.FailsOnly (fun e => (∃ s, e = .sink s) ∨ ∃ c, e = .grading c) (g.deliver b) := by
  refine Work.FailsOnly.bind ?_ fun _ => Work.FailsOnly.bind ?_ fun lines => ?_
  · exact Work.FailsOnly.failingWith (P := fun _ => True) (fun _ _ _ _ => trivial) fun s _ => .inl ⟨s, rfl⟩
  · refine Work.failsOnly_given fun e he => ?_
    obtain ⟨c, -, rfl⟩ := Except.mapError_eq_error_iff.1 he
    exact .inr ⟨_, rfl⟩
  · refine Work.FailsOnly.bind (Work.failsOnly_note _ lines) fun _ => ?_
    exact Work.failsOnly_given fun e he => by cases he

/-- **Where a grading fails**: over a report that cannot be looked at, over
what the inputs come to once the reports are gone, or while it delivers. -/
theorem on_grade_of_error (hg : g.IsSettled) (h : Work.on o g.grade = (.error e, o')) :
    (∃ f, o.files.firstFault? g.reportPaths = some f ∧ e = cleaningError f ∧ g.Cleared o o') ∨
    (o.files.firstFault? g.reportPaths = none ∧ g.assessment o'.files = .error e ∧ g.Cleared o o') ∨
    ∃ b o₁, Work.on o₁ (g.deliver b) = (.error e, o') := by
  obtain ⟨o₁, hprepare, hcleared⟩ := on_prepare hg o
  rw [grade_eq, Work.on_bind, hprepare, preparation] at h
  rcases hfault : o.files.firstFault? g.reportPaths with _ | f
  · rw [hfault] at h
    rcases hassessment : g.assessment o₁.files with e' | b
    · simp only [hassessment] at h
      cases h
      exact .inr (.inl ⟨rfl, hassessment, hcleared⟩)
    · simp only [hassessment] at h
      exact .inr (.inr ⟨b, o₁, h⟩)
  · rw [hfault] at h
    cases h
    exact .inl ⟨f, rfl, rfl, hcleared⟩

/-- **A grading changes reports alone**, whether it succeeds or fails. -/
theorem keeps_grade (hg : g.IsSettled) : Work.Keeps (Outside.ChangedAt g.reportPaths) g.grade := by
  have hframe := Outside.isFrame_changedAt g.reportPaths
  rw [grade_eq]
  refine Work.Keeps.bind hframe (fun o => ?_) (keeps_deliver hg)
  obtain ⟨o', hprepare, hcleared⟩ := on_prepare hg o
  rw [hprepare]
  have hsub := o.files.passable_subset g.reportPaths
  exact (hcleared.files.differAt fun p hp => hg.flat_reports p (hsub hp)).mono hsub

end ScriptGrader.Grader
