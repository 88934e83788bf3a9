import ScriptGrader.Proofs.Grader.Isolation

/-!
# What a grading fails over

A grading is prepared for a submission that is no program and for a report
that cannot be taken away. What else it can fail over is in its stages: data
that is no text, keys that have no base, sums that cannot be told, and a
publisher that fails for a reason that does not lie outside. `GradeStrays`
tells when it comes to each of them, and nothing else does.
-/

namespace ScriptGrader

/-- An error that a grading is prepared for. -/
def GradeError.IsExpected (e : GradeError) : Prop :=
  (∃ s, e = .submission s) ∨ ∃ f p, e = .report f p

namespace Grader

variable {g : Grader} {o o' o₁ : Outside} {b : Bundle} {e : GradeError} {fs : Files} {program : Program}

/-- What a rubric asks of a program can be added up, and so can what it is worth. -/
def HasTotals (g : Grader) (program : Program) : Prop :=
  Score.HasTotal (g.rubric.entries.map fun e => (Grading.record e program).earnedScore) ∧
    Score.HasTotal (g.rubric.entries.map Entry.maxScore)

/-! ## What the inputs come to -/

/-- A submission that is no program is expected. -/
theorem isExpected_of_programIn (hg : g.IsSettled) (h : g.programIn fs = .error e) : e.IsExpected := by
  rcases Except.bind_eq_error_iff.1 h with hsource | ⟨source, -, hread⟩
  · rw [submissionText] at hsource
    split at hsource
    · next hzero => exact absurd hzero (Files.read?_ne_zero hg.submission.noZero)
    · cases hsource
      exact .inl ⟨_, rfl⟩
    · obtain ⟨e, -, rfl⟩ := Except.mapError_eq_error_iff.1 hsource
      exact .inl ⟨_, rfl⟩
  · obtain ⟨e, -, rfl⟩ := Except.mapError_eq_error_iff.1 hread
    exact .inl ⟨_, rfl⟩

/-- **Data fails** exactly if it is no text. -/
theorem dataIn_eq_error_iff (hg : g.IsSettled) : g.dataIn fs = .error e ↔
    ∃ path bytes d, g.customData = some path ∧ fs.read? path = .ok bytes ∧ Text.decodeFile bytes = .error d ∧
      e = .customData d := by
  rw [dataIn]
  rcases hpath : g.customData with _ | path
  · simp
  · have hresolved := hg.customData path (by rw [hpath]; rfl)
    simp only [Option.some.injEq, exists_and_left, exists_eq_left']
    rcases hread : fs.read? path with (⟨f, q⟩ | _) | bytes
    · simp [dataOf]
    · exact absurd hread (Files.read?_ne_zero hresolved.noZero)
    · rw [dataOf, Except.mapError_eq_error_iff]
      simp [eq_comm]

/-- **No bundle comes of a program** exactly if the keys have no base or the sums cannot be told. -/
theorem exists_bundleOf_eq_error_iff (hg : g.IsSettled) {metadata : String} :
    (∃ e, g.bundleOf program metadata = .error e) ↔ g.id = "" ∨ ¬ g.HasTotals program := by
  rw [bundleOf]
  by_cases hid : g.id = ""
  · simp [hid, Grading.base?, Value.isTrue, bind, Except.bind, Except.mapError]
  · have hbase : Grading.base? (.text g.id) = .ok g.id := by
      rw [Grading.base?, if_pos (by simp [Value.isTrue, hid]), Value.plain]
    have hreturns := @Grading.exists_run_eq_ok_iff g.id program g.rubric metadata
    rw [and_iff_right (hg.rubric.isTold program)] at hreturns
    rw [hbase, or_iff_right hid, HasTotals, ← hreturns]
    change (∃ e, (Grading.run g.id program g.rubric metadata).2.mapError GradeError.grading = .error e) ↔ _
    rcases (Grading.run g.id program g.rubric metadata).2 with c | b
    · simp [Except.mapError]
    · simp [Except.mapError]

/-- What becomes of a program when it fails is never expected. -/
theorem not_isExpected_of_bundleOf {metadata : String} (h : g.bundleOf program metadata = .error e) :
    ¬ e.IsExpected := by
  have hgrading : ∃ c, e = .grading c := by
    rcases Except.bind_eq_error_iff.1 h with hbase | ⟨base, -, hrun⟩
    · obtain ⟨c, -, rfl⟩ := Except.mapError_eq_error_iff.1 hbase
      exact ⟨c, rfl⟩
    · obtain ⟨c, -, rfl⟩ := Except.mapError_eq_error_iff.1 hrun
      exact ⟨c, rfl⟩
  obtain ⟨c, rfl⟩ := hgrading
  rintro (⟨s, hs⟩ | ⟨f, p, hp⟩)
  · cases hs
  · cases hp

/-! ## Gradings -/

/-- The files that the inputs are read from: what is left once reports were taken away. -/
def inputFiles (g : Grader) (o : Outside) : Files := (Work.on o g.prepare).2.files

/-- All reports can be taken away, and the submission is a program. -/
structure ReadsProgram (g : Grader) (o : Outside) (program : Program) : Prop where
  reports : o.files.firstFault? g.reportPaths = none
  program : g.programIn (g.inputFiles o) = .ok program

/-- **Where a grading strays**, given that the submission is a program. -/
inductive GradeStrays (g : Grader) (o : Outside) : Prop
  /-- The data that is to be passed on is no text. -/
  | customData {program : Program} (hprogram : g.ReadsProgram o program) {path : Path} {bytes : List UInt8}
      {d : Text.Utf8Error} (hpath : g.customData = some path) (hread : (g.inputFiles o).read? path = .ok bytes)
      (hundecodable : Text.decodeFile bytes = .error d)
  /-- The keys of the results have no base. -/
  | id {program : Program} (hprogram : g.ReadsProgram o program) {metadata : String}
      (hdata : g.dataIn (g.inputFiles o) = .ok metadata) (hid : g.id = "")
  /-- A sum of scores has no value or no text. -/
  | totals {program : Program} (hprogram : g.ReadsProgram o program) {metadata : String}
      (hdata : g.dataIn (g.inputFiles o) = .ok metadata) (htotals : ¬ g.HasTotals program)
  /-- The publisher fails for a reason that does not lie outside, behind the reports. -/
  | publisher {b : Bundle} {o₁ o₂ o₃ : Outside} (hprepare : Work.on o g.prepare = (.ok b, o₁)) {p : Publisher}
      (hp : g.publisher = some p) (hreports : HandedOver b g.reportSinks o₁ o₂) {e : SinkError}
      (hwrite : Work.on o₂ (p.write b) = (.error e, o₃)) (he : e.isExternal = false)

/-- **Preparing a grading strays** over its data, its keys or its sums. -/
theorem exists_prepare_strays_iff (hg : g.IsSettled) :
    (∃ e o', Work.on o g.prepare = (.error e, o') ∧ ¬ e.IsExpected) ↔
      ∃ program, g.ReadsProgram o program ∧
        ((∃ path bytes d, g.customData = some path ∧ (g.inputFiles o).read? path = .ok bytes ∧
            Text.decodeFile bytes = .error d) ∨
          ∃ metadata, g.dataIn (g.inputFiles o) = .ok metadata ∧ (g.id = "" ∨ ¬ g.HasTotals program)) := by
  obtain ⟨o₁, hprepare, -⟩ := on_prepare hg o
  have hinputs : g.inputFiles o = o₁.files := by rw [inputFiles, hprepare]
  rw [hinputs]
  constructor
  · rintro ⟨e, o', h, hstray⟩
    rw [hprepare, preparation] at h
    rcases hfault : o.files.firstFault? g.reportPaths with _ | f
    · rw [hfault] at h
      obtain ⟨hassessment, -⟩ := Prod.mk.inj h
      rcases Except.bind_eq_error_iff.1 hassessment with hprogram | ⟨program, hprogram, hrest⟩
      · exact absurd (isExpected_of_programIn hg hprogram) hstray
      · refine ⟨program, ⟨hfault, by rw [hinputs, hprogram]⟩, ?_⟩
        rcases Except.bind_eq_error_iff.1 hrest with hdata | ⟨metadata, hdata, hbundle⟩
        · obtain ⟨path, bytes, d, hpath, hread, hundecodable, -⟩ := (dataIn_eq_error_iff hg).1 hdata
          exact .inl ⟨path, bytes, d, hpath, hread, hundecodable⟩
        · exact .inr ⟨metadata, hdata, (exists_bundleOf_eq_error_iff hg).1 ⟨e, hbundle⟩⟩
    · -- a report that cannot be taken away is what a grading is prepared for
      rw [hfault] at h
      obtain ⟨hreport, -⟩ := Prod.mk.inj h
      obtain ⟨f', p, heq⟩ := exists_report_of_fault hfault
      cases hreport
      exact absurd (.inr ⟨f', p, heq⟩) hstray
  · rintro ⟨program, hprogram, hrest⟩
    -- the reports and the program are well, so it is the rest that decides
    have hassessment : ∀ {e}, (g.dataIn o₁.files >>= g.bundleOf program) = .error e →
        g.preparation o.files o₁.files = .error e := by
      intro e h
      have hread := hprogram.program
      rw [hinputs] at hread
      rw [preparation, hprogram.reports]
      exact Except.bind_eq_error_iff.2 (.inr ⟨program, hread, h⟩)
    rcases hrest with ⟨path, bytes, d, hpath, hread, hundecodable⟩ | ⟨metadata, hdata, hno⟩
    · have hdata := (dataIn_eq_error_iff hg).2 ⟨path, bytes, d, hpath, hread, hundecodable, rfl⟩
      refine ⟨_, o₁, by rw [hprepare, hassessment (Except.bind_eq_error_iff.2 (.inl hdata))], ?_⟩
      rintro (⟨s, hs⟩ | ⟨f, p, hp⟩)
      · cases hs
      · cases hp
    · obtain ⟨e, hbundle⟩ := (@exists_bundleOf_eq_error_iff g program hg metadata).2 hno
      refine ⟨e, o₁, ?_, not_isExpected_of_bundleOf hbundle⟩
      rw [hprepare, hassessment (Except.bind_eq_error_iff.2 (.inr ⟨metadata, hdata, hbundle⟩))]

/-- **What a grading fails over.** A grading returns a bundle, or fails over
its submission or over a report that cannot be taken away, unless it strays:
over data that is no text, keys without a base, sums that cannot be told or
a publisher. -/
theorem grade_fails_otherwise_iff (hg : g.Built) (o : Outside) :
    (∃ e o', Work.on o g.grade = (.error e, o') ∧ ¬ e.IsExpected) ↔ g.GradeStrays o := by
  have hsettled := hg.isSettled
  constructor
  · rintro ⟨e, o', h, hstray⟩
    rcases hprepare : Work.on o g.prepare with ⟨e' | b, o₁⟩
    · -- the grading has failed as its preparing did
      rw [grade_eq, Work.on_bind_error hprepare] at h
      cases h
      obtain ⟨program, hprogram, hrest⟩ := (exists_prepare_strays_iff hsettled).1 ⟨e, o', hprepare, hstray⟩
      rcases hrest with ⟨path, bytes, d, hpath, hread, hundecodable⟩ | ⟨metadata, hdata, hid | htotals⟩
      · exact .customData hprogram hpath hread hundecodable
      · exact .id hprogram hdata hid
      · exact .totals hprogram hdata htotals
    · -- reports never end a grading, so it is the publisher
      rw [grade_eq, Work.on_bind_ok hprepare] at h
      obtain ⟨⟨lines, hlines⟩, o₂, hreports⟩ := exists_handedOver_of_prepare hsettled hprepare
      by_contra hno
      obtain ⟨o₃, hsinks⟩ := hreports.exists_sinks fun p hp d o₃ hwrite => by
        by_contra hinternal
        exact hno (.publisher hprepare hp hreports hwrite (by simpa using hinternal))
      rw [on_deliver_of_handedOver hlines hsinks] at h
      cases h
  · intro h
    have hprepare : (∃ e o', Work.on o g.prepare = (.error e, o') ∧ ¬ e.IsExpected) →
        ∃ e o', Work.on o g.grade = (.error e, o') ∧ ¬ e.IsExpected := by
      rintro ⟨e, o', hprepare, hstray⟩
      exact ⟨e, o', by rw [grade_eq, Work.on_bind_error hprepare], hstray⟩
    cases h with
    | customData hprogram hpath hread hundecodable =>
      exact hprepare ((exists_prepare_strays_iff hsettled).2
        ⟨_, hprogram, .inl ⟨_, _, _, hpath, hread, hundecodable⟩⟩)
    | id hprogram hdata hid =>
      exact hprepare ((exists_prepare_strays_iff hsettled).2 ⟨_, hprogram, .inr ⟨_, hdata, .inl hid⟩⟩)
    | totals hprogram hdata htotals =>
      exact hprepare ((exists_prepare_strays_iff hsettled).2 ⟨_, hprogram, .inr ⟨_, hdata, .inr htotals⟩⟩)
    | publisher hprepare hp hreports hwrite he =>
      refine ⟨.sink _, _, by rw [grade_eq, Work.on_bind_ok hprepare, on_deliver_of_error hp hreports hwrite he], ?_⟩
      rintro (⟨s, hs⟩ | ⟨f, p, hp⟩)
      · cases hs
      · cases hp

/-! ## Data that is no text -/

/-- A submission that is a program, and data that is no text. -/
def unreadableDataOutside : Outside :=
  let o := sampleOutside "checks: [FunctionDefinition]\nreports:\ncustom_data: h\n" []
  { o with files := { o.files with entries := (["w", "h"], .file [0xff]) :: o.files.entries } }

/-- Is there data at the path that is no text? -/
def isUnreadableData (fs : Files) (path : Path) : Bool :=
  match fs.read? path with
  | .ok bytes => !(Text.decodeFile bytes).isOk
  | .error _ => false

/-- What is tested of a grading that strays over its data. -/
def straysOverData (g : Grader) : Bool :=
  let fs := g.inputFiles unreadableDataOutside
  (unreadableDataOutside.files.firstFault? g.reportPaths).isNone && (g.programIn fs).isOk &&
    g.customData.any (isUnreadableData fs)

theorem unreadable_data_fails_otherwise : ∃ g e o', Built g ∧
    Work.on unreadableDataOutside g.grade = (.error e, o') ∧ ¬ e.IsExpected := by
  obtain ⟨g, hg, htest⟩ := @exists_built_of_sample unreadableDataOutside straysOverData (by decide +kernel)
  simp only [straysOverData, Bool.and_eq_true, Option.isNone_iff_eq_none] at htest
  obtain ⟨⟨hreports, hisProgram⟩, hdata⟩ := htest
  obtain ⟨path, hpath, hunreadable⟩ := (Option.any_eq_true _ _).1 hdata
  rw [isUnreadableData] at hunreadable
  split at hunreadable
  · next bytes hread =>
    rcases hdecoded : Text.decodeFile bytes with d | text
    · rcases hprogram : g.programIn (g.inputFiles unreadableDataOutside) with e | program
      · rw [hprogram] at hisProgram
        cases hisProgram
      · obtain ⟨e, o', hgrade⟩ := (grade_fails_otherwise_iff hg unreadableDataOutside).2
          (.customData ⟨hreports, hprogram⟩ hpath hread hdecoded)
        exact ⟨g, e, o', hg, hgrade⟩
    · rw [hdecoded] at hunreadable
      cases hunreadable
  · cases hunreadable

/-- What is tested of a failure over data. -/
def isOverData : Except GradeError Bundle → Bool
  | .error (.customData _) => true
  | _ => false

/-- **Not every grading** returns a bundle or fails as it is prepared to. -/
theorem not_forall_grade_expected : ¬ ∀ (g : Grader) (o : Outside), g.Built →
    (∃ b o', Work.on o g.grade = (.ok b, o')) ∨ ∃ e o', Work.on o g.grade = (.error e, o') ∧ e.IsExpected := by
  intro hall
  obtain ⟨g, hg, htest⟩ := @exists_built_of_sample unreadableDataOutside
    (fun g => isOverData (Work.on unreadableDataOutside g.grade).1) (by decide +kernel)
  rcases hall g unreadableDataOutside hg with ⟨b, o', h⟩ | ⟨e, o', h, ⟨s, rfl⟩ | ⟨f, p, rfl⟩⟩
  all_goals
    rw [h] at htest
    cases htest

end Grader
end ScriptGrader
