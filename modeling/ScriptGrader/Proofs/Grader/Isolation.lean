import ScriptGrader.Proofs.Grader.Outputs
import ScriptGrader.Proofs.Grading.Total
import ScriptGrader.Proofs.Sink.Failure

/-!
# What becomes of a bundle

Once a grading has its bundle, the sinks that write reports are handed it
whatever happens: they fail only for reasons that lie outside, and such a
failure is noted. A publisher may fail for another reason, and then the
grading fails with it, although the reports are written and there is a
bundle to return.
-/

namespace ScriptGrader.Grader

open Markup (beginsWithLetter)

variable {g : Grader} {o o' o₁ o₂ : Outside} {b : Bundle} {ss ts : List Sink} {s : Sink}

/-- Sinks were handed a bundle, each of them once and in order. Each took
it, or failed for a reason that lies outside, and what became of it was noted. -/
inductive HandedOver (b : Bundle) : List Sink → Outside → Outside → Prop
  | nil (o : Outside) : HandedOver b [] o o
  | took {s : Sink} {ss : List Sink} {o o₁ o' : Outside} (h : Work.on o (s.write b) = (.ok (), o₁))
      (hrest : HandedOver b ss { o₁ with log := o₁.log ++ [handedLine s] } o') : HandedOver b (s :: ss) o o'
  | failed {s : Sink} {ss : List Sink} {e : SinkError} {o o₁ o' : Outside}
      (h : Work.on o (s.write b) = (.error e, o₁)) (he : e.isExternal = true)
      (hrest : HandedOver b ss { o₁ with log := o₁.log ++ [failedLine s e] } o') : HandedOver b (s :: ss) o o'

namespace HandedOver

/-- Handing over goes on behind sinks that were handed the bundle. -/
theorem append (h : HandedOver b ss o o₁) (h' : HandedOver b ts o₁ o₂) : HandedOver b (ss ++ ts) o o₂ := by
  induction h with
  | nil => exact h'
  | took h _ ih => exact .took h (ih h')
  | failed h he _ ih => exact .failed h he (ih h')

/-- **Sinks that were handed a bundle** do not end a grading. -/
theorem on_forM (h : HandedOver b ss o o') : Work.on o (ss.forM (handOver b)) = (.ok (), o') := by
  induction h with
  | nil => rfl
  | took h _ ih =>
    rw [Work.on_forM_cons, Work.on_bind, handOver, Work.on_tryCatch, Work.on_bind_ok h]
    exact ih
  | failed h he _ ih =>
    rw [Work.on_forM_cons, Work.on_bind, handOver, Work.on_tryCatch, Work.on_bind_error h]
    simp only [he, if_true]
    exact ih

/-- One sink that fails only for reasons that lie outside. -/
theorem exists_single (h : ∀ e o', Work.on o (s.write b) = (.error e, o') → e.isExternal = true) :
    ∃ o', HandedOver b [s] o o' := by
  rcases hwrite : Work.on o (s.write b) with ⟨e | ⟨⟨⟩⟩, o₁⟩
  · exact ⟨_, .failed hwrite (h e o₁ hwrite) (.nil _)⟩
  · exact ⟨_, .took hwrite (.nil _)⟩

end HandedOver

/-- A sum that was written once can be written again. -/
theorem exists_resultLog_of_run {program : Program} {metadata : String}
    (h : (Grading.run g.id program g.rubric metadata).2 = .ok b) : ∃ lines, resultLog b = .ok lines := by
  have htotals := (Grading.exists_run_eq_ok_iff.1 ⟨b, h⟩).2
  rw [← Grading.earnedScores_bundleOf, ← Grading.maxScores_bundleOf, ← Grading.eq_bundleOf_of_run h] at htotals
  exact (Grading.exists_ofTotals_eq_ok_iff _).2 htotals

/-- The line of a record begins with a letter, since its check's name does. -/
theorem beginsWithLetter_of_run (hg : g.IsSettled) {program : Program} {metadata : String}
    (h : (Grading.run g.id program g.rubric metadata).2 = .ok b) :
    ∀ r ∈ b.records, beginsWithLetter (Text.encode (TextReport.line r)) = true := by
  have hnames : ∀ q ∈ Catalog.questions, beginsWithLetter (Text.encode q.name) = true := by decide +kernel
  intro r hr
  obtain ⟨q, hq, hname⟩ := exists_question_of_run hg h r hr
  rw [TextReport.line_eq, Text.encode_append, hname]
  exact Markup.beginsWithLetter_append (hnames q hq) _

/-- Where reports were taken away, no document is left. -/
theorem Cleared.leavesWords (h : g.Cleared o o₁) (hg : g.IsSettled)
    (hfault : o.files.firstFault? g.reportPaths = none) {p : Path} (hp : p ∈ g.reportPaths) :
    TextReport.LeavesWords p o₁.files := by
  intro bytes hread
  have hfalse := (h.emptied hfault).isFile?_eq_false hg.flat_reports hp
    (Files.isFile?_of_fault? (Files.fault?_eq_none_of_mem hfault hp))
  obtain ⟨hreaches, -, hnode⟩ := (Files.read?_eq_ok_iff (hg.flat_reports p hp)).1 hread
  have htrue := (Files.isFile?_eq_true_iff (hg.flat_reports p hp)).2 ⟨hreaches, bytes, hnode⟩
  rw [hfalse] at htrue
  cases htrue

/-- **The sinks that write reports** are handed the bundle, one after the other. -/
theorem exists_handedOver_reports (hg : g.IsSettled)
    (hlines : ∀ r ∈ b.records, beginsWithLetter (Text.encode (TextReport.line r)) = true)
    (hwords : ∀ p, g.reports.lookup .xml = some p → TextReport.LeavesWords p o.files) :
    ∃ o', HandedOver b g.reportSinks o o' := by
  have htextPaths : ∀ c p, g.textReport.paths.lookup c = some p → p ∈ g.reportPaths := by
    intro c p hp
    rw [textReport, lookup_textPaths] at hp
    exact mem_reportPaths_of_lookup hp
  obtain ⟨o₁, htext⟩ : ∃ o₁, HandedOver b (g.textReport?.toList.map Sink.text) o o₁ := by
    rcases ht : g.textReport? with _ | t
    · exact ⟨o, .nil o⟩
    · obtain rfl := eq_of_textReport? ht
      refine HandedOver.exists_single fun e o' h => ?_
      refine TextReport.failsOnly_write (fun c p hp => ?_) b o e o' h
      exact (hg.isResolved_reports p (htextPaths c p hp)).noZero
  -- what the text reports have left where the XML report goes is no document
  have hwords₁ : ∀ p, g.reports.lookup .xml = some p → TextReport.LeavesWords p o₁.files := by
    intro p hp
    have hframe := TextReport.isFrame_leavesWords p
    have hkeeps : Work.Keeps (fun o o' => TextReport.LeavesWords p o.files → TextReport.LeavesWords p o'.files)
        ((g.textReport?.toList.map Sink.text).forM (handOver b)) := by
      refine Work.Keeps.forM hframe fun s hs => keeps_handOver hframe ?_
      obtain ⟨t, ht, rfl⟩ := List.mem_map.1 hs
      obtain rfl := eq_of_textReport? (Option.mem_toList.1 ht)
      refine TextReport.keeps_leavesWords (hg.flat_reports p (mem_reportPaths_of_lookup hp)) ?_ hlines
      exact fun c q hq => hg.flat_reports q (htextPaths c q hq)
    have hkept := hkeeps o
    rw [htext.on_forM] at hkept
    exact hkept (hwords p hp)
  obtain ⟨o₂, hxml⟩ : ∃ o₂, HandedOver b ((g.reports.lookup .xml).toList.map Sink.xml) o₁ o₂ := by
    rcases hp : g.reports.lookup .xml with _ | p
    · rw [hp]
      exact ⟨o₁, .nil o₁⟩
    · rw [hp]
      refine HandedOver.exists_single fun e o' h => ?_
      have hresolved := hg.isResolved_reports p (mem_reportPaths_of_lookup hp)
      exact XmlReport.isExternal_of_write hresolved.noZero (hwords₁ p hp) h
  exact ⟨o₂, htext.append hxml⟩

/-- Delivering, once all sinks were handed the bundle. -/
theorem on_deliver_of_handedOver {lines : List LogLine} (hlines : resultLog b = .ok lines)
    (h : HandedOver b g.sinks o o') :
    Work.on o (g.deliver b) = (.ok b, { o' with log := o'.log ++ lines }) := by
  rw [deliver, Work.on_bind, Work.on_failingWith, h.on_forM]
  simp only [hlines]
  rfl

/-- Delivering, when a publisher fails for a reason that does not lie outside. -/
theorem on_deliver_of_error {p : Publisher} {e : SinkError} (hp : g.publisher = some p)
    (h : HandedOver b g.reportSinks o o₁) (hwrite : Work.on o₁ (p.write b) = (.error e, o'))
    (he : e.isExternal = false) : Work.on o (g.deliver b) = (.error (.sink e), o') := by
  have hsinks : Work.on o (g.sinks.forM (handOver b)) = (.error e, o') := by
    rw [sinks_eq, Work.on_forM_append, Work.on_bind_ok h.on_forM, publisherSinks, hp]
    change Work.on o₁ (handOver b (.publisher p) >>= fun _ => _) = _
    exact Work.on_bind_error (handOver_of_error (s := .publisher p) hwrite he) _
  rw [deliver, Work.on_bind, Work.on_failingWith, hsinks]

/-- **A grading that has its bundle** has the lines that tell of it, and the
sinks that write reports are handed it. -/
theorem exists_handedOver_of_prepare (hg : g.IsSettled) (h : Work.on o g.prepare = (.ok b, o₁)) :
    (∃ lines, resultLog b = .ok lines) ∧ ∃ o₂, HandedOver b g.reportSinks o₁ o₂ := by
  obtain ⟨hfault, hassessment, hcleared⟩ := cleared_of_prepare hg h
  obtain ⟨-, program, -, -, -, hrun⟩ := assessment_eq_ok hassessment
  refine ⟨exists_resultLog_of_run hrun, ?_⟩
  exact exists_handedOver_reports hg (beginsWithLetter_of_run hg hrun) fun p hp =>
    hcleared.leavesWords hg hfault (mem_reportPaths_of_lookup hp)

/-- The scores of a grading that has its bundle can be written. -/
theorem isWritable_of_prepare (hg : g.IsSettled) (h : Work.on o g.prepare = (.ok b, o₁)) :
    ∀ r ∈ b.records, r.maxScore.toValue.isWritable = true ∧ r.earnedScore.toValue.isWritable = true := by
  obtain ⟨-, hassessment, -⟩ := cleared_of_prepare hg h
  obtain ⟨-, program, -, -, -, hrun⟩ := assessment_eq_ok hassessment
  exact fun r hr => Grading.isWritable_of_run hrun hr

/-- Only a publisher can be left to keep the bundle back. -/
theorem HandedOver.exists_sinks (h : HandedOver b g.reportSinks o o₁)
    (hexternal : ∀ p ∈ g.publisher, ∀ e o', Work.on o₁ (p.write b) = (.error e, o') → e.isExternal = true) :
    ∃ o', HandedOver b g.sinks o o' := by
  obtain ⟨o', hpublisher⟩ : ∃ o', HandedOver b g.publisherSinks o₁ o' := by
    rw [publisherSinks]
    rcases hp : g.publisher with _ | p
    · exact ⟨o₁, .nil o₁⟩
    · exact HandedOver.exists_single (hexternal p hp)
  exact ⟨o', h.append hpublisher⟩

/-- A publisher can send the results of a bundle, and copes with each answer. -/
structure CanPublish (p : Publisher) (b : Bundle) (answers : List Web.Answer) : Prop where
  isOpen : p.isOpen = true
  isFinite : ∀ r ∈ b.records, r.maxScore.isFinite = true
  copes : ∀ a ∈ .standard :: answers, p.Copes a

/-- **Sinks do not stop each other.** Once a grading has a bundle, the sinks
that write reports are handed it in order, each of them once, whatever
becomes of them. If there is a publisher, it is handed the bundle then. The
grading returns the bundle unless the publisher fails for a reason that does
not lie outside; with that it fails itself. It does not come to this if the
results can be sent and each answer can be coped with. -/
theorem sinks_isolated (hg : g.Built) (h : Work.on o g.prepare = (.ok b, o₁)) :
    ((∃ o₂ lines, HandedOver b g.sinks o₁ o₂ ∧
        Work.on o g.grade = (.ok b, { o₂ with log := o₂.log ++ lines })) ∨
      ∃ p e o₂ o₃, g.publisher = some p ∧ HandedOver b g.reportSinks o₁ o₂ ∧
        Work.on o₂ (p.write b) = (.error e, o₃) ∧ e.isExternal = false ∧
        Work.on o g.grade = (.error (.sink e), o₃)) ∧
    ((∀ p ∈ g.publisher, CanPublish p b o.answers) → ∃ o₂ lines, HandedOver b g.sinks o₁ o₂ ∧
      Work.on o g.grade = (.ok b, { o₂ with log := o₂.log ++ lines })) := by
  have hsettled := hg.isSettled
  obtain ⟨⟨lines, hlines⟩, o₂, hreports⟩ := exists_handedOver_of_prepare hsettled h
  obtain ⟨-, -, hcleared⟩ := cleared_of_prepare hsettled h
  have hgrade : Work.on o g.grade = Work.on o₁ (g.deliver b) := by
    rw [grade_eq, Work.on_bind_ok h]
  have hanswers : o₂.answers = o.answers := by
    have hkept := keeps_reportSinks hsettled b o₁
    rw [hreports.on_forM] at hkept
    exact hkept.answers.trans hcleared.answers
  -- only the publisher is left to keep the bundle back
  have hall : (∀ p ∈ g.publisher, ∀ e o', Work.on o₂ (p.write b) = (.error e, o') → e.isExternal = true) →
      ∃ o₃ lines, HandedOver b g.sinks o₁ o₃ ∧
        Work.on o g.grade = (.ok b, { o₃ with log := o₃.log ++ lines }) := by
    intro hexternal
    obtain ⟨o₃, hsinks⟩ := hreports.exists_sinks hexternal
    exact ⟨o₃, lines, hsinks, by rw [hgrade, on_deliver_of_handedOver hlines hsinks]⟩
  refine ⟨?_, fun hpublish => hall fun p hp e o' hwrite => ?_⟩
  · by_cases hexternal : ∀ p ∈ g.publisher, ∀ e o', Work.on o₂ (p.write b) = (.error e, o') →
        e.isExternal = true
    · exact .inl (hall hexternal)
    · simp only [not_forall, Bool.not_eq_true] at hexternal
      obtain ⟨p, hp, e, o₃, hwrite, he⟩ := hexternal
      refine .inr ⟨p, e, o₂, o₃, hp, hreports, hwrite, he, ?_⟩
      rw [hgrade, on_deliver_of_error hp hreports hwrite he]
  · have hcan := hpublish p hp
    rw [← hanswers] at hcan
    have hwritable := isWritable_of_prepare hsettled h
    exact Publisher.isExternal_of_write_of_copes hcan.isOpen
      (fun content hcontent => Publisher.isWritable_of_mem_payloads hwritable hcontent)
      (fun content hcontent => Publisher.isFinite_of_mem_payloads hcan.isFinite hcontent) hcan.copes hwrite

theorem full_sinks_isolated : ∃ g b o₁ o₂ lines, Built g ∧ Work.on fullOutside g.prepare = (.ok b, o₁) ∧
    HandedOver b g.sinks o₁ o₂ ∧
    Work.on fullOutside g.grade = (.ok b, { o₂ with log := o₂.log ++ lines }) := by
  obtain ⟨g, -, -, hg, hfull⟩ := exists_full
  obtain ⟨p, hp, -, -, hopen, habsolute⟩ := hfull.publishes
  obtain ⟨b, o', hgrade, -, hfinite⟩ := hfull.returns
  rw [grade_eq] at hgrade
  obtain ⟨b', o₁, hprepare, hdeliver⟩ := Work.bind_eq_ok_iff.1 hgrade
  rw [(deliver_eq_ok hdeliver).1] at hprepare
  have hpublish : ∀ q ∈ g.publisher, CanPublish q b fullOutside.answers := by
    intro q hq
    rw [hp] at hq
    cases hq
    refine ⟨hopen, hfinite, fun a ha => ?_⟩
    rcases List.mem_cons.1 ha with rfl | ha
    · exact Publisher.copes_empty habsolute 200
    · rw [List.mem_singleton.1 ha]
      exact Publisher.copes_empty habsolute 204
  obtain ⟨o₂, lines, hall, hgrade⟩ := (sinks_isolated hg hprepare).2 hpublish
  exact ⟨g, b, o₁, o₂, lines, hg, hprepare, hall, hgrade⟩

/-- A check that is worth more than any number, and a publisher. -/
def infiniteOutside : Outside :=
  sampleOutside "checks: [FunctionDefinition: \x7bmax_score: .inf\x7d]\nreports:\npublish:\n url: http://h/\n" []

/-- What is tested of a run that has a bundle and does not return it. -/
def losesBundle (g : Grader) : Bool :=
  (Work.on infiniteOutside g.prepare).1.isOk && !(Work.on infiniteOutside g.grade).1.isOk

/-- **A publisher can keep a result back**: not every grading that has a bundle returns it. -/
theorem not_forall_prepared_returned : ¬ ∀ (g : Grader) (o o₁ : Outside) (b : Bundle), g.Built →
    Work.on o g.prepare = (.ok b, o₁) → ∃ o', Work.on o g.grade = (.ok b, o') := by
  intro hall
  obtain ⟨g, hg, htest⟩ := @exists_built_of_sample infiniteOutside losesBundle (by decide +kernel)
  rw [losesBundle, Bool.and_eq_true, Bool.not_eq_true'] at htest
  obtain ⟨hprepared, hlost⟩ := htest
  rcases hprepare : Work.on infiniteOutside g.prepare with ⟨e | b, o₁⟩
  · rw [hprepare] at hprepared
    cases hprepared
  · obtain ⟨o', hgrade⟩ := hall g infiniteOutside o₁ b hg hprepare
    rw [hgrade] at hlost
    cases hlost

end ScriptGrader.Grader
