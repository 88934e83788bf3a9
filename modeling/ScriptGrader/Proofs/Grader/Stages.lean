import ScriptGrader.Grader.Grade
import ScriptGrader.Proofs.Files.Cleaning
import ScriptGrader.Proofs.Grader.Setup
import ScriptGrader.Proofs.Sink.Publisher
import ScriptGrader.Proofs.Sink.TextLines
import ScriptGrader.Proofs.Sink.XmlReport

/-!
# The stages of a grading

Each stage of a grading that comes to its end, told by what it yields and
by what it has changed outside: reading and grading only take notes, and
each sink changes what is its own.
-/

namespace ScriptGrader

/-- The base of the keys is the text that is given. -/
theorem Grading.eq_of_base? {s base : String} (h : base? (.text s) = .ok base) : base = s := by
  rw [base?] at h
  split at h
  · cases h
    rfl
  · cases h

namespace Grader

variable {g : Grader} {o o' : Outside} {b : Bundle}

/-! ## Reading and grading -/

/-- The data that a reading of its file comes down to. -/
def dataOf : Except FileError (List UInt8) → Except GradeError String
  | .error .zero => .error .zeroInPath
  | .error (.fault _ _) => .ok ""
  | .ok bytes => (Text.decodeFile bytes).mapError .customData

/-- The data that is passed on, by the files as they are. -/
def dataIn (g : Grader) (fs : Files) : Except GradeError String :=
  match g.customData with
  | none => .ok ""
  | some path => dataOf (fs.read? path)

/-- **The data** that is passed on. -/
theorem on_readCustomData (g : Grader) (o : Outside) :
    ∃ o', Work.on o g.readCustomData = (g.dataIn o.files, o') ∧ OnlyNoted o o' := by
  rw [readCustomData, dataIn]
  rcases g.customData with _ | path
  · exact ⟨o, rfl, .refl o⟩
  · simp only
    rw [Work.on_bind_ok (Work.on_files o)]
    rcases o.files.read? path with (⟨f, q⟩ | _) | bytes
    · exact ⟨_, rfl, .note o _⟩
    · exact ⟨o, rfl, .refl o⟩
    · exact ⟨o, rfl, .refl o⟩

/-- **Cleaning elsewhere** does not change the data. -/
theorem dataIn_before {fs fs' : Files} {ps : List Path} (hcleaned : fs.Cleaned fs' ps)
    (hresolved : ∀ p ∈ g.customData, p.IsResolved) (hplace : ∀ p ∈ g.customData, ∀ q ∈ ps, q.parts ≠ p.parts)
    {metadata : String} (h : g.dataIn fs' = .ok metadata) : g.dataIn fs = .ok metadata := by
  rw [dataIn] at h ⊢
  rcases hpath : g.customData with _ | path
  · rw [hpath] at h
    exact h
  · rw [hpath] at h
    simp only at h ⊢
    have hp := hresolved path (by rw [hpath]; rfl)
    rcases hbefore : fs.read? path with (⟨f, q⟩ | _) | bytes
    · rcases hafter : fs'.read? path with (⟨f', q'⟩ | _) | bytes
      · rw [hafter] at h
        exact h
      · rw [hafter] at h
        cases h
      · -- what can be read now could be read before
        rw [hcleaned.read?_before hp.flat hafter] at hbefore
        cases hbefore
    · exact absurd hbefore (Files.read?_ne_zero hp.noZero)
    · rw [hcleaned.read?_after hp.flat (hplace path (by rw [hpath]; rfl)) hbefore] at h
      exact h

/-! ## Sinks -/

/-- A sink that succeeds. -/
theorem handOver_of_ok {s : Sink} (h : Work.on o (s.write b) = (.ok (), o')) :
    ∃ o₁, Work.on o (handOver b s) = (.ok (), o₁) ∧ OnlyNoted o' o₁ := by
  refine ⟨_, ?_, .note o' [handedLine s]⟩
  rw [handOver, Work.on_tryCatch, Work.on_bind_ok h]
  rfl

/-- A sink that fails for a reason that does not lie outside. -/
theorem handOver_of_error {s : Sink} {e : SinkError} (h : Work.on o (s.write b) = (.error e, o'))
    (he : e.isExternal = false) : Work.on o (handOver b s) = (.error e, o') := by
  rw [handOver, Work.on_tryCatch, Work.on_bind_error h]
  simp only [he]
  rfl

/-- A single sink, if there is one. -/
theorem on_forM_toList {α : Type} (o : Outside) (x : Option α) (f : α → Sink) :
    Work.on o ((x.toList.map f).forM (handOver b)) =
      match x with
      | none => (.ok (), o)
      | some a => Work.on o (handOver b (f a)) := by
  cases x with
  | none => rfl
  | some a =>
    change Work.on o (handOver b (f a) >>= fun _ => ([] : List Sink).forM (handOver b)) =
      Work.on o (handOver b (f a))
    rw [Work.on_bind]
    rcases Work.on o (handOver b (f a)) with ⟨e | ⟨⟨⟩⟩, o'⟩
    · rfl
    · rfl

/-- The file of a category is the one that the reports name for it. -/
theorem lookup_textPaths (g : Grader) (c : Category) :
    g.textPaths.lookup c = g.reports.lookup (.text c) := by
  rw [textPaths]
  induction g.reports with
  | nil => rfl
  | cons x rest ih =>
    obtain ⟨k, p⟩ := x
    rw [List.lookup_cons]
    rcases k with d | _
    · have hkind : (ReportKind.text c == ReportKind.text d) = (c == d) := by
        rw [Bool.eq_iff_iff, beq_iff_eq, beq_iff_eq, ReportKind.text.injEq]
      simp only [List.filterMap_cons, ReportKind.category?, Option.map_some, List.lookup_cons, hkind]
      rw [← ih]
      rfl
    · have hkind : (ReportKind.text c == ReportKind.xml) = false := by
        rw [beq_eq_false_iff_ne]
        simp
      simp only [List.filterMap_cons, ReportKind.category?, Option.map_none, hkind]
      exact ih

/-- The text reports of a grader, whether there are any or not. -/
def textReport (g : Grader) : TextReport := ⟨g.textPaths, .grader⟩

/-- **The text reports** are written. -/
theorem textStage (hopens : ∀ c p, g.reports.lookup (.text c) = some p → o.files.Opens p) :
    ∃ o', Work.on o ((g.textReport?.toList.map Sink.text).forM (handOver b)) = (.ok (), o') ∧
      g.textReport.Added b.records o o' := by
  rw [on_forM_toList, textReport?]
  by_cases hpaths : g.textPaths.isEmpty = true
  · refine ⟨o, by rw [if_pos hpaths], rfl, rfl, .refl _, fun _ _ => rfl, ?_⟩
    intro place hplace
    rw [List.isEmpty_iff] at hpaths
    refine absurd ?_ hplace
    simp [TextReport.landing, textReport, hpaths]
  · rw [if_neg hpaths]
    obtain ⟨o₁, hwrite, hadded⟩ := @TextReport.write_eq g.textReport o
      (fun c p hp => hopens c p (by rwa [← lookup_textPaths])) b
    obtain ⟨o', hhand, hnoted⟩ := handOver_of_ok (s := .text g.textReport) hwrite
    exact ⟨o', hhand, hadded.noted hnoted⟩

/-- **The XML report** is written. -/
theorem xmlStage (hlegible : ∀ r ∈ b.records, r.IsLegible)
    (hopens : ∀ p, g.reports.lookup .xml = some p → o.files.Opens p ∧ o.files.node? p.parts = none) :
    ∃ o', Work.on o (((g.reports.lookup .xml).toList.map Sink.xml).forM (handOver b)) = (.ok (), o') ∧
      (g.reports.lookup .xml = none → OnlyNoted o o') ∧
      ∀ p, g.reports.lookup .xml = some p → XmlReport.Added p.parts [] b.records o o' := by
  rw [on_forM_toList]
  rcases hxml : g.reports.lookup .xml with _ | p
  · rw [hxml]
    exact ⟨o, rfl, fun _ => .refl o, fun p hp => by cases hp⟩
  · obtain ⟨hp, hnode⟩ := hopens p hxml
    obtain ⟨o₁, hwrite, hadded⟩ := XmlReport.write_eq hp.leadsTo hp.free (fun c hc => by cases hc)
      (XmlReport.continues_nil hp.leadsTo hnode) b hlegible
    obtain ⟨o', hhand, hnoted⟩ := handOver_of_ok (s := .xml p) hwrite
    rw [hxml]
    refine ⟨o', hhand, (fun h => by cases h), fun q hq => ?_⟩
    cases hq
    exact hadded.noted hnoted

/-- What a grader sends for a bundle. -/
def requests (g : Grader) (b : Bundle) : List Web.Request :=
  match g.publisher with
  | none => []
  | some p => (p.payloads b).map p.request

/-- The posts of a publisher can be made, and are answered well. -/
def AnsweredWell (p : Publisher) (b : Bundle) (o : Outside) : Prop :=
  p.target.checkRequest = .ok () ∧ p.unsupported? = none ∧
    Publisher.AnswersGood o.answers (p.payloads b).length

/-- **The results** are published. -/
theorem publisherStage_eq_ok (hanswered : ∀ p ∈ g.publisher, AnsweredWell p b o)
    (h : Work.on o ((g.publisher.toList.map Sink.publisher).forM (handOver b)) = (.ok (), o')) :
    o'.files = o.files ∧ o'.sent = o.sent ++ g.requests b := by
  rw [on_forM_toList] at h
  rw [requests]
  rcases hpublisher : g.publisher with _ | p
  · rw [hpublisher] at h
    cases h
    exact ⟨rfl, by simp⟩
  · rw [hpublisher] at h
    obtain ⟨hcheck, hsupported, hanswers⟩ := hanswered p hpublisher
    rcases hwrite : Work.on o (p.write b) with ⟨e | ⟨⟨⟩⟩, o₁⟩
    · -- the error would not lie outside, so handing over would fail with it
      have he := Publisher.isExternal_of_write hsupported hcheck hanswers hwrite
      simp only at h
      rw [handOver_of_error (s := .publisher p) hwrite he] at h
      cases h
    · obtain ⟨o₂, hhand, hnoted⟩ := handOver_of_ok (s := .publisher p) hwrite
      simp only at h
      rw [hhand] at h
      cases h
      obtain ⟨hsent, hfiles⟩ := Publisher.write_eq_ok hwrite
      exact ⟨hnoted.files.trans hfiles, by rw [hnoted.sent, hsent]⟩

/-- **All sinks.** Where each report has a place of its own at which nothing
stands yet, each sink leaves what is its own. -/
theorem sinks_eq_ok (hlegible : ∀ r ∈ b.records, r.IsLegible)
    (hopens : ∀ k p, g.reports.lookup k = some p → o.files.Opens p ∧ o.files.node? p.parts = none)
    (hapart : ∀ c p q, g.reports.lookup (.text c) = some p → g.reports.lookup .xml = some q →
      p.parts ≠ q.parts)
    (hanswered : ∀ p ∈ g.publisher, AnsweredWell p b o)
    (h : Work.on o (g.sinks.forM (handOver b)) = (.ok (), o')) :
    ∃ o₁ o₂, g.textReport.Added b.records o o₁ ∧
      (g.reports.lookup .xml = none → OnlyNoted o₁ o₂) ∧
      (∀ p, g.reports.lookup .xml = some p → XmlReport.Added p.parts [] b.records o₁ o₂) ∧
      o'.files = o₂.files ∧ o'.sent = o.sent ++ g.requests b := by
  obtain ⟨o₁, htext, hadded⟩ := textStage (b := b) fun c p hp => (hopens _ p hp).1
  have hopens₁ : ∀ p, g.reports.lookup .xml = some p →
      o₁.files.Opens p ∧ o₁.files.node? p.parts = none := by
    intro p hp
    obtain ⟨hopen, hnone⟩ := hopens _ p hp
    refine ⟨hopen.of_sameDirectories hadded.directories, ?_⟩
    rw [hadded.kept, hnone]
    refine List.filter_eq_nil_iff.2 fun r _ => ?_
    rw [Option.any_eq_true]
    rintro ⟨q, hq, hplace⟩
    rw [textReport, lookup_textPaths] at hq
    exact hapart _ q p hq hp (by simpa using hplace)
  obtain ⟨o₂, hxml, hnone, hsome⟩ := xmlStage hlegible hopens₁
  have hsame : o₂.sent = o.sent ∧ o₂.answers = o.answers := by
    rcases hlookup : g.reports.lookup .xml with _ | p
    · have hnoted := hnone hlookup
      exact ⟨hnoted.sent.trans hadded.sent, hnoted.answers.trans hadded.answers⟩
    · have hcases := hsome p hlookup
      exact ⟨hcases.sent.trans hadded.sent, hcases.answers.trans hadded.answers⟩
  rw [sinks, Work.on_forM_append] at h
  obtain ⟨⟨⟩, o₃, hreports, hpublisher⟩ := Work.bind_eq_ok_iff.1 h
  rw [Work.on_forM_append, Work.on_bind_ok htext, hxml] at hreports
  cases hreports
  have hanswered₂ : ∀ p ∈ g.publisher, AnsweredWell p b o₂ := by
    intro p hp
    rw [AnsweredWell, hsame.2]
    exact hanswered p hp
  obtain ⟨hfiles, hsent⟩ := publisherStage_eq_ok hanswered₂ hpublisher
  exact ⟨o₁, o₂, hadded, hnone, hsome, hfiles, by rw [hsent, hsame.1]⟩

end Grader
end ScriptGrader
