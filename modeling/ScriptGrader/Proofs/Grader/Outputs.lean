import Mathlib.Data.List.Nodup
import ScriptGrader.Proofs.Grader.Course

/-!
# What the outputs of a grading tell

The files and requests that a grading leaves behind all tell of the bundle
that it returns, and of nothing that was there before: the reports are
taken away first, and each sink goes on only from what it wrote itself.
-/

namespace ScriptGrader

open Markup (Element Name)

/-! ## What outputs are to tell -/

/-- The lines of a category, one for each of its records. -/
def Bundle.verdictsOf (b : Bundle) (c : Category) : List UInt8 :=
  (b.records.filter fun r => r.category = c).flatMap fun r =>
    Text.encode (r.checkName ++ if r.passed then "=PASS\n" else "=FAIL\n")

/-- Contents of requests that carry the keys and fields of a bundle in
order: one of them each, or all of them at once. -/
structure Publisher.TellOf (perRecord : Bool) (contents : List (List (String × Json))) (b : Bundle) :
    Prop where
  fields : contents.flatten = b.items.map fun x => (x.1, x.2.toWire)
  each : perRecord = true → ∀ c ∈ contents, c.length = 1
  once : perRecord = false → contents.length = 1

namespace TextReport

theorem line_eq (r : Record) : line r = r.checkName ++ if r.passed then "=PASS\n" else "=FAIL\n" := by
  have hpass : "=" ++ ("PASS" ++ "\n") = "=PASS\n" := by decide
  have hfail : "=" ++ ("FAIL" ++ "\n") = "=FAIL\n" := by decide
  have hline : line r = r.checkName ++ ("=" ++ ((if r.passed then "PASS" else "FAIL") ++ "\n")) := by
    simp only [line, String.append_assoc]
    rfl
  rw [hline]
  rcases r.passed
  · rw [if_neg Bool.false_ne_true, hfail, if_neg Bool.false_ne_true]
  · rw [if_pos rfl, hpass, if_pos rfl]

theorem lines_eq (b : Bundle) (c : Category) :
    lines (b.records.filter fun r => r.category = c) = b.verdictsOf c := by
  simp only [lines, Bundle.verdictsOf, line_eq]

end TextReport

namespace Publisher

/-- **The payloads of a bundle** tell of it. -/
theorem exists_payloads_eq (p : Publisher) (b : Bundle) :
    ∃ contents, TellOf p.perRecord contents b ∧ p.payloads b = contents.map fun c =>
      .object [("testCaseResults", .object c), ("customData", .text b.metadata)] := by
  rw [payloads]
  rcases hper : p.perRecord
  · refine ⟨[b.items.map fun x => (x.1, x.2.toWire)], ⟨by simp, by simp, fun _ => rfl⟩, rfl⟩
  · refine ⟨b.items.map fun x => [(x.1, x.2.toWire)], ⟨?_, ?_, by simp⟩, ?_⟩
    · induction b.items with
      | nil => rfl
      | cons x xs ih => rw [List.map_cons, List.flatten_cons, ih, List.map_cons, List.singleton_append]
    · intro _ c hc
      obtain ⟨x, -, rfl⟩ := List.mem_map.1 hc
      rfl
    · rw [if_pos rfl, List.map_map]
      rfl

end Publisher

namespace Grader

variable {g : Grader} {o o' : Outside} {b : Bundle}

/-- The reports of a grader have places of their own: no two have the same,
none has that of an input, each lies in a directory that is there, and none
is a directory itself. Nothing is refused there, and there is room. -/
structure ReportsApart (g : Grader) (fs : Files) : Prop where
  distinct : g.reportPaths.Nodup
  submission : g.submission ∉ g.reportPaths
  customData : ∀ p ∈ g.customData, p ∉ g.reportPaths
  parent : ∀ p ∈ g.reportPaths, fs.HasDirectory p.parent
  notDirectory : ∀ p ∈ g.reportPaths, ¬ fs.HasDirectory p
  searchable : ∀ p ∈ g.reportPaths, fs.Grants .search p.parent.parts
  free : ∀ p ∈ g.reportPaths, fs.IsFree p.parts

instance (g : Grader) (fs : Files) : Decidable (g.ReportsApart fs) :=
  decidable_of_iff (g.reportPaths.Nodup ∧ g.submission ∉ g.reportPaths ∧
      (∀ p ∈ g.customData, p ∉ g.reportPaths) ∧ (∀ p ∈ g.reportPaths, fs.HasDirectory p.parent) ∧
      (∀ p ∈ g.reportPaths, ¬ fs.HasDirectory p) ∧ (∀ p ∈ g.reportPaths, fs.Grants .search p.parent.parts) ∧
      ∀ p ∈ g.reportPaths, fs.IsFree p.parts)
    ⟨fun ⟨h₁, h₂, h₃, h₄, h₅, h₆, h₇⟩ => ⟨h₁, h₂, h₃, h₄, h₅, h₆, h₇⟩,
      fun ⟨h₁, h₂, h₃, h₄, h₅, h₆, h₇⟩ => ⟨h₁, h₂, h₃, h₄, h₅, h₆, h₇⟩⟩

/-- Different resolved paths have different components. -/
theorem parts_ne {p q : Path} (hp : p.IsResolved) (hq : q.IsResolved) (hne : p ≠ q) : p.parts ≠ q.parts :=
  fun h => hne (hq.eq_of_parts hp h)

/-- Reports of different kinds go to different places. -/
theorem parts_ne_of_kind (hg : g.IsSettled) (hdistinct : g.reportPaths.Nodup) {k l : ReportKind} {p q : Path}
    (hp : g.reports.lookup k = some p) (hq : g.reports.lookup l = some q) (hkl : k ≠ l) :
    p.parts ≠ q.parts := by
  have hp' := mem_reports_of_lookup hp
  have hq' := mem_reports_of_lookup hq
  refine parts_ne (hg.reports _ hp') (hg.reports _ hq') ?_
  rintro rfl
  have heq := List.inj_on_of_nodup_map hdistinct hp' hq' rfl
  exact hkl (Prod.mk.inj heq).1

/-- The records of a grader's bundle are named by questions of the catalog. -/
theorem exists_question_of_run (hg : g.IsSettled) {program : Program} {metadata : String}
    (h : (Grading.run g.id program g.rubric metadata).2 = .ok b) :
    ∀ r ∈ b.records, ∃ q ∈ Catalog.questions, r.checkName = q.name := by
  intro r hr
  rw [Grading.eq_bundleOf_of_run h, Grading.records_bundleOf] at hr
  obtain ⟨e, he, rfl⟩ := List.mem_map.1 hr
  obtain ⟨q, hq, hname, -⟩ := hg.rubric e he
  exact ⟨q, hq, (Grading.carries_record e program).checkName.trans hname⟩

/-- So they are legible. -/
theorem isLegible_of_run (hg : g.IsSettled) {program : Program} {metadata : String}
    (h : (Grading.run g.id program g.rubric metadata).2 = .ok b) : ∀ r ∈ b.records, r.IsLegible := by
  have hnames : ∀ q ∈ Catalog.questions, Markup.IsText q.name.toList := by decide
  intro r hr
  obtain ⟨q, hq, hname⟩ := exists_question_of_run hg h r hr
  rw [Record.IsLegible, hname]
  exact hnames q hq

/-- The records whose lines land at the place of a category's report. -/
theorem landing_eq (hg : g.IsSettled) (hdistinct : g.reportPaths.Nodup) {c : Category} {p : Path}
    (hp : g.reports.lookup (.text c) = some p) (rs : List Record) :
    g.textReport.landing p.parts rs = rs.filter fun r => r.category = c := by
  refine List.filter_congr fun r _ => ?_
  have hlookup : g.textReport.paths.lookup r.category = g.reports.lookup (.text r.category) :=
    lookup_textPaths g r.category
  rw [hlookup, Bool.eq_iff_iff, Option.any_eq_true, decide_eq_true_eq]
  constructor
  · rintro ⟨q, hq, hplace⟩
    by_contra hne
    exact parts_ne_of_kind hg hdistinct hq hp (by simpa using hne) (by simpa using hplace)
  · rintro rfl
    exact ⟨p, hp, by simp⟩

/-- What cleaning leaves of the inputs: the submission is read as before. -/
theorem submissionText_before {fs fs' : Files} {ps : List Path} (hcleaned : fs.Cleaned fs' ps)
    (hg : g.IsSettled) {source : String} (h : g.submissionText fs' = .ok source) :
    g.submissionText fs = .ok source := by
  rw [submissionText] at h ⊢
  rcases hread : fs'.read? g.submission with (⟨f, q⟩ | _) | bytes
  · rw [hread] at h
    cases h
  · rw [hread] at h
    cases h
  · rw [hcleaned.read?_before hg.submission.flat hread]
    rw [hread] at h
    exact h

/-- **A grading that comes to its end**, stage by stage: the reports are
cleaned, the inputs are read as they were before, and the sinks are handed
the bundle of the submission. -/
theorem grade_eq_ok (hg : g.IsSettled) (hapart : g.ReportsApart o.files)
    (h : Work.on o g.grade = (.ok b, o')) :
    ∃ o₁ o₂ source program, OnlyCleaned o o₁ g.reportPaths ∧
      (∀ p ∈ g.reportPaths, IsClean o.files o₁.files p) ∧
      g.submissionText o.files = .ok source ∧ Program.read? g.sourceType source = .ok program ∧
      g.dataIn o.files = .ok b.metadata ∧
      (Grading.run g.id program g.rubric b.metadata).2 = .ok b ∧
      Work.on o₁ (g.sinks.forM (handOver b)) = (.ok (), o₂) ∧ OnlyNoted o₂ o' := by
  rw [grade_eq] at h
  obtain ⟨b, o₁, hprepare, hdeliver⟩ := Work.bind_eq_ok_iff.1 h
  obtain ⟨rfl, o₂, hsinks, hnoted⟩ := deliver_eq_ok hdeliver
  obtain ⟨hfault, hassessment, hcleared⟩ := cleared_of_prepare hg hprepare
  obtain ⟨source, program, hsource, hprogram, hdata, hrun⟩ := assessment_eq_ok hassessment
  have hemptied := hcleared.emptied hfault
  have hcleaned := hemptied.cleaned hg.flat_reports
  have hplace : ∀ p ∈ g.customData, ∀ q ∈ g.reportPaths, q.parts ≠ p.parts := by
    intro p hp q hq
    refine parts_ne (hg.isResolved_reports q hq) (hg.customData p hp) ?_
    rintro rfl
    exact hapart.customData _ hp hq
  exact ⟨o₁, o₂, source, program, ⟨hcleaned, hcleared.sent, hcleared.answers⟩,
    fun p hp => hemptied.isClean hg.flat_reports hfault hp, submissionText_before hcleaned hg hsource,
    hprogram, dataIn_before hcleaned hg.customData hplace hdata, hrun, hsinks, hnoted⟩

/-- Where cleaning leaves each report: a file can be opened there, and none
is there. -/
theorem opens_of_cleaned (hg : g.IsSettled) {fs fs' : Files} (hapart : g.ReportsApart fs)
    (hcleaned : fs.Cleaned fs' g.reportPaths) (hclean : ∀ p ∈ g.reportPaths, IsClean fs fs' p)
    {k : ReportKind} {p : Path} (hp : g.reports.lookup k = some p) :
    fs'.Opens p ∧ fs'.node? p.parts = none := by
  have hresolved := hg.reports _ (mem_reports_of_lookup hp)
  have hmem := mem_reportPaths_of_lookup hp
  exact (hclean p hmem).opens hcleaned.sameDirectories hresolved.flat hresolved.noZero
    (hapart.parent p hmem) (hapart.searchable p hmem) (hapart.free p hmem) (hapart.notDirectory p hmem)

/-- What the sinks have left, by the files in which they began: each report
holds what its sink wrote there. -/
theorem reports_of_sinks (hg : g.IsSettled) (hdistinct : g.reportPaths.Nodup)
    (hopens : ∀ k p, g.reports.lookup k = some p → o.files.Opens p ∧ o.files.node? p.parts = none)
    {o₁ o₂ : Outside} (htext : g.textReport.Added b.records o o₁)
    (hnone : g.reports.lookup .xml = none → OnlyNoted o₁ o₂)
    (hxml : ∀ p, g.reports.lookup .xml = some p → XmlReport.Added p.parts [] b.records o₁ o₂) :
    (∀ k p, g.reports.lookup k = some p → o₂.files.Opens p) ∧
    (∀ c p, g.reports.lookup (.text c) = some p → o₂.files.node? p.parts =
      if b.records.filter (fun r => r.category = c) = [] then none else some (.file (b.verdictsOf c))) ∧
    ∀ p, g.reports.lookup .xml = some p → b.records ≠ [] →
      o₂.files.node? p.parts =
        some (.file (XmlReport.bytesOf (XmlReport.documentOf (b.records.map Record.case)))) := by
  have hdirectories : o.files.SameDirectories o₂.files := by
    rcases hlookup : g.reports.lookup .xml with _ | q
    · rw [(hnone hlookup).files]
      exact htext.directories
    · exact htext.directories.trans (hxml q hlookup).directories
  have hkept : ∀ c p, g.reports.lookup (.text c) = some p →
      o₂.files.node? p.parts = o₁.files.node? p.parts := by
    intro c p hp
    rcases hlookup : g.reports.lookup .xml with _ | q
    · rw [(hnone hlookup).files]
    · exact (hxml q hlookup).kept _ (.inl (parts_ne_of_kind hg hdistinct hp hlookup (by simp)))
  refine ⟨fun k p hp => (hopens k p hp).1.of_sameDirectories hdirectories, ?_, ?_⟩
  · intro c p hp
    obtain ⟨-, hnode⟩ := hopens _ p hp
    rw [hkept c p hp]
    by_cases hempty : (b.records.filter fun r => r.category = c) = []
    · rw [if_pos hempty, htext.kept, hnode]
      rw [landing_eq hg hdistinct hp, hempty]
    · -- where nothing stood, the lines that were added are all there is
      have hgrown := htext.grown p.parts (by rw [landing_eq hg hdistinct hp]; exact hempty)
      rw [if_neg hempty, hgrown, landing_eq hg hdistinct hp, Files.bytesAt_of_none hnode,
        List.nil_append, TextReport.lines_eq]
  · intro p hp hrecords
    rw [(hxml p hp).grown hrecords, List.nil_append]

/-- A directory with a configuration, a submission and reports of an earlier run. -/
def sampleOutside (configuration : String) (answers : List Web.Answer) : Outside where
  files := { entries := [(["w"], .directory), (["w", "c"], .file (Text.encode configuration)),
    (["w", "s"], .file (Text.encode "function f(){}")), (["w", "f"], .file [1, 2]),
    (["w", "x"], .file [3, 4])] }
  log := []
  sent := []
  answers := answers

/-- What becomes of setting up a grader there. -/
def sampleGrader? (o : Outside) : Except SetupError Grader :=
  (Work.on o (setUp (.ok ⟨true, ["w"]⟩) ⟨"c", "s", "id"⟩ .own)).1

/-- A grader of which something can be tested is a grader that was set up. -/
theorem exists_setUp_of_sample {o : Outside} {test : Grader → Bool}
    (h : (sampleGrader? o).toOption.any test = true) :
    ∃ g after, Work.on o (setUp (.ok ⟨true, ["w"]⟩) ⟨"c", "s", "id"⟩ .own) = (.ok g, after) ∧ g.Built ∧
      test g = true := by
  obtain ⟨g, after, hsetUp, htest⟩ := Work.exists_of_any h
  exact ⟨g, after, hsetUp, .setUp (Configuration.CurrentDirectory.isSound_ok (by decide)) hsetUp, htest⟩

theorem exists_built_of_sample {o : Outside} {test : Grader → Bool}
    (h : (sampleGrader? o).toOption.any test = true) : ∃ g, g.Built ∧ test g = true := by
  obtain ⟨g, -, -, hg, htest⟩ := exists_setUp_of_sample h
  exact ⟨g, hg, htest⟩

theorem eq_ok_of_isOk {ε : Type} {r : Except ε Unit} (h : r.isOk = true) : r = .ok () := by
  rcases r with e | ⟨⟨⟩⟩
  · cases h
  · rfl

/-- One check, two reports, and a post that is answered with a status of its own. -/
def fullOutside : Outside :=
  sampleOutside "checks: [FunctionDefinition]\nreports:\n functional: f\n xml: x\npublish:\n url: http://h/\n"
    [.response 204 [] []]

/-- What is tested of the grader that is set up there, and of its run. -/
def isFull (g : Grader) : Bool :=
  decide (g.submission = ⟨true, ["w", "s"]⟩) &&
    decide (g.reports = [(.text .functional, ⟨true, ["w", "f"]⟩), (.xml, ⟨true, ["w", "x"]⟩)]) &&
    decide (g.ReportsApart fullOutside.files) &&
    g.publisher.any (fun p =>
      p.target.checkRequest.isOk && p.unsupported?.isNone && p.isOpen && p.target.isAbsolute) &&
    (Work.on fullOutside g.grade).1.toOption.any fun b =>
      decide (b.records.map Record.category = [.functional]) && b.records.all fun r => r.maxScore.isFinite

/-- **The grader with every output**: where it reads and writes, that it can
publish, and that its run has a result. -/
structure IsFull (g : Grader) : Prop where
  submission : g.submission = ⟨true, ["w", "s"]⟩
  reports : g.reports = [(.text .functional, ⟨true, ["w", "f"]⟩), (.xml, ⟨true, ["w", "x"]⟩)]
  apart : g.ReportsApart fullOutside.files
  publishes : ∃ p, g.publisher = some p ∧ p.target.checkRequest = .ok () ∧ p.unsupported? = none ∧
    p.isOpen = true ∧ p.target.isAbsolute = true
  returns : ∃ b o', Work.on fullOutside g.grade = (.ok b, o') ∧
    b.records.map Record.category = [.functional] ∧ ∀ r ∈ b.records, r.maxScore.isFinite = true

theorem exists_full : ∃ g after,
    Work.on fullOutside (setUp (.ok ⟨true, ["w"]⟩) ⟨"c", "s", "id"⟩ .own) = (.ok g, after) ∧ g.Built ∧ IsFull g := by
  obtain ⟨g, after, hsetUp, hg, htest⟩ := @exists_setUp_of_sample fullOutside isFull (by decide +kernel)
  simp only [isFull, Bool.and_eq_true, decide_eq_true_eq] at htest
  obtain ⟨⟨⟨⟨hsubmission, hreports⟩, hapart⟩, hpublisher⟩, hrun⟩ := htest
  obtain ⟨p, hp, hready⟩ := (Option.any_eq_true _ _).1 hpublisher
  simp only [Bool.and_eq_true, Option.isNone_iff_eq_none] at hready
  obtain ⟨⟨⟨hcheck, hsupported⟩, hopen⟩, habsolute⟩ := hready
  obtain ⟨b, o', hgrade, hrun⟩ := Work.exists_of_any hrun
  rw [Bool.and_eq_true, decide_eq_true_iff, List.all_eq_true] at hrun
  exact ⟨g, after, hsetUp, hg, {
    submission := hsubmission
    reports := hreports
    apart := hapart
    publishes := ⟨p, hp, eq_ok_of_isOk hcheck, hsupported, hopen, habsolute⟩
    returns := ⟨b, o', hgrade, hrun⟩ }⟩

/-- Every check of the catalog, and a first post whose answer tells of success but cannot be read. -/
def unreadableOutside : Outside :=
  sampleOutside "reports:\npublish:\n url: http://h/\n"
    [.response 200 [.ofText "content-encoding" "gzip"] (Text.encode "none")]

/-- What is tested of a run that ends its publishing there. -/
def isCutShort (g : Grader) : Bool :=
  decide (g.ReportsApart unreadableOutside.files) &&
    g.publisher.any (fun p => p.perRecord && p.target.checkRequest.isOk && p.unsupported?.isNone) &&
    (Work.on unreadableOutside g.grade).1.toOption.any (fun b => decide (b.size = 4)) &&
    decide ((Work.on unreadableOutside g.grade).2.sent.length = 1)

/-- Contents of one record each are as many as the records. -/
theorem length_contents {contents : List (List (String × Json))}
    (h : Publisher.TellOf true contents b) : contents.length = b.size := by
  have hflatten : ∀ cs : List (List (String × Json)), (∀ c ∈ cs, c.length = 1) →
      cs.flatten.length = cs.length := by
    intro cs
    induction cs with
    | nil => exact fun _ => rfl
    | cons c cs ih =>
      intro hall
      rw [List.flatten_cons, List.length_append, hall c List.mem_cons_self,
        ih fun d hd => hall d (List.mem_cons_of_mem c hd), List.length_cons, Nat.add_comm]
  rw [← hflatten contents (h.each rfl), h.fields, List.length_map, Bundle.size]

end Grader
end ScriptGrader
