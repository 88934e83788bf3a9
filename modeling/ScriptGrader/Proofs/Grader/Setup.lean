import ScriptGrader.Grader.Setup
import ScriptGrader.Proofs.Files.Path
import ScriptGrader.Proofs.Grading.Bundle
import ScriptGrader.Proofs.Outside
import ScriptGrader.Proofs.Rubric.Items

/-!
# What a grader that was set up is like

Whatever a configuration holds, the paths of a grader that comes of it are
resolved, and its checks are of the catalog.
-/

namespace ScriptGrader

/-! ## Rubrics of a configuration -/

namespace Entry

/-- An entry that asks a question of the catalog. -/
def IsOfCatalog (e : Entry) : Prop :=
  ∃ q ∈ Catalog.questions, e.name = q.name ∧ e.category = .functional ∧ e.evaluate = q.ask

/-- An entry that is offered as the catalog offers a question. -/
theorem isOfCatalog_of_offer {q : Catalog.Question} (hq : q ∈ Catalog.questions) {mandatory maxScore : Value}
    {e : Entry} (h : e.offer = Rubric.catalogOffer q mandatory maxScore) : e.IsOfCatalog := by
  simp only [offer, check, Rubric.catalogOffer, Catalog.Question.check, EntryOffer.entry.injEq,
    EntryOffer.check.injEq, Check.mk.injEq, Value.text.injEq, Except.ok.injEq] at h
  obtain ⟨⟨-, hname, hcategory, hask⟩, -, -⟩ := h
  exact ⟨q, hq, hname, hcategory, hask⟩

end Entry

namespace Rubric

/-- All entries ask questions of the catalog. -/
def IsOfCatalog (r : Rubric) : Prop := ∀ e ∈ r.entries, e.IsOfCatalog

/-- Checks of the catalog raise no errors. -/
theorem IsOfCatalog.isTold {r : Rubric} (h : r.IsOfCatalog) (p : Program) : r.IsTold p := by
  intro e he kind f hraised
  obtain ⟨q, -, -, -, hask⟩ := h e he
  rw [hask] at hraised
  cases hraised

/-- Offers of the catalog. -/
def AreOfCatalog (offers : List EntryOffer) : Prop :=
  ∀ o ∈ offers, ∃ q ∈ Catalog.questions, ∃ mandatory maxScore, o = catalogOffer q mandatory maxScore

/-- The entries of a rubric are what was offered. -/
theorem isOfCatalog_of_ofOffers? {r : Rubric} {offers : List EntryOffer} (hoffers : AreOfCatalog offers)
    (h : ofOffers? offers = .ok r) : r.IsOfCatalog := by
  intro e he
  have hoffer : e.offer ∈ offers := by
    rw [← map_offer_of_ofOffers? h]
    exact List.mem_map_of_mem he
  obtain ⟨q, hq, mandatory, maxScore, heq⟩ := hoffers e.offer hoffer
  exact Entry.isOfCatalog_of_offer hq heq

/-- What a `checks` item offers is of the catalog. -/
theorem isOfCatalog_of_reading {v : Value} {o : EntryOffer} (h : reading? v = .ok (.offer o)) :
    ∃ q ∈ Catalog.questions, ∃ mandatory maxScore, o = catalogOffer q mandatory maxScore := by
  obtain ⟨-, -, hq⟩ := reading?_offer_iff.1 h
  exact ⟨_, hq, _, _, rfl⟩

theorem areOfCatalog_of_readings {items : List Value} {offers : List EntryOffer}
    (h : (readings items).2 = .ok offers) : AreOfCatalog offers := by
  induction items generalizing offers with
  | nil =>
    cases h
    exact fun o ho => by cases ho
  | cons v vs ih =>
    rw [readings] at h
    split at h
    · cases h
    · exact ih h
    · next o hreading =>
      rcases hrest : (readings vs).2 with e | rest
      · simp only [hrest, Except.map] at h
        cases h
      · simp only [hrest, Except.map] at h
        cases h
        intro o' ho'
        rcases List.mem_cons.1 ho' with rfl | ho'
        · exact isOfCatalog_of_reading hreading
        · exact ih hrest o' ho'

/-- **A rubric of a configuration** is of the catalog. -/
theorem isOfCatalog_of_ofConfig? {v : Value} {r : Rubric} (h : ofConfig? v = .ok r) : r.IsOfCatalog := by
  rw [ofConfig?] at h
  split at h
  · cases h
  · split at h
    · cases h
    · next offers hoffers =>
      exact isOfCatalog_of_ofOffers? (areOfCatalog_of_readings hoffers) h

theorem isOfCatalog_of_default {r : Rubric} (h : ofOffers? defaultOffers = .ok r) : r.IsOfCatalog := by
  refine isOfCatalog_of_ofOffers? ?_ h
  intro o ho
  obtain ⟨q, hq, rfl⟩ := List.mem_map.1 ho
  exact ⟨q, hq, defaultMandatory, defaultMaxScore, rfl⟩

end Rubric

/-! ## Settings -/

namespace Configuration

variable {c : Configuration} {cwd : CurrentDirectory} {base : Path}

/-- A path that a value names has no character zero in it. -/
theorem hasZero_of_named? {v : Value} {p : Path} (h : named? v = .ok p) : p.hasZero = false := by
  unfold named? at h
  split at h
  · split at h
    · cases h
    · next hzero =>
      cases h
      simpa using hzero
  · cases h

/-- A path that a value is. -/
theorem isResolved_of_path? (hbase : base.hasZero = false) {v : Value} {p : Path}
    (h : path? base v = .ok p) : p.IsResolved := by
  rw [path?] at h
  rcases hnamed : named? v with e | q
  · rw [hnamed] at h
    cases h
  · rw [hnamed] at h
    cases h
    exact Path.isResolved_resolve hbase (hasZero_of_named? hnamed)

/-- The current directory is one that a file system can have, if it is there. -/
def CurrentDirectory.IsSound (cwd : CurrentDirectory) : Prop := ∀ p, cwd = .ok p → p.hasZero = false

theorem CurrentDirectory.isSound_ok {p : Path} (h : p.hasZero = false) : CurrentDirectory.IsSound (.ok p) := by
  rintro q ⟨⟩
  exact h

theorem CurrentDirectory.IsSound.hasZero (hcwd : CurrentDirectory.IsSound cwd) {p : Path}
    (h : cwd.mapError SetupError.noDirectory = .ok p) : p.hasZero = false := by
  rcases cwd with e | q
  · cases h
  · cases h
    exact hcwd _ rfl

/-- A directory that a path leads on from. -/
theorem hasZero_of_base? (hcwd : CurrentDirectory.IsSound cwd) {p q : Path} (h : base? cwd p = .ok q) :
    q.hasZero = false := by
  unfold base? at h
  split at h
  · cases h
    rfl
  · exact hcwd.hasZero h

/-- A path that was asked for. -/
theorem isResolved_of_asked? (hcwd : CurrentDirectory.IsSound cwd) {s : String} {p : Path}
    (h : asked? cwd s = .ok p) : p.IsResolved := by
  obtain ⟨q, hnamed, h⟩ := Except.bind_eq_ok_iff.1 h
  obtain ⟨b, hbase, h⟩ := Except.bind_eq_ok_iff.1 h
  cases h
  exact Path.isResolved_resolve (hasZero_of_base? hcwd hbase) (hasZero_of_named? hnamed)

theorem isResolved_of_customData? (hbase : base.hasZero = false) {p? : Option Path}
    (h : c.customData? base = .ok p?) : ∀ p ∈ p?, p.IsResolved := by
  simp only [customData?] at h
  split at h
  · rcases hpath : path? base (c.setting "custom_data" (.text defaultCustomData)) with e | p
    · rw [hpath] at h
      cases h
    · rw [hpath] at h
      cases h
      intro q hq
      cases hq
      exact isResolved_of_path? hbase hpath
  · cases h
    exact fun q hq => by cases hq

theorem isResolved_of_reportPaths? (hbase : base.hasZero = false) {entries : List (Value × Value)}
    {reports : List (ReportKind × Path)} (h : reportPaths? base entries = .ok reports) :
    ∀ x ∈ reports, x.2.IsResolved := by
  induction entries generalizing reports with
  | nil =>
    cases h
    exact fun x hx => by cases hx
  | cons entry rest ih =>
    obtain ⟨k, v⟩ := entry
    rw [reportPaths?] at h
    split at h
    · next kind _ =>
      rcases hpath : path? base v with e | p
      · rw [hpath] at h
        cases h
      · rcases hrest : reportPaths? base rest with e | more
        · rw [hpath, hrest] at h
          cases h
        · rw [hpath, hrest] at h
          cases h
          intro x hx
          rcases List.mem_cons.1 hx with rfl | hx
          · exact isResolved_of_path? hbase hpath
          · exact ih hrest x hx
    · exact ih h

theorem isResolved_of_reports? (hbase : base.hasZero = false) {reports : List (ReportKind × Path)}
    (h : c.reports? base = .ok reports) : ∀ x ∈ reports, x.2.IsResolved := by
  rw [reports?] at h
  split at h
  · cases h
    exact fun x hx => by cases hx
  · split at h
    · exact isResolved_of_reportPaths? hbase h
    · split at h
      · cases h
      · cases h
  · cases h

theorem isOfCatalog_of_rubric {r : Rubric} (h : c.rubric.2 = .ok r) : r.IsOfCatalog := by
  rw [rubric] at h
  rcases hchecks : c.setting? "checks" with _ | v
  · rw [hchecks] at h
    rcases hoffers : Rubric.ofOffers? Rubric.defaultOffers with e | r'
    · rw [hoffers] at h
      cases h
    · rw [hoffers] at h
      cases h
      exact Rubric.isOfCatalog_of_default hoffers
  · rw [hchecks] at h
    rcases hconfig : Rubric.ofConfig? v with e | r'
    · simp only [hconfig] at h
      cases h
    · simp only [hconfig] at h
      cases h
      exact Rubric.isOfCatalog_of_ofConfig? hconfig

end Configuration

/-! ## Graders -/

namespace Grader

open Configuration (CurrentDirectory)

variable {g : Grader} {o o' : Outside} {cwd : CurrentDirectory} {options : Options} {connection : Connection}

/-- A grader that was set up in a directory, and perhaps closed since. -/
inductive Built : Grader → Prop
  | setUp {g : Grader} {cwd : CurrentDirectory} {options : Options} {connection : Connection}
      {before after : Outside} (hcwd : CurrentDirectory.IsSound cwd)
      (h : Work.on before (setUp cwd options connection) = (.ok g, after)) : Built g
  | close {g : Grader} (h : Built g) : Built g.close

/-- What holds of every grader that was set up. -/
structure IsSettled (g : Grader) : Prop where
  submission : g.submission.IsResolved
  customData : ∀ p ∈ g.customData, p.IsResolved
  rubric : g.rubric.IsOfCatalog
  reports : ∀ x ∈ g.reports, x.2.IsResolved

/-- The directory that the paths of a configuration lead on from. -/
theorem hasZero_of_configuration (hcwd : CurrentDirectory.IsSound cwd) {name : String} {c : Configuration}
    {base : Path} (h : Work.on o (configuration cwd name) = (.ok (c, base), o')) :
    base.hasZero = false := by
  rw [configuration] at h
  split at h
  · obtain ⟨p, o₁, hpresent, h⟩ := Work.bind_eq_ok_iff.1 h
    cases h
    exact hcwd.hasZero (Work.given_eq_ok_iff.1 hpresent).1
  · obtain ⟨path, o₁, hpath, h⟩ := Work.bind_eq_ok_iff.1 h
    obtain ⟨fs, o₂, -, h⟩ := Work.bind_eq_ok_iff.1 h
    obtain ⟨c', o₃, -, h⟩ := Work.bind_eq_ok_iff.1 h
    obtain ⟨⟨⟩, o₄, -, h⟩ := Work.bind_eq_ok_iff.1 h
    cases h
    rw [Work.given_eq_ok_iff] at hpath
    obtain ⟨hpath, -⟩ := hpath
    exact Path.hasZero_parent (Configuration.isResolved_of_asked? hcwd hpath).noZero

/-- **Setting up** a grader settles it. -/
theorem isSettled_of_setUp (hcwd : CurrentDirectory.IsSound cwd)
    (h : Work.on o (setUp cwd options connection) = (.ok g, o')) : g.IsSettled := by
  rw [setUp] at h
  obtain ⟨⟨c, base⟩, o₁, hconfiguration, h⟩ := Work.bind_eq_ok_iff.1 h
  have hbase := hasZero_of_configuration hcwd hconfiguration
  simp only at h
  split at h
  · cases h
  · obtain ⟨⟨⟩, o₂, -, h⟩ := Work.bind_eq_ok_iff.1 h
    obtain ⟨submission, o₃, hsubmission, h⟩ := Work.bind_eq_ok_iff.1 h
    obtain ⟨sourceType, o₄, -, h⟩ := Work.bind_eq_ok_iff.1 h
    obtain ⟨customData, o₅, hcustomData, h⟩ := Work.bind_eq_ok_iff.1 h
    obtain ⟨⟨⟩, o₆, -, h⟩ := Work.bind_eq_ok_iff.1 h
    obtain ⟨rubric, o₇, hrubric, h⟩ := Work.bind_eq_ok_iff.1 h
    obtain ⟨⟨⟩, o₈, -, h⟩ := Work.bind_eq_ok_iff.1 h
    obtain ⟨reports, o₉, hreports, h⟩ := Work.bind_eq_ok_iff.1 h
    obtain ⟨publishing, o₁₀, -, h⟩ := Work.bind_eq_ok_iff.1 h
    -- skipping the publishing only takes a note, so the last steps are followed once for both
    have hfinish : ∀ {o₁₁ : Outside}, Work.on o₁₁ (do
        let publisher ← Work.given (publishing.publisher? connection)
        return ({ id := if options.id = "" then c.id else options.id
                  submission, sourceType, customData, rubric, reports, publisher } : Grader)) =
          (.ok g, o') → g.IsSettled := by
      intro o₁₁ h
      obtain ⟨publisher, o₁₂, -, h⟩ := Work.bind_eq_ok_iff.1 h
      cases h
      rw [Work.given_eq_ok_iff] at hcustomData hrubric hreports hsubmission
      refine ⟨?_, Configuration.isResolved_of_customData? hbase hcustomData.1,
        Configuration.isOfCatalog_of_rubric hrubric.1, Configuration.isResolved_of_reports? hbase hreports.1⟩
      obtain ⟨hsubmission, -⟩ := hsubmission
      split at hsubmission
      · exact Configuration.isResolved_of_path? hbase hsubmission
      · exact Configuration.isResolved_of_asked? hcwd hsubmission
    split at h
    · obtain ⟨⟨⟩, o₁₁, -, h⟩ := Work.bind_eq_ok_iff.1 h
      exact hfinish h
    · exact hfinish h

/-- **A grader that was set up** is settled, before and after it was closed. -/
theorem Built.isSettled (h : g.Built) : g.IsSettled := by
  induction h with
  | setUp hcwd h => exact isSettled_of_setUp hcwd h
  | close _ ih => exact ⟨ih.submission, ih.customData, ih.rubric, ih.reports⟩

end Grader
end ScriptGrader
