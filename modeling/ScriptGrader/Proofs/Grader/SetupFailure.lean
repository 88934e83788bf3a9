import ScriptGrader.Proofs.Grader.Course

/-!
# What setting up fails over

What is wrong with a configuration is told as a configuration error, unless
a value is not even of the kind that it is used as, or the file is no text.
Settings are looked at one after the other, so such a value decides only
when everything in front of it is right. `Configuration.IsStray` tells for
each of them what that takes.
-/

namespace ScriptGrader

namespace SetupError

/-- An error that is told as one of the configuration. -/
def IsConfiguration (e : SetupError) : Prop := ∃ c, e = .configuration c

/-- A failure that is not told as one of the configuration. -/
def Strays {α : Type} (r : Except SetupError α) : Prop := ∃ e, r = .error e ∧ ¬ e.IsConfiguration

variable {α β δ : Type} {r : Except SetupError α} {f : α → Except SetupError β} {e : SetupError}

theorem not_strays_ok (a : α) : ¬ Strays (.ok a : Except SetupError α) := by
  rintro ⟨e, he, -⟩
  cases he

theorem strays_error_iff : Strays (.error e : Except SetupError α) ↔ ¬ e.IsConfiguration := by
  simp [Strays]

theorem not_strays_configuration (c : ConfigurationError) :
    ¬ Strays (.error (.configuration c) : Except SetupError α) :=
  fun h => strays_error_iff.1 h ⟨c, rfl⟩

theorem strays_bind_iff : Strays (r >>= f) ↔ Strays r ∨ ∃ a, r = .ok a ∧ Strays (f a) := by
  rcases r with e | a
  · simp [Strays, bind, Except.bind]
  · simp [Strays, bind, Except.bind]

/-- What is made of a result does not matter. -/
theorem strays_map_iff (g : α → β) : Strays (r.map g) ↔ Strays r := by
  rcases r with e | a
  · simp [Strays, Except.map]
  · simp [Strays, Except.map]

end SetupError

open SetupError

/-! ## Single settings -/

namespace Configuration

variable {c : Configuration} {cwd : CurrentDirectory} {base : Path} {v : Value} {entries : List (Value × Value)}

/-- A value that is a path which a file system can have. -/
def IsPath (v : Value) : Prop := ∃ s, v = .text s ∧ (Path.ofText s).hasZero = false

theorem isPath_text_iff {s : String} : IsPath (.text s) ↔ (Path.ofText s).hasZero = false := by
  simp [IsPath]

/-- **A value that names a path**: it is one, or it is of no use and strays. -/
theorem named?_cases (v : Value) : (IsPath v ∧ ∃ p, named? v = .ok p) ∨
    (¬ IsPath v ∧ ∃ e, named? v = .error e ∧ ¬ e.IsConfiguration) := by
  unfold named?
  split
  · next s =>
    rw [isPath_text_iff]
    split
    · next hzero => exact .inr ⟨by simp [hzero], _, rfl, by rintro ⟨c, hc⟩; cases hc⟩
    · next hzero => exact .inl ⟨by simpa using hzero, _, rfl⟩
  · next hkind =>
    refine .inr ⟨?_, _, rfl, by rintro ⟨c, hc⟩; cases hc⟩
    rintro ⟨s, rfl, -⟩
    exact hkind s rfl

theorem strays_path?_iff : Strays (path? base v) ↔ ¬ IsPath v := by
  rw [path?, strays_map_iff]
  rcases named?_cases v with ⟨hpath, p, hp⟩ | ⟨hpath, e, he, hstray⟩
  · simp [hp, hpath, not_strays_ok]
  · simp [he, hpath, strays_error_iff, hstray]

theorem exists_path?_eq_ok_iff (base : Path) : (∃ p, path? base v = .ok p) ↔ IsPath v := by
  rw [path?]
  rcases named?_cases v with ⟨hpath, p, hp⟩ | ⟨hpath, e, he, -⟩
  · simp [hp, hpath, Except.map]
  · simp [he, hpath, Except.map]

/-- A path leads on from somewhere: from the root, or from the current directory if that is there. -/
def LeadsOn (cwd : CurrentDirectory) (p : Path) : Prop := p.isAbsolute = true ∨ ∃ q, cwd = .ok q

theorem base?_cases (cwd : CurrentDirectory) (p : Path) : (LeadsOn cwd p ∧ ∃ q, base? cwd p = .ok q) ∨
    (¬ LeadsOn cwd p ∧ ∃ e, base? cwd p = .error (.noDirectory e)) := by
  rw [base?]
  split
  · next habsolute => exact .inl ⟨.inl habsolute, _, rfl⟩
  · next hrelative =>
    rcases cwd with e | q
    · exact .inr ⟨by simp [LeadsOn, hrelative], e, rfl⟩
    · exact .inl ⟨.inr ⟨q, rfl⟩, q, rfl⟩

/-- A text that is a path, and leads on from somewhere. -/
structure IsAsked (cwd : CurrentDirectory) (s : String) : Prop where
  isPath : IsPath (.text s)
  leadsOn : LeadsOn cwd (Path.ofText s)

/-- **A path that was asked for** is there, or it is of no use and strays. -/
theorem asked?_cases (cwd : CurrentDirectory) (s : String) : (IsAsked cwd s ∧ ∃ p, asked? cwd s = .ok p) ∨
    (¬ IsAsked cwd s ∧ ∃ e, asked? cwd s = .error e ∧ ¬ e.IsConfiguration) := by
  rw [asked?]
  by_cases hpath : IsPath (.text s)
  · have hnamed : named? (.text s) = .ok (Path.ofText s) := by simp [named?, isPath_text_iff.1 hpath]
    rw [hnamed]
    rcases base?_cases cwd (Path.ofText s) with ⟨hleads, q, hq⟩ | ⟨hleads, e, he⟩
    · exact .inl ⟨⟨hpath, hleads⟩, q.resolve (Path.ofText s), by simp [bind, Except.bind, hq, pure, Except.pure]⟩
    · refine .inr ⟨fun h => hleads h.leadsOn, .noDirectory e, ?_, by rintro ⟨c, hc⟩; cases hc⟩
      simp [bind, Except.bind, he]
  · rcases named?_cases (.text s) with ⟨hpath', -⟩ | ⟨-, e, he, hstray⟩
    · exact absurd hpath' hpath
    · exact .inr ⟨fun h => hpath h.isPath, e, by rw [he]; rfl, hstray⟩

theorem strays_asked?_iff {s : String} : Strays (asked? cwd s) ↔ ¬ IsAsked cwd s := by
  rcases asked?_cases cwd s with ⟨hasked, p, hp⟩ | ⟨hasked, e, he, hstray⟩
  · simp [hp, hasked, not_strays_ok]
  · simp [he, hasked, strays_error_iff, hstray]

theorem exists_asked?_eq_ok_iff {s : String} : (∃ p, asked? cwd s = .ok p) ↔ IsAsked cwd s := by
  rcases asked?_cases cwd s with ⟨hasked, p, hp⟩ | ⟨hasked, e, he, -⟩
  · simp [hp, hasked]
  · simp [he, hasked]

theorem not_strays_sourceType? : ¬ Strays c.sourceType? := by
  unfold sourceType?
  simp only
  split
  · split
    · exact not_strays_ok _
    · exact not_strays_configuration _
  · exact not_strays_configuration _

/-- Where data is asked for. -/
def customDataSetting (c : Configuration) : Value := c.setting "custom_data" (.text defaultCustomData)

theorem strays_customData?_iff :
    Strays (c.customData? base) ↔ c.customDataSetting.isTrue = true ∧ ¬ IsPath c.customDataSetting := by
  change Strays (if c.customDataSetting.isTrue then (path? base c.customDataSetting).map some else .ok none) ↔ _
  split
  · next hset => rw [strays_map_iff, strays_path?_iff, and_iff_right hset]
  · next hset => simp [not_strays_ok, hset]

theorem exists_customData?_eq_ok_iff : (∃ p?, c.customData? base = .ok p?) ↔
    (c.customDataSetting.isTrue = true → IsPath c.customDataSetting) := by
  change (∃ p?, (if c.customDataSetting.isTrue then (path? base c.customDataSetting).map some else .ok none) =
    .ok p?) ↔ _
  split
  · next hset =>
    rw [← exists_path?_eq_ok_iff base]
    rcases path? base c.customDataSetting with e | p <;> simp [hset, Except.map]
  · next hset => simp [hset]

theorem not_strays_rubric : ¬ Strays c.rubric.2 := by
  rintro ⟨e, he, hstray⟩
  rw [rubric] at he
  obtain ⟨d, -, rfl⟩ := Except.mapError_eq_error_iff.1 he
  exact hstray ⟨_, rfl⟩

/-! ## Reports -/

/-- Of reports that are asked for, only the paths can stray. -/
theorem strays_reportPaths?_iff : Strays (reportPaths? base entries) ↔
    ∃ x ∈ entries, (reportKind? x.1).isSome = true ∧ x.2.isTrue = true ∧ ¬ IsPath x.2 := by
  induction entries with
  | nil => simp [reportPaths?, not_strays_ok]
  | cons entry rest ih =>
    obtain ⟨k, v⟩ := entry
    simp only [List.mem_cons, exists_eq_or_imp]
    rw [reportPaths?, ← ih]
    split
    · next kind hkind htrue =>
      -- the paths behind a path are looked at, so it does not matter which one comes first
      rw [strays_bind_iff, strays_path?_iff]
      simp only [strays_bind_iff, pure, Except.pure, not_strays_ok, and_false, exists_false, or_false]
      rw [exists_and_right, exists_path?_eq_ok_iff base, hkind, htrue]
      simp only [Option.isSome_some, true_and]
      tauto
    · next hnone =>
      have hskipped : ¬ ((reportKind? k).isSome = true ∧ v.isTrue = true ∧ ¬ IsPath v) := by
        rintro ⟨hkind, htrue, -⟩
        obtain ⟨kind, hkind⟩ := Option.isSome_iff_exists.1 hkind
        exact hnone kind hkind htrue
      rw [or_iff_right hskipped]

/-- The setting of the reports. -/
def reportsSetting (c : Configuration) : Value := c.setting "reports" (.map defaultReports)

/-- Reports that stray: a path that is none, or names of no reports that cannot be put in order to be told. -/
inductive ReportsStray (c : Configuration) : Prop
  | path {entries : List (Value × Value)} (hentries : c.reportsSetting = .map entries)
      (hknown : unknownReports entries = []) {x : Value × Value} (hx : x ∈ entries) (hset : x.2.isTrue = true)
      (hpath : ¬ IsPath x.2)
  | names {entries : List (Value × Value)} (hentries : c.reportsSetting = .map entries)
      (hunordered : ∃ e, Value.sorted (unknownReports entries) = .error e)

theorem isSome_reportKind? (hknown : unknownReports entries = []) {x : Value × Value} (hx : x ∈ entries) :
    (reportKind? x.1).isSome = true := by
  have hnone := List.filter_eq_nil_iff.1 hknown x.1 (List.mem_map_of_mem hx)
  simpa [Option.isSome_iff_ne_none] using hnone

theorem strays_reports?_iff : Strays (c.reports? base) ↔ c.ReportsStray := by
  rw [reports?]
  constructor
  · intro h
    split at h
    · exact absurd h (not_strays_ok _)
    · next entries hentries =>
      split at h
      · next hknown =>
        obtain ⟨x, hx, -, hset, hpath⟩ := strays_reportPaths?_iff.1 h
        exact .path hentries hknown hx hset hpath
      · split at h
        · exact absurd h (not_strays_configuration _)
        · next e hsorted => exact .names hentries ⟨e, hsorted⟩
    · exact absurd h (not_strays_configuration _)
  · rintro (⟨hentries, hknown, hx, hset, hpath⟩ | ⟨hentries, e, hsorted⟩)
    · rw [← reportsSetting, hentries]
      simp only [hknown]
      exact strays_reportPaths?_iff.2 ⟨_, hx, isSome_reportKind? hknown hx, hset, hpath⟩
    · rw [← reportsSetting, hentries]
      simp only
      split
      · next hknown =>
        rw [hknown] at hsorted
        cases hsorted
      · rw [hsorted]
        exact strays_error_iff.2 (by rintro ⟨c, hc⟩; cases hc)

/-- A text finds its place among texts. -/
theorem exists_insertSorted_eq_ok {ws : List Value} (hws : ∀ w ∈ ws, ∃ s, w = .text s) (s : String) :
    ∃ ws', Value.insertSorted (.text s) ws = .ok ws' ∧ ∀ w ∈ ws', ∃ s, w = .text s := by
  induction ws with
  | nil => exact ⟨[.text s], rfl, by simp⟩
  | cons w ws ih =>
    obtain ⟨t, rfl⟩ := hws w List.mem_cons_self
    obtain ⟨ws', hinsert, htexts⟩ := ih fun w hw => hws w (List.mem_cons_of_mem _ hw)
    have hless : Value.less (.text s) (.text t) = .ok (decide (s < t)) := rfl
    rw [Value.insertSorted, hless]
    by_cases hlt : s < t
    · exact ⟨.text s :: .text t :: ws, by simp [bind, Except.bind, pure, Except.pure, hlt], by simpa using hws⟩
    · exact ⟨.text t :: ws', by simp [bind, Except.bind, pure, Except.pure, hlt, hinsert], by simpa using htexts⟩

/-- **Texts can be put in order.** -/
theorem exists_sorted_eq_ok {vs : List Value} (hvs : ∀ v ∈ vs, ∃ s, v = .text s) :
    ∃ ws, Value.sorted vs = .ok ws := by
  have hfold : ∀ (vs done : List Value), (∀ v ∈ vs, ∃ s, v = .text s) → (∀ w ∈ done, ∃ s, w = .text s) →
      ∃ ws, vs.foldlM (fun done v => Value.insertSorted v done) done = .ok ws := by
    intro vs
    induction vs with
    | nil => exact fun done _ _ => ⟨done, rfl⟩
    | cons v vs ih =>
      intro done hvs hdone
      obtain ⟨s, rfl⟩ := hvs v List.mem_cons_self
      obtain ⟨done', hinsert, htexts⟩ := exists_insertSorted_eq_ok hdone s
      obtain ⟨ws, hws⟩ := ih done' (fun v hv => hvs v (List.mem_cons_of_mem _ hv)) htexts
      exact ⟨ws, by rw [List.foldlM_cons, hinsert]; exact hws⟩
  exact hfold vs [] hvs (by simp)

/-! ## Publishing -/

theorem not_strays_publishing? : ¬ Strays c.publishing? := by
  unfold publishing?
  simp only
  split
  · exact not_strays_ok _
  · split
    · exact not_strays_ok _
    · exact not_strays_configuration _

/-- An address strays if it is asked for and is no text. -/
theorem strays_publisher?_iff {publishing : Configuration} {connection : Connection} :
    Strays (publishing.publisher? connection) ↔ publishing.isSkipped = false ∧
      (publishing.setting "url" .null).isTrue = true ∧ ∀ s, publishing.setting "url" .null ≠ .text s := by
  unfold publisher?
  simp only
  generalize publishing.setting "url" .null = address
  split
  · next hnone =>
    refine ⟨fun h => absurd h (not_strays_ok _), ?_⟩
    rintro ⟨hskipped, htrue, -⟩
    simp [hskipped, htrue] at hnone
  · next hasked =>
    simp only [Bool.or_eq_true, Bool.not_eq_true', not_or, Bool.not_eq_true, Bool.not_eq_false] at hasked
    rw [strays_map_iff, and_iff_right hasked.1, and_iff_right hasked.2]
    unfold Publisher.make?
    rw [if_neg (by simp [hasked.2])]
    split
    · next s =>
      refine ⟨fun h => ?_, fun h => absurd rfl (h s)⟩
      split at h
      · exact absurd h (not_strays_ok _)
      · exact absurd h (not_strays_configuration _)
    · next hkind =>
      exact ⟨fun _ s hs => hkind s hs, fun _ => strays_error_iff.2 (by rintro ⟨c, hc⟩; cases hc)⟩

/-! ## The configuration as a whole -/

/-- What setting up has come through when it looks for data: the
configuration was noted, and there is a submission of a known kind. -/
structure ReachesData (c : Configuration) (hasSubmission : Prop) : Prop where
  written : (Value.map c.settings).isWritable = true
  submission : hasSubmission
  sourceType : ∃ t, c.sourceType? = .ok t

/-- What setting up has come through when it looks for reports. -/
structure ReachesReports (c : Configuration) (hasSubmission : Prop) : Prop extends c.ReachesData hasSubmission where
  customData : c.customDataSetting.isTrue = true → IsPath c.customDataSetting
  rubric : ∃ r, c.rubric.2 = .ok r

/-- **Where a configuration strays**, given whether there is a path to a submission. -/
inductive IsStray (c : Configuration) (base : Path) (hasSubmission : Prop) : Prop
  /-- An integer has too many digits to be noted. -/
  | digits (hwritten : (Value.map c.settings).isWritable = false)
  | submission (hwritten : (Value.map c.settings).isWritable = true) (hnone : ¬ hasSubmission)
  | customData (hreaches : c.ReachesData hasSubmission) (hset : c.customDataSetting.isTrue = true)
      (hpath : ¬ IsPath c.customDataSetting)
  | reports (hreaches : c.ReachesReports hasSubmission) (hreports : c.ReportsStray)
  /-- The address of the results service is no text. -/
  | address (hreaches : c.ReachesReports hasSubmission) (hreports : ∃ reports, c.reports? base = .ok reports)
      {publishing : Configuration} (hpublishing : c.publishing? = .ok publishing)
      (hskipped : publishing.isSkipped = false) (hset : (publishing.setting "url" .null).isTrue = true)
      (haddress : ∀ s, publishing.setting "url" .null ≠ .text s)

/-- Settings that are of the kinds that they are used as. -/
structure IsOrderly (c : Configuration) (hasSubmission : Prop) : Prop where
  written : (Value.map c.settings).isWritable = true
  submission : hasSubmission
  customData : c.customDataSetting.isTrue = true → IsPath c.customDataSetting
  reports : ∀ entries, c.reportsSetting = .map entries →
    ∀ x ∈ entries, (∃ s, x.1 = .text s) ∧ (x.2.isTrue = true → IsPath x.2)
  address : ∀ publishing, c.publishing? = .ok publishing →
    (publishing.setting "url" .null).isTrue = true → ∃ s, publishing.setting "url" .null = .text s

/-- **An orderly configuration** does not stray, whatever else is wrong with it. -/
theorem IsOrderly.not_isStray {hasSubmission : Prop} (h : c.IsOrderly hasSubmission) :
    ¬ c.IsStray base hasSubmission := by
  rintro (hno | ⟨-, hnone⟩ | ⟨-, hset, hpath⟩ | ⟨-, hreports⟩ | ⟨-, -, hpublishing, -, hset, haddress⟩)
  · rw [h.written] at hno
    cases hno
  · exact hnone h.submission
  · exact hpath (h.customData hset)
  · rcases hreports with ⟨hentries, -, hx, hset, hpath⟩ | @⟨entries, hentries, e, hunordered⟩
    · exact hpath ((h.reports _ hentries _ hx).2 hset)
    · have htexts : ∀ v ∈ unknownReports entries, ∃ s, v = .text s := by
        intro v hv
        obtain ⟨x, hx, rfl⟩ := List.mem_map.1 (List.mem_of_mem_filter hv)
        exact (h.reports _ hentries x hx).1
      obtain ⟨ws, hsorted⟩ := exists_sorted_eq_ok htexts
      rw [hsorted] at hunordered
      cases hunordered
  · obtain ⟨s, hs⟩ := h.address _ hpublishing hset
    exact haddress s hs

end Configuration

/-! ## The current directory -/

/-- A result that is no failure over the current directory. -/
def SparesDirectory {α : Type} (r : Except SetupError α) : Prop := ∀ d, r ≠ .error (.noDirectory d)

section SparesDirectory

variable {α β : Type} {r : Except SetupError α} {c : Configuration} {base : Path} {v : Value}

theorem sparesDirectory_ok (a : α) : SparesDirectory (.ok a : Except SetupError α) := by
  rintro d ⟨⟩

theorem SparesDirectory.map (h : SparesDirectory r) (f : α → β) : SparesDirectory (r.map f) := by
  rcases r with e | a
  · rintro d ⟨⟩
    exact h d rfl
  · exact sparesDirectory_ok _

theorem SparesDirectory.bind (h : SparesDirectory r) {f : α → Except SetupError β}
    (hf : ∀ a, SparesDirectory (f a)) : SparesDirectory (r >>= f) := by
  rcases r with e | a
  · rintro d ⟨⟩
    exact h d rfl
  · exact hf a

/-- What fails only over the configuration spares the directory. -/
theorem sparesDirectory_of_not_strays (h : ¬ Strays r) : SparesDirectory r := by
  rintro d rfl
  exact h (strays_error_iff.2 (by rintro ⟨c, hc⟩; cases hc))

namespace Configuration

theorem sparesDirectory_named? : SparesDirectory (named? v) := by
  unfold named?
  split
  · split
    · rintro d ⟨⟩
    · exact sparesDirectory_ok _
  · rintro d ⟨⟩

theorem sparesDirectory_path? : SparesDirectory (path? base v) := sparesDirectory_named?.map _

/-- Where a path that was asked for cannot be told, it is that error. -/
theorem eq_error_of_asked? {cwd : CurrentDirectory} {s : String} {d : SystemError}
    (h : asked? cwd s = .error (.noDirectory d)) : cwd = .error d := by
  rcases Except.bind_eq_error_iff.1 h with hnamed | ⟨p, -, h⟩
  · exact absurd hnamed (sparesDirectory_named? d)
  rcases Except.bind_eq_error_iff.1 h with hbase | ⟨q, -, h⟩
  · unfold base? at hbase
    split at hbase
    · cases hbase
    · obtain ⟨d', hd', hd⟩ := Except.mapError_eq_error_iff.1 hbase
      cases hd
      exact hd'
  · cases h

theorem sparesDirectory_customData? : SparesDirectory (c.customData? base) := by
  unfold customData?
  simp only
  split
  · exact sparesDirectory_path?.map _
  · exact sparesDirectory_ok _

theorem sparesDirectory_reportPaths? (entries : List (Value × Value)) :
    SparesDirectory (reportPaths? base entries) := by
  induction entries with
  | nil => exact sparesDirectory_ok _
  | cons entry rest ih =>
    rw [reportPaths?]
    split
    · exact sparesDirectory_path?.bind fun p => ih.bind fun more => sparesDirectory_ok _
    · exact ih

theorem sparesDirectory_reports? : SparesDirectory (c.reports? base) := by
  unfold reports?
  split
  · exact sparesDirectory_ok _
  · split
    · exact sparesDirectory_reportPaths? _
    · split
      · rintro d ⟨⟩
      · rintro d ⟨⟩
  · rintro d ⟨⟩

theorem sparesDirectory_publisher? {connection : Connection} : SparesDirectory (c.publisher? connection) := by
  unfold publisher?
  simp only
  split
  · exact sparesDirectory_ok _
  · refine SparesDirectory.map (fun d h => ?_) _
    obtain ⟨e, -, he⟩ := Except.mapError_eq_error_iff.1 h
    cases e <;> cases he

theorem sparesDirectory_load? {fs : Files} {path : Path} : SparesDirectory (load? fs path) := by
  unfold load?
  split
  · rintro d ⟨⟩
  · rintro d ⟨⟩
  · split
    · next e _ =>
      intro d h
      cases e <;> cases h
    · unfold ofValue?
      split
      · exact sparesDirectory_ok _
      · exact sparesDirectory_ok _
      · rintro d ⟨⟩

end Configuration
end SparesDirectory

/-! ## Setting up -/

namespace Grader

open Configuration (CurrentDirectory)

variable {α β : Type} {o o₁ : Outside} {cwd : CurrentDirectory} {base : Path} {c : Configuration} {name : String}
  {options : Options} {connection : Connection}

/-- A piece of a setup that fails, but not over the configuration. -/
def StraysOn (o : Outside) (w : Work SetupError α) : Prop :=
  ∃ e o', Work.on o w = (.error e, o') ∧ ¬ e.IsConfiguration

theorem straysOn_given_iff {r : Except SetupError α} : StraysOn o (Work.given r) ↔ Strays r := by
  simp [StraysOn, Strays]

theorem straysOn_bind_iff {w : Work SetupError α} {f : α → Work SetupError β} : StraysOn o (w >>= f) ↔
    StraysOn o w ∨ ∃ a o₁, Work.on o w = (.ok a, o₁) ∧ StraysOn o₁ (f a) := by
  rw [StraysOn, StraysOn, Work.on_bind]
  rcases Work.on o w with ⟨e | a, o₁⟩
  · simp
  · simp [StraysOn]

theorem straysOn_given_bind_iff {r : Except SetupError α} {f : α → Work SetupError β} :
    StraysOn o (Work.given r >>= f) ↔ Strays r ∨ ∃ a, r = .ok a ∧ StraysOn o (f a) := by
  rw [straysOn_bind_iff, straysOn_given_iff]
  simp

theorem straysOn_files_bind_iff {f : Files → Work SetupError β} :
    StraysOn o (Work.files >>= f) ↔ StraysOn o (f o.files) := by
  rw [StraysOn, StraysOn, Work.on_bind_ok (Work.on_files _)]

theorem straysOn_note_bind_iff {lines : List LogLine} {f : Unit → Work SetupError β} :
    StraysOn o (Work.note lines >>= f) ↔ StraysOn { o with log := o.log ++ lines } (f ()) := by
  rw [StraysOn, StraysOn, Work.on_bind_ok (Work.on_note _ _)]

/-- The configuration that is asked for is found, with the directory that its paths lead on from. -/
inductive Finds (fs : Files) (cwd : CurrentDirectory) : String → Configuration → Path → Prop
  | unasked {base : Path} (hcwd : cwd = .ok base) : Finds fs cwd "" ⟨[]⟩ base
  | file {name : String} {path : Path} {bytes : List UInt8} {v : Value} {c : Configuration} (hname : name ≠ "")
      (hpath : Configuration.asked? cwd name = .ok path) (hread : fs.read? path = .ok bytes)
      (hdocument : Document.read? bytes = .ok v) (hmapping : Configuration.ofValue? path v = .ok c) :
      Finds fs cwd name c path.parent

/-- There is a path to a submission: the one that is asked for, or else the setting. -/
def Options.HasSubmission (options : Options) (cwd : CurrentDirectory) (c : Configuration) : Prop :=
  if options.submission = "" then
    Configuration.IsPath (c.setting "submission" (.text Configuration.defaultSubmission))
  else Configuration.IsAsked cwd options.submission

/-- **Where setting up strays**: over the current directory, over the name of
the configuration file, over what the file is made of, or over a setting. -/
inductive SetUpStrays (fs : Files) (cwd : CurrentDirectory) (options : Options) : Prop
  /-- Paths are to lead on from the current directory, and it is gone. -/
  | directory (hname : options.configuration = "") {e : SystemError} (hgone : cwd = .error e)
  | name (hname : options.configuration ≠ "") (hpath : ¬ Configuration.IsAsked cwd options.configuration)
  /-- The file is no text, or a text in it is not what its tag says. -/
  | content (hname : options.configuration ≠ "") {path : Path} {bytes : List UInt8} {e : Document.Error}
      (hpath : Configuration.asked? cwd options.configuration = .ok path)
      (hread : fs.read? path = .ok bytes) (hdocument : Document.read? bytes = .error e)
      (hstray : (∃ d, e = .undecodable d) ∨ ∃ f, e = .scalar f)
  | setting {c : Configuration} {base : Path} (hfound : Finds fs cwd options.configuration c base)
      (hstray : c.IsStray base (options.HasSubmission cwd c))

theorem finds_of_configuration (h : Work.on o (configuration cwd name) = (.ok (c, base), o₁)) :
    Finds o.files cwd name c base := by
  rw [configuration] at h
  split at h
  · next hname =>
    obtain ⟨p, o₁, hpresent, h⟩ := Work.bind_eq_ok_iff.1 h
    cases h
    cases hname
    rcases cwd with e | p
    · cases hpresent
    · cases hpresent
      exact .unasked rfl
  · next hname =>
    obtain ⟨path, o₁, hpath, h⟩ := Work.bind_eq_ok_iff.1 h
    obtain ⟨fs, o₂, hfiles, h⟩ := Work.bind_eq_ok_iff.1 h
    obtain ⟨c', o₃, hload, h⟩ := Work.bind_eq_ok_iff.1 h
    obtain ⟨⟨⟩, o₄, -, h⟩ := Work.bind_eq_ok_iff.1 h
    cases h
    cases hfiles
    rw [Work.given_eq_ok_iff] at hpath hload
    obtain ⟨hpath, rfl⟩ := hpath
    obtain ⟨hload, -⟩ := hload
    rw [Configuration.load?] at hload
    split at hload
    · cases hload
    · cases hload
    · next bytes hread =>
      split at hload
      · cases hload
      · next v hdocument => exact .file hname hpath hread hdocument hload

theorem exists_configuration_of_finds (h : Finds o.files cwd name c base) :
    ∃ o₁, Work.on o (configuration cwd name) = (.ok (c, base), o₁) := by
  cases h with
  | unasked hcwd =>
    subst hcwd
    exact ⟨o, rfl⟩
  | file hname hpath hread hdocument hmapping =>
    rw [configuration, if_neg hname, hpath, Work.on_bind_ok (Work.on_given _ _), Work.on_bind_ok (Work.on_files _),
      Configuration.load?, hread]
    simp only [hdocument, hmapping]
    exact ⟨_, rfl⟩

/-- What is read at a path, if anything is, is no document that is put aside. -/
def IsReadHere (fs : Files) (path : Path) : Prop :=
  ∀ bytes what, fs.read? path = .ok bytes → Document.read? bytes ≠ .error (.beyond what)

/-- A file strays over what it is made of. -/
theorem strays_load?_iff {fs : Files} {path : Path} (hzero : path.hasZero = false) (hread : IsReadHere fs path) :
    Strays (Configuration.load? fs path) ↔ ∃ bytes e, fs.read? path = .ok bytes ∧
      Document.read? bytes = .error e ∧ ((∃ d, e = .undecodable d) ∨ ∃ f, e = .scalar f) := by
  have hdocument : ∀ e, (∀ what, e ≠ .beyond what) → (¬ (Configuration.documentError path e).IsConfiguration ↔
      (∃ d, e = .undecodable d) ∨ ∃ f, e = .scalar f) := by
    intro e hbeyond
    cases e with
    | beyond what => exact absurd rfl (hbeyond what)
    | _ => simp [Configuration.documentError, IsConfiguration]
  have hvalue : ∀ v, ¬ Strays (Configuration.ofValue? path v) := by
    intro v
    unfold Configuration.ofValue?
    split
    · exact not_strays_ok _
    · exact not_strays_ok _
    · exact not_strays_configuration _
  rw [Configuration.load?]
  rcases hfile : fs.read? path with (⟨f, p⟩ | _) | bytes
  · simp [not_strays_configuration]
  · exact absurd hfile (Files.read?_ne_zero hzero)
  · rcases hcontent : Document.read? bytes with e | v
    · have hbeyond : ∀ what, e ≠ .beyond what := fun what he => hread bytes what hfile (he ▸ hcontent)
      simp [hcontent, strays_error_iff, hdocument e hbeyond]
    · simp [hcontent, hvalue]

/-- A configuration that is not found strays over the current directory, over its name or over its file. -/
theorem straysOn_configuration_iff (hcwd : CurrentDirectory.IsSound cwd)
    (hread : ∀ path, Configuration.asked? cwd name = .ok path → IsReadHere o.files path) :
    StraysOn o (configuration cwd name) ↔
    (name = "" ∧ ∃ e, cwd = .error e) ∨
      (name ≠ "" ∧ (¬ Configuration.IsAsked cwd name ∨ ∃ path, Configuration.asked? cwd name = .ok path ∧
        ∃ bytes e, o.files.read? path = .ok bytes ∧ Document.read? bytes = .error e ∧
          ((∃ d, e = .undecodable d) ∨ ∃ f, e = .scalar f))) := by
  rw [configuration]
  split
  · next hname =>
    rcases cwd with e | p
    · exact iff_of_true ⟨_, o, rfl, by rintro ⟨c, hc⟩; cases hc⟩ (.inl ⟨hname, e, rfl⟩)
    · refine iff_of_false ?_ ?_
      · rintro ⟨e, o', h, -⟩
        cases h
      · rintro (⟨-, e, he⟩ | ⟨hname', -⟩)
        · cases he
        · exact hname' hname
  · next hname =>
    rw [or_iff_right (fun h => hname h.1), and_iff_right hname, straysOn_given_bind_iff,
      Configuration.strays_asked?_iff]
    refine or_congr_right (exists_congr fun path => and_congr_right fun hpath => ?_)
    have hzero := (Configuration.isResolved_of_asked? hcwd hpath).noZero
    rw [← strays_load?_iff hzero (hread path hpath), straysOn_files_bind_iff, straysOn_given_bind_iff]
    refine or_iff_left ?_
    rintro ⟨c, -, hnoted⟩
    obtain ⟨e, o', hdone, -⟩ := straysOn_note_bind_iff.1 hnoted
    cases hdone

/-- A submission without a path strays. -/
theorem strays_submission?_iff : Strays (if options.submission = "" then c.submission? base
    else Configuration.asked? cwd options.submission) ↔ ¬ options.HasSubmission cwd c := by
  rw [Options.HasSubmission]
  split
  · exact Configuration.strays_path?_iff
  · exact Configuration.strays_asked?_iff

theorem exists_submission?_eq_ok_iff (base : Path) : (∃ p, (if options.submission = "" then c.submission? base
    else Configuration.asked? cwd options.submission) = .ok p) ↔ options.HasSubmission cwd c := by
  rw [Options.HasSubmission]
  split
  · exact Configuration.exists_path?_eq_ok_iff base
  · exact Configuration.exists_asked?_eq_ok_iff

/-- The last step: whether publishing is told to be skipped does not matter. -/
theorem straysOn_publisher_iff {publishing : Configuration} {f : Option Publisher → Grader} :
    (StraysOn o (do
      if publishing.isSkipped then Work.note [Configuration.skipLine]
      let publisher ← Work.given (publishing.publisher? connection)
      return f publisher)) ↔ Strays (publishing.publisher? connection) := by
  have hlast : ∀ o, (StraysOn o (do
      let publisher ← Work.given (publishing.publisher? connection)
      return f publisher)) ↔ Strays (publishing.publisher? connection) := by
    intro o
    rw [straysOn_given_bind_iff]
    refine or_iff_left ?_
    rintro ⟨p, -, e, o', hdone, -⟩
    cases hdone
  split
  · rw [straysOn_note_bind_iff, hlast]
  · exact hlast o

/-- **Once its configuration was found**, setting up strays where the configuration does. -/
theorem straysOn_setUp_of_found
    (hfound : Work.on o (configuration cwd options.configuration) = (.ok (c, base), o₁)) :
    StraysOn o (setUp cwd options connection) ↔ c.IsStray base (options.HasSubmission cwd c) := by
  rw [setUp, StraysOn, Work.on_bind_ok hfound, ← StraysOn]
  simp only
  split
  · next hwritten =>
    rw [Bool.not_eq_true'] at hwritten
    exact ⟨fun _ => .digits hwritten, fun _ => ⟨_, _, rfl, by rintro ⟨c, hc⟩; cases hc⟩⟩
  · next hwritten =>
    rw [Bool.not_eq_true', Bool.not_eq_false] at hwritten
    -- each piece strays by itself, or goes well and leaves it to those behind it
    simp only [straysOn_note_bind_iff, straysOn_given_bind_iff, strays_submission?_iff,
      Configuration.not_strays_sourceType?, Configuration.strays_customData?_iff, Configuration.not_strays_rubric,
      Configuration.strays_reports?_iff, Configuration.not_strays_publishing?, straysOn_publisher_iff,
      Configuration.strays_publisher?_iff, false_or]
    constructor
    · rintro (hpath | ⟨submission, hsubmission, t, hsource, ⟨hset, hpath⟩ | ⟨data, hdata, r, hrubric, hstray⟩⟩)
      · exact .submission hwritten hpath
      · exact .customData ⟨hwritten, (exists_submission?_eq_ok_iff _).1 ⟨_, hsubmission⟩, t, hsource⟩ hset hpath
      · have hreaches : c.ReachesReports (options.HasSubmission cwd c) :=
          ⟨⟨hwritten, (exists_submission?_eq_ok_iff _).1 ⟨_, hsubmission⟩, t, hsource⟩,
            Configuration.exists_customData?_eq_ok_iff.1 ⟨_, hdata⟩, r, hrubric⟩
        rcases hstray with hreports | ⟨reports, hreports, publishing, hpublishing, hskipped, hset, haddress⟩
        · exact .reports hreaches hreports
        · exact .address hreaches ⟨_, hreports⟩ hpublishing hskipped hset haddress
    · rintro (hno | ⟨-, hpath⟩ | ⟨⟨-, hsubmission, t, hsource⟩, hset, hpath⟩ | ⟨hreaches, hreports⟩ |
        ⟨hreaches, ⟨reports, hreports⟩, hpublishing, hskipped, hset, haddress⟩)
      · rw [hwritten] at hno
        cases hno
      · exact .inl hpath
      · obtain ⟨p, hp⟩ := (exists_submission?_eq_ok_iff base).2 hsubmission
        exact .inr ⟨p, hp, t, hsource, .inl ⟨hset, hpath⟩⟩
      all_goals
        obtain ⟨⟨-, hsubmission, t, hsource⟩, hcustomData, r, hrubric⟩ := hreaches
        obtain ⟨p, hp⟩ := (exists_submission?_eq_ok_iff base).2 hsubmission
        obtain ⟨data, hdata⟩ := Configuration.exists_customData?_eq_ok_iff.2 hcustomData
        refine .inr ⟨p, hp, t, hsource, .inr ⟨data, hdata, r, hrubric, ?_⟩⟩
      · exact .inl hreports
      · exact .inr ⟨reports, hreports, _, hpublishing, hskipped, hset, haddress⟩

/-- A configuration file that is no text. -/
def undecodableOutside : Outside where
  files := { entries := [(["w"], .directory), (["w", "c"], .file [0xff])] }
  log := []
  sent := []
  answers := []

/-- What is tested of a document that is no text. -/
def isNoText : Except Document.Error Value → Bool
  | .error (.undecodable _) => true
  | _ => false

/-- What is tested of a failure that is not told as one of the configuration. -/
def isUndecodable : Except SetupError Grader → Bool
  | .error (.undecodable _) => true
  | _ => false

end Grader
end ScriptGrader
