import Mathlib.Data.List.Nodup
import ScriptGrader.Proofs.Grader.Setup
import ScriptGrader.Proofs.Grading.Points

/-!
# Gradings of growing programs

A check of the catalog asks whether some function of a program has a
property. More functions can therefore only help, wherever they stand and
whatever stands between them, and the same functions in another order
change nothing. `status_eq_pass_iff` reduces a record to the question, and
`pass_of_implies` compares two questions on two programs; growth, and the
order of the questions within one grading, are its two cases.
-/

namespace ScriptGrader

/-- Every function that the one program binds at its top level is bound
there by the other. -/
def Program.FunctionsIn (p p' : Program) : Prop :=
  ∀ f, .function f ∈ p.declarations → .function f ∈ p'.declarations

theorem Program.mem_functions {p : Program} {f : Function} :
    f ∈ p.functions ↔ .function f ∈ p.declarations := by
  unfold functions
  rw [List.mem_filterMap]
  constructor
  · rintro ⟨d, hd, hf⟩
    cases d with
    | function g =>
      cases hf
      exact hd
    | other kind => cases hf
  · exact fun h => ⟨_, h, rfl⟩

namespace Catalog

/-- A function that satisfies the one question satisfies the other. -/
def Question.Implies (q q' : Question) : Prop := ∀ f, q.holds f = true → q'.holds f = true

theorem Question.implies_refl (q : Question) : q.Implies q := fun _ h => h

/-- Whatever a function has, there is a function. -/
theorem Question.implies_functionDefinition (q : Question) : q.Implies functionDefinition :=
  fun _ _ => rfl

/-- A parameter with a default value is a parameter. -/
theorem defaultArguments_implies : defaultArguments.Implies functionArguments := by
  intro f h
  obtain ⟨x, hx, -⟩ := List.any_eq_true.1 h
  simpa [functionArguments] using List.ne_nil_of_mem hx

/-- No two questions of the catalog have one name. -/
theorem eq_of_name_eq {q q' : Question} (hq : q ∈ questions) (hq' : q' ∈ questions)
    (h : q.name = q'.name) : q = q' := by
  have hnodup : (questions.map Question.name).Nodup := by decide
  exact List.inj_on_of_nodup_map hnodup hq hq' h

namespace Question

variable {q q' : Question} {p p' : Program}

theorem isTrue_passed_outcome (q : Question) (p : Program) :
    (q.outcome p).passed.isTrue = p.functions.any q.holds := by
  unfold outcome
  split
  · next h => simp [h, Outcome.success, Value.isTrue]
  · next h => simp [h, Value.isTrue]

/-- A weaker question is satisfied by more functions, and by programs that have more of them. -/
theorem any_of_implies (himp : q.Implies q') (hsub : p.FunctionsIn p')
    (h : p.functions.any q.holds = true) : p'.functions.any q'.holds = true := by
  obtain ⟨f, hf, hholds⟩ := List.any_eq_true.1 h
  have hf' := Program.mem_functions.2 (hsub f (Program.mem_functions.1 hf))
  exact List.any_eq_true.2 ⟨f, hf', himp f hholds⟩

/-- The outcome depends on the set of functions and on nothing else. -/
theorem outcome_congr (hsub : p.FunctionsIn p') (hsub' : p'.FunctionsIn p) :
    q.outcome p' = q.outcome p := by
  have hany : p'.functions.any q.holds = p.functions.any q.holds :=
    Bool.eq_iff_iff.2
      ⟨any_of_implies q.implies_refl hsub', any_of_implies q.implies_refl hsub⟩
  simp only [outcome, hany]

end Question
end Catalog

namespace Grading

variable {base : String} {p p' : Program} {r : Rubric} {metadata : String}
variable {e e' : Entry} {q q' : Catalog.Question}

/-! ## Records -/

/-- **What a check of the catalog is passed for.** -/
theorem status_eq_pass_iff (he : e.evaluate = q.ask) (hvalue : e.maxScore ≠ .binary .nan) :
    (record e p).status = .pass ↔ p.functions.any q.holds = true := by
  have hsaid : (e.evaluate p).result.Says (q.outcome p).passed.isTrue
      (joined (q.outcome p).feedback) := by
    rw [he]
    exact .outcome (q.outcome p)
  obtain ⟨-, -, hstatus, -⟩ := record_of_saying hvalue hsaid (outcome_fits _)
  rw [hstatus, q.isTrue_passed_outcome]
  cases p.functions.any q.holds <;> simp

/-- **A check that asks for less, of a program that has more,** is passed too. -/
theorem pass_of_implies (he : e.evaluate = q.ask) (he' : e'.evaluate = q'.ask)
    (hvalue : e.maxScore ≠ .binary .nan) (hvalue' : e'.maxScore ≠ .binary .nan)
    (himp : q.Implies q') (hsub : p.FunctionsIn p') (h : (record e p).status = .pass) :
    (record e' p').status = .pass :=
  (status_eq_pass_iff he' hvalue').2
    (Catalog.Question.any_of_implies himp hsub ((status_eq_pass_iff he hvalue).1 h))

theorem record_congr (h : (e.evaluate p').result = (e.evaluate p).result) :
    record e p' = record e p := by
  simp only [record, h]

/-! ## Bundles -/

/-- A bundle that the grading of a larger program turns into: nothing is
lost in any record, in the scores, or in acceptance. -/
structure Grows (b b' : Bundle) : Prop where
  keys : b'.keys = b.keys
  records : List.Forall₂ (fun r r' => r.status = .pass → r'.status = .pass) b.records b'.records
  totalScore : ∃ m m' : Int,
    b.totalScore = .ok (.whole m) ∧ b'.totalScore = .ok (.whole m') ∧ m ≤ m'
  maxScore : ∃ n : Int, b.maxScore = .ok (.whole n) ∧ b'.maxScore = .ok (.whole n)
  accepted : b.accepted = true → b'.accepted = true

/-- Within one bundle, a pass of the one question comes with a pass of the other. -/
def Entails (b : Bundle) (q q' : Catalog.Question) : Prop :=
  ∀ r ∈ b.records, ∀ r' ∈ b.records, r.checkName = q.name → r'.checkName = q'.name →
    r.status = .pass → r'.status = .pass

/-- The entry of a record, and the question that it asks. -/
theorem exists_entry_of_mem (hcatalog : r.IsOfCatalog) (hq : q ∈ Catalog.questions) {x : Record}
    (hx : x ∈ (bundleOf base p r metadata).records) (hname : x.checkName = q.name) :
    ∃ e ∈ r.entries, x = record e p ∧ e.evaluate = q.ask := by
  rw [records_bundleOf] at hx
  obtain ⟨e, he, rfl⟩ := List.mem_map.1 hx
  obtain ⟨q₁, hq₁, hname₁, -, hevaluate⟩ := hcatalog e he
  have hsame : q₁.name = q.name := by rw [← hname₁, ← (carries_record e p).checkName, hname]
  rw [Catalog.eq_of_name_eq hq₁ hq hsame] at hevaluate
  exact ⟨e, he, rfl, hevaluate⟩

theorem entails_bundleOf (hcatalog : r.IsOfCatalog) (hwhole : r.IsWhole)
    (hq : q ∈ Catalog.questions) (hq' : q' ∈ Catalog.questions) (himp : q.Implies q') :
    Entails (bundleOf base p r metadata) q q' := by
  intro x hx x' hx' hname hname' hpass
  obtain ⟨e, he, rfl, hask⟩ := exists_entry_of_mem hcatalog hq hx hname
  obtain ⟨e', he', rfl, hask'⟩ := exists_entry_of_mem hcatalog hq' hx' hname'
  exact pass_of_implies hask hask' (Entry.ne_nan_of_whole (hwhole e he))
    (Entry.ne_nan_of_whole (hwhole e' he')) himp (fun _ h => h) hpass

/-- A record that was passed is still passed for a program that has more functions. -/
theorem pass_of_functionsIn (hcatalog : r.IsOfCatalog) (hwhole : r.IsWhole)
    (hsub : p.FunctionsIn p') (he : e ∈ r.entries) (h : (record e p).status = .pass) :
    (record e p').status = .pass := by
  obtain ⟨q, -, -, -, hask⟩ := hcatalog e he
  have hvalue := Entry.ne_nan_of_whole (hwhole e he)
  exact pass_of_implies hask hask hvalue hvalue q.implies_refl hsub h

/-- A mandatory failure in the one grading was one in the other. -/
theorem accepted_of_functionsIn (hcatalog : r.IsOfCatalog) (hwhole : r.IsWhole)
    (hsub : p.FunctionsIn p') (h : (bundleOf base p r metadata).accepted = true) :
    (bundleOf base p' r metadata).accepted = true := by
  rw [accepted_bundleOf_iff] at h ⊢
  exact fun e he hmandatory => pass_of_functionsIn hcatalog hwhole hsub he (h e he hmandatory)

theorem grows_bundleOf (hcatalog : r.IsOfCatalog) (hwhole : r.IsWhole) (hsub : p.FunctionsIn p') :
    Grows (bundleOf base p r metadata) (bundleOf base p' r metadata) where
  keys := by rw [keys_bundleOf, keys_bundleOf]
  records := by
    rw [records_bundleOf, records_bundleOf, List.forall₂_map_left_iff, List.forall₂_map_right_iff,
      List.forall₂_same]
    exact fun e he => pass_of_functionsIn hcatalog hwhole hsub he
  totalScore := by
    refine ⟨_, _, totalScore_bundleOf hwhole, totalScore_bundleOf hwhole,
      List.sum_le_sum fun e he => ?_⟩
    -- entry by entry: points are kept, and where there were none there are not fewer
    have hpass := pass_of_functionsIn hcatalog hwhole hsub he
    have hpos := Entry.points_pos (hwhole e he)
    unfold earnedPoints
    split
    · next h => rw [if_pos (hpass h)]
    · split <;> omega
  maxScore := ⟨_, maxScore_bundleOf hwhole, maxScore_bundleOf hwhole⟩
  accepted := accepted_of_functionsIn hcatalog hwhole hsub

/-- The same functions give the same bundle. -/
theorem bundleOf_congr (hcatalog : r.IsOfCatalog) (hsub : p.FunctionsIn p')
    (hsub' : p'.FunctionsIn p) :
    bundleOf base p' r metadata = bundleOf base p r metadata := by
  have hitems : r.entries.map (item base p') = r.entries.map (item base p) := by
    refine List.map_congr_left fun e he => ?_
    obtain ⟨q, -, -, -, hask⟩ := hcatalog e he
    have hresult : (e.evaluate p').result = (e.evaluate p).result := by
      rw [hask]
      exact congrArg Evaluation.outcome (q.outcome_congr hsub hsub')
    rw [item, item, record_congr hresult]
  simp only [bundleOf, hitems]

/-- **More functions can only help.** A rubric of catalog checks with
integer scores grades two programs, and the second one has every function
of the first. Both gradings yield their bundles or neither does. The
bundle of the second program keeps every pass, the total score does not
fall, the greatest score stays, and what was accepted still is; when the
second program has no other functions either, it is the same bundle. In
each bundle a pass for a default value comes with one for a parameter, and
either of the two parts of a function comes with a pass for a function. -/
theorem bundle_grows (base : String) (p p' : Program) (r : Rubric) (metadata : String)
    (hcatalog : r.IsOfCatalog) (hwhole : r.IsWhole) (hsub : p.FunctionsIn p') :
    ∃ b b', bundle base p r metadata = .ok b ∧ bundle base p' r metadata = .ok b' ∧
      (((run base p r metadata).2 = .ok b ∧ (run base p' r metadata).2 = .ok b') ∨
        ((∀ x, (run base p r metadata).2 ≠ .ok x) ∧ ∀ x, (run base p' r metadata).2 ≠ .ok x)) ∧
      Grows b b' ∧ (p'.FunctionsIn p → b' = b) ∧
      Entails b Catalog.defaultArguments Catalog.functionArguments ∧
      Entails b Catalog.functionArguments Catalog.functionDefinition ∧
      Entails b Catalog.returnStatement Catalog.functionDefinition := by
  have hentails {q q' : Catalog.Question} (hq : q ∈ Catalog.questions)
      (hq' : q' ∈ Catalog.questions) (himp : q.Implies q') :
      Entails (bundleOf base p r metadata) q q' :=
    entails_bundleOf hcatalog hwhole hq hq' himp
  refine ⟨_, _, bundle_eq_ok, bundle_eq_ok, ?_, grows_bundleOf hcatalog hwhole hsub,
    bundleOf_congr hcatalog hsub,
    hentails (by simp [Catalog.questions]) (by simp [Catalog.questions])
      Catalog.defaultArguments_implies,
    hentails (by simp [Catalog.questions]) (by simp [Catalog.questions])
      (Catalog.Question.implies_functionDefinition _),
    hentails (by simp [Catalog.questions]) (by simp [Catalog.questions])
      (Catalog.Question.implies_functionDefinition _)⟩
  -- the rubric alone decides whether the sums can be written, so for both programs at once
  by_cases hfits : (r.entries.map Entry.points).sum.natAbs < Value.unwritten
  · obtain ⟨b, hb⟩ := (exists_run_eq_ok_iff_points hwhole).2 ⟨hcatalog.isTold p, hfits⟩
    obtain ⟨b', hb'⟩ := (exists_run_eq_ok_iff_points hwhole).2 ⟨hcatalog.isTold p', hfits⟩
    exact .inl ⟨eq_bundleOf_of_run hb ▸ hb, eq_bundleOf_of_run hb' ▸ hb'⟩
  · exact .inr ⟨fun b hb => hfits ((exists_run_eq_ok_iff_points hwhole).1 ⟨b, hb⟩).2,
      fun b hb => hfits ((exists_run_eq_ok_iff_points hwhole).1 ⟨b, hb⟩).2⟩

theorem slug_ne_of_question : ∀ q ∈ Catalog.questions, Rubric.slug q.name ≠ "" := by decide

/-- A check of the catalog, worth so many points. -/
def catalogEntry (q : Catalog.Question) (n : Int) (hq : q ∈ Catalog.questions)
    (hn : (Score.whole n).atMostZero = false) : Entry where
  name := q.name
  family := q.family
  category := .functional
  evaluate := q.ask
  mandatory := true
  maxScore := .whole n
  slug_ne := slug_ne_of_question q hq
  maxScore_pos := hn

/-- A rubric that asks for a parameter, and for a function. -/
def parameterRubric : Rubric where
  entries := [catalogEntry Catalog.functionArguments 2 (by simp [Catalog.questions]) rfl,
    catalogEntry Catalog.functionDefinition 1 (by simp [Catalog.questions]) rfl]
  nodup := by decide

/-- One more function stands in front, and another statement between the two. -/
def twoFunctions : Program :=
  ⟨.function ⟨some "g", [.plain (some "x")], [], .arrow⟩ :: .other "Loop" ::
    oneFunction.declarations⟩

theorem bundle_oneFunction_grows :
    ∃ b b', bundle "base" oneFunction parameterRubric "" = .ok b ∧
      bundle "base" twoFunctions parameterRubric "" = .ok b' ∧ Grows b b' ∧
      b.records.map Record.status = [.fail, .pass] ∧
      b'.records.map Record.status = [.pass, .pass] := by
  have hcatalog : parameterRubric.IsOfCatalog := by
    intro e he
    simp only [parameterRubric, List.mem_cons, List.not_mem_nil, or_false] at he
    rcases he with rfl | rfl
    · exact ⟨Catalog.functionArguments, by simp [Catalog.questions], rfl, rfl, rfl⟩
    · exact ⟨Catalog.functionDefinition, by simp [Catalog.questions], rfl, rfl, rfl⟩
  have hwhole : parameterRubric.IsWhole := by
    intro e he
    simp only [parameterRubric, List.mem_cons, List.not_mem_nil, or_false] at he
    rcases he with rfl | rfl
    · exact ⟨2, rfl⟩
    · exact ⟨1, rfl⟩
  have hsub : oneFunction.FunctionsIn twoFunctions := fun f hf =>
    List.mem_cons_of_mem _ (List.mem_cons_of_mem _ hf)
  obtain ⟨b, b', hb, hb', -, hgrows, -⟩ :=
    bundle_grows "base" oneFunction twoFunctions parameterRubric "" hcatalog hwhole hsub
  refine ⟨b, b', hb, hb', hgrows, ?_, ?_⟩
  · rw [bundle_eq_ok] at hb
    obtain rfl := Except.ok.inj hb
    decide
  · rw [bundle_eq_ok] at hb'
    obtain rfl := Except.ok.inj hb'
    decide

end Grading
end ScriptGrader
