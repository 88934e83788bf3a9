import Mathlib.Data.List.Forall2
import ScriptGrader.Proofs.Grading.Record

/-!
# Bundles of gradings

A grading never fails to bundle its records: keys are as distinct as the
slugs of the rubric, and `Rubric.nodup` is exactly that. `bundle_eq_ok`
names the bundle, and `eq_bundleOf_of_run` says that it is the one that a
grading yields. What an item holds is decided by its own entry. A grading
comes to its end unless it is interrupted, which takes a check that raises
an error which cannot be told (`interruption?_eq_some_iff`).
-/

namespace ScriptGrader

namespace Bundle

/-- Keys that are distinct, and new, have no duplicate among them. -/
theorem firstDuplicate?_eq_none {seen keys : List String} (hnodup : keys.Nodup)
    (hnew : ∀ k ∈ keys, k ∉ seen) : firstDuplicate? seen keys = none := by
  induction keys generalizing seen with
  | nil => rfl
  | cons k ks ih =>
    obtain ⟨hk, hks⟩ := List.nodup_cons.1 hnodup
    rw [firstDuplicate?, if_neg (hnew k List.mem_cons_self)]
    -- the keys behind `k` are new to the longer list, which now has `k` too
    refine ih hks fun x hx => ?_
    rw [List.mem_cons, not_or]
    refine ⟨?_, hnew x (List.mem_cons_of_mem k hx)⟩
    rintro rfl
    exact hk hx

/-- Items with distinct keys are a bundle. -/
theorem ofList?_eq_ok {items : List (String × Record)} {metadata : String}
    (h : (items.map Prod.fst).Nodup) : ofList? items metadata = .ok ⟨items, metadata, h⟩ := by
  have hnone : firstDuplicate? [] (items.map Prod.fst) = none := firstDuplicate?_eq_none h (by simp)
  unfold ofList?
  split
  · next k hk => rw [hnone] at hk; cases hk
  · rfl

end Bundle

namespace Rubric

/-- A key tells the slug. -/
theorem resultKey_inj {base m n : String} (h : resultKey base m = resultKey base n) :
    slug m = slug n :=
  (String.append_right_inj (base ++ "-")).1 h

/-- **Keys of a rubric are distinct**, since its slugs are. -/
theorem nodup_keys (r : Rubric) (base : String) :
    (r.entries.map fun e => resultKey base e.name).Nodup := by
  have hslugs := List.pairwise_map.1 r.nodup
  exact List.pairwise_map.2 (hslugs.imp fun hne hkey => hne (resultKey_inj hkey))

/-- No check of a rubric raises an error that cannot be told. -/
def IsTold (r : Rubric) (p : Program) : Prop :=
  ∀ e ∈ r.entries, ∀ kind f, (e.evaluate p).result ≠ .raised (.untold kind f)

end Rubric

namespace Grading

variable {base : String} {p : Program} {r : Rubric} {metadata : String}

theorem keys_items (base : String) (p : Program) (entries : List Entry) :
    (entries.map (item base p)).map Prod.fst =
      entries.map fun e => Rubric.resultKey base e.name := by
  simp [item]

/-- The bundle of a grading, which needs no test for duplicates. -/
def bundleOf (base : String) (p : Program) (r : Rubric) (metadata : String) : Bundle where
  items := r.entries.map (item base p)
  metadata := metadata
  nodup := by rw [keys_items]; exact r.nodup_keys base

/-- **Bundling never fails.** -/
theorem bundle_eq_ok : bundle base p r metadata = .ok (bundleOf base p r metadata) :=
  Bundle.ofList?_eq_ok _

/-! ## Interruptions -/

/-- What is wrong with messages can be told. -/
theorem texts?_ne_untold {place : Nat} {messages : List Value} {kind : String} {f : Fault} :
    texts? place messages ≠ .error (.untold kind f) := by
  induction messages generalizing place with
  | nil => simp [texts?]
  | cons v vs ih =>
    cases v with
    | text s =>
      rcases hrest : texts? (place + 1) vs with g | ts
      · have hne := @ih (place + 1)
        rw [hrest] at hne
        simpa [texts?, hrest, Except.map] using hne
      · simp [texts?, hrest, Except.map]
    | _ => simp [texts?, Fault.wrongType]

/-- What is wrong with a check can be told, unless it is the check's own error. -/
theorem judge_eq_untold_iff {e : Entry} {ev : Evaluation} {kind : String} {f : Fault} :
    judge e ev = .error (.untold kind f) ↔ ev = .raised (.untold kind f) := by
  have hclose {x : Except RecordError Record} : judge.close x ≠ .error (.untold kind f) := by
    cases x <;> simp [judge.close]
  cases ev with
  | raised g => simp [judge]
  | other v => simp [judge, Fault.wrongType]
  | outcome o => simp [judge, hclose]
  | unchecked passed feedback =>
    rcases hts : texts? 0 feedback with g | ts
    · have hne := @texts?_ne_untold 0 feedback kind f
      rw [hts] at hne
      simpa [judge_unchecked_of_error hts] using hne
    · simp [judge_unchecked_of_ok hts, hclose]

/-- **What interrupts a grading** is a check that raises an error which cannot be told. -/
theorem interruption?_eq_some_iff {e : Entry} {f : Fault} :
    interruption? e p = some f ↔ ∃ kind, (e.evaluate p).result = .raised (.untold kind f) := by
  simp only [← @judge_eq_untold_iff e, interruption?]
  split
  · next kind g h => simp [h]
  · next h => simpa using fun kind hkind => h kind f hkind

/-- Nothing interrupts a grading exactly if each error can be told. -/
theorem findSome?_interruption?_eq_none_iff :
    r.entries.findSome? (interruption? · p) = none ↔ r.IsTold p := by
  rw [List.findSome?_eq_none_iff]
  refine forall₂_congr fun e _ => ?_
  rw [Option.eq_none_iff_forall_ne_some]
  simp only [ne_eq, interruption?_eq_some_iff, not_exists]
  exact forall_comm

/-- A record is built unless the grading is interrupted. -/
theorem record?_eq_ok_iff {e : Entry} {record' : Record} :
    record? e p = .ok record' ↔ interruption? e p = none ∧ record' = record e p := by
  rw [record?]
  cases interruption? e p <;> simp [eq_comm]

/-- The first interruption decides. -/
theorem course_snd (p : Program) (es : List Entry) :
    (course p es).2 = es.findSome? (interruption? · p) := by
  induction es with
  | nil => rfl
  | cons e es ih =>
    rw [course, record?, List.findSome?_cons]
    cases interruption? e p with
    | some f => rfl
    | none => exact ih

/-- What a grading yields is decided by its interruptions, and by whether
its scores can be summed up. -/
theorem run_snd_eq :
    (run base p r metadata).2 =
      match r.entries.findSome? (interruption? · p) with
      | some f => .error (.telling f)
      | none =>
        match summaryLine base (bundleOf base p r metadata) with
        | .error e => .error (.score e)
        | .ok _ => .ok (bundleOf base p r metadata) := by
  unfold run
  rw [bundle_eq_ok, ← course_snd]
  rcases course p r.entries with ⟨log, _ | f⟩
  · cases h : summaryLine base (bundleOf base p r metadata) <;> simp only [h]
  · rfl

/-- Scores that can be summed up give the bundle of a grading that is not interrupted. -/
theorem run_eq_ok (hcourse : r.entries.findSome? (interruption? · p) = none)
    (h : (summaryLine base (bundleOf base p r metadata)).isOk = true) :
    (run base p r metadata).2 = .ok (bundleOf base p r metadata) := by
  rw [run_snd_eq, hcourse]
  cases hs : summaryLine base (bundleOf base p r metadata) with
  | error e => rw [hs] at h; cases h
  | ok line => rfl

/-- A grading that yields a bundle was not interrupted. -/
theorem findSome?_eq_none_of_run {b : Bundle} (h : (run base p r metadata).2 = .ok b) :
    r.entries.findSome? (interruption? · p) = none := by
  rw [run_snd_eq] at h
  split at h
  · cases h
  · assumption

/-- A grading that yields a bundle yields this one. -/
theorem eq_bundleOf_of_run {b : Bundle} (h : (run base p r metadata).2 = .ok b) :
    b = bundleOf base p r metadata := by
  have hcourse := findSome?_eq_none_of_run h
  rw [run_snd_eq, hcourse] at h
  cases hs : summaryLine base (bundleOf base p r metadata) with
  | error e =>
    rw [hs] at h
    cases h
  | ok line =>
    rw [hs] at h
    exact (Except.ok.inj h).symm

/-- Bundling is not what a grading fails over. -/
theorem run_ne_bundle_error (e : BundleError) : (run base p r metadata).2 ≠ .error (.bundle e) := by
  rw [run_snd_eq]
  split
  · simp
  · split <;> simp

theorem keys_bundleOf :
    (bundleOf base p r metadata).keys = r.entries.map fun e => Rubric.resultKey base e.name :=
  keys_items base p r.entries

theorem records_bundleOf :
    (bundleOf base p r metadata).records = r.entries.map (record · p) := by
  simp [bundleOf, Bundle.records, item]

theorem getElem?_bundleOf (i : Nat) :
    (bundleOf base p r metadata).items[i]? = r.entries[i]?.map (item base p) := by
  simp [bundleOf]

/-- **A grading tells of every entry.** Whatever the checks of a rubric
do, the duplicate of a key is never what a grading fails over. A bundle
that it yields has one item for each entry, in order: its key is the
entry's, its record carries the entry's data and tells one story, and an
entry that stands in another rubric too, at any place, has the same item
there. -/
theorem run_tells_of_every_entry (base : String) (p : Program) (r : Rubric) (metadata : String) :
    (∀ e, (run base p r metadata).2 ≠ .error (.bundle e)) ∧
      ∀ b, (run base p r metadata).2 = .ok b →
        b.size = r.size ∧ b.metadata = metadata ∧
        b.keys = r.entries.map (fun e => Rubric.resultKey base e.name) ∧ b.keys.Nodup ∧
        List.Forall₂ (fun e record => record.Carries e ∧ record.TellsOneStory) r.entries b.records ∧
        ∀ r' metadata' b', (run base p r' metadata').2 = .ok b' →
          ∀ i j : Nat, r.entries[i]? = r'.entries[j]? → b.items[i]? = b'.items[j]? := by
  refine ⟨run_ne_bundle_error, fun b h => ?_⟩
  obtain rfl := eq_bundleOf_of_run h
  refine ⟨by simp [Bundle.size, Rubric.size, bundleOf], rfl, keys_bundleOf, ?_, ?_, ?_⟩
  · rw [keys_bundleOf]
    exact r.nodup_keys base
  · rw [records_bundleOf, List.forall₂_map_right_iff, List.forall₂_same]
    exact fun e _ => ⟨carries_record e p, tellsOneStory_record e p⟩
  · intro r' metadata' b' h' i j hij
    obtain rfl := eq_bundleOf_of_run h'
    rw [getElem?_bundleOf, getElem?_bundleOf, hij]

/-- An entry that is worth half a point. -/
def halfPoint (name : String) (slug_ne : Rubric.slug name ≠ "") (result : Evaluation) : Entry where
  name := name
  family := "ScriptedCheck"
  category := .functional
  evaluate := fun _ => ⟨[], result⟩
  mandatory := true
  maxScore := .binary (.finite (1 / 2))
  slug_ne := slug_ne
  maxScore_pos := by decide +kernel

/-- A check that raises, one that contradicts itself, and one that every
program passes. -/
def unrulyRubric : Rubric where
  entries :=
    [halfPoint "Raises" (by decide) (.raised (.told "ValueError" "no")),
     halfPoint "Contradicts" (by decide) (.unchecked (.bool true) [.text "no"]),
     halfPoint "Passes" (by decide) (.outcome .success)]
  nodup := by decide

/-- Its last two entries. -/
def unrulyTail : Rubric where
  entries := unrulyRubric.entries.tail
  nodup := by decide

theorem run_unruly_tells_of_every_entry :
    ∃ b b', (run "base" ⟨[]⟩ unrulyRubric "data").2 = .ok b ∧
      (run "base" ⟨[]⟩ unrulyTail "").2 = .ok b' ∧ b.size = 3 ∧ b.keys.Nodup ∧
      b.items[1]? = b'.items[0]? := by
  have hrun : (run "base" ⟨[]⟩ unrulyRubric "data").2 = .ok _ := run_eq_ok (by decide +kernel) (by decide +kernel)
  have htail : (run "base" ⟨[]⟩ unrulyTail "").2 = .ok _ := run_eq_ok (by decide +kernel) (by decide +kernel)
  obtain ⟨hsize, -, -, hnodup, -, hsame⟩ :=
    (run_tells_of_every_entry "base" ⟨[]⟩ unrulyRubric "data").2 _ hrun
  exact ⟨_, _, hrun, htail, hsize, hnodup, hsame _ _ _ htail 1 0 rfl⟩

end Grading
end ScriptGrader
