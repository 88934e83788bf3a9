import Mathlib.Data.List.Induction
import ScriptGrader.Proofs.Position
import ScriptGrader.Rubric.Basic

/-!
# Which offers make a rubric

A rubric takes one offer after the other. Whether it takes an offer, and
why not, depends on the offers before it alone (`offer?_cases`), so offers
make a rubric if none of them is a misfit behind those before it, and
otherwise the first misfit decides. It is refused with an error of the
configuration, unless the error would have to show a check that has no
category.
-/

namespace ScriptGrader

/-! ## Offers and entries -/

namespace Entry

/-- The entry as it is offered. -/
def offer (e : Entry) : EntryOffer := .entry (.check e.check) (.bool e.mandatory) e.maxScore.toValue

theorem toValue_of_maxScore? {v : Value} {s : { s : Score // s.atMostZero = false }} (h : maxScore? v = some s) :
    s.1.toValue = v := by
  unfold maxScore? at h
  split at h
  · split at h <;> cases h
    rfl
  · split at h <;> cases h
    rfl
  · cases h

/-- **An accepted entry is what was offered.** -/
theorem offer_of_ofOffer? {o : EntryOffer} {e : Entry} (h : ofOffer? o = .ok e) : e.offer = o := by
  rcases o with v | c | ⟨v | ⟨family, name, category, evaluate⟩ | o, mandatory, maxScore⟩
  · cases h
  · cases h
  · cases h
  · simp only [ofOffer?] at h
    split at h
    · split at h
      · cases h
      · split at h
        · split at h
          · cases h
          · split at h
            · split at h
              · next hscore =>
                cases h
                rw [offer, toValue_of_maxScore? hscore]
                rfl
              · cases h
            · cases h
        · cases h
    · cases h
  · cases h

end Entry

namespace EntryOffer

/-- The name in an offer, where it is a text. -/
def name? : EntryOffer → Option String
  | .entry (.check c) _ _ =>
    match c.name with
    | .text name => some name
    | _ => none
  | _ => none

/-- The slug of the name in an offer. -/
def slug? (o : EntryOffer) : Option String := o.name?.map Rubric.slug

/-- What stands in place of an entry, or of its check, and is neither. -/
def inPlace? : EntryOffer → Option EntryOffer
  | .entry (.check _) _ _ => none
  | .entry o _ _ => some o
  | o => some o

/-- The offer is well formed by itself. -/
def IsValid (o : EntryOffer) : Prop := ∃ e, Entry.ofOffer? o = .ok e

/-- An offer that does not fit behind others: it is not well formed, or one
of them has its slug. -/
def Misfits (earlier : List EntryOffer) (o : EntryOffer) : Prop :=
  ¬ o.IsValid ∨ ∃ f ∈ earlier, f.slug? = o.slug?

/-- Why an offer is refused behind others that fit. -/
inductive Refused (earlier : List EntryOffer) (o : EntryOffer) : RubricError → Prop
  /-- It is not well formed. -/
  | invalid {e : RubricError} (h : Entry.ofOffer? o = .error e) : Refused earlier o e
  /-- Its name is taken. -/
  | duplicate {name : String} (hvalid : o.IsValid) (hname : o.name? = some name)
      (htaken : ∃ f ∈ earlier, f.name? = some name) : Refused earlier o (.duplicate name)
  /-- Its name is free, and a single one of the others has its slug. -/
  | collision {name other : String} {f : EntryOffer} (hvalid : o.IsValid) (hname : o.name? = some name)
      (hfree : ∀ g ∈ earlier, g.name? ≠ some name) (hf : f ∈ earlier) (hother : f.name? = some other)
      (hslug : f.slug? = o.slug?) (hone : ∀ g ∈ earlier, g.slug? = o.slug? → g = f) :
      Refused earlier o (.collision other name (Rubric.slug name))

/-- There is one reason at most. -/
theorem Refused.unique {earlier : List EntryOffer} {o : EntryOffer} {e e' : RubricError}
    (h : Refused earlier o e) (h' : Refused earlier o e') : e = e' := by
  -- an offer that is well formed is not refused for what it is
  have hinvalid : ∀ err, Entry.ofOffer? o = .error err → ¬ o.IsValid := by
    rintro err herr ⟨entry, hentry⟩
    rw [herr] at hentry
    cases hentry
  rcases h with herr | ⟨hvalid, hname, f, hf, hfname⟩ | ⟨hvalid, hname, hfree, hf, hother, hslug, -⟩
  · rcases h' with herr' | ⟨hvalid, -, -⟩ | ⟨hvalid, -, -, -, -, -, -⟩
    · rw [herr] at herr'
      cases herr'
      rfl
    · exact absurd hvalid (hinvalid _ herr)
    · exact absurd hvalid (hinvalid _ herr)
  · rcases h' with herr' | ⟨-, hname', -⟩ | ⟨-, hname', hfree, -, -, -, -⟩
    · exact absurd hvalid (hinvalid _ herr')
    · rw [hname] at hname'
      cases hname'
      rfl
    · rw [hname] at hname'
      cases hname'
      exact absurd hfname (hfree f hf)
  · rcases h' with herr' | ⟨-, hname', g, hg, hgname⟩ | ⟨-, hname', -, -, hother', -, hone⟩
    · exact absurd hvalid (hinvalid _ herr')
    · rw [hname] at hname'
      cases hname'
      exact absurd hgname (hfree g hg)
    · rw [hname] at hname'
      cases hname'
      rw [hone _ hf hslug, hother'] at hother
      cases hother
      rfl

end EntryOffer

namespace Rubric

open EntryOffer (Misfits Refused)

variable {r r' : Rubric} {e : Entry} {o : EntryOffer} {err : RubricError} {offers : List EntryOffer} {i : Nat}

/-! ## One entry more -/

/-- What becomes of an entry that comes to a rubric. -/
theorem add_eq (r : Rubric) (e : Entry) :
    (∃ r', r.add e = .ok r' ∧ r'.entries = r.entries ++ [e] ∧ e.slug ∉ r.entries.map Entry.slug) ∨
      (r.add e = .error (.duplicate e.name) ∧ e.name ∈ r.names) ∨
      ∃ f ∈ r.entries, r.add e = .error (.collision f.name e.name e.slug) ∧ e.name ∉ r.names ∧ f.slug = e.slug := by
  by_cases hname : e.name ∈ r.names
  · exact .inr (.inl ⟨by rw [add, if_pos hname], hname⟩)
  · unfold add
    rw [if_neg hname]
    split
    · next f hfind =>
      obtain ⟨hf, hslug⟩ := (find?_eq_some_iff_of_nodup r.nodup).1 hfind
      exact .inr (.inr ⟨f, hf, rfl, hname, hslug⟩)
    · next hfind =>
      refine .inl ⟨_, rfl, rfl, fun hslug => ?_⟩
      obtain ⟨f, hf, hfe⟩ := List.mem_map.1 hslug
      have hne := List.find?_eq_none.1 hfind f hf
      simp [hfe] at hne

/-! ## One offer more -/

/-- A rubric with one more offer at the end, if it fits. -/
def offer? (r : Rubric) (o : EntryOffer) : Except RubricError Rubric := do r.add (← Entry.ofOffer? o)

/-- **What becomes of an offer** that comes to a rubric is decided by the
offers that are in it. -/
theorem offer?_cases (r : Rubric) (o : EntryOffer) :
    (∃ r', r.offer? o = .ok r' ∧ r'.entries.map Entry.offer = r.entries.map Entry.offer ++ [o] ∧
      ¬ Misfits (r.entries.map Entry.offer) o) ∨
    ∃ err, r.offer? o = .error err ∧ Misfits (r.entries.map Entry.offer) o ∧
      Refused (r.entries.map Entry.offer) o err := by
  rcases hentry : Entry.ofOffer? o with err | e
  · have hinvalid : ¬ o.IsValid := by
      rintro ⟨e, he⟩
      rw [hentry] at he
      cases he
    exact .inr ⟨err, by rw [offer?, hentry]; rfl, .inl hinvalid, .invalid hentry⟩
  have hvalid : o.IsValid := ⟨e, hentry⟩
  obtain rfl := Entry.offer_of_ofOffer? hentry
  have hadd : r.offer? e.offer = r.add e := by
    rw [offer?, hentry]
    rfl
  rw [hadd]
  rcases r.add_eq e with ⟨r', hr', hentries, hfree⟩ | ⟨herr, hname⟩ | ⟨f, hf, herr, hname, hslug⟩
  · refine .inl ⟨r', hr', by rw [hentries, List.map_append]; rfl, ?_⟩
    rintro (h | ⟨g, hg, hslug⟩)
    · exact h hvalid
    · obtain ⟨f, hf, rfl⟩ := List.mem_map.1 hg
      exact hfree (List.mem_map.2 ⟨f, hf, Option.some.inj hslug⟩)
  · -- a name that is taken has its slug taken too
    obtain ⟨f, hf, hfe⟩ := List.mem_map.1 hname
    have hmem := List.mem_map_of_mem (f := Entry.offer) hf
    refine .inr ⟨_, herr, .inr ⟨f.offer, hmem, ?_⟩, .duplicate hvalid rfl ⟨f.offer, hmem, congrArg some hfe⟩⟩
    exact congrArg (fun name => some (slug name)) hfe
  · -- the slugs of a rubric are distinct, so no other entry has this one
    have hmem := List.mem_map_of_mem (f := Entry.offer) hf
    refine .inr ⟨_, herr, .inr ⟨f.offer, hmem, congrArg some hslug⟩, ?_⟩
    refine .collision hvalid rfl ?_ hmem rfl (congrArg some hslug) ?_
    · intro o ho honame
      obtain ⟨g, hg, rfl⟩ := List.mem_map.1 ho
      exact hname (List.mem_map.2 ⟨g, hg, Option.some.inj honame⟩)
    · intro o ho hoslug
      obtain ⟨g, hg, rfl⟩ := List.mem_map.1 ho
      rw [List.inj_on_of_nodup_map r.nodup hg hf ((Option.some.inj hoslug).trans hslug.symm)]

theorem addAll_cons (r : Rubric) (o : EntryOffer) (os : List EntryOffer) :
    r.addAll (o :: os) = r.offer? o >>= fun r' => r'.addAll os := by
  rw [addAll, offer?]
  rcases Entry.ofOffer? o with err | e
  · rfl
  · rcases hadd : r.add e with err | r'
    · simp only [hadd, bind, Except.bind]
    · simp only [hadd, bind, Except.bind]

theorem addAll_append (r : Rubric) (os os' : List EntryOffer) :
    r.addAll (os ++ os') = r.addAll os >>= fun r' => r'.addAll os' := by
  induction os generalizing r with
  | nil => rfl
  | cons o os ih =>
    rw [List.cons_append, addAll_cons, addAll_cons]
    rcases r.offer? o with err | r'
    · rfl
    · exact ih r'

/-! ## All offers -/

/-- At a position of a list stands an offer that does not fit behind those before it. -/
def IsMisfit (offers : List EntryOffer) (i : Nat) : Prop := ∃ o, offers[i]? = some o ∧ Misfits (offers.take i) o

theorem isMisfit_take_iff {n : Nat} : IsMisfit (offers.take n) i ↔ i < n ∧ IsMisfit offers i := by
  rw [IsMisfit, IsMisfit, List.getElem?_take]
  by_cases hi : i < n
  · rw [if_pos hi, List.take_take, Nat.min_eq_left hi.le]
    simp [hi]
  · rw [if_neg hi]
    simp [hi]

theorem isMisfit_append_singleton_iff :
    IsMisfit (offers ++ [o]) i ↔ IsMisfit offers i ∨ i = offers.length ∧ Misfits offers o := by
  rcases Nat.lt_trichotomy i offers.length with hi | rfl | hi
  · rw [IsMisfit, IsMisfit, List.getElem?_append_left hi, List.take_append_of_le_length hi.le]
    simp [hi.ne]
  · simp [IsMisfit]
  · have hlast : (offers ++ [o])[i]? = none := List.getElem?_eq_none (by simp; omega)
    have hall : offers[i]? = none := List.getElem?_eq_none hi.le
    simp [IsMisfit, hlast, hall, hi.ne']

/-- **There is no misfit** exactly if each offer is well formed and no slug comes twice. -/
theorem forall_not_isMisfit_iff :
    (∀ i, ¬ IsMisfit offers i) ↔ (∀ o ∈ offers, o.IsValid) ∧ (offers.map EntryOffer.slug?).Nodup := by
  induction offers using List.reverseRecOn with
  | nil => simp [IsMisfit]
  | append_singleton offers o ih =>
    have hsplit : (∀ i, ¬ IsMisfit (offers ++ [o]) i) ↔ (∀ i, ¬ IsMisfit offers i) ∧ ¬ Misfits offers o := by
      simp only [isMisfit_append_singleton_iff, not_or, not_and, forall_and, forall_eq]
    rw [hsplit, ih, List.map_append, List.nodup_append]
    constructor
    · rintro ⟨⟨hvalid, hnodup⟩, hfits⟩
      obtain ⟨ho, hfree⟩ := not_or.1 hfits
      refine ⟨?_, hnodup, by simp, ?_⟩
      · intro o' ho'
        rcases List.mem_append.1 ho' with ho' | ho'
        · exact hvalid o' ho'
        · rw [List.mem_singleton.1 ho']
          exact not_not.1 ho
      · intro s hs s' hs' hss
        obtain ⟨f, hf, rfl⟩ := List.mem_map.1 hs
        exact hfree ⟨f, hf, hss.trans (List.mem_singleton.1 hs')⟩
    · rintro ⟨hvalid, hnodup, -, hfree⟩
      refine ⟨⟨fun o' ho' => hvalid o' (List.mem_append_left _ ho'), hnodup⟩, ?_⟩
      rintro (ho | ⟨f, hf, hslug⟩)
      · exact ho (hvalid o (by simp))
      · exact hfree _ (List.mem_map_of_mem hf) _ (List.mem_singleton.2 rfl) hslug

/-- Offers that make a rubric are its entries. -/
theorem map_offer_of_ofOffers? (h : ofOffers? offers = .ok r) : r.entries.map Entry.offer = offers := by
  rw [ofOffers?] at h
  induction offers using List.reverseRecOn generalizing r with
  | nil =>
    cases h
    rfl
  | append_singleton offers o ih =>
    rw [addAll_append] at h
    rcases hfront : empty.addAll offers with err | r₁
    · rw [hfront] at h
      cases h
    · rw [hfront] at h
      change r₁.addAll [o] = .ok r at h
      rw [addAll_cons] at h
      rcases r₁.offer?_cases o with ⟨r₂, hr₂, hentries, -⟩ | ⟨err, herr, -⟩
      · rw [hr₂] at h
        cases h
        rw [hentries, ih hfront]
      · rw [herr] at h
        cases h

/-- Behind offers that make a rubric, the next one decides. -/
theorem ofOffers?_append_cons {front back : List EntryOffer} (hfront : ofOffers? front = .ok r) :
    ofOffers? (front ++ o :: back) = r.offer? o >>= fun r' => r'.addAll back := by
  rw [ofOffers?, addAll_append, ← ofOffers?, hfront]
  exact addAll_cons r o back

/-- **Offers make a rubric** exactly if there is no misfit among them. -/
theorem exists_ofOffers?_eq_ok_iff : (∃ r, ofOffers? offers = .ok r) ↔ ∀ i, ¬ IsMisfit offers i := by
  induction offers using List.reverseRecOn with
  | nil => exact ⟨fun _ i => by simp [IsMisfit], fun _ => ⟨empty, rfl⟩⟩
  | append_singleton offers o ih =>
    rcases hfront : ofOffers? offers with err | r₁
    · -- a misfit among the first ones is one of all
      have hnot : ¬ ∀ i, ¬ IsMisfit offers i := by
        rw [← ih, hfront]
        rintro ⟨r, hr⟩
        cases hr
      have herr : ofOffers? (offers ++ [o]) = .error err := by
        rw [ofOffers?, addAll_append, ← ofOffers?, hfront]
        rfl
      constructor
      · rintro ⟨r, hr⟩
        rw [herr] at hr
        cases hr
      · intro h
        exact absurd (fun i hi => h i (isMisfit_append_singleton_iff.2 (.inl hi))) hnot
    · have hnone := ih.1 ⟨r₁, hfront⟩
      rw [ofOffers?_append_cons hfront]
      have hiff : (∀ i, ¬ IsMisfit (offers ++ [o]) i) ↔ ¬ Misfits offers o := by
        simp only [isMisfit_append_singleton_iff, hnone, false_or, not_and, forall_eq]
      rw [hiff, ← map_offer_of_ofOffers? hfront]
      rcases r₁.offer?_cases o with ⟨r₂, hr₂, -, hfits⟩ | ⟨err, herr, hmisfit, -⟩
      · exact ⟨fun _ => hfits, fun _ => ⟨r₂, by rw [hr₂]; rfl⟩⟩
      · rw [herr]
        refine ⟨?_, fun h => absurd hmisfit h⟩
        rintro ⟨r, hr⟩
        cases hr

/-- The offers before the first misfit make a rubric, which refuses it. -/
theorem exists_refused_of_isLeast (hi : IsLeast {i | IsMisfit offers i} i) (ho : offers[i]? = some o) :
    ∃ err, ofOffers? offers = .error err ∧ Refused (offers.take i) o err := by
  obtain ⟨hmisfit, hleast⟩ := hi
  have hnone : ∀ j, ¬ IsMisfit (offers.take i) j := by
    intro j hj
    obtain ⟨hlt, hj⟩ := isMisfit_take_iff.1 hj
    exact absurd (hleast hj) (Nat.not_le.2 hlt)
  obtain ⟨r, hr⟩ := exists_ofOffers?_eq_ok_iff.2 hnone
  have htake := map_offer_of_ofOffers? hr
  rcases r.offer?_cases o with ⟨r', -, -, hfits⟩ | ⟨err, herr, -, hrefused⟩
  · obtain ⟨o', ho', hmisfits⟩ := hmisfit
    rw [ho] at ho'
    cases ho'
    rw [htake] at hfits
    exact absurd hmisfits hfits
  · refine ⟨err, ?_, htake ▸ hrefused⟩
    rw [eq_take_append_cons_drop ho, ofOffers?_append_cons hr, herr]
    rfl

/-- What is refused for something that cannot be shown. -/
theorem ofOffer?_eq_unshown_iff {v : Value} :
    Entry.ofOffer? o = .error (.unshown v) ↔ ∃ o', o.inPlace? = some o' ∧ o'.literal? = .error v := by
  have hshowing {refused : String → RubricError} {o' : EntryOffer} (hne : ∀ s, refused s ≠ .unshown v) :
      RubricError.showing refused o' = .unshown v ↔ o'.literal? = .error v := by
    rw [RubricError.showing]
    cases o'.literal? <;> simp [hne]
  rcases o with w | c | ⟨w | c | o', mandatory, maxScore⟩
  · simp [Entry.ofOffer?, EntryOffer.inPlace?, hshowing]
  · simp [Entry.ofOffer?, EntryOffer.inPlace?, hshowing]
  · simp [Entry.ofOffer?, EntryOffer.inPlace?, hshowing]
  · -- a check in an entry is looked at part by part, and never shown as a whole
    have hno : Entry.ofOffer? (.entry (.check c) mandatory maxScore) ≠ .error (.unshown v) := by
      rw [Entry.ofOffer?]
      repeat' split
      all_goals simp
    simp [hno, EntryOffer.inPlace?]
  · simp [Entry.ofOffer?, EntryOffer.inPlace?, hshowing]

/-- **The first misfit decides.** Offers make a rubric exactly if each of them
is well formed and no slug comes twice, and the rubric then holds them as
they came. Otherwise the first one that is not well formed, or whose slug
is that of an earlier one, is refused: for what it is, for a name that is
taken, or for the one earlier name with its slug. The error is one of the
configuration, unless something stands in place of that entry, or of its
check, that cannot be shown: a check without a category. -/
theorem first_misfit_decides (offers : List EntryOffer) :
    ((∃ r, ofOffers? offers = .ok r) ↔ (∀ o ∈ offers, o.IsValid) ∧ (offers.map EntryOffer.slug?).Nodup) ∧
    (∀ r, ofOffers? offers = .ok r → r.entries.map Entry.offer = offers ∧
      r.names.map some = offers.map EntryOffer.name? ∧ r.size = offers.length) ∧
    (∀ err, ofOffers? offers = .error err ↔ ∃ i o, IsLeast {i | IsMisfit offers i} i ∧ offers[i]? = some o ∧
      Refused (offers.take i) o err) ∧
    ((∃ err, ofOffers? offers = .error err ∧ err.isConfiguration = false) ↔
      ∃ i o o' v, IsLeast {i | IsMisfit offers i} i ∧ offers[i]? = some o ∧ o.inPlace? = some o' ∧
        o'.literal? = .error v) := by
  have hrefused (err : RubricError) : ofOffers? offers = .error err ↔
      ∃ i o, IsLeast {i | IsMisfit offers i} i ∧ offers[i]? = some o ∧ Refused (offers.take i) o err := by
    constructor
    · intro h
      have hnot : ¬ ∀ i, ¬ IsMisfit offers i := by
        rw [← exists_ofOffers?_eq_ok_iff, h]
        rintro ⟨r, hr⟩
        cases hr
      -- there is a misfit, and so a first one, which decides
      classical
      have hi := Nat.isLeast_find (not_forall_not.1 hnot)
      obtain ⟨o, ho, -⟩ := hi.1
      obtain ⟨err', herr', hrefused⟩ := exists_refused_of_isLeast hi ho
      rw [h] at herr'
      cases herr'
      exact ⟨_, o, hi, ho, hrefused⟩
    · rintro ⟨i, o, hi, ho, hrefused⟩
      obtain ⟨err', herr', hrefused'⟩ := exists_refused_of_isLeast hi ho
      rw [herr', hrefused.unique hrefused']
  refine ⟨exists_ofOffers?_eq_ok_iff.trans forall_not_isMisfit_iff, fun r h => ?_, hrefused, ?_⟩
  · have hoffers := map_offer_of_ofOffers? h
    refine ⟨hoffers, ?_, ?_⟩
    · rw [← hoffers, names, List.map_map, List.map_map]
      rfl
    · rw [← hoffers, size, List.length_map]
  · constructor
    · rintro ⟨err, herr, hkind⟩
      -- a name or a slug that is taken can always be told
      obtain ⟨i, o, hi, ho, hinvalid | _ | _⟩ := (hrefused err).1 herr
      · cases err with
        | unshown v =>
          obtain ⟨o', ho', hv⟩ := ofOffer?_eq_unshown_iff.1 hinvalid
          exact ⟨i, o, o', v, hi, ho, ho', hv⟩
        | _ => cases hkind
      · cases hkind
      · cases hkind
    · rintro ⟨i, o, o', v, hi, ho, ho', hv⟩
      exact ⟨.unshown v, (hrefused _).2 ⟨i, o, hi, ho, .invalid (ofOffer?_eq_unshown_iff.2 ⟨o', ho', hv⟩)⟩, rfl⟩

/-- A check with a text in place of its category, which is not wrapped in an entry. -/
def bareCheck : EntryOffer :=
  .check ⟨"NamedCheck", .text "x", .error (.text "functional"), fun _ => ⟨[], .outcome .success⟩⟩

/-- Not everything that is refused is refused with an error of the configuration. -/
theorem not_forall_refused_told :
    ¬ ∀ offers err, ofOffers? offers = .error err → err.isConfiguration = true := by
  intro h
  cases h [bareCheck] (.unshown (.text "functional")) rfl

end Rubric
end ScriptGrader
