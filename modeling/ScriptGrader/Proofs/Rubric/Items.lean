import ScriptGrader.Proofs.Rubric.Acceptance
import ScriptGrader.Rubric.Config

/-!
# What the items of a configuration make

An item of a `checks` section is refused, is left out, or makes an offer,
and only one of the three (`reading?_eq_error_iff`, `exists_reading?_skipped_iff`,
`reading?_offer_iff`). The first item that is refused decides before any
offer is looked at, so an item that is left out may as well not be there.
-/

namespace ScriptGrader

/-- A name is asked for by a single question of the catalog. -/
theorem Catalog.find?_eq_some_iff {name : String} {q : Question} :
    find? name = some q ↔ q ∈ questions ∧ q.name = name :=
  find?_eq_some_iff_of_nodup (by decide)

namespace Rubric

variable {v w : Value} {vs ws items rest : List Value} {e : RubricError} {o : EntryOffer} {offers : List EntryOffer}

/-! ## One item -/

/-- How an item is read: a name, and the settings of the check. -/
inductive IsRead : Value → Value → List (Value × Value) → Prop
  /-- A text is a name without settings. -/
  | name (s : String) : IsRead (.text s) (.text s) []
  /-- A mapping of one key gives the settings of that name. -/
  | settings (name : Value) (entries : List (Value × Value)) : IsRead (.map [(name, .map entries)]) name entries
  /-- What does not hold stands for no settings. -/
  | nothing (name v : Value) (h : v.isTrue = false) : IsRead (.map [(name, v)]) name []

/-- A setting that holds. -/
def IsOn (settings : List (Value × Value)) (name : String) : Prop :=
  ∃ v, Value.field name settings = some v ∧ v.isTrue = true

/-- An item that is left out. -/
def IsSkipped (v : Value) : Prop := ∃ name settings, IsRead v name settings ∧ IsOn settings "skip"

/-- What an item offers that is not left out: the check of the catalog that it
names, with its settings or what stands for them. -/
inductive Offers : Value → EntryOffer → Prop
  | intro {v : Value} {settings : List (Value × Value)} {q : Catalog.Question}
      (hread : IsRead v (.text q.name) settings) (hskip : ¬ IsOn settings "skip") (hq : q ∈ Catalog.questions) :
      Offers v (catalogOffer q ((Value.field "mandatory" settings).getD (.bool true))
        ((Value.field "max_score" settings).getD (.float (.finite 1))))

/-- Why an item is refused. -/
inductive IsRefused : Value → RubricError → Prop
  /-- It is neither a text nor a mapping of one key. -/
  | malformed {v : Value} (htext : ∀ s, v ≠ .text s) (hmap : ∀ name w, v ≠ .map [(name, w)]) :
      IsRefused v (.malformed v)
  /-- Its settings hold, and are no mapping. -/
  | settings {name w : Value} (hholds : w.isTrue = true) (hmap : ∀ entries, w ≠ .map entries) :
      IsRefused (.map [(name, w)]) (.settings name)
  /-- It is not left out, and names no check of the catalog. -/
  | unknown {v name : Value} {settings : List (Value × Value)} (hread : IsRead v name settings)
      (hskip : ¬ IsOn settings "skip") (hname : ∀ q ∈ Catalog.questions, name ≠ .text q.name) :
      IsRefused v (.unknown name)

theorem item?_pair (name w : Value) :
    item? (.map [(name, w)]) =
      if w.isTrue then
        match w with
        | .map settings => .ok ⟨name, settings⟩
        | _ => .error (.settings name)
      else .ok ⟨name, []⟩ := rfl

theorem item?_eq_ok_iff {i : Item} : item? v = .ok i ↔ IsRead v i.name i.settings := by
  constructor
  · intro h
    unfold item? at h
    split at h
    · cases h
      exact .name _
    · split at h
      · split at h
        · cases h
          exact .settings _ _
        · cases h
      · next hholds =>
        cases h
        exact .nothing _ _ (Bool.eq_false_iff.2 hholds)
    · cases h
  · obtain ⟨name, settings⟩ := i
    rintro (s | ⟨name, settings⟩ | ⟨name, w, hholds⟩)
    · rfl
    · rw [item?_pair]
      -- an empty mapping does not hold, and stands for no settings as well
      rcases settings with _ | ⟨x, settings⟩
      · rfl
      · rfl
    · rw [item?_pair, if_neg (Bool.eq_false_iff.1 hholds)]

theorem isSkipped_eq_true_iff {i : Item} : i.isSkipped = true ↔ IsOn i.settings "skip" := by
  rw [Item.isSkipped, IsOn]
  rcases Value.field "skip" i.settings with _ | w
  · simp [Value.isTrue]
  · simp

/-- An item that cannot be read is refused for its form. -/
theorem isRefused_of_item? (h : item? v = .error e) : IsRefused v e := by
  unfold item? at h
  split at h
  · cases h
  · split at h
    · next hholds =>
      split at h
      · cases h
      · next hmap =>
        cases h
        exact .settings hholds hmap
    · cases h
  · next htext hmap =>
    cases h
    exact .malformed htext hmap

theorem offer?_eq_ok_iff {i : Item} : i.offer? = .ok o ↔
    ∃ q ∈ Catalog.questions, i.name = .text q.name ∧
      o = catalogOffer q ((Value.field "mandatory" i.settings).getD (.bool true))
        ((Value.field "max_score" i.settings).getD (.float (.finite 1))) := by
  constructor
  · intro h
    unfold Item.offer? at h
    split at h
    · next s hname =>
      split at h
      · next q hfind =>
        cases h
        obtain ⟨hq, rfl⟩ := Catalog.find?_eq_some_iff.1 hfind
        exact ⟨q, hq, hname, rfl⟩
      · cases h
    · cases h
  · rintro ⟨q, hq, hname, rfl⟩
    simp only [Item.offer?, hname, Catalog.find?_eq_some_iff.2 ⟨hq, rfl⟩]
    rfl

theorem offer?_eq_error_iff {i : Item} : i.offer? = .error e ↔
    (∀ q ∈ Catalog.questions, i.name ≠ .text q.name) ∧ e = .unknown i.name := by
  rcases hoffer : i.offer? with e' | o
  · have hnone : ∀ q ∈ Catalog.questions, i.name ≠ .text q.name := by
      intro q hq hname
      rw [offer?_eq_ok_iff.2 ⟨q, hq, hname, rfl⟩] at hoffer
      cases hoffer
    have he' : e' = .unknown i.name := by
      unfold Item.offer? at hoffer
      split at hoffer
      · split at hoffer
        · cases hoffer
        · cases hoffer
          rfl
      · cases hoffer
        rfl
    rw [he', Except.error.injEq]
    exact ⟨fun h => ⟨hnone, h.symm⟩, fun h => h.2.symm⟩
  · obtain ⟨q, hq, hname, -⟩ := offer?_eq_ok_iff.1 hoffer
    constructor
    · intro h
      cases h
    · rintro ⟨hnone, -⟩
      exact absurd hname (hnone q hq)

/-! ## What an item comes to -/

/-- An item that is read comes to what its settings say. -/
theorem reading?_of_isRead {name : Value} {settings : List (Value × Value)} (h : IsRead v name settings) :
    reading? v =
      if Item.isSkipped ⟨name, settings⟩ then .ok (.skipped name)
      else (Item.offer? ⟨name, settings⟩).map .offer := by
  have hitem : item? v = .ok ⟨name, settings⟩ := item?_eq_ok_iff.2 h
  simp only [reading?, hitem, bind, Except.bind, pure, Except.pure]
  split
  · rfl
  · rcases Item.offer? ⟨name, settings⟩ <;> rfl

theorem reading?_eq_error_iff : reading? v = .error e ↔ IsRefused v e := by
  constructor
  · intro h
    rcases hitem : item? v with e' | ⟨name, settings⟩
    · rw [reading?, hitem] at h
      cases h
      exact isRefused_of_item? hitem
    · have hread : IsRead v name settings := item?_eq_ok_iff.1 hitem
      rw [reading?_of_isRead hread] at h
      split at h
      · cases h
      · next hskip =>
        rcases hoffer : Item.offer? ⟨name, settings⟩ with e' | o
        · rw [hoffer] at h
          cases h
          obtain ⟨hnone, rfl⟩ := offer?_eq_error_iff.1 hoffer
          exact .unknown hread (fun hon => hskip (isSkipped_eq_true_iff.2 hon)) hnone
        · rw [hoffer] at h
          cases h
  · rintro (⟨htext, hmap⟩ | ⟨hholds, hmap⟩ | ⟨hread, hskip, hnone⟩)
    · have hitem : item? v = .error (.malformed v) := by
        unfold item?
        split
        · exact absurd rfl (htext _)
        · exact absurd rfl (hmap _ _)
        · rfl
      rw [reading?, hitem]
      rfl
    · next name w =>
      have hitem : item? (.map [(name, w)]) = .error (.settings name) := by
        rw [item?_pair, if_pos hholds]
        split
        · exact absurd rfl (hmap _)
        · rfl
      rw [reading?, hitem]
      rfl
    · rw [reading?_of_isRead hread, if_neg fun hon => hskip (isSkipped_eq_true_iff.1 hon),
        offer?_eq_error_iff.2 ⟨hnone, rfl⟩]
      rfl

theorem exists_reading?_skipped_iff : (∃ name, reading? v = .ok (.skipped name)) ↔ IsSkipped v := by
  constructor
  · rintro ⟨name, h⟩
    rcases hitem : item? v with e' | ⟨name', settings⟩
    · rw [reading?, hitem] at h
      cases h
    · have hread : IsRead v name' settings := item?_eq_ok_iff.1 hitem
      rw [reading?_of_isRead hread] at h
      split at h
      · next hskip => exact ⟨name', settings, hread, isSkipped_eq_true_iff.1 hskip⟩
      · rcases hoffer : Item.offer? ⟨name', settings⟩ with e' | o
        · rw [hoffer] at h
          cases h
        · rw [hoffer] at h
          cases h
  · rintro ⟨name, settings, hread, hon⟩
    exact ⟨name, by rw [reading?_of_isRead hread, if_pos (isSkipped_eq_true_iff.2 hon)]⟩

theorem reading?_offer_iff : reading? v = .ok (.offer o) ↔ Offers v o := by
  constructor
  · intro h
    rcases hitem : item? v with e' | ⟨name, settings⟩
    · rw [reading?, hitem] at h
      cases h
    · have hread : IsRead v name settings := item?_eq_ok_iff.1 hitem
      rw [reading?_of_isRead hread] at h
      split at h
      · cases h
      · next hskip =>
        rcases hoffer : Item.offer? ⟨name, settings⟩ with e' | o'
        · rw [hoffer] at h
          cases h
        · rw [hoffer] at h
          cases h
          obtain ⟨q, hq, hname, rfl⟩ := offer?_eq_ok_iff.1 hoffer
          cases hname
          exact .intro hread (fun hon => hskip (isSkipped_eq_true_iff.2 hon)) hq
  · rintro ⟨hread, hskip, hq⟩
    rw [reading?_of_isRead hread, if_neg fun hon => hskip (isSkipped_eq_true_iff.1 hon),
      offer?_eq_ok_iff.2 ⟨_, hq, rfl, rfl⟩]
    rfl

/-! ## All items -/

/-- The offers of the items that are not left out, in their order. -/
inductive Kept : List Value → List EntryOffer → Prop
  | nil : Kept [] []
  | skip {v : Value} {vs : List Value} {os : List EntryOffer} (h : IsSkipped v) (hs : Kept vs os) : Kept (v :: vs) os
  | offer {v : Value} {vs : List Value} {o : EntryOffer} {os : List EntryOffer} (h : Offers v o) (hs : Kept vs os) :
      Kept (v :: vs) (o :: os)

/-- Items of which some were taken away that are left out anyway. -/
inductive Thinned : List Value → List Value → Prop
  | nil : Thinned [] []
  | keep {vs ws : List Value} (v : Value) (h : Thinned vs ws) : Thinned (v :: vs) (v :: ws)
  | drop {v : Value} {vs ws : List Value} (hv : IsSkipped v) (h : Thinned vs ws) : Thinned (v :: vs) ws

/-- What comes of the items behind one that is left out is what comes of all. -/
theorem readings_cons_of_isSkipped (h : IsSkipped v) (vs : List Value) : (readings (v :: vs)).2 = (readings vs).2 := by
  obtain ⟨name, hname⟩ := exists_reading?_skipped_iff.2 h
  rw [readings, hname]

theorem readings_cons_of_offers (h : Offers v o) (vs : List Value) :
    (readings (v :: vs)).2 = (readings vs).2.map (o :: ·) := by
  rw [readings, reading?_offer_iff.2 h]

theorem readings_cons_of_isRefused (h : IsRefused v e) (vs : List Value) : (readings (v :: vs)).2 = .error e := by
  rw [readings, reading?_eq_error_iff.2 h]

/-- An item is refused, left out, or makes an offer. -/
theorem item_cases (v : Value) : (∃ e, IsRefused v e) ∨ IsSkipped v ∨ ∃ o, Offers v o := by
  rcases hreading : reading? v with e | (name | o)
  · exact .inl ⟨e, reading?_eq_error_iff.1 hreading⟩
  · exact .inr (.inl (exists_reading?_skipped_iff.1 ⟨name, hreading⟩))
  · exact .inr (.inr ⟨o, reading?_offer_iff.1 hreading⟩)

/-- Where no item is refused, the offers of all are those that are kept. -/
theorem exists_kept (h : ∀ v ∈ items, ∀ e, ¬ IsRefused v e) :
    ∃ offers, Kept items offers ∧ (readings items).2 = .ok offers := by
  induction items with
  | nil => exact ⟨[], .nil, rfl⟩
  | cons v vs ih =>
    obtain ⟨offers, hkept, hreadings⟩ := ih fun w hw => h w (List.mem_cons_of_mem v hw)
    rcases item_cases v with ⟨e, he⟩ | hskip | ⟨o, ho⟩
    · exact absurd he (h v List.mem_cons_self e)
    · exact ⟨offers, .skip hskip hkept, by rw [readings_cons_of_isSkipped hskip, hreadings]⟩
    · exact ⟨o :: offers, .offer ho hkept, by rw [readings_cons_of_offers ho, hreadings]; rfl⟩

/-- Behind items none of which is refused, one that is refused decides. -/
theorem readings_append_cons {front back : List Value} (hfront : ∀ w ∈ front, ∀ e, ¬ IsRefused w e)
    (hv : IsRefused v e) : (readings (front ++ v :: back)).2 = .error e := by
  induction front with
  | nil => exact readings_cons_of_isRefused hv back
  | cons w ws ih =>
    have hrest := ih fun x hx => hfront x (List.mem_cons_of_mem w hx)
    rcases item_cases w with ⟨e', he'⟩ | hskip | ⟨o, ho⟩
    · exact absurd he' (hfront w List.mem_cons_self e')
    · rw [List.cons_append, readings_cons_of_isSkipped hskip, hrest]
    · rw [List.cons_append, readings_cons_of_offers ho, hrest]
      rfl

theorem Thinned.readings_eq (h : Thinned items rest) : (readings rest).2 = (readings items).2 := by
  induction h with
  | nil => rfl
  | @keep vs ws v _ ih =>
    rcases item_cases v with ⟨e, he⟩ | hskip | ⟨o, ho⟩
    · rw [readings_cons_of_isRefused he, readings_cons_of_isRefused he]
    · rw [readings_cons_of_isSkipped hskip, readings_cons_of_isSkipped hskip, ih]
    · rw [readings_cons_of_offers ho, readings_cons_of_offers ho, ih]
  | drop hv _ ih => rw [ih, readings_cons_of_isSkipped hv]

/-- Items that are all left out make no offer. -/
theorem readings_of_areSkipped (h : ∀ v ∈ items, IsSkipped v) : (readings items).2 = .ok [] := by
  induction items with
  | nil => rfl
  | cons v vs ih =>
    rw [readings_cons_of_isSkipped (h v List.mem_cons_self)]
    exact ih fun w hw => h w (List.mem_cons_of_mem v hw)

theorem ofConfig?_list (hitems : items ≠ []) :
    ofConfig? (.list items) = (readings items).2 >>= ofOffers? := by
  obtain ⟨v, vs, rfl⟩ := List.exists_cons_of_ne_nil hitems
  simp only [ofConfig?, sectionItems?]
  rcases (readings (v :: vs)).2 with e | offers
  · rfl
  · rfl

end Rubric
end ScriptGrader
