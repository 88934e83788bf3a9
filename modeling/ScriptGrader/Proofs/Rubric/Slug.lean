import Mathlib.Data.List.DropRight
import ScriptGrader.Rubric.Slug

/-!
# Slugs in one reading

A slug is made in stages, each over the whole name, and `slugOnePass` makes
it in a single reading that remembers the last kept character and whether
anything stood behind it. The two agree on every name
(`slugChars_eq_slugOnePass`). What a slug looks like is then read off the
single reading: parts of small letters and digits with one hyphen between
them, so that a slug is its own slug.
-/

namespace ScriptGrader.Rubric

variable {a b c : Char} {g : Bool} {r cs w : List Char} {behind : Behind}

/-! ## Characters -/

theorem isKept_of_isSmall (h : isSmall c = true) : isKept c = true := by
  simp [isKept, h]

theorem isKept_hyphen : isKept '-' = false := by decide

theorem ne_hyphen_of_isKept (h : isKept c = true) : c ≠ '-' := by
  rintro rfl
  rw [isKept_hyphen] at h
  cases h

theorem isCapital_of_not_isKept (h : isKept c = false) : isCapital c = false := by
  rw [isKept, Bool.or_eq_false_iff] at h
  exact h.2

/-- What holds of every ASCII character, one after the other, holds of a kept one. -/
theorem of_forall_ascii {P : Char → Prop} (h : ∀ n : Fin 128, P (Char.ofNat n)) (hc : isKept c = true) : P c := by
  have hle : c.toNat < 128 := by
    simp only [isKept, isSmall, isCapital, Bool.or_eq_true, Bool.and_eq_true, decide_eq_true_eq, Char.le_def,
      UInt32.le_iff_toNat_le] at hc
    show c.val.toNat < 128
    rcases hc with (⟨-, h⟩ | ⟨-, h⟩) | ⟨-, h⟩ <;> exact lt_of_le_of_lt h (by decide)
  have hn := h ⟨c.toNat, hle⟩
  rwa [Char.ofNat_toNat] at hn

theorem isSmall_toLower (h : isKept c = true) : isSmall c.toLower = true :=
  of_forall_ascii (P := fun c => isKept c = true → isSmall c.toLower = true) (by decide) h h

theorem toLower_of_isSmall (h : isSmall c = true) : c.toLower = c :=
  of_forall_ascii (P := fun c => isSmall c = true → c.toLower = c) (by decide) (isKept_of_isSmall h) h

theorem isCapital_of_isSmall (h : isSmall c = true) : isCapital c = false :=
  of_forall_ascii (P := fun c => isSmall c = true → isCapital c = false) (by decide) (isKept_of_isSmall h) h

/-! ## The stages, character by character -/

/-- A name with its humps split and its gaps joined. -/
def hyphened (cs : List Char) : List Char := joinGaps (splitHumps cs)

/-- One hyphen in front, if there is none. -/
def gapBefore : List Char → List Char
  | '-' :: t => '-' :: t
  | t => '-' :: t

theorem gapBefore_of_ne (h : c ≠ '-') : gapBefore (c :: r) = '-' :: c :: r := by
  unfold gapBefore
  split
  · next heq => exact absurd (List.cons.inj heq).1 h
  · rfl

theorem gapBefore_gapBefore (l : List Char) : gapBefore (gapBefore l) = gapBefore l := by
  rcases l with _ | ⟨c, t⟩
  · rfl
  · by_cases h : c = '-'
    · subst h
      rfl
    · rw [gapBefore_of_ne h]
      rfl

theorem dropWhile_gapBefore (l : List Char) :
    (gapBefore l).dropWhile (· == '-') = l.dropWhile (· == '-') := by
  rcases l with _ | ⟨c, t⟩
  · rfl
  · by_cases h : c = '-'
    · subst h
      rfl
    · rw [gapBefore_of_ne h]
      rfl

theorem joinGaps_kept (h : isKept c = true) : joinGaps (c :: r) = c :: joinGaps r := by
  rw [joinGaps_cons, if_pos h]

theorem joinGaps_gap (h : isKept c = false) : joinGaps (c :: r) = gapBefore (joinGaps r) := by
  rw [joinGaps_cons, if_neg (by simp [h])]
  rfl

theorem splitHumps_gap (h : isKept c = false) : splitHumps (c :: r) = c :: splitHumps r := by
  have hsmall : isSmall c = false := (Bool.or_eq_false_iff.1 h).1
  rcases r with _ | ⟨b, r⟩
  · rfl
  · simp [splitHumps_cons_cons, hsmall]

theorem hyphened_gap (h : isKept c = false) : hyphened (c :: r) = gapBefore (hyphened r) := by
  rw [hyphened, splitHumps_gap h, joinGaps_gap h, hyphened]

/-- Nothing is put before a character that is not kept. -/
theorem hyphened_kept_gap (ha : isKept a = true) (hc : isKept c = false) :
    hyphened (a :: c :: r) = a :: hyphened (c :: r) := by
  have hcapital := isCapital_of_not_isKept hc
  simp [hyphened, splitHumps_cons_cons, hcapital, joinGaps_kept ha]

/-- Between two kept characters a hyphen is put where the second is a hump. -/
theorem hyphened_kept_kept (ha : isKept a = true) (b : Char) (r : List Char) :
    hyphened (a :: b :: r) =
      a :: (if isSmall a && isCapital b then gapBefore (hyphened (b :: r)) else hyphened (b :: r)) := by
  rw [hyphened, splitHumps_cons_cons]
  split
  · rw [joinGaps_kept ha, joinGaps_gap isKept_hyphen, hyphened]
  · rw [joinGaps_kept ha, hyphened]

/-- A kept character stays in front. -/
theorem exists_hyphened_kept (ha : isKept a = true) (r : List Char) : ∃ t, hyphened (a :: r) = a :: t := by
  rcases r with _ | ⟨b, r⟩
  · exact ⟨[], joinGaps_kept ha⟩
  · cases hb : isKept b
    · exact ⟨_, hyphened_kept_gap ha hb⟩
    · exact ⟨_, hyphened_kept_kept ha b r⟩

/-! ## No hyphens at the end -/

/-- Hyphens at the end are dropped. -/
def trimEnd (l : List Char) : List Char := l.rdropWhile (· == '-')

theorem trimHyphens_eq (l : List Char) : trimHyphens l = trimEnd (l.dropWhile (· == '-')) := rfl

theorem trimEnd_cons_of_ne_nil (h : trimEnd r ≠ []) : trimEnd (c :: r) = c :: trimEnd r := by
  have hne : (r.reverse.dropWhile (· == '-')).isEmpty = false := by
    rw [List.isEmpty_eq_false_iff]
    exact fun hnil => h (by rw [trimEnd, List.rdropWhile, hnil, List.reverse_nil])
  rw [trimEnd, trimEnd, List.rdropWhile, List.rdropWhile, List.reverse_cons, List.dropWhile_append, hne,
    if_neg (by decide), List.reverse_append]
  rfl

theorem trimEnd_cons_of_ne (h : c ≠ '-') : trimEnd (c :: r) = c :: trimEnd r := by
  by_cases hr : trimEnd r = []
  · have hnil : (r.reverse.dropWhile (· == '-')) = [] := by
      rwa [trimEnd, List.rdropWhile, List.reverse_eq_nil_iff] at hr
    rw [hr, trimEnd, List.rdropWhile, List.reverse_cons, List.dropWhile_append, hnil]
    simp [h]
  · exact trimEnd_cons_of_ne_nil hr

/-- A hyphen before a kept character stays. -/
theorem trimEnd_gapBefore_hyphened (hc : isKept c = true) (r : List Char) :
    trimEnd (gapBefore (hyphened (c :: r))) = '-' :: trimEnd (hyphened (c :: r)) := by
  obtain ⟨t, ht⟩ := exists_hyphened_kept hc r
  have hne := ne_hyphen_of_isKept hc
  rw [ht, gapBefore_of_ne hne, trimEnd_cons_of_ne_nil]
  rw [trimEnd_cons_of_ne hne]
  exact List.cons_ne_nil _ _

/-! ## The single reading, character by character -/

theorem slugFrom_gap (h : isKept c = false) (behind : Behind) (r : List Char) :
    slugFrom behind (c :: r) = slugFrom { behind with gap := true } r := by
  rw [slugFrom_cons, if_neg (by simp [h])]

theorem slugFrom_first (h : isKept c = true) (g : Bool) (r : List Char) :
    slugFrom ⟨none, g⟩ (c :: r) = c.toLower :: slugFrom ⟨some c, false⟩ r := by
  rw [slugFrom_cons, if_pos h]
  rfl

/-- **The rule for hyphens**: between two kept characters one is put where
something stood between them, or where the second is a hump. -/
theorem slugFrom_next (h : isKept c = true) (b : Char) (g : Bool) (r : List Char) :
    slugFrom ⟨some b, g⟩ (c :: r) =
      if g || (isSmall b && isCapital c) then '-' :: c.toLower :: slugFrom ⟨some c, false⟩ r
      else c.toLower :: slugFrom ⟨some c, false⟩ r := by
  rw [slugFrom_cons, if_pos h]

/-- Behind a kept character the single reading goes on as the stages do,
with and without a gap behind that character. -/
theorem slugFrom_eq (hb : isKept b = true) (cs : List Char) :
    b.toLower :: slugFrom ⟨some b, false⟩ cs = (trimEnd (hyphened (b :: cs))).map Char.toLower ∧
      slugFrom ⟨some b, true⟩ cs = (trimEnd (gapBefore (hyphened cs))).map Char.toLower := by
  induction cs generalizing b with
  | nil =>
    have hsingle : hyphened [b] = [b] := joinGaps_kept hb
    rw [hsingle, trimEnd_cons_of_ne (ne_hyphen_of_isKept hb)]
    exact ⟨rfl, rfl⟩
  | cons c r ih =>
    have hne := ne_hyphen_of_isKept hb
    cases hc : isKept c with
    | false =>
      obtain ⟨-, hgap⟩ := ih hb
      rw [slugFrom_gap hc, slugFrom_gap hc, hyphened_kept_gap hb hc, hyphened_gap hc, gapBefore_gapBefore,
        trimEnd_cons_of_ne hne, List.map_cons, ← hgap]
      exact ⟨rfl, rfl⟩
    | true =>
      obtain ⟨hnext, -⟩ := ih hc
      have hgap : '-' :: c.toLower :: slugFrom ⟨some c, false⟩ r =
          (trimEnd (gapBefore (hyphened (c :: r)))).map Char.toLower := by
        rw [trimEnd_gapBefore_hyphened hc, List.map_cons, ← hnext]
        rfl
      rw [slugFrom_next hc, slugFrom_next hc, hyphened_kept_kept hb, trimEnd_cons_of_ne hne, List.map_cons]
      refine ⟨?_, hgap⟩
      cases hhump : isSmall b && isCapital c with
      | false => rw [Bool.false_or, if_neg (by decide), if_neg (by decide), hnext]
      | true => rw [Bool.false_or, if_pos rfl, if_pos rfl, hgap]

/-- **Stages and single reading agree.** -/
theorem slugChars_eq_slugOnePass (cs : List Char) : slugChars cs = slugOnePass cs := by
  rw [slugChars, slugOnePass, trimHyphens_eq, ← hyphened]
  -- a gap in front of the first kept character leaves no trace in either
  generalize false = g
  induction cs generalizing g with
  | nil => rfl
  | cons c r ih =>
    cases hc : isKept c with
    | false => rw [hyphened_gap hc, dropWhile_gapBefore, slugFrom_gap hc, ih true]
    | true =>
      obtain ⟨t, ht⟩ := exists_hyphened_kept hc r
      have hfront : (hyphened (c :: r)).dropWhile (· == '-') = hyphened (c :: r) := by
        rw [ht]
        simp [ne_hyphen_of_isKept hc]
      rw [hfront, slugFrom_first hc, (slugFrom_eq hc r).1]

theorem toList_slug (name : String) : (slug name).toList = slugOnePass name.toList := by
  rw [slug, String.toList_ofList, slugChars_eq_slugOnePass]

/-! ## What a slug looks like -/

/-- A part of a slug: small letters and digits, one at least. -/
structure IsPart (w : List Char) : Prop where
  ne_nil : w ≠ []
  small : ∀ c ∈ w, isSmall c = true

theorem isPart_singleton (h : isSmall c = true) : IsPart [c] :=
  ⟨List.cons_ne_nil _ _, List.forall_mem_singleton.2 h⟩

theorem IsPart.cons (hc : isSmall c = true) (h : IsPart w) : IsPart (c :: w) :=
  ⟨List.cons_ne_nil _ _, List.forall_mem_cons.2 ⟨hc, h.small⟩⟩

theorem IsPart.exists_cons (h : IsPart w) :
    ∃ c v, w = c :: v ∧ isSmall c = true ∧ ∀ d ∈ v, isSmall d = true := by
  obtain ⟨c, v, rfl⟩ := List.exists_cons_of_ne_nil h.ne_nil
  exact ⟨c, v, rfl, List.forall_mem_cons.1 h.small⟩

/-- Pieces with something between them, the first one apart. -/
theorem intercalate_cons (sep w : List Char) (parts : List (List Char)) :
    sep.intercalate (w :: parts) = w ++ parts.flatMap (sep ++ ·) := by
  induction parts generalizing w with
  | nil => simp
  | cons v parts ih => rw [List.intercalate_cons_cons, ih v, List.flatMap_cons, List.append_assoc, List.append_assoc]

/-- Parts with hyphens between them. -/
def IsHyphenated (cs : List Char) : Prop := ∃ parts, (∀ w ∈ parts, IsPart w) ∧ cs = ['-'].intercalate parts

namespace IsHyphenated

theorem single (hc : isSmall c = true) : IsHyphenated [c] :=
  ⟨[[c]], List.forall_mem_singleton.2 (isPart_singleton hc), by simp⟩

/-- One more character of the first part. -/
theorem cons (hc : isSmall c = true) (h : IsHyphenated (b :: r)) : IsHyphenated (c :: b :: r) := by
  obtain ⟨_ | ⟨w, parts⟩, hparts, heq⟩ := h
  · cases heq
  · obtain ⟨hw, hparts⟩ := List.forall_mem_cons.1 hparts
    refine ⟨(c :: w) :: parts, List.forall_mem_cons.2 ⟨hw.cons hc, hparts⟩, ?_⟩
    rw [heq, intercalate_cons, intercalate_cons]
    rfl

/-- One more part, of one character. -/
theorem hyphen (hc : isSmall c = true) (h : IsHyphenated (b :: r)) : IsHyphenated (c :: '-' :: b :: r) := by
  obtain ⟨_ | ⟨w, parts⟩, hparts, heq⟩ := h
  · cases heq
  · refine ⟨[c] :: w :: parts, List.forall_mem_cons.2 ⟨isPart_singleton hc, hparts⟩, ?_⟩
    rw [heq, intercalate_cons, intercalate_cons]
    rfl

end IsHyphenated

/-- Behind a character of a part the reading goes on with this part, or with the next one. -/
theorem isHyphenated_cons_slugFrom (hc : isSmall c = true) (b : Char) (g : Bool) (cs : List Char) :
    IsHyphenated (c :: slugFrom ⟨some b, g⟩ cs) := by
  induction cs generalizing c b g with
  | nil => exact .single hc
  | cons d r ih =>
    cases hd : isKept d with
    | false =>
      rw [slugFrom_gap hd]
      exact ih hc b true
    | true =>
      have hrest := ih (isSmall_toLower hd) d false
      rw [slugFrom_next hd]
      split
      · exact hrest.hyphen hc
      · exact hrest.cons hc

theorem isHyphenated_slugOnePass (cs : List Char) : IsHyphenated (slugOnePass cs) := by
  rw [slugOnePass]
  generalize false = g
  induction cs generalizing g with
  | nil => exact ⟨[], by simp, rfl⟩
  | cons c r ih =>
    cases hc : isKept c with
    | false =>
      rw [slugFrom_gap hc]
      exact ih true
    | true =>
      rw [slugFrom_first hc]
      exact isHyphenated_cons_slugFrom (isSmall_toLower hc) c false r

/-- **What is kept**: letters and digits in their order, in lower case. -/
theorem filter_slugFrom (behind : Behind) (cs : List Char) :
    (slugFrom behind cs).filter isKept = (cs.filter isKept).map Char.toLower := by
  induction cs generalizing behind with
  | nil => rfl
  | cons c r ih =>
    cases hc : isKept c with
    | false => rw [slugFrom_gap hc, ih, List.filter_cons_of_neg (by simp [hc])]
    | true =>
      have hlower := isKept_of_isSmall (isSmall_toLower hc)
      have hrest := ih ⟨some c, false⟩
      obtain ⟨_ | b, g⟩ := behind
      · simp [slugFrom_first hc, hlower, hrest, hc]
      · rw [slugFrom_next hc]
        split <;> simp [isKept_hyphen, hlower, hrest, hc]

/-- Nothing is made of nothing kept. -/
theorem slugFrom_eq_nil_iff {behind : Behind} : slugFrom behind cs = [] ↔ ∀ c ∈ cs, isKept c = false := by
  induction cs generalizing behind with
  | nil => simp
  | cons c r ih =>
    cases hc : isKept c with
    | false => rw [slugFrom_gap hc, ih, List.forall_mem_cons, and_iff_right hc]
    | true =>
      have hne : slugFrom behind (c :: r) ≠ [] := by
        obtain ⟨_ | b, g⟩ := behind
        · simp [slugFrom_first hc]
        · rw [slugFrom_next hc]
          split <;> simp
      simp [hne, hc]

theorem slug_eq_empty_iff {name : String} : slug name = "" ↔ ∀ c ∈ name.toList, isKept c = false := by
  rw [← String.toList_eq_nil_iff, toList_slug]
  exact slugFrom_eq_nil_iff

/-! ## Between two kept characters -/

/-- What a slug has between two kept characters with nothing kept between them. -/
def seam (a : Char) (gap : List Char) (b : Char) : List Char :=
  if gap = [] ∧ (isSmall a && isCapital b) = false then [] else ['-']

theorem seam_cons (a c : Char) (gap : List Char) (b : Char) : seam a (c :: gap) b = ['-'] := by
  simp [seam]

theorem seam_nil (a b : Char) : seam a [] b = if isSmall a && isCapital b then ['-'] else [] := by
  cases h : isSmall a && isCapital b <;> simp [seam, h]

/-- A kept character is all that is remembered of what is read up to it. -/
theorem slugFrom_append_kept (ha : isKept a = true) (behind : Behind) (before rest : List Char) :
    slugFrom behind (before ++ a :: rest) = slugFrom behind (before ++ [a]) ++ slugFrom ⟨some a, false⟩ rest := by
  induction before generalizing behind with
  | nil =>
    obtain ⟨_ | b, g⟩ := behind
    · simp [slugFrom_first ha]
    · simp only [List.nil_append, slugFrom_next ha]
      split <;> rfl
  | cons c before ih =>
    rw [List.cons_append, List.cons_append]
    cases hc : isKept c with
    | false => rw [slugFrom_gap hc, slugFrom_gap hc, ih]
    | true =>
      obtain ⟨_ | b, g⟩ := behind
      · rw [slugFrom_first hc, slugFrom_first hc, ih, List.cons_append]
      · rw [slugFrom_next hc, slugFrom_next hc, ih]
        split <;> rfl

/-- Of a gap it is remembered that it was there. -/
theorem slugFrom_append_gap {gap : List Char} (hgap : ∀ c ∈ gap, isKept c = false) (a : Char) (g : Bool)
    (rest : List Char) :
    slugFrom ⟨some a, g⟩ (gap ++ rest) = slugFrom ⟨some a, g || decide (gap ≠ [])⟩ rest := by
  induction gap generalizing g with
  | nil => simp
  | cons c gap ih =>
    obtain ⟨hc, hgap⟩ := List.forall_mem_cons.1 hgap
    rw [List.cons_append, slugFrom_gap hc, ih hgap]
    simp

/-- **A slug is put together** at any two kept characters with nothing kept
between them: of the slugs of what ends with the one and of what starts
with the other, and of the seam between the two. -/
theorem slugOnePass_append {gap : List Char} (ha : isKept a = true) (hb : isKept b = true)
    (hgap : ∀ c ∈ gap, isKept c = false) (before after : List Char) :
    slugOnePass (before ++ a :: (gap ++ b :: after)) =
      slugOnePass (before ++ [a]) ++ seam a gap b ++ slugOnePass (b :: after) := by
  have hseam : slugFrom ⟨some a, decide (gap ≠ [])⟩ (b :: after) = seam a gap b ++ slugOnePass (b :: after) := by
    rw [slugFrom_next hb, slugOnePass, slugFrom_first hb]
    rcases gap with _ | ⟨c, gap⟩
    · rw [seam_nil]
      cases isSmall a && isCapital b <;> rfl
    · rw [seam_cons]
      rfl
  rw [slugOnePass, slugFrom_append_kept ha, slugFrom_append_gap hgap, Bool.false_or, hseam, List.append_assoc]
  rfl

/-! ## Parts that are read -/

/-- Small letters and digits are read as they are. -/
theorem slugFrom_small (hw : ∀ c ∈ w, isSmall c = true) (b : Char) : slugFrom ⟨some b, false⟩ w = w := by
  induction w generalizing b with
  | nil => rfl
  | cons c w ih =>
    obtain ⟨hc, hw⟩ := List.forall_mem_cons.1 hw
    rw [slugFrom_next (isKept_of_isSmall hc), isCapital_of_isSmall hc, Bool.and_false, Bool.or_false,
      if_neg (by decide), toLower_of_isSmall hc, ih hw]

theorem slugOnePass_part (hw : IsPart w) : slugOnePass w = w := by
  obtain ⟨c, v, rfl, hc, hv⟩ := hw.exists_cons
  rw [slugOnePass, slugFrom_first (isKept_of_isSmall hc), toLower_of_isSmall hc, slugFrom_small hv]

theorem IsPart.exists_concat (h : IsPart w) : ∃ v a, w = v ++ [a] ∧ isSmall a = true := by
  obtain ⟨v, a, rfl⟩ := (List.eq_nil_or_concat' w).resolve_left h.ne_nil
  exact ⟨v, a, rfl, h.small a (by simp)⟩

/-- **Parts with a character between them that is not kept** have their
slug with hyphens there. -/
theorem slugOnePass_intercalate {sep : Char} (hsep : isKept sep = false) {parts : List (List Char)}
    (hparts : ∀ w ∈ parts, IsPart w) : slugOnePass ([sep].intercalate parts) = ['-'].intercalate parts := by
  induction parts with
  | nil => rfl
  | cons w parts ih =>
    obtain ⟨hw, hrest⟩ := List.forall_mem_cons.1 hparts
    rcases parts with _ | ⟨v, parts⟩
    · rw [List.intercalate_singleton, List.intercalate_singleton, slugOnePass_part hw]
    · obtain ⟨before, a, rfl, ha⟩ := hw.exists_concat
      obtain ⟨b, after, rfl, hb, -⟩ := (hrest v List.mem_cons_self).exists_cons
      have happend := slugOnePass_append (isKept_of_isSmall ha) (isKept_of_isSmall hb)
        (List.forall_mem_singleton.2 hsep) before (after ++ parts.flatMap ([sep] ++ ·))
      have hnext : b :: (after ++ parts.flatMap ([sep] ++ ·)) = [sep].intercalate ((b :: after) :: parts) := by
        rw [intercalate_cons, List.cons_append]
      rw [hnext, ih hrest, slugOnePass_part hw, seam_cons] at happend
      rw [List.intercalate_cons_cons, List.intercalate_cons_cons, ← happend]
      simp

/-- A slug is its own slug. -/
theorem slug_slug (name : String) : slug (slug name) = slug name := by
  rw [← String.toList_inj, toList_slug, toList_slug]
  obtain ⟨parts, hparts, heq⟩ := isHyphenated_slugOnePass name.toList
  rw [heq, slugOnePass_intercalate isKept_hyphen hparts]

/-- Parts of a slug as texts. -/
theorem exists_parts_slug (name : String) :
    ∃ parts : List String, (∀ w ∈ parts, IsPart w.toList) ∧ slug name = "-".intercalate parts := by
  obtain ⟨parts, hparts, heq⟩ := isHyphenated_slugOnePass name.toList
  refine ⟨parts.map String.ofList, ?_, ?_⟩
  · rintro _ hw
    obtain ⟨w, hmem, rfl⟩ := List.mem_map.1 hw
    rw [String.toList_ofList]
    exact hparts w hmem
  · rw [← String.toList_inj, toList_slug, heq, String.toList_intercalate, List.map_map]
    congr 1
    simp

/-- **The slug of a name** can be read off in one go: it is the letters and
digits in lower case, and between two of them with none between them a
hyphen if anything stood there, or if the second is a hump. So it is empty
exactly if there are none, it is parts of small letters and digits with one
hyphen between them, and it is its own slug. -/
theorem slug_is_read_once (name : String) :
    (slug name).toList = slugOnePass name.toList ∧
      (slug name).toList.filter isKept = (name.toList.filter isKept).map Char.toLower ∧
      (∀ before gap after a b, name.toList = before ++ a :: (gap ++ b :: after) →
        isKept a = true → isKept b = true → (∀ c ∈ gap, isKept c = false) →
        (slug name).toList = slugOnePass (before ++ [a]) ++ seam a gap b ++ slugOnePass (b :: after)) ∧
      (slug name = "" ↔ ∀ c ∈ name.toList, isKept c = false) ∧
      (∃ parts : List String, (∀ w ∈ parts, IsPart w.toList) ∧ slug name = "-".intercalate parts) ∧
      slug (slug name) = slug name := by
  refine ⟨toList_slug name, ?_, ?_, slug_eq_empty_iff, exists_parts_slug name, slug_slug name⟩
  · rw [toList_slug]
    exact filter_slugFrom _ _
  · intro before gap after a b hname ha hb hgap
    rw [toList_slug, hname, slugOnePass_append ha hb hgap]

example : slug "  HTTP2Check__v1 " = "http2-check-v1" := by decide

end ScriptGrader.Rubric
