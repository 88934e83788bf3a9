import ScriptGrader.Check.Scripted
import ScriptGrader.Proofs.Rubric.Acceptance
import ScriptGrader.Proofs.Rubric.Slug

/-!
# Spellings of a name

Words make a name in two ways: with an underscore between them, or with a
capital at the start of each. The slug of the first spelling is always the
words with hyphens between them. That of the second is so exactly if no
word but the last is a single letter: the capital behind a single letter
follows a capital, and is no hump. Only where the two agree are they kept
apart by a rubric.
-/

namespace ScriptGrader.Rubric

/-- A word of a name: a small letter, and small letters or digits behind it. -/
structure Word where
  first : Char
  rest : List Char
  first_letter : 'a' ≤ first ∧ first ≤ 'z'
  rest_small : ∀ c ∈ rest, isSmall c = true

namespace Word

def chars (w : Word) : List Char := w.first :: w.rest

/-- The word with a capital. -/
def capitalized (w : Word) : List Char := w.first.toUpper :: w.rest

def text (w : Word) : String := String.ofList w.chars

variable (w : Word)

theorem isSmall_first : isSmall w.first = true := by
  simp [isSmall, w.first_letter.1, w.first_letter.2]

theorem isPart_chars : IsPart w.chars :=
  ⟨List.cons_ne_nil _ _, List.forall_mem_cons.2 ⟨w.isSmall_first, w.rest_small⟩⟩

/-- A letter and its capital. -/
theorem upper_first : isCapital w.first.toUpper = true ∧ isSmall w.first.toUpper = false ∧
    w.first.toUpper.toLower = w.first :=
  of_forall_ascii
    (P := fun c => 'a' ≤ c ∧ c ≤ 'z' →
      isCapital c.toUpper = true ∧ isSmall c.toUpper = false ∧ c.toUpper.toLower = c)
    (by decide) (isKept_of_isSmall w.isSmall_first) w.first_letter

theorem isKept_upper : isKept w.first.toUpper = true := by
  simp [isKept, w.upper_first.1]

theorem slugOnePass_capitalized : slugOnePass w.capitalized = w.chars := by
  rw [slugOnePass, capitalized, slugFrom_first w.isKept_upper, w.upper_first.2.2, slugFrom_small w.rest_small, chars]

/-- A capitalised word ends with a small letter or digit, unless it is a single letter. -/
theorem exists_capitalized_eq_concat :
    ∃ v a, w.capitalized = v ++ [a] ∧ isKept a = true ∧ (isSmall a = true ↔ w.rest ≠ []) := by
  rcases List.eq_nil_or_concat' w.rest with hnil | ⟨v, a, hv⟩
  · exact ⟨[], _, by rw [capitalized, hnil]; rfl, w.isKept_upper, by simp [w.upper_first.2.1, hnil]⟩
  · have ha := w.rest_small a (by simp [hv])
    exact ⟨w.first.toUpper :: v, a, by rw [capitalized, hv]; rfl, isKept_of_isSmall ha, by simp [ha, hv]⟩

end Word

/-- Words with a capital at the start of each. -/
def camelCase (words : List Word) : String := String.ofList (words.flatMap Word.capitalized)

/-- Words with an underscore between them. -/
def snakeCase (words : List Word) : String := "_".intercalate (words.map Word.text)

/-- Words with a hyphen between them. -/
def kebabCase (words : List Word) : String := "-".intercalate (words.map Word.text)

variable {words : List Word}

theorem map_toList_text (words : List Word) : (words.map Word.text).map String.toList = words.map Word.chars := by
  rw [List.map_map]
  exact List.map_congr_left fun w _ => String.toList_ofList

theorem toList_kebabCase (words : List Word) :
    (kebabCase words).toList = ['-'].intercalate (words.map Word.chars) := by
  rw [kebabCase, String.toList_intercalate, map_toList_text]
  rfl

theorem toList_snakeCase (words : List Word) :
    (snakeCase words).toList = ['_'].intercalate (words.map Word.chars) := by
  rw [snakeCase, String.toList_intercalate, map_toList_text]
  rfl

/-- **Underscores** become hyphens. -/
theorem slug_snakeCase (words : List Word) : slug (snakeCase words) = kebabCase words := by
  have hparts : ∀ w ∈ words.map Word.chars, IsPart w := by
    intro w hw
    obtain ⟨v, -, rfl⟩ := List.mem_map.1 hw
    exact v.isPart_chars
  rw [← String.toList_inj, toList_slug, toList_snakeCase, slugOnePass_intercalate (by decide) hparts,
    toList_kebabCase]

/-- A capital behind a word becomes a hyphen, unless the word is a single letter. -/
theorem slugOnePass_capitalized_cons (w v : Word) (words : List Word) :
    slugOnePass ((w :: v :: words).flatMap Word.capitalized) =
      w.chars ++ (if w.rest = [] then [] else ['-']) ++ slugOnePass ((v :: words).flatMap Word.capitalized) := by
  obtain ⟨front, a, hw, ha, hsmall⟩ := w.exists_capitalized_eq_concat
  have hseam : seam a [] v.first.toUpper = if w.rest = [] then [] else ['-'] := by
    rw [seam_nil, v.upper_first.1, Bool.and_true]
    by_cases hrest : w.rest = []
    · simp [hrest, hsmall]
    · simp [hrest, hsmall.2 hrest]
  have happend := slugOnePass_append ha v.isKept_upper (List.forall_mem_nil fun c => isKept c = false) front
    (v.rest ++ words.flatMap Word.capitalized)
  rw [← hw, w.slugOnePass_capitalized, hseam] at happend
  rw [List.flatMap_cons, List.flatMap_cons, hw, List.append_assoc]
  exact happend

/-- A slug of capitalised words starts with the first letter of the first. -/
theorem exists_slugOnePass_capitalized (w : Word) (words : List Word) :
    ∃ t, slugOnePass ((w :: words).flatMap Word.capitalized) = w.first :: t := by
  rw [List.flatMap_cons, Word.capitalized, List.cons_append, slugOnePass, slugFrom_first w.isKept_upper,
    w.upper_first.2.2]
  exact ⟨_, rfl⟩

/-- **Capitals** become hyphens exactly if no word but the last is a single letter. -/
theorem slugOnePass_capitalized_eq_iff :
    slugOnePass (words.flatMap Word.capitalized) = ['-'].intercalate (words.map Word.chars) ↔
      ∀ w ∈ words.dropLast, w.rest ≠ [] := by
  induction words with
  | nil => simp [slugOnePass]
  | cons w words ih =>
    rcases words with _ | ⟨v, words⟩
    · simp [w.slugOnePass_capitalized]
    · rw [slugOnePass_capitalized_cons, List.dropLast_cons_cons, List.forall_mem_cons, ← ih, List.map_cons,
        List.map_cons, List.intercalate_cons_cons, ← List.map_cons]
      by_cases hrest : w.rest = []
      · -- the next word follows at once, and it starts with a letter
        obtain ⟨t, ht⟩ := exists_slugOnePass_capitalized v words
        have hne := ne_hyphen_of_isKept (isKept_of_isSmall v.isSmall_first)
        rw [hrest, if_pos rfl, ht]
        simp [hne]
      · simp [hrest]

theorem slug_camelCase_eq_iff : slug (camelCase words) = kebabCase words ↔ ∀ w ∈ words.dropLast, w.rest ≠ [] := by
  rw [← String.toList_inj, toList_slug, toList_kebabCase, camelCase, String.toList_ofList,
    slugOnePass_capitalized_eq_iff]

/-! ## Both spellings in a rubric -/

/-- Two names with one slug are never both taken. -/
theorem exists_ofOffers?_eq_error {m n : String} {offers : List EntryOffer} (hslug : slug m = slug n) (hne : m ≠ n)
    (hm : ∃ o ∈ offers, o.name? = some m) (hn : ∃ o ∈ offers, o.name? = some n) :
    ∃ e, ofOffers? offers = .error e := by
  rcases h : ofOffers? offers with e | r
  · exact ⟨e, rfl⟩
  obtain ⟨-, hnodup⟩ := forall_not_isMisfit_iff.1 (exists_ofOffers?_eq_ok_iff.1 ⟨r, h⟩)
  obtain ⟨o, ho, hom⟩ := hm
  obtain ⟨o', ho', hon⟩ := hn
  have hsame : o.slug? = o'.slug? := by
    rw [EntryOffer.slug?, EntryOffer.slug?, hom, hon, Option.map_some, Option.map_some, hslug]
  obtain rfl := List.inj_on_of_nodup_map hnodup ho ho' hsame
  rw [hom] at hon
  exact absurd (Option.some.inj hon) hne

/-- The offer of a check that has nothing special but its name. -/
def offerNamed (name : String) : EntryOffer :=
  .entry (.check (.scripted (.text name) (.ok .functional) .succeed)) (.bool true) (.int 1)

theorem isValid_offerNamed {name : String} (h : slug name ≠ "") : (offerNamed name).IsValid := by
  have hname : name ≠ "" := by
    rintro rfl
    exact h (by decide)
  refine ⟨⟨name, "ScriptedCheck", .functional, fun p => ⟨[], ScriptedAct.succeed.run p⟩, true, .whole 1, h, rfl⟩, ?_⟩
  simp only [offerNamed, Check.scripted, Entry.ofOffer?, if_neg hname, dif_pos h]
  rfl

/-- Two names with slugs of their own make a rubric. -/
theorem exists_ofOffers?_offerNamed {m n : String} (hm : slug m ≠ "") (hn : slug n ≠ "") (hslug : slug m ≠ slug n) :
    ∃ r, ofOffers? [offerNamed m, offerNamed n] = .ok r := by
  refine exists_ofOffers?_eq_ok_iff.2 (forall_not_isMisfit_iff.2 ⟨?_, ?_⟩)
  · exact List.forall_mem_cons.2
      ⟨isValid_offerNamed hm, List.forall_mem_singleton.2 (isValid_offerNamed hn)⟩
  · have hne : (offerNamed m).slug? ≠ (offerNamed n).slug? := fun h => hslug (Option.some.inj h)
    simpa using hne

/-- One spelling starts with a capital, and the other with a small letter. -/
theorem exists_toList_spellings (h : words ≠ []) : ∃ (w : Word) (s t : List Char),
    (camelCase words).toList = w.first.toUpper :: s ∧ (snakeCase words).toList = w.first :: t := by
  obtain ⟨w, words, rfl⟩ := List.exists_cons_of_ne_nil h
  refine ⟨w, w.rest ++ words.flatMap Word.capitalized, w.rest ++ (words.map Word.chars).flatMap (['_'] ++ ·), ?_, ?_⟩
  · rw [camelCase, String.toList_ofList, List.flatMap_cons]
    rfl
  · rw [toList_snakeCase, List.map_cons, intercalate_cons]
    rfl

theorem camelCase_ne_snakeCase (h : words ≠ []) : camelCase words ≠ snakeCase words := by
  obtain ⟨w, s, t, hcamel, hsnake⟩ := exists_toList_spellings h
  intro heq
  rw [heq, hsnake] at hcamel
  have hsmall := w.upper_first.2.1
  rw [← (List.cons.inj hcamel).1, w.isSmall_first] at hsmall
  cases hsmall

theorem slug_spellings_ne_empty (h : words ≠ []) : slug (camelCase words) ≠ "" ∧ slug (snakeCase words) ≠ "" := by
  obtain ⟨w, s, t, hcamel, hsnake⟩ := exists_toList_spellings h
  rw [Ne, Ne, slug_eq_empty_iff, slug_eq_empty_iff, hcamel, hsnake]
  simp [w.isKept_upper, isKept_of_isSmall w.isSmall_first]

/-- **Spellings share a slug** as far as no word but the last is a single
letter. The slug of words with underscores is always the words with hyphens.
That of words with capitals is so, and a rubric always refuses the two
spellings together, exactly if no word but the last is a single letter. -/
theorem spellings_share_slug_iff (words : List Word) (h : words ≠ []) :
    slug (snakeCase words) = kebabCase words ∧
      (slug (camelCase words) = kebabCase words ↔ ∀ w ∈ words.dropLast, w.rest ≠ []) ∧
      ((∀ offers : List EntryOffer, (∃ o ∈ offers, o.name? = some (camelCase words)) →
          (∃ o ∈ offers, o.name? = some (snakeCase words)) → ∃ e, ofOffers? offers = .error e) ↔
        ∀ w ∈ words.dropLast, w.rest ≠ []) := by
  refine ⟨slug_snakeCase words, slug_camelCase_eq_iff, ?_⟩
  rw [← slug_camelCase_eq_iff, ← slug_snakeCase]
  constructor
  · intro hrefused
    by_contra hslug
    obtain ⟨hcamel, hsnake⟩ := slug_spellings_ne_empty h
    obtain ⟨r, hr⟩ := exists_ofOffers?_offerNamed hcamel hsnake hslug
    obtain ⟨e, he⟩ := hrefused [offerNamed (camelCase words), offerNamed (snakeCase words)]
      ⟨_, List.mem_cons_self, rfl⟩ ⟨_, List.mem_cons_of_mem _ List.mem_cons_self, rfl⟩
    rw [hr] at he
    cases he
  · intro hslug offers hcamel hsnake
    exact exists_ofOffers?_eq_error hslug (camelCase_ne_snakeCase h) hcamel hsnake

/-- `return` and `usage`. -/
def returnUsage : List Word :=
  [{ first := 'r', rest := "eturn".toList, first_letter := by decide, rest_small := List.all_eq_true.1 (by decide) },
    { first := 'u', rest := "sage".toList, first_letter := by decide, rest_small := List.all_eq_true.1 (by decide) }]

theorem returnUsage_shares_slug :
    camelCase returnUsage = "ReturnUsage" ∧ snakeCase returnUsage = "return_usage" ∧
      slug "return_usage" = "return-usage" ∧ slug "ReturnUsage" = "return-usage" ∧
      ∃ e, ofOffers? [offerNamed "ReturnUsage", offerNamed "return_usage"] = .error e := by
  have hcamel : camelCase returnUsage = "ReturnUsage" := by decide
  have hsnake : snakeCase returnUsage = "return_usage" := by decide
  have hkebab : kebabCase returnUsage = "return-usage" := by decide
  have hlong : ∀ w ∈ returnUsage.dropLast, w.rest ≠ [] := by decide
  obtain ⟨hslugSnake, hslugCamel, hrefused⟩ := spellings_share_slug_iff returnUsage (by decide)
  rw [hsnake, hkebab] at hslugSnake
  rw [hcamel, hkebab] at hslugCamel
  rw [hcamel, hsnake] at hrefused
  exact ⟨hcamel, hsnake, hslugSnake, hslugCamel.2 hlong,
    hrefused.2 hlong _ ⟨_, List.mem_cons_self, rfl⟩ ⟨_, List.mem_cons_of_mem _ List.mem_cons_self, rfl⟩⟩

/-- `x` and `axis`. -/
def xAxis : List Word :=
  [{ first := 'x', rest := [], first_letter := by decide, rest_small := List.all_eq_true.1 (by decide) },
    { first := 'a', rest := "xis".toList, first_letter := by decide, rest_small := List.all_eq_true.1 (by decide) }]

/-- Not all words have one slug in both spellings. -/
theorem not_forall_spellings_share_slug :
    ¬ ∀ words : List Word, words ≠ [] → slug (camelCase words) = slug (snakeCase words) := by
  intro h
  have hslug := h xAxis (by decide)
  -- the one is `xaxis`, the other `x-axis`
  revert hslug
  decide

end ScriptGrader.Rubric
