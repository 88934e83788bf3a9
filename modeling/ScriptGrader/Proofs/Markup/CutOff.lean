import ScriptGrader.Proofs.Markup.Refusal

/-!
# Documents that are cut off

A document is decoded up to the first character that no document may hold.
In a written one such a character stands in a text, so what is left of the
document ends inside an element, whose end tag never comes. That is told to
be malformed, whatever else the document holds.
-/

namespace ScriptGrader.Markup

/-- What documents are read and written in. -/
local instance : Alphabet := .standard

/-- A text with a character that no document may hold is cut off in front of it. -/
theorem exists_takeWhile_escaped {t : List Char} (h : ¬ AreAllowed t) (rest : List Char) :
    ∃ us, AreAllowed us ∧ (t.flatMap escapeText ++ rest).takeWhile isAllowed = us.flatMap escapeText := by
  induction t with
  | nil => exact absurd areAllowed_nil h
  | cons c t ih =>
    by_cases hc : isAllowed c = true
    · have hescaped : ∀ d ∈ escapeText c, isAllowed d = true := by
        simpa using @isAllowed_of_escaped [c] (List.forall_mem_singleton.2 hc)
      obtain ⟨us, hus, heq⟩ := ih fun ht => h (List.forall_mem_cons.2 ⟨hc, ht⟩)
      refine ⟨c :: us, List.forall_mem_cons.2 ⟨hc, hus⟩, ?_⟩
      rw [List.flatMap_cons, List.append_assoc, List.takeWhile_append_of_pos hescaped, heq, List.flatMap_cons]
    · have hspecial : ¬ IsSpecial c := by
        rintro (rfl | rfl | rfl) <;> exact hc (by decide)
      refine ⟨[], areAllowed_nil, ?_⟩
      rw [List.flatMap_cons, escapeText_of_not hspecial, List.singleton_append, List.cons_append,
        List.takeWhile_cons_of_neg hc]
      rfl

/-- A start tag is not cut off. -/
theorem takeWhile_open {name : List Char} (hname : IsName name) (rest : List Char) :
    ('<' :: (name ++ '>' :: rest)).takeWhile isAllowed = '<' :: (name ++ '>' :: rest.takeWhile isAllowed) := by
  have hopen : isAllowed '<' = true := by decide
  have hclose : isAllowed '>' = true := by decide
  rw [List.takeWhile_cons_of_pos hopen, List.takeWhile_append_of_pos (isAllowed_of_isName hname),
    List.takeWhile_cons_of_pos hclose]

namespace Element

/-- What is written in characters that a document may hold holds no others. -/
theorem areAllowed_of_escaped {t : List Char} (h : ∀ c ∈ t.flatMap escapeText, isAllowed c = true) :
    AreAllowed t := by
  intro c hc
  by_cases hspecial : IsSpecial c
  · rcases hspecial with rfl | rfl | rfl <;> decide
  · exact h c (List.mem_flatMap.2 ⟨c, hc, by rw [escapeText_of_not hspecial, List.mem_singleton]⟩)

mutual

theorem isBare_of_isAllowed : ∀ e : Element, e.IsBare (fun _ => True) →
    (∀ c ∈ e.render [] [], isAllowed c = true) → e.IsBare AreAllowed
  | .mk n attributes t cs, hbare, h => by
    obtain ⟨hspace, hname, rfl, -, hcs⟩ := hbare
    by_cases hempty : t = [] ∧ cs = []
    · obtain ⟨rfl, rfl⟩ := hempty
      exact ⟨hspace, hname, rfl, areAllowed_nil, trivial⟩
    · rw [Content.render_open hspace [] hempty] at h
      refine ⟨hspace, hname, rfl, areAllowed_of_escaped fun c hc => h c ?_,
        areBare_of_isAllowed cs hcs fun c hc => h c ?_⟩
      · simp only [List.mem_cons, List.mem_append]
        exact .inr (.inr (.inr (.inl hc)))
      · simp only [List.mem_cons, List.mem_append]
        exact .inr (.inr (.inr (.inr (.inl hc))))

theorem areBare_of_isAllowed : ∀ cs : List (Element × List Char), AreBare (fun _ => True) cs →
    (∀ c ∈ renderChildren [] cs, isAllowed c = true) → AreBare AreAllowed cs
  | [], _, _ => trivial
  | (e, tail) :: cs, hbare, h => by
    obtain ⟨he, -, hcs⟩ := hbare
    rw [renderChildren, List.append_assoc] at h
    obtain ⟨hrender, h⟩ := List.forall_mem_append.1 h
    obtain ⟨htail, hrest⟩ := List.forall_mem_append.1 h
    exact ⟨isBare_of_isAllowed e he hrender, areAllowed_of_escaped htail, areBare_of_isAllowed cs hcs hrest⟩

end

end Element

namespace Content

variable {expand : List String → Scope → List Char → Except Cause Content} {s : Setting} {total : Nat}

mutual

/-- **An element** in which the text is cut off is refused. -/
theorem refuses_element (hs : s.IsBare total) (hcut : s.ending.isWhole = false) :
    ∀ e : Element, e.IsBare (fun _ => True) → ¬ e.IsBare AreAllowed → ∀ rest : List Char,
      Refuses expand s total ((e.render [] [] ++ rest).takeWhile isAllowed)
  | .mk n attributes t cs, hbare, hnot, rest => by
    obtain ⟨hspace, hname, rfl, -, hcs⟩ := hbare
    have hempty : ¬ (t = [] ∧ cs = []) := by
      rintro ⟨rfl, rfl⟩
      exact hnot ⟨hspace, hname, rfl, areAllowed_nil, trivial⟩
    have hcontent := refuses_content hs hcut t cs hcs (fun h => hnot ⟨hspace, hname, rfl, h.1, h.2⟩)
      ('/' :: (n.text.toList ++ '>' :: rest))
    have hopen := refuses_open hs hname hcontent
    rw [← takeWhile_open hname] at hopen
    rw [render_open hspace [] hempty]
    simpa using hopen

/-- So is the content of an element. -/
theorem refuses_content (hs : s.IsBare total) (hcut : s.ending.isWhole = false) (t : List Char) :
    ∀ cs : List (Element × List Char), Element.AreBare (fun _ => True) cs →
      ¬ (AreAllowed t ∧ Element.AreBare AreAllowed cs) → ∀ rest : List Char,
      Refuses expand s total
        ((t.flatMap escapeText ++ (Element.renderChildren [] cs ++ '<' :: rest)).takeWhile isAllowed)
  | cs, hbare, hnot, rest => by
    by_cases ht : AreAllowed t
    · have hchildren := refuses_children hs hcut cs hbare (fun hcs => hnot ⟨ht, hcs⟩) rest
      -- the text is whole, so the cut is behind it, in the children
      obtain ⟨x, hx⟩ := exists_renderChildren_cons [] cs rest
      have hopen : isAllowed '<' = true := by decide
      rw [hx, List.takeWhile_cons_of_pos hopen] at hchildren
      rw [hx, List.takeWhile_append_of_pos (isAllowed_of_escaped ht), List.takeWhile_cons_of_pos hopen]
      exact (passes_text hs Char.utf8Size_pos ht _).refuses hchildren
    · obtain ⟨us, hus, heq⟩ := exists_takeWhile_escaped ht (Element.renderChildren [] cs ++ '<' :: rest)
      rw [heq]
      exact refuses_text hs Char.utf8Size_pos hcut hus

/-- And so are children, behind those that are whole. -/
theorem refuses_children (hs : s.IsBare total) (hcut : s.ending.isWhole = false) :
    ∀ cs : List (Element × List Char), Element.AreBare (fun _ => True) cs → ¬ Element.AreBare AreAllowed cs →
      ∀ rest : List Char,
      Refuses expand s total ((Element.renderChildren [] cs ++ '<' :: rest).takeWhile isAllowed)
  | [], _, hnot, _ => absurd trivial hnot
  | (e, tail) :: cs, hbare, hnot, rest => by
    obtain ⟨he, -, hcs⟩ := hbare
    rw [Element.renderChildren, List.append_assoc, List.append_assoc]
    by_cases hallowed : e.IsBare AreAllowed
    · have hbehind := refuses_content hs hcut tail cs hcs (fun h => hnot ⟨hallowed, h.1, h.2⟩) rest
      rw [List.takeWhile_append_of_pos (Element.isAllowed_of_mem_render e hallowed)]
      exact (passes_element hs Char.utf8Size_pos [] e hallowed _).refuses hbehind
    · exact refuses_element hs hcut e he hallowed _

end

end Content

namespace Document

variable {e : Element}

/-- **The root of a document that is cut off** is refused. -/
theorem exists_root_eq_error {own : List Char → Nat} {d : Declared} (hd : d.attributes = []) {ending : Ending}
    (hcut : ending.isWhole = false) {total : Nat} (hown : ∀ rest, own rest = total - unitsOf rest)
    (he : e.IsBare fun _ => True) (hnot : ¬ e.IsBare AreAllowed)
    (htotal : unitsOf ((e.render [] []).takeWhile isAllowed) ≤ total) :
    ∃ halt, root own d ending ((e.render [] []).takeWhile isAllowed) = .error halt := by
  obtain ⟨n, attributes, t, cs⟩ := e
  obtain ⟨hspace, hname, rfl, -, hcs⟩ := he
  have hempty : ¬ (t = [] ∧ cs = []) := by
    rintro ⟨rfl, rfl⟩
    exact hnot ⟨hspace, hname, rfl, areAllowed_nil, trivial⟩
  rw [Content.render_open hspace [] hempty, takeWhile_open hname] at htotal ⊢
  have hbare : (rootSetting own d ending).IsBare total := ⟨rfl, hd, hown⟩
  have hinside := @Content.refuses_content (Content.expand d d.entities.length) _ _ hbare hcut t cs hcs
    (fun h => hnot ⟨hspace, hname, rfl, h.1, h.2⟩) ('/' :: (n.text.toList ++ ['>']))
  generalize (t.flatMap escapeText ++ (Element.renderChildren [] cs ++
    '<' :: '/' :: (n.text.toList ++ ['>']))).takeWhile isAllowed = inner at htotal hinside ⊢
  generalize n.text.toList = name at hname htotal ⊢
  obtain ⟨hfuel, hunits⟩ := content_fits htotal
  obtain ⟨halt, hread⟩ := hinside _ 0 hfuel hunits
  exact ⟨halt, by rw [root_open hd hname, hread]; rfl⟩

/-- **A document that is cut off** is refused. -/
theorem exists_prologue_cut_eq_error {own : List Char → Nat} {d : Declared} (hd : d.attributes = [])
    {ending : Ending} (hcut : ending.isWhole = false) {total : Nat} (hown : ∀ rest, own rest = total - unitsOf rest)
    (he : e.IsBare fun _ => True) (hnot : ¬ e.IsBare AreAllowed)
    (htotal : unitsOf ((e.render [] []).takeWhile isAllowed) ≤ total) (fuel : Nat) :
    ∃ halt, prologue own ending (fuel + 1) d false ('\n' :: (e.render [] []).takeWhile isAllowed) =
      .error halt := by
  obtain ⟨halt, hroot⟩ := exists_root_eq_error hd hcut hown he hnot htotal
  obtain ⟨c, r, heq, hc⟩ := exists_render_name he
  have hopen : isAllowed '<' = true := by decide
  have hallowed : isAllowed c = true := isAllowed_of_isNameChar (isNameChar_of_isNameStart hc)
  rw [heq, List.takeWhile_cons_of_pos hopen, List.takeWhile_cons_of_pos hallowed] at hroot ⊢
  exact ⟨halt, by rw [prologue, next_root _ hc]; exact hroot⟩

end Document

/-- **A document with a character that no document may hold** is malformed. -/
theorem exists_malformed_of_not_allowed {e : Element} (he : e.IsBare fun _ => True)
    (hnot : ¬ e.IsBare AreAllowed) :
    ∃ cause place, read? (Text.encode (String.ofList e.document)) = .error (.malformed cause place) := by
  obtain ⟨ending, hending, heq⟩ := Document.element?_heading (e.render [] [])
  -- if the whole text were allowed, so would the document be
  have hcut : ending.isWhole = false := by
    rw [hending, Bool.eq_false_iff]
    exact fun hall => hnot (Element.isBare_of_isAllowed e he (List.all_eq_true.1 hall))
  have hunits : unitsOf ((e.render [] []).takeWhile isAllowed) ≤
      unitsOf (Document.declarationText ++ '\n' :: (e.render [] []).takeWhile isAllowed) := by
    rw [unitsOf_append, unitsOf]
    omega
  have hattributes : { Declared.empty with standalone := false }.attributes = [] := rfl
  obtain ⟨halt, hprologue⟩ := Document.exists_prologue_cut_eq_error hattributes hcut
    (fun rest => Nat.mul_one _) he hnot hunits _
  obtain ⟨cause, place, herror⟩ := Document.exists_errorOf_eq _ ending halt
  refine ⟨cause, place, ?_⟩
  rw [read?_written he, Document.document_text he, heq, hprologue]
  exact congrArg Except.error herror

end ScriptGrader.Markup
