import ScriptGrader.Proofs.Markup.Content

/-!
# Reading written elements

An element that was written without namespaces and attributes is passed in
front of any text, and is read with its lines ended by line feeds. One whose
texts hold no carriage return is read as it was.
-/

namespace ScriptGrader.Markup

namespace Element

mutual

/-- An element as it is read: every end of a line is a line feed. -/
def reread : Element → Element
  | mk n attributes t cs => mk n attributes (Text.universalNewlines t) (rereadChildren cs)

def rereadChildren : List (Element × List Char) → List (Element × List Char)
  | [] => []
  | (c, tail) :: r => (reread c, Text.universalNewlines tail) :: rereadChildren r

end

theorem isText_lineStart (level : Nat) : IsText (lineStart level) := by
  intro c hc
  rw [lineStart, List.mem_cons] at hc
  rcases hc with rfl | hc
  · exact ⟨by decide, by decide⟩
  · obtain ⟨-, rfl⟩ := List.mem_replicate.1 hc
    exact ⟨by decide, by decide⟩

/-- What holds of the beginnings of lines holds of what stands for a blank text. -/
theorem holds_unlessBlank {P : List Char → Prop} (hline : ∀ level, P (lineStart level)) {cs : List Char}
    (h : P cs) (level : Nat) :
    P (unlessBlank cs (lineStart level)) := by
  rw [unlessBlank]
  split
  · exact hline level
  · exact h

end Element

namespace Content

/-! ## What is written -/

theorem labelled_plain {n : Name} (h : n.space = none) (labels : List (String × String)) :
    labelled labels n = n.text.toList := by
  simp only [labelled, h]

theorem plain_text {n : Name} (h : n.space = none) : Name.plain (String.ofList n.text.toList) = n := by
  rw [String.ofList_toList]
  obtain ⟨space, text⟩ := n
  cases h
  rfl

/-- An element without content. -/
theorem render_closed {n : Name} (h : n.space = none) (labels : List (String × String)) :
    (Element.mk n [] [] []).render labels [] = '<' :: (n.text.toList ++ [' ', '/', '>']) := by
  rw [Element.render, labelled_plain h]
  simp [attributesText]

/-- An element with content. -/
theorem render_open {n : Name} (h : n.space = none) (labels : List (String × String)) {t : List Char}
    {cs : List (Element × List Char)} (hcontent : ¬ (t = [] ∧ cs = [])) :
    (Element.mk n [] t cs).render labels [] =
      '<' :: (n.text.toList ++ '>' :: (t.flatMap escapeText ++ (Element.renderChildren labels cs ++
        '<' :: '/' :: (n.text.toList ++ ['>'])))) := by
  have hempty : ¬ (t.isEmpty && cs.isEmpty) = true := by
    rwa [Bool.and_eq_true, List.isEmpty_iff, List.isEmpty_iff]
  rw [Element.render, labelled_plain h]
  simp [attributesText, hempty]

/-- An element begins with the bracket of its tag. -/
theorem exists_render_cons (labels : List (String × String)) (declared : List Char) (e : Element) :
    ∃ r, e.render labels declared = '<' :: r := by
  obtain ⟨n, attributes, t, cs⟩ := e
  rw [Element.render]
  split <;> exact ⟨_, rfl⟩

/-- What stands between an element's text and its end begins with a bracket. -/
theorem exists_renderChildren_cons (labels : List (String × String)) (cs : List (Element × List Char))
    (r : List Char) : ∃ x, Element.renderChildren labels cs ++ '<' :: r = '<' :: x := by
  cases cs with
  | nil => exact ⟨r, by rw [Element.renderChildren, List.nil_append]⟩
  | cons d ds =>
    obtain ⟨e, tail⟩ := d
    obtain ⟨x, hx⟩ := exists_render_cons labels [] e
    exact ⟨_, by rw [Element.renderChildren, hx]; rfl⟩

end Content

variable [a : Alphabet]

namespace Element

mutual

/-- An element that is written without namespaces and attributes, and whose
texts have a property. -/
def IsBare (P : List Char → Prop) : Element → Prop
  | mk n attributes t cs =>
    n.space = none ∧ IsName n.text.toList ∧ attributes = [] ∧ P t ∧ AreBare P cs

def AreBare (P : List Char → Prop) : List (Element × List Char) → Prop
  | [] => True
  | (c, tail) :: r => IsBare P c ∧ P tail ∧ AreBare P r

end

/-- An element that is written without namespaces and attributes, and whose
texts are read as they are written. -/
def IsPlain (e : Element) : Prop := e.IsBare IsText

def ArePlain (cs : List (Element × List Char)) : Prop := AreBare IsText cs

variable {P Q : List Char → Prop}

mutual

theorem IsBare.imp (h : ∀ t, P t → Q t) : ∀ {e : Element}, e.IsBare P → e.IsBare Q
  | mk _ _ t _, ⟨hspace, hname, hattributes, ht, hcs⟩ => ⟨hspace, hname, hattributes, h t ht, AreBare.imp h hcs⟩

theorem AreBare.imp (h : ∀ t, P t → Q t) : ∀ {cs : List (Element × List Char)}, AreBare P cs → AreBare Q cs
  | [], _ => trivial
  | (_, tail) :: _, ⟨hc, htail, hr⟩ => ⟨IsBare.imp h hc, h tail htail, AreBare.imp h hr⟩

end

mutual

/-- A plain element is read as it is written. -/
theorem IsPlain.reread_eq : ∀ {e : Element}, e.IsPlain → e.reread = e
  | mk _ _ t _, ⟨_, _, _, ht, hcs⟩ => by rw [reread, IsText.universalNewlines_eq ht, ArePlain.rereadChildren_eq hcs]

theorem ArePlain.rereadChildren_eq : ∀ {cs : List (Element × List Char)}, ArePlain cs → rereadChildren cs = cs
  | [], _ => rereadChildren.eq_1
  | (_, tail) :: _, ⟨hc, htail, hr⟩ => by
    rw [rereadChildren, IsPlain.reread_eq hc, IsText.universalNewlines_eq htail, ArePlain.rereadChildren_eq hr]

end

mutual

/-- **Indentation** keeps an element bare. -/
theorem isBare_indentAt (hline : ∀ level, P (lineStart level)) (level : Nat) :
    ∀ {e : Element}, e.IsBare P → (indentAt level e).IsBare P
  | mk n a t [], h => by rwa [indentAt]
  | mk n a t (c :: cs), h => by
    obtain ⟨hspace, hname, hattributes, htext, hcs⟩ := h
    rw [indentAt]
    exact ⟨hspace, hname, hattributes, holds_unlessBlank hline htext (level + 1),
      areBare_indentChildren hline level hcs⟩

theorem areBare_indentChildren (hline : ∀ level, P (lineStart level)) (level : Nat) :
    ∀ {cs : List (Element × List Char)}, AreBare P cs → AreBare P (indentChildren level cs)
  | [], h => by rwa [indentChildren]
  | [(c, tail)], h => by
    obtain ⟨hc, htail, -⟩ := h
    rw [indentChildren]
    exact ⟨isBare_indentAt hline (level + 1) hc, holds_unlessBlank hline htail level, trivial⟩
  | (c, tail) :: d :: r, h => by
    obtain ⟨hc, htail, hr⟩ := h
    rw [indentChildren]
    exact ⟨isBare_indentAt hline (level + 1) hc, holds_unlessBlank hline htail (level + 1),
      areBare_indentChildren hline level hr⟩

end

/-- Indentation keeps an element plain. -/
theorem isPlain_indentAt (level : Nat) {e : Element} (h : e.IsPlain) : (indentAt level e).IsPlain :=
  isBare_indentAt isText_lineStart level h

theorem isBare_leaf {name text : String} (hname : IsName name.toList) (htext : P text.toList) :
    (leaf name text).IsBare P :=
  ⟨rfl, hname, rfl, htext, trivial⟩

theorem areBare_map (hnil : P []) {children : List Element} (h : ∀ c ∈ children, c.IsBare P) :
    AreBare P (children.map fun c => (c, [])) := by
  induction children with
  | nil => trivial
  | cons c cs ih => exact ⟨h c List.mem_cons_self, hnil, ih fun d hd => h d (List.mem_cons_of_mem c hd)⟩

theorem isBare_branch (hnil : P []) {name : String} (hname : IsName name.toList) {children : List Element}
    (h : ∀ c ∈ children, c.IsBare P) : (branch name children).IsBare P :=
  ⟨rfl, hname, rfl, hnil, areBare_map hnil h⟩

theorem isPlain_leaf {name text : String} (hname : IsName name.toList) (htext : IsText text.toList) :
    (leaf name text).IsPlain := isBare_leaf hname htext

end Element

namespace Content

variable {expand : List String → Scope → List Char → Except Cause Content} {s : Setting} {total : Nat}
variable {text rest : List Char} {c : Content} {stop : Option (String × List Char)}

/-- The name of an element begins no other markup. -/
theorem head_ne_of_isName {cs : List Char} (h : IsName cs) (r : List Char) :
    (∀ x, cs ++ r ≠ '/' :: x) ∧ (∀ x, cs ++ r ≠ '!' :: x) ∧ ∀ x, cs ++ r ≠ '?' :: x := by
  obtain ⟨d, ds, rfl, hd, -⟩ := h
  refine ⟨fun x hx => ?_, fun x hx => ?_, fun x hx => ?_⟩
  -- a name begins with none of the three marks
  all_goals
    obtain ⟨rfl, -⟩ := List.cons.inj hx
    revert hd
    simp [isNameStart, isLetter]

/-- **The start tag of an element** with content. What is inside is read first. -/
theorem read_open (hs : s.IsBare total) {name : List Char} (hname : IsName name) (inner : List Char)
    (fuel added : Nat) :
    read expand s (fuel + 1) [] added ('<' :: (name ++ '>' :: inner)) = (do
      let (inside, stop, added, r) ← read expand s fuel [] added inner
      match stop with
      | none => .error (.fault .unbalancedEntity [])
      | some (endName, place) =>
        if endName ≠ String.ofList name then .error (.fault .mismatchedTag place)
        else (read expand s fuel [] added r).map fun x =>
          (x.1.consChild (.mk (.plain (String.ofList name)) [] inside.text inside.children), x.2)) := by
  obtain ⟨k, hk⟩ : ∃ k, (name ++ '>' :: inner).length = k + 1 :=
    ⟨name.length + inner.length, by simp only [List.length_append, List.length_cons]; omega⟩
  obtain ⟨hslash, hmark, hquestion⟩ := head_ne_of_isName hname ('>' :: inner)
  rw [read]
  · simp only [hk, Scan.startTag_open hname, StartTag.references, List.flatMap_nil, grow_nil,
      StartTag.resolve_plain hs.attributes, Label.text, bind, Except.bind, pure, Except.pure,
      Except.mapError, Bool.false_eq_true, if_false]
    rcases read expand s fuel [] added inner with halt | ⟨inside, _ | ⟨endName, place⟩, more, r⟩
    · rfl
    · rfl
    · cases read expand s fuel [] more r <;> rfl
  all_goals simp [hslash, hmark, hquestion]

/-- An element with content is passed when its inside is read up to its end tag. -/
theorem passes_open (hs : s.IsBare total) {name : List Char} (hname : IsName name) {inner after : List Char}
    {inside : Content} {place : List Char}
    (hinside : Reads expand s total (inner ++ after) inside (some (String.ofList name, place)) after) :
    Passes expand s total ('<' :: (name ++ '>' :: inner))
      (consChild (.mk (.plain (String.ofList name)) [] inside.text inside.children)) after := by
  intro fuel added hfuel hadded
  have heq : '<' :: (name ++ '>' :: inner) ++ after = '<' :: (name ++ '>' :: (inner ++ after)) := by simp
  rw [heq] at hfuel hadded ⊢
  obtain ⟨fuel, rfl⟩ : ∃ n, fuel = n + 1 := ⟨fuel - 1, by omega⟩
  simp only [List.length_append, List.length_cons] at hfuel
  have hinner : (inner ++ after).length < fuel := by
    rw [List.length_append]
    omega
  rw [unitsOf, unitsOf_append, unitsOf] at hadded
  -- what references add inside counts behind the element too
  obtain ⟨added', hread, hunits⟩ := hinside fuel added hinner (by omega)
  refine ⟨fuel, added', by omega, hunits, ?_⟩
  rw [read_open hs hname, hread]
  simp only [bind, Except.bind, ne_eq, not_true_eq_false, if_false]

/-- Where the inside of an element is refused, the element is. -/
theorem refuses_open (hs : s.IsBare total) {name : List Char} (hname : IsName name) {inner : List Char}
    (hinside : Refuses expand s total inner) : Refuses expand s total ('<' :: (name ++ '>' :: inner)) := by
  intro fuel added hfuel hadded
  obtain ⟨fuel, rfl⟩ : ∃ n, fuel = n + 1 := ⟨fuel - 1, by omega⟩
  simp only [List.length_append, List.length_cons] at hfuel
  rw [unitsOf, unitsOf_append, unitsOf] at hadded
  obtain ⟨halt, hread⟩ := hinside fuel added (by omega) (by omega)
  exact ⟨halt, by rw [read_open hs hname, hread]; rfl⟩

/-- **An element without content.** -/
theorem passes_closed (hs : s.IsBare total) {name : List Char} (hname : IsName name) (text : List Char) :
    Passes expand s total ('<' :: (name ++ [' ', '/', '>']))
      (consChild (.mk (.plain (String.ofList name)) [] [] [])) text := by
  intro fuel added hfuel hadded
  have heq : '<' :: (name ++ [' ', '/', '>']) ++ text = '<' :: (name ++ ' ' :: '/' :: '>' :: text) := by simp
  rw [heq] at hfuel hadded ⊢
  obtain ⟨fuel, rfl⟩ : ∃ n, fuel = n + 1 := ⟨fuel - 1, by omega⟩
  obtain ⟨k, hk⟩ : ∃ k, (name ++ ' ' :: '/' :: '>' :: text).length = k + 1 :=
    ⟨name.length + text.length + 2, by simp only [List.length_append, List.length_cons]; omega⟩
  simp only [List.length_append, List.length_cons] at hfuel
  simp only [unitsOf, unitsOf_append] at hadded
  refine ⟨fuel, added, by omega, by omega, ?_⟩
  obtain ⟨hslash, hmark, hquestion⟩ := head_ne_of_isName hname (' ' :: '/' :: '>' :: text)
  rw [read]
  · simp only [hk, Scan.startTag_empty hname, StartTag.references, List.flatMap_nil, grow_nil,
      StartTag.resolve_plain hs.attributes, bind, Except.bind, pure, Except.pure, Except.mapError, if_true]
    cases read expand s fuel [] added text <;> rfl
  all_goals simp [hslash, hmark, hquestion]

/-! ## Elements -/

mutual

/-- **A written element** is passed, whatever comes behind it. -/
theorem passes_element (hs : s.IsBare total) (hsize : ∀ d, 0 < a.size d)
    (labels : List (String × String)) :
    ∀ (e : Element), e.IsBare AreAllowed → ∀ text : List Char,
      Passes expand s total (e.render labels []) (consChild e.reread) text
  | .mk n attributes t cs, hbare, text => by
    obtain ⟨hspace, hname, rfl, htext, hcs⟩ := hbare
    by_cases hempty : t = [] ∧ cs = []
    · obtain ⟨rfl, rfl⟩ := hempty
      have hpass := @passes_closed _ expand s total hs _ hname text
      rw [plain_text hspace] at hpass
      rw [render_closed hspace]
      exact hpass
    · have hread := reads_content hs hsize labels t cs htext hcs hname text
      have hinside : Reads expand s total (t.flatMap escapeText ++ (Element.renderChildren labels cs ++
          '<' :: '/' :: (n.text.toList ++ ['>'])) ++ text) ⟨Text.universalNewlines t, Element.rereadChildren cs⟩
          (some (String.ofList n.text.toList, n.text.toList ++ '>' :: text)) text := by
        simpa using hread
      have hpass := passes_open hs hname hinside
      rw [plain_text hspace] at hpass
      rw [render_open hspace labels hempty]
      exact hpass

/-- The content of an element and its end tag. -/
theorem reads_content (hs : s.IsBare total) (hsize : ∀ d, 0 < a.size d)
    (labels : List (String × String)) (t : List Char) :
    ∀ (cs : List (Element × List Char)), AreAllowed t → Element.AreBare AreAllowed cs →
      ∀ {name : List Char}, IsName name → ∀ rest : List Char,
      Reads expand s total
        (t.flatMap escapeText ++ (Element.renderChildren labels cs ++ '<' :: '/' :: (name ++ '>' :: rest)))
        ⟨Text.universalNewlines t, Element.rereadChildren cs⟩
        (some (String.ofList name, name ++ '>' :: rest)) rest
  | cs, htext, hcs, name, hname, rest => by
    have hchildren := reads_children hs hsize labels cs hcs hname rest
    obtain ⟨x, hx⟩ := exists_renderChildren_cons labels cs ('/' :: (name ++ '>' :: rest))
    rw [hx] at hchildren ⊢
    have hread := (passes_text hs hsize htext x).reads hchildren
    simpa [consText] using hread

/-- Children with the texts behind them, and the end tag of their parent. -/
theorem reads_children (hs : s.IsBare total) (hsize : ∀ d, 0 < a.size d)
    (labels : List (String × String)) :
    ∀ (cs : List (Element × List Char)), Element.AreBare AreAllowed cs → ∀ {name : List Char}, IsName name →
      ∀ rest : List Char,
      Reads expand s total (Element.renderChildren labels cs ++ '<' :: '/' :: (name ++ '>' :: rest))
        ⟨[], Element.rereadChildren cs⟩ (some (String.ofList name, name ++ '>' :: rest)) rest
  | [], _, name, hname, rest => by
    rw [Element.renderChildren, List.nil_append]
    exact reads_endTag hname rest
  | (e, tail) :: cs, hbare, name, hname, rest => by
    obtain ⟨he, htail, hcs⟩ := hbare
    have hbehind := reads_content hs hsize labels tail cs htail hcs hname rest
    have hread := (passes_element hs hsize labels e he _).reads hbehind
    rw [Element.renderChildren, Element.rereadChildren]
    simpa [consChild, List.append_assoc] using hread

end

end Content
end ScriptGrader.Markup
