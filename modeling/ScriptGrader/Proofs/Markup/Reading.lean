import Mathlib.Data.List.TakeWhile
import ScriptGrader.Markup.Reading
import ScriptGrader.Proofs.Markup.Element
import ScriptGrader.Proofs.Text.Utf8

/-!
# Reading written documents

A document that was written from an element whose characters are all allowed
is read as that element, with its lines ended by line feeds, and a plain one
as it is. Its heading names the encoding in which it is written, and nothing
comes in front of the root but the end of the heading's line. Its bytes are
decoded up to the first character that no document may hold, or else to the
end.
-/

namespace ScriptGrader.Markup

/-! ## Decoding what was encoded -/

namespace Encoding

open ScriptGrader.Text

/-- A character is taken off the front of its bytes. -/
theorem step_utf8 {c : Char} {b : UInt8} {rest : List UInt8} (h : String.utf8EncodeChar c = b :: rest)
    (r : List UInt8) : utf8.step b (rest ++ r) = .ok (c, r) := by
  rw [step, utf8Step]
  rcases Nat.lt_or_ge c.toNat 0x80 with hc | hc
  · rw [encodeChar_ascii hc, List.cons.injEq] at h
    obtain ⟨rfl, rfl⟩ := h
    have hb : (UInt8.ofNat c.toNat).toNat = c.toNat := toNat_ofNat_of_lt (by omega)
    rw [hb, if_pos hc, Char.ofNat_toNat, List.nil_append]
  · obtain ⟨b', rest', he, hb, low, high, bits, hlead, hread⟩ := exists_promises hc
    rw [he, List.cons.injEq] at h
    obtain ⟨rfl, rfl⟩ := h
    have hlength : ¬ (rest' ++ r).length < rest'.length := by simp
    rw [if_neg (by omega)]
    simp only [hlead, if_neg hlength, hread r, Char.ofNat_toNat]

theorem exists_decode_go_encoded (cs : List Char) (fuel : Nat) (done : List Char)
    (hfuel : (cs.flatMap String.utf8EncodeChar).length ≤ fuel) :
    ∃ ending, decode.go utf8 fuel (cs.flatMap String.utf8EncodeChar) done =
      ⟨done.reverse ++ cs.takeWhile isAllowed, ending⟩ ∧ ending.isWhole = cs.all isAllowed := by
  induction cs generalizing fuel done with
  | nil => exact ⟨.whole, by cases fuel <;> simp [decode.go], rfl⟩
  | cons c cs ih =>
    obtain ⟨b, rest, hc⟩ : ∃ b rest, String.utf8EncodeChar c = b :: rest :=
      List.exists_cons_of_ne_nil String.utf8EncodeChar_ne_nil
    rw [List.flatMap_cons, hc, List.cons_append] at hfuel ⊢
    obtain ⟨fuel, rfl⟩ : ∃ n, fuel = n + 1 := ⟨fuel - 1, by rw [List.length_cons] at hfuel; omega⟩
    rw [List.length_cons, List.length_append] at hfuel
    rw [decode.go, List.takeWhile_cons, List.all_cons]
    cases hallowed : isAllowed c with
    | true =>
      obtain ⟨ending, hgo, hending⟩ := ih fuel (c :: done) (by omega)
      refine ⟨ending, ?_, by rw [hending, Bool.true_and]⟩
      simp only [step_utf8 hc, hallowed, Bool.true_or, if_true, hgo, List.reverse_cons, List.append_assoc,
        List.singleton_append]
    | false =>
      have hhalf : ∀ r n, utf8.isHalf c r n = false := fun r n => rfl
      simp only [step_utf8 hc, hallowed, hhalf, Bool.or_self, Bool.false_eq_true, if_false, List.append_nil]
      exact ⟨_, rfl, rfl⟩

/-- **What was encoded is decoded** up to the first character that no
document may hold, which is not the end of a document. -/
theorem exists_decode_encoded (cs : List Char) :
    ∃ ending, utf8.decode (cs.flatMap String.utf8EncodeChar) = ⟨cs.takeWhile isAllowed, ending⟩ ∧
      ending.isWhole = cs.all isAllowed := by
  obtain ⟨ending, hgo, hending⟩ := exists_decode_go_encoded cs _ [] (Nat.le_refl _)
  exact ⟨ending, hgo, hending⟩

end Encoding

/-! ## Names without namespaces -/

namespace Element

variable {P : List Char → Prop}

mutual

/-- The names of a bare element have no namespaces. -/
theorem space_of_mem_names [Alphabet] :
    ∀ (e : Element), e.IsBare P → ∀ n ∈ e.names, n.space = none
  | .mk m attributes t cs, hbare, n, hn => by
    obtain ⟨hspace, -, rfl, -, hcs⟩ := hbare
    rw [names, List.map_nil, List.singleton_append, List.mem_cons] at hn
    rcases hn with rfl | hn
    · exact hspace
    · exact space_of_mem_childNames cs hcs n hn

theorem space_of_mem_childNames [Alphabet] : ∀ (cs : List (Element × List Char)),
    AreBare P cs → ∀ n ∈ childNames cs, n.space = none
  | [], _, n, hn => by
    rw [childNames] at hn
    cases hn
  | (c, tail) :: r, hbare, n, hn => by
    obtain ⟨hc, -, hr⟩ := hbare
    rw [childNames, List.mem_append] at hn
    rcases hn with hn | hn
    · exact space_of_mem_names c hc n hn
    · exact space_of_mem_childNames r hr n hn

end

/-- A bare element declares no namespaces. -/
theorem labels_eq_nil [Alphabet] {e : Element} (h : e.IsBare P) : e.labels = [] := by
  have hspace := space_of_mem_names e h
  rw [labels]
  generalize e.names = ns at hspace
  induction ns with
  | nil => rfl
  | cons n ns ih =>
    have hn : addLabel [] n = [] := by simp only [addLabel, hspace n List.mem_cons_self]
    rw [List.foldl_cons, hn]
    exact ih fun m hm => hspace m (List.mem_cons_of_mem n hm)

theorem document_eq [Alphabet] {e : Element} (h : e.IsBare P) :
    e.document = heading ++ e.render [] [] := by
  have hdeclared : declarations [] = [] := by simp [declarations]
  rw [document, labels_eq_nil h, hdeclared]

end Element

namespace Document

variable [a : Alphabet] {P : List Char → Prop}

theorem epilogue_nil (fuel : Nat) : epilogue .whole fuel [] = .ok () := by
  cases fuel <;> rfl

/-- The root's content is read in this setting. -/
def rootSetting (own : List Char → Nat) (d : Declared) (ending : Ending) : Setting :=
  ⟨d, ending, [], fun inValue => if inValue then Growth.table true d else Growth.table false d, own⟩

/-- A root without attributes opens with its tag, and its content stands behind it. -/
theorem root_open {own : List Char → Nat} {d : Declared} (hd : d.attributes = []) {name : List Char}
    (hname : IsName name) (ending : Ending) (inner : List Char) :
    root own d ending ('<' :: (name ++ '>' :: inner)) = (do
      let (inside, stop, _, r) ← Content.read (Content.expand d d.entities.length) (rootSetting own d ending)
        (('<' :: (name ++ '>' :: inner)).length + 1) [] 0 inner
      match stop with
      | none => .error (.fault .noElement [])
      | some (endName, place) =>
        if endName ≠ String.ofList name then .error (.fault .mismatchedTag place)
        else
          epilogue ending (('<' :: (name ++ '>' :: inner)).length + 1) r
          return .mk (.plain (String.ofList name)) [] inside.text inside.children) := by
  simp only [root, List.drop_succ_cons, List.drop_zero, Scan.startTag_open hname, bind, Except.bind,
    StartTag.references, List.flatMap_nil, Content.grow_nil, StartTag.resolve_plain hd, Except.mapError,
    Bool.false_eq_true, if_false, Label.text, rootSetting]
  rfl

/-- There is enough of everything for the content of the root. -/
theorem content_fits {name inner : List Char} {total : Nat} (htotal : unitsOf ('<' :: (name ++ '>' :: inner)) ≤ total) :
    inner.length < ('<' :: (name ++ '>' :: inner)).length + 1 ∧ 0 + unitsOf inner ≤ total := by
  rw [unitsOf, unitsOf_append, unitsOf] at htotal
  simp only [List.length_cons, List.length_append]
  omega

/-- **The root of a written document.** -/
theorem root_rendered (hsize : ∀ d, 0 < a.size d) {own : List Char → Nat} {d : Declared}
    (hd : d.attributes = []) {total : Nat} (hown : ∀ rest, own rest = total - unitsOf rest)
    {e : Element} (he : e.IsBare AreAllowed) (htotal : unitsOf (e.render [] []) ≤ total) :
    root own d .whole (e.render [] []) = .ok e.reread := by
  obtain ⟨n, attributes, t, cs⟩ := e
  obtain ⟨hspace, hname, rfl, htext, hcs⟩ := he
  have hplain : Name.plain (String.ofList n.text.toList) = n := Content.plain_text hspace
  by_cases hempty : t = [] ∧ cs = []
  · obtain ⟨rfl, rfl⟩ := hempty
    rw [Content.render_closed hspace]
    simp only [root, List.drop_succ_cons, List.drop_zero, Scan.startTag_empty hname, bind,
      Except.bind, StartTag.references, List.flatMap_nil, Content.grow_nil,
      StartTag.resolve_plain hd, Except.mapError, epilogue_nil, pure, Except.pure, if_true, hplain,
      Element.reread, Element.rereadChildren, Text.universalNewlines]
  · rw [Content.render_open hspace [] hempty] at htotal ⊢
    generalize n.text.toList = name at hname htotal hplain ⊢
    generalize hinner : t.flatMap escapeText ++ (Element.renderChildren [] cs ++
      '<' :: '/' :: (name ++ '>' :: [])) = inner at htotal ⊢
    have hbare : (rootSetting own d .whole).IsBare total := ⟨rfl, hd, hown⟩
    have hreads := @Content.reads_content a (Content.expand d d.entities.length) _ _ hbare hsize [] t cs
      htext hcs _ hname []
    rw [hinner] at hreads
    obtain ⟨hfuel, hunits⟩ := content_fits htotal
    obtain ⟨added, hread, -⟩ := hreads _ 0 hfuel hunits
    simp only [root_open hd hname, hread, bind, Except.bind, epilogue_nil, hplain, pure, Except.pure, Element.reread]
    simp

/-- A written element begins with a bracket and a name. -/
theorem exists_render_name {e : Element} (he : e.IsBare P) :
    ∃ c r, e.render [] [] = '<' :: c :: r ∧ isNameStart c = true := by
  obtain ⟨n, attributes, t, cs⟩ := e
  obtain ⟨hspace, ⟨c, r, hname, hc, -⟩, -⟩ := he
  rw [Element.render, Content.labelled_plain hspace, hname]
  split
  · exact ⟨c, _, rfl, hc⟩
  · exact ⟨c, _, rfl, hc⟩

/-- What begins with a bracket and a name is the root. -/
theorem next_root (ending : Ending) {c : Char} (hc : isNameStart c = true) (r : List Char) :
    Placed.next ending ('\n' :: '<' :: c :: r) = .ok ⟨.root, '<' :: c :: r, c :: r⟩ := by
  have hbang : c ≠ '!' := ne_of_isNameStart hc rfl
  have hquestion : c ≠ '?' := ne_of_isNameStart hc rfl
  have hangle : Piece.afterAngle ending ('<' :: c :: r) (c :: r) = .ok (.root, c :: r) := by
    rw [Piece.afterAngle.eq_def]
    -- all branches but the one for names begin with a mark
    split
    · next h => exact absurd (List.cons.inj h).1 hbang
    · next h => exact absurd (List.cons.inj h).1 hbang
    · next h => exact absurd (List.cons.inj h).1 hbang
    · next h => exact absurd (List.cons.inj h).1 hbang
    · next h => exact absurd (List.cons.inj h).1 hquestion
    · next h =>
      obtain ⟨rfl, rfl⟩ := List.cons.inj h
      rw [hc, Bool.true_or, if_pos rfl]
    · next h => cases h
  have hstart : ('\n' :: '<' :: c :: r).dropWhile isSpace = '<' :: c :: r := rfl
  rw [Placed.next, hstart, Piece.scan]
  simp only [hangle]
  rfl

/-- The root behind the end of the heading's line. -/
theorem prologue_rendered (hsize : ∀ d, 0 < a.size d) {own : List Char → Nat} {d : Declared}
    (hd : d.attributes = []) {total : Nat} (hown : ∀ rest, own rest = total - unitsOf rest)
    {e : Element} (he : e.IsBare AreAllowed) (htotal : unitsOf (e.render [] []) ≤ total) (fuel : Nat) :
    prologue own .whole (fuel + 1) d false ('\n' :: e.render [] []) = .ok e.reread := by
  have hroot := root_rendered hsize hd hown he htotal
  obtain ⟨c, r, heq, hc⟩ := exists_render_name he
  rw [heq] at hroot ⊢
  rw [prologue, next_root _ hc]
  exact hroot

end Document

namespace Document

/-! ## The heading -/

/-- What the declaration says, behind the name of the instruction. -/
def saidText : List Char :=
  [' ', 'v', 'e', 'r', 's', 'i', 'o', 'n', '=', '\'', '1', '.', '0', '\'', ' ',
    'e', 'n', 'c', 'o', 'd', 'i', 'n', 'g', '=', '\'', 'u', 't', 'f', '-', '8', '\'']

/-- The declaration that the heading is, without the end of its line. -/
def declarationText : List Char := '<' :: '?' :: 'x' :: 'm' :: 'l' :: (saidText ++ ['?', '>'])

theorem heading_eq : Element.heading = declarationText ++ ['\n'] := rfl

theorem document_text {P : List Char → Prop} {e : Element} (he : @Element.IsBare .standard P e) :
    e.document = declarationText ++ '\n' :: e.render [] [] := by
  rw [@Element.document_eq P .standard e he, heading_eq, List.append_assoc, List.singleton_append]

theorem declarationText_append (rest : List Char) : declarationText ++ rest =
    '<' :: '?' :: 'x' :: 'm' :: 'l' :: (saidText ++ '?' :: '>' :: rest) := rfl

/-- An instruction with a text behind its name. -/
theorem instruction_of_text [Alphabet] {start rest r after text : List Char} {target : String} {c : Char}
    (hname : Scan.name start rest = .ok (target, c :: r)) (hc : isSpace c = true)
    (hcase : ¬ (target.toLower = "xml" ∧ target ≠ "xml"))
    (htext : Scan.instructionText start [] (c :: r) = .ok (text, after)) :
    Scan.instruction start rest = .ok ((target, text), after) := by
  have hmark : c ≠ '?' := by
    rintro rfl
    exact absurd hc (by decide)
  simp only [Scan.instruction, hname, bind, Except.bind, if_neg hcase]
  split
  · rw [htext]
    rfl
  · next h => exact absurd hc h

/-- The heading is an instruction. -/
theorem instruction_heading (start body : List Char) :
    @Scan.instruction .standard start
        ('x' :: 'm' :: 'l' :: (saidText ++ '?' :: '>' :: '\n' :: body)) =
      .ok (("xml", saidText), '\n' :: body) := by
  obtain ⟨more, hmore⟩ : ∃ more, saidText = ' ' :: more := ⟨_, rfl⟩
  have hname : @Scan.name .standard start
      ('x' :: 'm' :: 'l' :: (saidText ++ '?' :: '>' :: '\n' :: body)) =
      .ok ("xml", saidText ++ '?' :: '>' :: '\n' :: body) := rfl
  have htext : Scan.instructionText start [] (saidText ++ '?' :: '>' :: '\n' :: body) =
      .ok (saidText, '\n' :: body) := rfl
  rw [hmore] at hname htext ⊢
  exact @instruction_of_text .standard _ _ _ _ _ _ _ hname rfl (fun h => h.2 rfl) htext

/-- What the declaration names. -/
theorem parse?_said :
    Declaration.parse? saidText = .ok ⟨some ("utf-8", ['u', 't', 'f', '-', '8', '\'']), false⟩ := rfl

theorem declared_utf8 : Encoding.utf8.declared "utf-8" = .ok .utf8 := by
  have hlower : "utf-8".toLower = "utf-8" := by decide +kernel
  rw [Encoding.declared, hlower]
  rfl

/-- Behind the declaration, a document is decoded once more, and then it is
the prologue that reads it. -/
theorem recoded_eq {body taken : List Char} {ending : Ending}
    (hdecode : Encoding.utf8.decode (body.flatMap String.utf8EncodeChar) = ⟨taken, ending⟩) :
    (Opening.mk .utf8 [] ((declarationText ++ body).flatMap String.utf8EncodeChar)).recoded .utf8 declarationText
      false = (@prologue .standard (fun rest => (@unitsOf .standard (declarationText ++ taken) -
        @unitsOf .standard rest) * 1) ending (taken.length + 1) { Declared.empty with standalone := false } false
        taken).mapError (errorOf (declarationText ++ taken) ending) := by
  have hsize : declarationText.length * 1 = (declarationText.flatMap String.utf8EncodeChar).length := by
    rfl
  rw [Opening.recoded]
  change @Opening.element .standard 1 ([] ++ declarationText) (Encoding.utf8.decode
    (List.drop (declarationText.length * 1) _)) false = _
  rw [hsize, List.flatMap_append, List.drop_left, hdecode]
  rfl

/-- **A document with the heading** is read as its prologue is. -/
theorem element?_heading (body : List Char) : ∃ ending, ending.isWhole = body.all isAllowed ∧
    (Opening.mk .utf8 [] ((declarationText ++ '\n' :: body).flatMap String.utf8EncodeChar)).element? =
      (@prologue .standard (fun rest => (@unitsOf .standard (declarationText ++ '\n' :: body.takeWhile isAllowed) -
        @unitsOf .standard rest) * 1) ending (('\n' :: body.takeWhile isAllowed).length + 1)
        { Declared.empty with standalone := false } false ('\n' :: body.takeWhile isAllowed)).mapError
        (errorOf (declarationText ++ '\n' :: body.takeWhile isAllowed) ending) := by
  have hline : ('\n' :: body).takeWhile isAllowed = '\n' :: body.takeWhile isAllowed := rfl
  obtain ⟨ending, hdecode, hending⟩ := Encoding.exists_decode_encoded ('\n' :: body)
  rw [hline] at hdecode
  refine ⟨ending, hending, ?_⟩
  rw [← recoded_eq hdecode]
  -- the whole document is decoded first, which gives the declaration
  obtain ⟨first, hfirst, -⟩ := Encoding.exists_decode_encoded (declarationText ++ '\n' :: body)
  have hallowed : ∀ c ∈ declarationText, isAllowed c = true := by
    have hall : declarationText.all isAllowed = true := rfl
    exact List.all_eq_true.1 hall
  rw [List.takeWhile_append_of_pos hallowed, hline] at hfirst
  generalize hbytes : (declarationText ++ '\n' :: body).flatMap String.utf8EncodeChar = bytes at hfirst ⊢
  have htake : ∀ rest, ('<' :: '?' :: 'x' :: 'm' :: 'l' :: (saidText ++ '?' :: '>' :: rest)).take
      (('<' :: '?' :: 'x' :: 'm' :: 'l' :: (saidText ++ '?' :: '>' :: rest)).length - rest.length) =
      declarationText := by
    intro rest
    rw [← declarationText_append, List.length_append, Nat.add_sub_cancel, List.take_left]
  rw [declarationText_append] at hfirst
  simp only [Opening.element?, hfirst, instruction_heading, Except.mapError, bind, Except.bind,
    parse?_said, declared_utf8, htake]
  exact if_neg fun h => h rfl

/-- **A written document** is read as its element. -/
theorem element?_document {e : Element} (he : @Element.IsBare .standard AreAllowed e)
    (hallowed : ∀ c ∈ e.render [] [], isAllowed c = true) :
    (Opening.mk .utf8 [] (e.document.flatMap String.utf8EncodeChar)).element? = .ok e.reread := by
  obtain ⟨ending, hending, heq⟩ := element?_heading (e.render [] [])
  have hwhole : ending = .whole := by
    rw [List.all_eq_true.2 hallowed] at hending
    cases ending with
    | whole => rfl
    | invalid | cut => cases hending
  subst hwhole
  rw [List.takeWhile_eq_self_iff.2 hallowed] at heq
  have hunits : @unitsOf .standard (e.render [] []) ≤
      @unitsOf .standard (declarationText ++ '\n' :: e.render [] []) := by
    rw [@unitsOf_append .standard]
    simp only [unitsOf]
    omega
  rw [document_text he, heq, @prologue_rendered .standard Char.utf8Size_pos _
    { Declared.empty with standalone := false } rfl _ (fun rest => Nat.mul_one _) e he hunits]
  rfl

end Document

/-! ## What a written document holds -/

theorem isAllowed_of_printable {c : Char} (hlow : 0x20 ≤ c.toNat) (hhigh : c.toNat < 128) :
    isAllowed c = true := by
  simp only [isAllowed, Bool.or_eq_true, Bool.and_eq_true, decide_eq_true_eq]
  exact .inr ⟨⟨hlow, by omega⟩, by omega⟩

/-- The two numbers that stand for no character are in no range of letters. -/
theorem isAllowed_of_far {c : Char} (hc : 128 ≤ c.toNat)
    (hfar : letterRanges.contains c = true ∨ markRanges.contains c = true) : isAllowed c = true := by
  have hne : ∀ n, (letterRanges.containsCode n || markRanges.containsCode n) = false → c.toNat ≠ n := by
    rintro n hn rfl
    rw [Bool.or_eq_false_iff] at hn
    rcases hfar with h | h
    · rw [CharRanges.contains, hn.1] at h
      cases h
    · rw [CharRanges.contains, hn.2] at h
      cases h
  have hfirst := hne 0xfffe (by decide +kernel)
  have hsecond := hne 0xffff (by decide +kernel)
  simp only [isAllowed, Bool.or_eq_true, Bool.and_eq_true, decide_eq_true_eq]
  exact .inr ⟨⟨by omega, hfirst⟩, hsecond⟩

theorem isAllowed_of_isNameChar {c : Char} (h : @isNameChar .standard c = true) :
    isAllowed c = true := by
  by_cases hc : c.toNat < 128
  · refine isAllowed_of_printable ?_ hc
    have hcontrol : ∀ n : Fin 0x20, @isNameChar .standard (Char.ofNat n) = false := by decide
    by_contra hlow
    have hname := hcontrol ⟨c.toNat, by omega⟩
    rw [Char.ofNat_toNat, h] at hname
    cases hname
  · simp only [isNameChar, if_neg hc, Bool.or_eq_true, Alphabet.isFarLetter] at h
    rcases h with (h | h) | h
    · exact isAllowed_of_far (by omega) (.inl h)
    · cases h
    · exact isAllowed_of_far (by omega) (.inr h)

theorem isNameChar_of_isNameStart [Alphabet] {c : Char} (h : isNameStart c = true) :
    isNameChar c = true := by
  rw [isNameStart] at h
  rw [isNameChar]
  by_cases hc : c.toNat < 128
  · rw [if_pos hc, Bool.or_eq_true] at h
    rcases h with h | h
    · simp [hc, h]
    · simp [hc, h]
  · rw [if_neg hc] at h
    simp [hc, h]

theorem isAllowed_of_isName {cs : List Char} (h : @IsName .standard cs) :
    ∀ c ∈ cs, isAllowed c = true := by
  obtain ⟨c, r, rfl, hc, hr⟩ := h
  intro d hd
  rcases List.mem_cons.1 hd with rfl | hd
  · exact isAllowed_of_isNameChar (@isNameChar_of_isNameStart .standard _ hc)
  · exact isAllowed_of_isNameChar (hr d hd)

theorem isAllowed_of_escaped {cs : List Char} (h : AreAllowed cs) :
    ∀ c ∈ cs.flatMap escapeText, isAllowed c = true := by
  intro c hc
  obtain ⟨d, hd, hc⟩ := List.mem_flatMap.1 hc
  by_cases hspecial : IsSpecial d
  · have hescaped : (escapeText d).all isAllowed = true := by
      rcases hspecial with rfl | rfl | rfl <;> decide
    exact List.all_eq_true.1 hescaped c hc
  · rw [escapeText_of_not hspecial, List.mem_singleton] at hc
    rw [hc]
    exact h d hd

namespace Element

mutual

/-- **An element of allowed texts** is written in characters that a document may hold. -/
theorem isAllowed_of_mem_render : ∀ (e : Element), @IsBare .standard AreAllowed e →
    ∀ c ∈ e.render [] [], isAllowed c = true
  | .mk n attributes t cs, hbare, c, hc => by
    obtain ⟨hspace, hname, rfl, htext, hcs⟩ := hbare
    have hsign := List.all_eq_true.1 (show ['<', '/', '>', ' '].all isAllowed = true by decide)
    by_cases hempty : t = [] ∧ cs = []
    · obtain ⟨rfl, rfl⟩ := hempty
      rw [Content.render_closed hspace, List.mem_cons, List.mem_append] at hc
      rcases hc with rfl | hc | hc
      · exact hsign _ (by simp)
      · exact isAllowed_of_isName hname c hc
      · exact List.all_eq_true.1 (show [' ', '/', '>'].all isAllowed = true by decide) c hc
    · rw [Content.render_open hspace [] hempty] at hc
      simp only [List.mem_cons, List.mem_append, List.not_mem_nil, or_false] at hc
      rcases hc with rfl | hc | rfl | hc | hc | rfl | rfl | hc | rfl
      · exact hsign _ (by simp)
      · exact isAllowed_of_isName hname c hc
      · exact hsign _ (by simp)
      · exact isAllowed_of_escaped htext c hc
      · exact isAllowed_of_mem_renderChildren cs hcs c hc
      · exact hsign _ (by simp)
      · exact hsign _ (by simp)
      · exact isAllowed_of_isName hname c hc
      · exact hsign _ (by simp)

theorem isAllowed_of_mem_renderChildren : ∀ (cs : List (Element × List Char)),
    @AreBare .standard AreAllowed cs → ∀ c ∈ renderChildren [] cs, isAllowed c = true
  | [], _, c, hc => by
    rw [renderChildren] at hc
    cases hc
  | (e, tail) :: cs, hbare, c, hc => by
    obtain ⟨he, htail, hcs⟩ := hbare
    rw [renderChildren, List.append_assoc, List.mem_append, List.mem_append] at hc
    rcases hc with hc | hc | hc
    · exact isAllowed_of_mem_render e he c hc
    · exact isAllowed_of_escaped htail c hc
    · exact isAllowed_of_mem_renderChildren cs hcs c hc

end

end Element

/-- The first bytes of a document with the heading tell of its encoding. -/
theorem read?_declared (rest : List Char) :
    read? (Text.encode (String.ofList (Document.declarationText ++ rest))) =
      (Document.Opening.mk .utf8 [] ((Document.declarationText ++ rest).flatMap String.utf8EncodeChar)).element? := by
  obtain ⟨r, hr⟩ : ∃ r, (Document.declarationText ++ rest).flatMap String.utf8EncodeChar = 0x3c :: 0x3f :: r :=
    ⟨_, rfl⟩
  rw [Text.encode_ofList, hr]
  rfl

/-- So do those of a written document. -/
theorem read?_written {P : List Char → Prop} {e : Element} (he : @Element.IsBare .standard P e) :
    read? (Text.encode (String.ofList e.document)) =
      (Document.Opening.mk .utf8 [] (e.document.flatMap String.utf8EncodeChar)).element? := by
  rw [Document.document_text he, read?_declared]

/-- **What is written is read again**, with its lines ended by line feeds. -/
theorem read?_reread {e : Element} (he : @Element.IsBare .standard AreAllowed e) :
    read? (Text.encode (String.ofList e.document)) = .ok e.reread :=
  (read?_written he).trans (Document.element?_document he (Element.isAllowed_of_mem_render e he))

/-- What is plain is read as it was. -/
theorem read?_document {e : Element} (he : @Element.IsPlain .standard e) :
    read? (Text.encode (String.ofList e.document)) = .ok e := by
  rw [read?_reread (@Element.IsBare.imp .standard _ _ (fun t ht => ht.areAllowed) e he),
    @Element.IsPlain.reread_eq .standard e he]

end ScriptGrader.Markup
