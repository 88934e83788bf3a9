import ScriptGrader.Proofs.Markup.Reading

/-!
# Encodings that cannot be used

Whatever is wrong with the text of a document, the document is malformed.
Only the encoding that its declaration names can be something else: one that
is not known, or is no way to write texts in single bytes
(`read?_refuses_encoding_iff`). What is written names UTF-8, so it is read or
malformed, whatever is in it.
-/

namespace ScriptGrader.Markup

variable {e : Error} {name : String} {bytes : List UInt8}

/-- Something is wrong with the text of a document. -/
def Error.IsMalformed (e : Error) : Prop := ∃ cause place, e = .malformed cause place

/-! ## Names of encodings -/

/-- The names that any reader knows. -/
def standardEncodings : List String := ["utf-8", "iso-8859-1", "us-ascii", "utf-16", "utf-16be", "utf-16le"]

/-- No use is made of the encoding with a name. -/
def IsUnusable (name : String) (e : Error) : Prop :=
  name.toLower ∉ standardEncodings ∧ Naming.ofName name = .unusable e

/-- An encoding that cannot be used is not the text's fault. -/
theorem IsUnusable.not_isMalformed (h : IsUnusable name e) : ¬ e.IsMalformed := by
  have hname := h.2
  rintro ⟨cause, place, rfl⟩
  rw [Naming.ofName] at hname
  split at hname
  · cases hname
  · split at hname
    · cases hname
    · cases hname
  · cases hname
  · cases hname
  · cases hname
  · cases hname
  · split at hname <;> cases hname
  all_goals cases hname

namespace Encoding

/-- **An encoding that is declared** cannot be used for its name alone: the
first bytes of the document do not matter. -/
theorem declared_eq_unusable_iff (encoding : Encoding) :
    encoding.declared name = .error (.unusable e) ↔ IsUnusable name e := by
  have hfitting : ∀ (fits : Bool) (new : Encoding),
      (if fits = true then Except.ok new else Except.error (Refusal.unfit .incorrectEncoding)) ≠
        .error (.unusable e) := by
    intro fits new
    cases fits <;> simp
  have hstandard : name.toLower ∈ standardEncodings → ¬ IsUnusable name e := fun h hname => hname.1 h
  rw [declared]
  split
  · next h => exact iff_of_false (hfitting _ _) (hstandard (by simp [h, standardEncodings]))
  · next h => exact iff_of_false (hfitting _ _) (hstandard (by simp [h, standardEncodings]))
  · next h => exact iff_of_false (hfitting _ _) (hstandard (by simp [h, standardEncodings]))
  · next h => exact iff_of_false (hfitting _ _) (hstandard (by simp [h, standardEncodings]))
  · next h =>
    refine iff_of_false ?_ (hstandard (by simp [h, standardEncodings]))
    cases encoding <;> exact hfitting _ _
  · next h =>
    refine iff_of_false ?_ (hstandard (by simp [h, standardEncodings]))
    cases encoding <;> exact hfitting _ _
  · next h1 h2 h3 h4 h5 h6 =>
    have hnot : name.toLower ∉ standardEncodings := by
      simp only [standardEncodings, List.mem_cons, List.not_mem_nil, or_false, not_or]
      exact ⟨h1, h2, h3, h4, h5, h6⟩
    rw [IsUnusable, and_iff_right hnot]
    rcases Naming.ofName name with m | _ | e'
    · simp
    · simp
    · simp

end Encoding

namespace Document

/-- A halt means that something is wrong with the text. -/
theorem isMalformed_errorOf (chars : List Char) (ending : Ending) (h : Halt) :
    (errorOf chars ending h).IsMalformed := by
  unfold errorOf errorOf.malformed
  rcases h with _ | _ | _
  · exact ⟨_, _, rfl⟩
  · rcases ending with _ | _ | _ <;> exact ⟨_, _, rfl⟩
  · simp only
    split <;> exact ⟨_, _, rfl⟩

/-- What fails with a halt is malformed. -/
theorem isMalformed_of_mapError {α : Type} {chars : List Char} {ending : Ending} {x : Except Halt α}
    (h : x.mapError (errorOf chars ending) = .error e) : e.IsMalformed := by
  rcases x with halt | a
  · cases h
    exact isMalformed_errorOf _ _ _
  · cases h

namespace Opening

/-- The declaration of a document names an encoding. -/
def Names (o : Opening) (name : String) : Prop :=
  ∃ r said rest declaration left, (o.encoding.decode o.bytes).chars = '<' :: '?' :: r ∧
    @Scan.instruction o.encoding.alphabet ('<' :: '?' :: r) r = .ok (("xml", said), rest) ∧
    Declaration.parse? said = .ok declaration ∧ declaration.encoding = some (name, left)

theorem isMalformed_of_element [Alphabet] {unitSize : Nat} {before : List Char} {text : Decoded}
    {standalone : Bool} (h : element unitSize before text standalone = .error e) : e.IsMalformed :=
  isMalformed_of_mapError h

theorem isMalformed_of_recoded {o : Opening} {encoding : Encoding} {declaration : List Char} {standalone : Bool}
    (h : o.recoded encoding declaration standalone = .error e) : e.IsMalformed :=
  isMalformed_of_mapError h

/-- A declaration that names an encoding that cannot be used. -/
theorem element?_of_names {o : Opening} (hnames : o.Names name) (hname : IsUnusable name e) :
    o.element? = .error e := by
  obtain ⟨r, said, rest, ⟨_, standalone⟩, left, hchars, hinstruction, hdeclaration, rfl⟩ := hnames
  have hdeclared := (Encoding.declared_eq_unusable_iff o.encoding).2 hname
  simp only [element?, hchars, hinstruction, Except.mapError, bind, Except.bind, hdeclaration, hdeclared]
  exact if_neg fun h => h rfl

/-- Without one, whatever is wrong is wrong with the text. -/
theorem names_of_element? {o : Opening} (h : o.element? = .error e) (hnot : ¬ e.IsMalformed) :
    ∃ name, o.Names name ∧ IsUnusable name e := by
  let : Alphabet := o.encoding.alphabet
  simp only [element?] at h
  split at h
  · next r hchars =>
    rcases hinstruction : Scan.instruction (o.encoding.decode o.bytes).chars r with halt | ⟨⟨target, said⟩, rest⟩
    · rw [hinstruction] at h
      cases h
      exact absurd (isMalformed_errorOf _ _ _) hnot
    simp only [hinstruction, Except.mapError, bind, Except.bind] at h
    split at h
    · exact absurd (isMalformed_of_element h) hnot
    · next htarget =>
      split at h
      · cases h
        exact absurd (isMalformed_errorOf _ _ _) hnot
      · next declaration hdeclaration =>
        split at h
        · exact absurd (isMalformed_of_element h) hnot
        · next name left hencoding =>
          split at h
          · cases h
            exact absurd (isMalformed_errorOf _ _ _) hnot
          · next hdeclared =>
            cases h
            rw [hchars, not_not.1 htarget] at hinstruction
            exact ⟨name, ⟨r, said, rest, declaration, left, hchars, hinstruction, hdeclaration, hencoding⟩,
              (Encoding.declared_eq_unusable_iff _).1 hdeclared⟩
          · exact absurd (isMalformed_of_recoded h) hnot
  · exact absurd (isMalformed_of_element h) hnot

end Opening

/-- A document as its first bytes tell. -/
def opening (bytes : List UInt8) : Opening :=
  let mark := (marks.find? fun m => m.isPrefixOf bytes).getD []
  ⟨Encoding.ofFirst bytes, mark, bytes.drop mark.length⟩

/-- Where nothing is known of the first bytes, there is no declaration. -/
theorem not_names_of_beginning (h : bytes ∈ beginnings) : ¬ (opening bytes).Names name := by
  rintro ⟨r, -, -, -, -, hchars, -⟩
  have hall : ∀ b ∈ beginnings, ((opening b).encoding.decode (opening b).bytes).chars.take 2 ≠ ['<', '?'] := by
    decide +kernel
  exact hall bytes h (by rw [hchars]; rfl)

end Document

/-- **A document is refused for its encoding**, and not for what is wrong with
its text, exactly when its declaration names one that cannot be used. -/
theorem read?_refuses_encoding_iff :
    read? bytes = .error e ∧ ¬ e.IsMalformed ↔
      ∃ name, (Document.opening bytes).Names name ∧ IsUnusable name e := by
  rw [read?]
  split
  · next h =>
    refine iff_of_false ?_ ?_
    · rintro ⟨h, hnot⟩
      cases h
      exact hnot ⟨_, _, rfl⟩
    · rintro ⟨name, hnames, -⟩
      exact Document.not_names_of_beginning (List.contains_iff_mem.1 h) hnames
  · constructor
    · rintro ⟨h, hnot⟩
      exact Document.Opening.names_of_element? h hnot
    · rintro ⟨name, hnames, hname⟩
      exact ⟨Document.Opening.element?_of_names hnames hname, hname.not_isMalformed⟩

/-- **What is written is read or malformed**, whatever it holds: the encoding
that its heading names is the one in which it is written. -/
theorem isMalformed_of_read?_document (d : Element)
    (h : read? (Text.encode (String.ofList d.document)) = .error e) : e.IsMalformed := by
  obtain ⟨body, hbody⟩ : ∃ body, d.document = Document.declarationText ++ '\n' :: body := by
    rw [Element.document, Document.heading_eq, List.append_assoc, List.singleton_append]
    exact ⟨_, rfl⟩
  obtain ⟨ending, -, heq⟩ := Document.element?_heading body
  rw [hbody, read?_declared, heq] at h
  exact Document.isMalformed_of_mapError h

end ScriptGrader.Markup
