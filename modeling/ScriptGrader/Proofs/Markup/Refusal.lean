import ScriptGrader.Proofs.Markup.Reading

/-!
# Texts that are no documents

A text that begins with a letter is no document, and is told to be malformed:
its first bytes tell of UTF-8, and its first piece is a name or a word where
the root could begin. Nothing behind that matters.
-/

namespace ScriptGrader.Markup

/-! ## The first character -/

/-- What was decoded stays in front. -/
theorem Encoding.exists_decode_go (e : Encoding) (fuel : Nat) (bytes : List UInt8) (done : List Char) :
    ∃ more ending, decode.go e fuel bytes done = ⟨done.reverse ++ more, ending⟩ := by
  induction fuel generalizing bytes done with
  | zero => exact ⟨[], .whole, by rw [decode.go, List.append_nil]⟩
  | succ fuel ih =>
    rcases bytes with _ | ⟨b, r⟩
    · exact ⟨[], .whole, by simp [decode.go]⟩
    rw [decode.go]
    rcases e.step b r with (isLong | _) | ⟨c, left⟩
    · exact ⟨[], _, by rw [List.append_nil]⟩
    · exact ⟨[], _, by rw [List.append_nil]⟩
    · simp only
      split
      · obtain ⟨more, ending, heq⟩ := ih left (c :: done)
        exact ⟨c :: more, ending, by rw [heq, List.reverse_cons, List.append_assoc, List.singleton_append]⟩
      · exact ⟨[], _, by rw [List.append_nil]⟩

/-- **An ASCII character** in front of a text is decoded to itself. -/
theorem Encoding.exists_decode_ascii {c : Char} (hascii : c.toNat < 0x80) (hallowed : isAllowed c = true)
    (r : List UInt8) : ∃ more ending, utf8.decode (UInt8.ofNat c.toNat :: r) = ⟨c :: more, ending⟩ := by
  have hstep : utf8.step (UInt8.ofNat c.toNat) r = .ok (c, r) :=
    step_utf8 (Text.encodeChar_ascii hascii) r
  obtain ⟨more, ending, heq⟩ := exists_decode_go utf8 r.length r [c]
  refine ⟨more, ending, ?_⟩
  rw [decode, List.length_cons, decode.go]
  simp only [hstep, hallowed, Bool.true_or, if_true]
  exact heq

/-! ## The first piece -/

namespace Piece

/-- A piece that begins like a name. -/
def IsWord : Piece → Prop
  | name _ | labelled _ | word _ | counted => True
  | _ => False

variable [Alphabet]

/-- **What begins like a name** is a name or a word, if it is anything. -/
theorem isWord_of_nameOrWord {ending : Ending} {start : List Char} {isWord hasColon : Bool}
    {done rest after : List Char} {p : Piece}
    (h : nameOrWord ending start isWord hasColon done rest = .ok (p, after)) : p.IsWord := by
  have hkind : ∀ (text : String) (isWord hasColon : Bool),
      IsWord ((if isWord = true then word else if hasColon = true then labelled else name) text) := by
    intro text isWord hasColon
    cases isWord <;> cases hasColon <;> trivial
  fun_induction nameOrWord ending start isWord hasColon done rest with
  | case1 =>
    rw [atEnd] at h
    split at h
    · cases h
    · cases h
      exact hkind _ _ _
  | case2 =>
    cases h
    exact hkind _ _ _
  | case3 _ _ _ _ ih | case4 _ _ _ _ _ ih | case6 _ _ _ _ _ _ _ _ ih | case7 _ _ _ _ _ _ _ _ ih => exact ih h
  | case5 | case8 | case11 => cases h
  | case9 =>
    cases h
    trivial
  | case10 =>
    cases h
    exact hkind _ _ _

/-- What may begin a name does so. -/
theorem scan_of_isNameStart {ending : Ending} {c : Char} (hc : isNameStart c = true) (r : List Char) :
    scan ending (c :: r) = nameOrWord ending (c :: r) false false [c] r := by
  rw [scan.eq_def]
  -- all branches but the last are for marks, none of which may begin a name
  split
  case h_12 d r' _ _ _ _ _ _ _ _ _ _ h =>
    obtain ⟨rfl, rfl⟩ := List.cons.inj h
    have hquote : ¬ (c = '"' ∨ c = '\'') := by
      simp [ne_of_isNameStart hc (rfl : isNameStart '"' = false),
        ne_of_isNameStart hc (rfl : isNameStart '\'' = false)]
    rw [if_neg hquote, if_pos hc]
  case h_1 h => cases h
  all_goals
    next h => exact absurd (List.cons.inj h).1 (ne_of_isNameStart hc rfl)

end Piece

/-- A letter may begin a name. -/
theorem isNameStart_of_isLetter [Alphabet] {c : Char} (h : isLetter c = true) :
    c.toNat < 0x80 ∧ isNameStart c = true := by
  have hascii : c.toNat < 0x80 := by
    simp only [isLetter, Bool.or_eq_true, Bool.and_eq_true, decide_eq_true_eq, Char.le_def,
      UInt32.le_iff_toNat_le] at h
    rcases h with ⟨-, h⟩ | ⟨-, h⟩
    · exact Nat.lt_of_le_of_lt h (by decide)
    · exact Nat.lt_of_le_of_lt h (by decide)
  rw [isNameStart, if_pos hascii, h]
  exact ⟨hascii, rfl⟩

namespace Document

/-- Every halt is told as a malformed text. -/
theorem exists_errorOf_eq (chars : List Char) (ending : Ending) (halt : Halt) :
    ∃ cause place, errorOf chars ending halt = .malformed cause place := by
  rcases halt with ⟨cause, rest⟩ | ⟨cause, start⟩ | ⟨start⟩
  · exact ⟨_, _, rfl⟩
  · cases ending <;> exact ⟨_, _, rfl⟩
  · rw [errorOf]
    split
    · exact ⟨_, _, rfl⟩
    · exact ⟨_, _, rfl⟩

/-- **Nothing that begins like a name** comes in front of a root, or is one. -/
theorem exists_prologue_eq_error [Alphabet] {own : List Char → Nat} {ending : Ending} {c : Char}
    (hc : isNameStart c = true) (fuel : Nat) (d : Declared) (isTyped : Bool) (r : List Char) :
    ∃ halt, prologue own ending (fuel + 1) d isTyped (c :: r) = .error halt := by
  have hspace : isSpace c = false := by
    simp [isSpace, ne_of_isNameStart hc (rfl : isNameStart ' ' = false),
      ne_of_isNameStart hc (rfl : isNameStart '\t' = false),
      ne_of_isNameStart hc (rfl : isNameStart '\n' = false),
      ne_of_isNameStart hc (rfl : isNameStart '\r' = false)]
  have hdrop : (c :: r).dropWhile isSpace = c :: r := List.dropWhile_cons_of_neg (by simp [hspace])
  rw [prologue, Placed.next, hdrop, Piece.scan_of_isNameStart hc]
  rcases hpiece : Piece.nameOrWord ending (c :: r) false false [c] r with halt | ⟨p, after⟩
  · exact ⟨halt, rfl⟩
  · have hword := Piece.isWord_of_nameOrWord hpiece
    cases p with
    | name | labelled | word | counted => exact ⟨_, rfl⟩
    | _ => cases hword

end Document

/-- **A text that begins with a letter**, and has no zero behind it, is
malformed. -/
theorem exists_malformed_of_isLetter {c : Char} {b : UInt8} (hc : isLetter c = true) (hb : b ≠ 0)
    (r : List UInt8) :
    ∃ cause place, read? (UInt8.ofNat c.toNat :: b :: r) = .error (.malformed cause place) := by
  obtain ⟨hascii, hstart⟩ := @isNameStart_of_isLetter .standard c hc
  have hallowed : isAllowed c = true := isAllowed_of_isNameChar (@isNameChar_of_isNameStart .standard c hstart)
  obtain ⟨more, ending, hdecode⟩ := Encoding.exists_decode_ascii hascii hallowed (b :: r)
  have hcode : (UInt8.ofNat c.toNat).toNat = c.toNat := Text.toNat_ofNat_of_lt (by omega)
  generalize UInt8.ofNat c.toNat = a at hdecode hcode ⊢
  have hzero : c.toNat ≠ 0 := by
    intro h
    have hnull : c = Char.ofNat 0 := by rw [← h, Char.ofNat_toNat]
    rw [hnull] at hc
    cases hc
  -- neither a mark of byte order nor wide characters begin so
  have hfirst : a ≠ 0xfe ∧ a ≠ 0xff ∧ a ≠ 0xef ∧ a ≠ 0 := by
    refine ⟨?_, ?_, ?_, ?_⟩ <;>
      rintro rfl <;> simp at hcode <;> omega
  have hencoding : Encoding.ofFirst (a :: b :: r) = .utf8 := by
    rw [Encoding.ofFirst.eq_def]
    split
    · next h => exact absurd (List.cons.inj h).1 hfirst.1
    · next h => exact absurd (List.cons.inj h).1 hfirst.2.1
    · next h => exact absurd (List.cons.inj h).1 hfirst.2.2.2
    · next h => exact absurd (List.cons.inj (List.cons.inj h).2).1 hb
    · rfl
  have hbeginning : Document.beginnings.contains (a :: b :: r) = false := by
    simp [Document.beginnings, hfirst]
  have hnone : Document.marks.find? (fun m => m.isPrefixOf (a :: b :: r)) = none := by
    simp [Document.marks, List.isPrefixOf, Ne.symm hfirst.1, Ne.symm hfirst.2.1, Ne.symm hfirst.2.2.1]
  have hopening : read? (a :: b :: r) = (Document.Opening.mk .utf8 [] (a :: b :: r)).element? := by
    rw [read?, hbeginning, hnone, hencoding]
    rfl
  have hmark : c ≠ '<' := @ne_of_isNameStart .standard c '<' hstart rfl
  rw [hopening, Document.Opening.element?]
  simp only [hdecode]
  split
  · next h => exact absurd (List.cons.inj h).1 hmark
  · obtain ⟨halt, hhalt⟩ := @Document.exists_prologue_eq_error .standard _ ending c hstart
      (c :: more).length _ false more
    obtain ⟨cause, place, herror⟩ := Document.exists_errorOf_eq _ ending halt
    refine ⟨cause, place, ?_⟩
    change Except.mapError _ (@Document.prologue .standard _ ending _ _ false (c :: more)) = _
    rw [hhalt]
    exact congrArg Except.error herror

/-- Do bytes begin with a letter, and is there another character behind it? -/
def beginsWithLetter : List UInt8 → Bool
  | a :: b :: _ => isLetter (Char.ofNat a.toNat) && b != 0
  | _ => false

/-- What stands behind does not matter. -/
theorem beginsWithLetter_append {bytes : List UInt8} (h : beginsWithLetter bytes = true)
    (more : List UInt8) : beginsWithLetter (bytes ++ more) = true := by
  rcases bytes with _ | ⟨a, _ | ⟨b, r⟩⟩
  · cases h
  · cases h
  · exact h

theorem exists_malformed_of_beginsWithLetter {bytes : List UInt8} (h : beginsWithLetter bytes = true) :
    ∃ cause place, read? bytes = .error (.malformed cause place) := by
  rcases bytes with _ | ⟨a, _ | ⟨b, r⟩⟩
  · cases h
  · cases h
  · rw [beginsWithLetter, Bool.and_eq_true, bne_iff_ne] at h
    have hvalid : a.toNat.isValidChar := .inl (by have := a.toNat_lt; omega)
    have hcode : (Char.ofNat a.toNat).toNat = a.toNat := by
      rw [Char.ofNat, dif_pos hvalid]
      rfl
    have ha : UInt8.ofNat (Char.ofNat a.toNat).toNat = a := by rw [hcode, UInt8.ofNat_toNat]
    have hmalformed := exists_malformed_of_isLetter h.1 h.2 r
    rwa [ha] at hmalformed

/-- Are bytes the beginning of a text that begins with a letter? -/
def areWords : List UInt8 → Bool
  | [] => true
  | [a] => isLetter (Char.ofNat a.toNat)
  | a :: b :: _ => isLetter (Char.ofNat a.toNat) && b != 0

theorem areWords_of_beginsWithLetter {bytes : List UInt8} (h : beginsWithLetter bytes = true) :
    areWords bytes = true := by
  rcases bytes with _ | ⟨a, _ | ⟨b, r⟩⟩
  · rfl
  · cases h
  · exact h

theorem areWords_take {bytes : List UInt8} (h : areWords bytes = true) (n : Nat) : areWords (bytes.take n) = true := by
  rcases bytes with _ | ⟨a, _ | ⟨b, r⟩⟩
  · rw [List.take_nil]
    rfl
  · rcases n with _ | n
    · rfl
    · rw [List.take_succ_cons, List.take_nil]
      exact h
  · rcases n with _ | _ | n
    · rfl
    · exact (Bool.and_eq_true_iff.1 h).1
    · exact h

/-- Words behind words are words. -/
theorem areWords_append {bytes more : List UInt8} (h : areWords bytes = true) (hmore : areWords more = true) :
    areWords (bytes ++ more) = true := by
  have hzero : ∀ b : UInt8, isLetter (Char.ofNat b.toNat) = true → (b != 0) = true := by
    intro b hb
    rw [bne_iff_ne]
    rintro rfl
    exact absurd hb (by decide)
  rcases bytes with _ | ⟨a, _ | ⟨b, r⟩⟩
  · exact hmore
  · rcases more with _ | ⟨c, _ | ⟨d, r⟩⟩
    · exact h
    · exact Bool.and_eq_true_iff.2 ⟨h, hzero c hmore⟩
    · exact Bool.and_eq_true_iff.2 ⟨h, hzero c (Bool.and_eq_true_iff.1 hmore).1⟩
  · exact h

/-- Was a text told to be malformed? -/
def isMalformed {α : Type} : Except Error α → Bool
  | .error (.malformed _ _) => true
  | _ => false

theorem exists_eq_of_isMalformed {α : Type} {r : Except Error α} (h : isMalformed r = true) :
    ∃ cause place, r = .error (.malformed cause place) := by
  unfold isMalformed at h
  split at h
  · exact ⟨_, _, rfl⟩
  · cases h

/-- **Words are no document**, and are told to be malformed. -/
theorem exists_malformed_of_areWords {bytes : List UInt8} (h : areWords bytes = true) :
    ∃ cause place, read? bytes = .error (.malformed cause place) := by
  rcases bytes with _ | ⟨a, _ | ⟨b, r⟩⟩
  · exact exists_eq_of_isMalformed (by decide +kernel)
  · have hletters : ∀ n : Fin 256, isLetter (Char.ofNat n) = true → isMalformed (read? [UInt8.ofNat n]) = true := by
      decide +kernel
    have ha := hletters ⟨a.toNat, a.toNat_lt⟩ h
    rw [UInt8.ofNat_toNat] at ha
    exact exists_eq_of_isMalformed ha
  · exact exists_malformed_of_beginsWithLetter h

end ScriptGrader.Markup
