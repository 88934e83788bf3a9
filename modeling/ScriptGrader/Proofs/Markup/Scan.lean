import Mathlib.Data.List.Basic
import ScriptGrader.Markup.Content
import ScriptGrader.Markup.Writing
import ScriptGrader.Proofs.Text.Lines

/-!
# Pieces of markup that are written

What the writer of documents writes, the scanner takes off the front of a
text again: names, tags without attributes, escaped characters, and runs
of characters that need no escape.
-/

namespace ScriptGrader.Markup

/-- A character that is read as it is written: one that a document may
hold, and no carriage return, which would be read as the end of a line. -/
def IsTextChar (c : Char) : Prop := isAllowed c = true ∧ c ≠ '\r'

instance (c : Char) : Decidable (IsTextChar c) := inferInstanceAs (Decidable (_ ∧ _))

/-- A text that is read as it is written. -/
def IsText (cs : List Char) : Prop := ∀ c ∈ cs, IsTextChar c

instance (cs : List Char) : Decidable (IsText cs) := List.decidableBAll IsTextChar cs

/-- A text of characters that a document may hold. -/
def AreAllowed (cs : List Char) : Prop := ∀ c ∈ cs, isAllowed c = true

theorem areAllowed_nil : AreAllowed [] := List.forall_mem_nil _

theorem IsText.areAllowed {cs : List Char} (h : IsText cs) : AreAllowed cs := fun c hc => (h c hc).1

/-- What is read of such a text is read as it is written. -/
theorem AreAllowed.isText_universalNewlines {cs : List Char} (h : AreAllowed cs) :
    IsText (Text.universalNewlines cs) := by
  have hallowed := Text.forall_mem_universalNewlines (by decide) h
  exact fun c hc => ⟨hallowed c hc, fun hreturn => Text.not_mem_universalNewlines cs (hreturn ▸ hc)⟩

theorem IsText.universalNewlines_eq {cs : List Char} (h : IsText cs) : Text.universalNewlines cs = cs :=
  Text.universalNewlines_of_not_mem fun hmem => (h _ hmem).2 rfl

/-- The characters that are written as references. -/
def IsSpecial (c : Char) : Prop := c = '&' ∨ c = '<' ∨ c = '>'

instance (c : Char) : Decidable (IsSpecial c) := inferInstanceAs (Decidable (_ ∨ _ ∨ _))

theorem escapeText_of_not {c : Char} (h : ¬ IsSpecial c) : escapeText c = [c] := by
  simp only [IsSpecial, not_or] at h
  unfold escapeText
  split
  · exact absurd rfl h.1
  · exact absurd rfl h.2.1
  · exact absurd rfl h.2.2
  · rfl

/-- What needs no escape is written as it is. -/
theorem flatMap_escapeText {cs : List Char} (h : ∀ c ∈ cs, ¬ IsSpecial c) : cs.flatMap escapeText = cs := by
  induction cs with
  | nil => rfl
  | cons c cs ih =>
    rw [List.flatMap_cons, escapeText_of_not (h c List.mem_cons_self),
      ih fun d hd => h d (List.mem_cons_of_mem c hd), List.singleton_append]

/-- A text is a run that needs no escape, and maybe a character that does, and a text behind it. -/
@[elab_as_elim]
theorem runs_induction {motive : List Char → Prop} (run : ∀ cs, (∀ c ∈ cs, ¬ IsSpecial c) → motive cs)
    (special : ∀ cs d ds, (∀ c ∈ cs, ¬ IsSpecial c) → IsSpecial d → motive ds → motive (cs ++ d :: ds))
    (cs : List Char) : motive cs := by
  -- the induction is on the text behind the run so far
  suffices hrun : ∀ before, (∀ c ∈ before, ¬ IsSpecial c) → motive (before ++ cs) from hrun [] (by simp)
  induction cs with
  | nil =>
    intro before hbefore
    rw [List.append_nil]
    exact run before hbefore
  | cons d ds ih =>
    intro before hbefore
    by_cases hd : IsSpecial d
    · exact special before d ds hbefore hd (ih [] (by simp))
    · have hds := ih (before ++ [d]) (List.forall_mem_append.2 ⟨hbefore, List.forall_mem_singleton.2 hd⟩)
      rwa [List.append_assoc, List.singleton_append] at hds

/-- The end of a tag right behind its name. -/
theorem Scan.charAfterBlanks_close (start r : List Char) :
    Scan.charAfterBlanks start '>' ('>' :: r) = .ok r := by
  have hdrop : ('>' :: r).dropWhile isSpace = '>' :: r := rfl
  rw [Scan.charAfterBlanks, hdrop, if_neg (Nat.lt_irrefl _)]
  rfl

variable [Alphabet]

/-- A name without colons. -/
def IsName (cs : List Char) : Prop :=
  ∃ c r, cs = c :: r ∧ isNameStart c = true ∧ ∀ d ∈ r, isNameChar d = true

theorem isName_cons {c : Char} {r : List Char} :
    IsName (c :: r) ↔ isNameStart c = true ∧ r.all isNameChar = true := by
  rw [List.all_eq_true]
  constructor
  · rintro ⟨d, r', heq, hd, hr⟩
    cases heq
    exact ⟨hd, hr⟩
  · rintro ⟨hc, hr⟩
    exact ⟨c, r, rfl, hc, hr⟩

instance : DecidablePred IsName
  | [] => isFalse (by rintro ⟨c, r, heq, -⟩; cases heq)
  | _ :: _ => decidable_of_iff _ isName_cons.symm

/-- What may stand behind a name. -/
def EndsName (rest : List Char) : Prop := ∃ c r, rest = c :: r ∧ isNameChar c = false ∧ c ≠ ':'

theorem endsName_close (r : List Char) : EndsName ('>' :: r) := ⟨'>', r, rfl, by rfl, by decide⟩

theorem endsName_blank (r : List Char) : EndsName (' ' :: r) := ⟨' ', r, rfl, by rfl, by decide⟩

/-- A character that begins a name begins nothing else. -/
theorem ne_of_isNameStart {c d : Char} (h : isNameStart c = true) (hd : isNameStart d = false) :
    c ≠ d := by
  rintro rfl
  rw [h] at hd
  cases hd

namespace Scan

/-- A name is taken up to what ends it. -/
theorem name_append {cs rest : List Char} (hname : IsName cs) (hrest : EndsName rest)
    (start : List Char) : name start (cs ++ rest) = .ok (String.ofList cs, rest) := by
  obtain ⟨c, r, rfl, hc, hr⟩ := hname
  obtain ⟨d, s, rfl, hd, -⟩ := hrest
  have htake : (r ++ d :: s).takeWhile isNameChar = r := by
    rw [List.takeWhile_append_of_pos hr, List.takeWhile_cons, hd]
    simp
  have hdrop : (r ++ d :: s).dropWhile isNameChar = d :: s := by
    rw [List.dropWhile_append_of_pos hr, List.dropWhile_cons, hd]
    simp
  rw [List.cons_append, name, if_pos hc, htake, hdrop]

/-- A name without a colon behind it is a label on its own. -/
theorem label_append {cs rest : List Char} (hname : IsName cs) (hrest : EndsName rest)
    (start : List Char) : label start (cs ++ rest) = .ok (⟨none, String.ofList cs⟩, rest) := by
  have h := name_append hname hrest start
  obtain ⟨d, s, rfl, -, hd⟩ := hrest
  rw [label, h]
  simp only [bind, Except.bind]
  split
  · next heq => exact absurd (List.cons.inj heq).1 hd
  · rfl

/-- A tag without attributes. -/
theorem startTag_open {cs : List Char} (hname : IsName cs) (fuel : Nat) (start r : List Char) :
    startTag (fuel + 1) start (cs ++ '>' :: r) =
      .ok (⟨⟨none, String.ofList cs⟩, [], false⟩, r) := by
  rw [startTag, label_append hname (endsName_close r)]
  rfl

/-- The tag of an element without content. -/
theorem startTag_empty {cs : List Char} (hname : IsName cs) (fuel : Nat) (start r : List Char) :
    startTag (fuel + 1) start (cs ++ ' ' :: '/' :: '>' :: r) =
      .ok (⟨⟨none, String.ofList cs⟩, [], true⟩, r) := by
  rw [startTag, label_append hname (endsName_blank _)]
  rfl

/-- The name in an end tag. -/
theorem endTag_append {cs : List Char} (hname : IsName cs) (start r : List Char) :
    endTag start (cs ++ '>' :: r) = .ok (String.ofList cs, r) := by
  obtain ⟨c, s, rfl, hc, hs⟩ := hname
  have htag : ∀ d ∈ s, isEndTagChar d = true := fun d hd => by rw [isEndTagChar, hs d hd, Bool.true_or]
  have hclose : isEndTagChar '>' = false := rfl
  have htake : (s ++ '>' :: r).takeWhile isEndTagChar = s := by
    rw [List.takeWhile_append_of_pos htag, List.takeWhile_cons, hclose]
    simp
  have hdrop : (s ++ '>' :: r).dropWhile isEndTagChar = '>' :: r := by
    rw [List.dropWhile_append_of_pos htag, List.dropWhile_cons, hclose]
    simp
  rw [List.cons_append, endTag, if_pos hc, htake, hdrop, charAfterBlanks_close]
  rfl

/-! ## Escapes -/

/-- **An escaped character** is a reference to it. -/
theorem reference_escaped {c : Char} (h : IsSpecial c) :
    ∃ name more, escapeText c = '&' :: more ∧ standardEntity? name = some c ∧
      ∀ start r, reference start (more ++ r) = .ok (.entity name, r) := by
  rcases h with rfl | rfl | rfl
  · exact ⟨"amp", "amp;".toList, rfl, rfl, fun start r => rfl⟩
  · exact ⟨"lt", "lt;".toList, rfl, rfl, fun start r => rfl⟩
  · exact ⟨"gt", "gt;".toList, rfl, rfl, fun start r => rfl⟩

end Scan
end ScriptGrader.Markup
