import ScriptGrader.Proofs.Markup.Element

/-!
# Indenting again

Indentation replaces blank texts only, and puts blank texts in their place.
So it may be done over and over: a document that is indented, read, given
one more child and indented again is the document that was indented once
with all its children.
-/

namespace ScriptGrader.Markup.Element

theorem isBlank_lineStart (level : Nat) : isBlank (lineStart level) = true := by
  have hline : Numeral.isBlank '\n' = true := by decide
  have hspace : Numeral.isBlank ' ' = true := by decide
  simp [isBlank, lineStart, hline, hspace]

/-- What stands for a blank text is replaced like the text itself. -/
theorem unlessBlank_unlessBlank (cs : List Char) (l m : Nat) :
    unlessBlank (unlessBlank cs (lineStart l)) (lineStart m) = unlessBlank cs (lineStart m) := by
  by_cases h : isBlank cs = true
  · simp [unlessBlank, h, isBlank_lineStart]
  · simp [unlessBlank, h]

/-- A child that has another one behind it. -/
theorem indentChildren_cons_cons (level : Nat) (c : Element) (tail : List Char)
    (d : Element × List Char) (r : List (Element × List Char)) :
    indentChildren level ((c, tail) :: d :: r) =
      (indentAt (level + 1) c, unlessBlank tail (lineStart (level + 1))) ::
        indentChildren level (d :: r) := by
  rw [indentChildren]

/-- Children stay children. -/
theorem exists_indentChildren_cons (level : Nat) (d : Element × List Char)
    (r : List (Element × List Char)) : ∃ x xs, indentChildren level (d :: r) = x :: xs := by
  cases r <;> exact ⟨_, _, by rw [indentChildren]⟩

mutual

/-- **Indenting twice** is indenting once. -/
theorem indentAt_indentAt (level : Nat) : ∀ e : Element,
    indentAt level (indentAt level e) = indentAt level e
  | mk n a t [] => by rw [indentAt, indentAt]
  | mk n a t [(c, tail)] => by
    rw [indentAt, indentChildren, indentAt, indentChildren, indentAt_indentAt (level + 1) c,
      unlessBlank_unlessBlank, unlessBlank_unlessBlank]
  | mk n a t ((c, tail) :: d :: r) => by
    have h := indentChildren_indentChildren level ((c, tail) :: d :: r)
    rw [indentAt]
    rw [indentChildren] at h ⊢
    rw [indentAt, unlessBlank_unlessBlank, h]

theorem indentChildren_indentChildren (level : Nat) : ∀ cs : List (Element × List Char),
    indentChildren level (indentChildren level cs) = indentChildren level cs
  | [] => by rw [indentChildren, indentChildren]
  | [(c, tail)] => by
    rw [indentChildren, indentChildren, indentAt_indentAt (level + 1) c, unlessBlank_unlessBlank]
  | (c, tail) :: d :: r => by
    have h := indentChildren_indentChildren level (d :: r)
    rw [indentChildren]
    obtain ⟨x, xs, hx⟩ := exists_indentChildren_cons level d r
    rw [hx] at h ⊢
    rw [indentChildren, indentAt_indentAt (level + 1) c, unlessBlank_unlessBlank, h]

end

/-- One more child behind children that were indented before. -/
theorem indentChildren_append (level : Nat) (x : Element × List Char) :
    ∀ cs : List (Element × List Char),
      indentChildren level (indentChildren level cs ++ [x]) = indentChildren level (cs ++ [x])
  | [] => by rw [indentChildren]
  | [(c, tail)] => by
    rw [indentChildren]
    simp only [List.singleton_append]
    rw [indentChildren, indentAt_indentAt, unlessBlank_unlessBlank, ← indentChildren_cons_cons]
  | (c, tail) :: d :: r => by
    have h := indentChildren_append level x (d :: r)
    obtain ⟨y, ys, hy⟩ := exists_indentChildren_cons level d r
    rw [hy] at h
    simp only [List.cons_append] at h
    rw [indentChildren, hy]
    simp only [List.cons_append]
    rw [indentChildren, h, indentAt_indentAt, unlessBlank_unlessBlank, ← indentChildren_cons_cons]

/-- **One more child** in a document that was indented before. -/
theorem indent_append (e c : Element) : (e.indent.append c).indent = (e.append c).indent := by
  obtain ⟨n, a, t, cs⟩ := e
  cases cs with
  | nil => simp only [indent, indentAt]
  | cons d r =>
    have h := indentChildren_append 0 (c, []) (d :: r)
    obtain ⟨y, ys, hy⟩ := exists_indentChildren_cons 0 d r
    rw [hy] at h
    simp only [List.cons_append] at h
    simp only [indent, indentAt, append, hy, List.cons_append, unlessBlank_unlessBlank, h]

/-- A branch grows child by child. -/
theorem branch_append (name : String) (children : List Element) (c : Element) :
    (branch name children).append c = branch name (children ++ [c]) := by
  rw [branch, branch, append, List.map_append, List.map_singleton]

/-! ## Lines -/

/-- The end of a line is blank, however it is spelled. -/
theorem isBlank_universalNewlines (cs : List Char) : isBlank (Text.universalNewlines cs) = isBlank cs := by
  have hfeed : Numeral.isBlank '\n' = true := by decide
  have hreturn : Numeral.isBlank '\r' = true := by decide
  unfold isBlank
  induction cs using Text.universalNewlines.induct with
  | case1 => rfl
  | case2 r ih =>
    rw [Text.universalNewlines_pair, List.all_cons, List.all_cons, List.all_cons, ih, hfeed, hreturn, Bool.true_and,
      Bool.true_and]
  | case3 r hr ih => rw [Text.universalNewlines_return hr, List.all_cons, List.all_cons, ih, hfeed, hreturn]
  | case4 c r _ hc ih => rw [Text.universalNewlines_cons hc, List.all_cons, List.all_cons, ih]

theorem universalNewlines_unlessBlank (cs : List Char) (level : Nat) :
    Text.universalNewlines (unlessBlank cs (lineStart level)) =
      unlessBlank (Text.universalNewlines cs) (lineStart level) := by
  have hline : Text.universalNewlines (lineStart level) = lineStart level := by
    refine Text.universalNewlines_of_not_mem ?_
    simp [lineStart]
  rw [unlessBlank, unlessBlank, isBlank_universalNewlines]
  split
  · exact hline
  · rfl

mutual

/-- **What is indented and read** could have been read and indented. -/
theorem reread_indentAt (level : Nat) : ∀ e : Element, (indentAt level e).reread = indentAt level e.reread
  | mk n a t [] => by rw [indentAt, reread, rereadChildren, indentAt]
  | mk n a t ((c, tail) :: cs) => by
    have hchildren := rereadChildren_indentChildren level ((c, tail) :: cs)
    rw [rereadChildren] at hchildren
    rw [indentAt, reread, reread, rereadChildren, indentAt, universalNewlines_unlessBlank, hchildren]

theorem rereadChildren_indentChildren (level : Nat) : ∀ cs : List (Element × List Char),
    rereadChildren (indentChildren level cs) = indentChildren level (rereadChildren cs)
  | [] => by rw [indentChildren, rereadChildren, indentChildren]
  | [(c, tail)] => by
    rw [indentChildren, rereadChildren, rereadChildren, rereadChildren, rereadChildren, indentChildren,
      reread_indentAt, universalNewlines_unlessBlank]
  | (c, tail) :: (d, tail') :: r => by
    have hchildren := rereadChildren_indentChildren level ((d, tail') :: r)
    rw [rereadChildren] at hchildren
    rw [indentChildren, rereadChildren, rereadChildren, rereadChildren, indentChildren_cons_cons,
      reread_indentAt, universalNewlines_unlessBlank, hchildren]

end

theorem rereadChildren_map (children : List Element) :
    rereadChildren (children.map fun c => (c, [])) = (children.map reread).map fun c => (c, []) := by
  induction children with
  | nil => rfl
  | cons c cs ih =>
    rw [List.map_cons, rereadChildren, ih]
    rfl

/-- A branch is read child by child. -/
theorem reread_branch (name : String) (children : List Element) :
    (branch name children).reread = branch name (children.map reread) := by
  rw [branch, reread, rereadChildren_map]
  rfl

/-! ## Names and children -/

theorem name_indentAt (level : Nat) : ∀ e : Element, (indentAt level e).name = e.name
  | mk n a t [] => by rw [indentAt]
  | mk n a t (c :: cs) => by rw [indentAt, name, name]

/-- Indentation keeps the children. -/
theorem map_indentChildren (level : Nat) (cs : List (Element × List Char)) :
    (indentChildren level cs).map Prod.fst = cs.map fun c => indentAt (level + 1) c.1 := by
  induction cs with
  | nil =>
    rw [indentChildren]
    rfl
  | cons c r ih =>
    cases r with
    | nil =>
      rw [indentChildren]
      rfl
    | cons d r =>
      rw [indentChildren, List.map_cons, ih]
      rfl

theorem children_indentAt (level : Nat) (e : Element) :
    (indentAt level e).children.map Prod.fst = e.children.map fun c => indentAt (level + 1) c.1 := by
  obtain ⟨n, a, t, cs⟩ := e
  cases cs with
  | nil =>
    rw [indentAt]
    rfl
  | cons c cs =>
    rw [indentAt, children, map_indentChildren]
    rfl

end ScriptGrader.Markup.Element
