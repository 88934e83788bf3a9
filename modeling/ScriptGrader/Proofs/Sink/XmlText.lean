import Mathlib.Data.List.Basic
import ScriptGrader.Proofs.Sink.XmlReport

/-!
# The text of an XML report

A report that grew case by case is the text that could have been written at
once: a heading, a line for each tag, and one case for each record of all
the bundles, in order. What carries this from record to record is that the
file holds the document of the cases so far, or is not there yet.
-/

namespace ScriptGrader

namespace Markup

/-- The characters that XML 1.0 admits. -/
def IsLegal (c : Char) : Prop :=
  c = '\t' ∨ c = '\n' ∨ c = '\r' ∨ (0x20 ≤ c.toNat ∧ c.toNat ≤ 0xd7ff) ∨
    (0xe000 ≤ c.toNat ∧ c.toNat ≤ 0xfffd) ∨ (0x10000 ≤ c.toNat ∧ c.toNat ≤ 0x10ffff)

instance (c : Char) : Decidable (IsLegal c) :=
  inferInstanceAs (Decidable (_ ∨ _ ∨ _ ∨ (_ ∧ _) ∨ (_ ∧ _) ∨ (_ ∧ _)))

/-- The characters that documents may hold are those that XML admits. -/
theorem isAllowed_iff_isLegal {c : Char} : isAllowed c = true ↔ IsLegal c := by
  have hvalid : c.toNat < 0xd800 ∨ 0xdfff < c.toNat ∧ c.toNat < 0x110000 := c.valid
  simp only [isAllowed, IsLegal, Bool.or_eq_true, Bool.and_eq_true, decide_eq_true_eq, or_assoc]
  refine or_congr_right (or_congr_right (or_congr_right ?_))
  omega

/-- A legal character is read as it is written, unless it ends a line. -/
theorem isTextChar_of_isLegal {c : Char} (h : IsLegal c) (hreturn : c ≠ '\r') : IsTextChar c :=
  ⟨isAllowed_iff_isLegal.2 h, hreturn⟩

/-! ## Elements on lines of their own -/

/-- An element with a text, as it is written. -/
def leafText (name text : String) : List Char :=
  if text = "" then '<' :: (name.toList ++ " />".toList)
  else '<' :: (name.toList ++ '>' :: (text.toList.flatMap escapeText ++ '<' :: '/' :: (name.toList ++ ['>'])))

namespace Element

theorem unlessBlank_nil (standIn : List Char) : unlessBlank [] standIn = standIn := rfl

/-- What a line begins with needs no escape. -/
theorem escaped_lineStart (level : Nat) : (lineStart level).flatMap escapeText = lineStart level := by
  have hspaces : ∀ n : Nat, (List.replicate n ' ').flatMap escapeText = List.replicate n ' ' := by
    intro n
    induction n with
    | zero => rfl
    | succ n ih => rw [List.replicate_succ, List.flatMap_cons, ih]; rfl
  rw [lineStart, List.flatMap_cons, hspaces]
  rfl

theorem render_leaf (labels : List (String × String)) (level : Nat) (name text : String) :
    ((leaf name text).indentAt level).render labels [] = leafText name text := by
  rw [leaf, indentAt, leafText]
  by_cases h : text = ""
  · subst h
    rw [if_pos rfl]
    exact Content.render_closed rfl labels
  · have htext : ¬ (text.toList = [] ∧ ([] : List (Element × List Char)) = []) := by
      simpa [String.toList_eq_nil_iff] using h
    rw [if_neg h, Content.render_open rfl labels htext, renderChildren, List.nil_append]
    rfl

/-- **Children on lines of their own**, and the line that their parent's end tag is on. -/
theorem render_indentChildren (labels : List (String × String)) (level : Nat) {cs : List Element} (hcs : cs ≠ []) :
    lineStart (level + 1) ++ renderChildren labels (indentChildren level (cs.map fun c => (c, []))) =
      cs.flatMap (fun c => lineStart (level + 1) ++ (c.indentAt (level + 1)).render labels []) ++
        lineStart level := by
  induction cs with
  | nil => exact absurd rfl hcs
  | cons c cs ih =>
    cases cs with
    | nil =>
      rw [List.map_singleton, indentChildren, renderChildren, renderChildren, unlessBlank_nil, escaped_lineStart]
      simp
    | cons d ds =>
      have hrest := ih (by simp)
      rw [List.map_cons] at hrest ⊢
      rw [List.map_cons, indentChildren_cons_cons, renderChildren, unlessBlank_nil, escaped_lineStart,
        List.flatMap_cons, List.append_assoc, List.append_assoc, ← hrest]
      simp only [List.append_assoc]

/-- **A branch** with a line for each child. -/
theorem render_branch (labels : List (String × String)) (level : Nat) (name : String) {cs : List Element}
    (hcs : cs ≠ []) : ((branch name cs).indentAt level).render labels [] =
      '<' :: (name.toList ++ '>' ::
        (cs.flatMap (fun c => lineStart (level + 1) ++ (c.indentAt (level + 1)).render labels []) ++
          (lineStart level ++ '<' :: '/' :: (name.toList ++ ['>'])))) := by
  obtain ⟨c, ds, rfl⟩ := List.exists_cons_of_ne_nil hcs
  have hchildren := render_indentChildren labels level hcs
  rw [List.map_cons] at hchildren
  have hindent : (branch name (c :: ds)).indentAt level = .mk (.plain name) [] (lineStart (level + 1))
      (indentChildren level ((c, []) :: ds.map fun c => (c, []))) := by
    rw [branch, List.map_cons, indentAt, unlessBlank_nil]
  have hcontent : ¬ (lineStart (level + 1) = [] ∧
      indentChildren level ((c, []) :: ds.map fun c => (c, [])) = []) := by simp [lineStart]
  rw [hindent, Content.render_open rfl labels hcontent, escaped_lineStart, ← List.append_assoc (lineStart _),
    hchildren, List.append_assoc]
  rfl

end Element
end Markup

namespace XmlReport

open Markup (Element IsLegal leafText)

/-- What documents are read and written in. -/
local instance : Markup.Alphabet := .standard

/-- The lines of a case. -/
def caseText (r : Record) : List Char :=
  ["\n  <case>\n    ".toList, leafText "test-case-type" r.category.name, "\n    ".toList, leafText "name" r.checkName,
    "\n    ".toList, leafText "status" r.status.name, "\n  </case>".toList].flatten

/-- The report of some records, written at once. -/
def reportText (rs : List Record) : List Char :=
  ["<?xml version='1.0' encoding='utf-8'?>\n<test-cases>".toList, rs.flatMap caseText, "\n</test-cases>".toList].flatten

theorem render_case (r : Record) :
    Element.lineStart 1 ++ (r.case.indentAt 1).render [] [] = caseText r := by
  have hopening : "\n  <case>\n    ".toList =
      Element.lineStart 1 ++ '<' :: ("case".toList ++ '>' :: Element.lineStart 2) := by decide
  have hline : "\n    ".toList = Element.lineStart 2 := by decide
  have hclosing : "\n  </case>".toList =
      Element.lineStart 1 ++ '<' :: '/' :: ("case".toList ++ ['>']) := by decide
  rw [Record.case, Element.render_branch [] 1 "case" (by simp)]
  unfold caseText
  rw [hopening, hline, hclosing]
  simp only [List.flatMap_cons, List.flatMap_nil, Element.render_leaf]
  -- The texts of the tags are left closed, so that nothing computes them.
  generalize "case".toList = tag, Element.lineStart 1 = outer, Element.lineStart (1 + 1) = inner,
    leafText _ r.category.name = category, leafText _ r.checkName = name, leafText _ r.status.name = status
  simp only [List.flatten_cons, List.flatten_nil, List.append_nil, List.append_assoc, List.cons_append]

/-- **The document of some cases** is the report written at once. -/
theorem document_eq_reportText {rs : List Record} (hlegible : ∀ r ∈ rs, r.IsLegible) (hrs : rs ≠ []) :
    (documentOf (rs.map Record.case)).indent.document = reportText rs := by
  have hplain := Element.isPlain_indentAt 0 (isPlain_documentOf (Record.isPlain_cases hlegible))
  have hopening : "<?xml version='1.0' encoding='utf-8'?>\n<test-cases>".toList =
      Element.heading ++ '<' :: ("test-cases".toList ++ ['>']) := by decide
  have hclosing : "\n</test-cases>".toList =
      Element.lineStart 0 ++ '<' :: '/' :: ("test-cases".toList ++ ['>']) := by decide
  rw [Element.indent, Element.document_eq hplain, documentOf, Element.render_branch [] 0 _ (by simpa using hrs),
    List.flatMap_map]
  unfold reportText
  rw [hopening, hclosing]
  simp only [Nat.zero_add, render_case]
  generalize "test-cases".toList = tag, Element.lineStart 0 = start, Element.heading = heading
  simp only [List.flatten_cons, List.flatten_nil, List.append_nil, List.append_assoc, List.cons_append,
    List.nil_append]

/-! ## From bundle to bundle -/

variable {o o₁ o' : Outside} {p : Path} {place : List String} {cs : List Element} {rs : List Record}

/-- The file holds the document of some cases; without cases it is not there. -/
def Holds (fs : Files) (place : List String) (cs : List Element) : Prop :=
  fs.node? place = if cs = [] then none else some (.file (bytesOf (documentOf cs)))

theorem Holds.continues {fs : Files} (h : Holds fs place cs) (hleads : fs.LeadsTo p place)
    (hread : fs.Grants .read place) (hcs : ∀ c ∈ cs, c.IsPlain) : Continues fs p cs := by
  rw [Holds] at h
  by_cases hnil : cs = []
  · subst hnil
    exact continues_nil hleads h
  · rw [if_neg hnil] at h
    exact continues_document hleads hread hcs h

/-- What is added is held behind what was held. -/
theorem Added.holds (h : Added place cs rs o o') (hcs : Holds o.files place cs) :
    Holds o'.files place (cs ++ rs.map Record.case) := by
  by_cases hrs : rs = []
  · subst hrs
    rw [Holds, h.kept place (.inr rfl), List.map_nil, List.append_nil]
    exact hcs
  · rw [Holds, h.grown hrs, if_neg (by simp [hrs])]

/-- **Bundles one after the other** add their cases. -/
theorem holds_of_forM (hleads : o.files.LeadsTo p place) (hfree : o.files.IsFree place)
    (hcs : ∀ c ∈ cs, c.IsPlain) (hholds : Holds o.files place cs) {bs : List Bundle}
    (hlegible : ∀ b ∈ bs, ∀ r ∈ b.records, r.IsLegible) :
    ∃ o', Work.on o (bs.forM (write p)) = (.ok (), o') ∧ o'.files.LeadsTo p place ∧ o'.files.IsFree place ∧
      Holds o'.files place (cs ++ (bs.flatMap Bundle.records).map Record.case) := by
  induction bs generalizing o cs with
  | nil => exact ⟨o, rfl, hleads, hfree, by simpa using hholds⟩
  | cons b bs ih =>
    have hb := hlegible b List.mem_cons_self
    obtain ⟨o₁, hwrite, hadded⟩ := write_eq hleads hfree hcs (hholds.continues hleads hfree.read hcs) b hb
    have hcs₁ : ∀ c ∈ cs ++ b.records.map Record.case, c.IsPlain := by
      intro c hc
      rcases List.mem_append.1 hc with hc | hc
      · exact hcs c hc
      · exact Record.isPlain_cases hb c hc
    obtain ⟨o', hrest, hleads', hfree', hholds'⟩ := ih (hleads.of_sameDirectories hadded.directories)
      (hfree.of_sameDirectories hadded.directories) hcs₁ (hadded.holds hholds)
      fun d hd => hlegible d (List.mem_cons_of_mem b hd)
    refine ⟨o', by rw [Work.on_forM_cons, Work.on_bind_ok hwrite, hrest], hleads', hfree', ?_⟩
    rwa [List.flatMap_cons, List.map_append, ← List.append_assoc]

/-- A check that was passed, with a name to be written. -/
def sampleRecord (checkName : String) : Record :=
  ⟨checkName, .functional, .whole 1, .full, .pass, false, "", rfl, rfl, rfl⟩

example : caseText (sampleRecord "a<b\n]]>") =
    "\n  <case>\n    <test-case-type>functional</test-case-type>\n    <name>a&lt;b\n]]&gt;</name>
    <status>Pass</status>\n  </case>".toList := by
  decide +kernel

/-- Hard names: none at all, markup, blanks and the end of a line. -/
def hardBundles : List Bundle :=
  [⟨[("a", sampleRecord ""), ("b", sampleRecord "<a href='b'>&amp;]]>")], "", by decide⟩, ⟨[], "", by decide⟩,
    ⟨[("a", sampleRecord " \n ")], "m", by decide⟩]

/-- An empty directory. -/
def emptyOutside : Outside := ⟨{ entries := [(["d"], .directory)] }, [], [], []⟩

end XmlReport
end ScriptGrader
