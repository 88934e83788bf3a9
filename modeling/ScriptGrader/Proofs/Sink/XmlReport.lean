import ScriptGrader.Proofs.Files.Walk
import ScriptGrader.Proofs.Markup.Indent
import ScriptGrader.Proofs.Markup.Reading
import ScriptGrader.Proofs.Outside
import ScriptGrader.Sink.XmlReport

/-!
# What XML reports hold

The document is read, gets one more case and is written again for every
record. What carries the writing is that a document which was read goes on
like the one that was written: its indentation is replaced, and its cases
stay what they are.
-/

namespace ScriptGrader

open Markup (Element Name IsText AreAllowed IsName)

/-- What documents are read and written in. -/
local instance : Markup.Alphabet := .standard

namespace Record

/-- A record with a name that is read as it is written. -/
def IsLegible (r : Record) : Prop := IsText r.checkName.toList

/-- The texts of a case are its record's name and words that are plain. -/
theorem isBare_case {P : List Char → Prop} (hplain : ∀ t, IsText t → P t) {r : Record} (h : P r.checkName.toList) :
    r.case.IsBare P := by
  have hcategory : ∀ c : Category, IsText c.name.toList := by
    intro c
    cases c <;> decide
  have hstatus : ∀ s : Status, IsText s.name.toList := by
    intro s
    cases s <;> decide
  refine Element.isBare_branch (hplain [] (by decide)) (by decide) ?_
  intro e he
  simp only [List.mem_cons, List.not_mem_nil, or_false] at he
  rcases he with rfl | rfl | rfl
  · exact Element.isBare_leaf (by decide) (hplain _ (hcategory _))
  · exact Element.isBare_leaf (by decide) h
  · exact Element.isBare_leaf (by decide) (hplain _ (hstatus _))

/-- The case of a legible record is read as it is written. -/
theorem isPlain_case {r : Record} (h : r.IsLegible) : r.case.IsPlain := isBare_case (fun _ ht => ht) h

/-- So are the cases of legible records. -/
theorem isPlain_cases {rs : List Record} (h : ∀ r ∈ rs, r.IsLegible) : ∀ c ∈ rs.map case, c.IsPlain := by
  intro c hc
  obtain ⟨r, hr, rfl⟩ := List.mem_map.1 hc
  exact isPlain_case (h r hr)

end Record

namespace XmlReport

variable {fs : Files} {o : Outside} {p : Path} {place : List String} {cs : List Element} {rs : List Record}
  {r : Record}

/-- A document of some cases. -/
def documentOf (cs : List Element) : Element := .branch "test-cases" cs

theorem isBare_documentOf {P : List Char → Prop} (hnil : P []) (h : ∀ c ∈ cs, c.IsBare P) :
    (documentOf cs).IsBare P :=
  Element.isBare_branch hnil (by decide) h

theorem isPlain_documentOf (h : ∀ c ∈ cs, c.IsPlain) : (documentOf cs).IsPlain :=
  @isBare_documentOf cs IsText (by decide) h

/-- **A report is read** as the document that was written, with its lines,
which are ended by line feeds in names too. -/
theorem read?_bytesOf_reread (h : ∀ c ∈ cs, c.IsBare AreAllowed) :
    Markup.read? (bytesOf (documentOf cs)) = .ok (documentOf (cs.map Element.reread)).indent := by
  have hline : ∀ level, AreAllowed (Element.lineStart level) := fun level =>
    (Element.isText_lineStart level).areAllowed
  have hread : (documentOf (cs.map Element.reread)).indent = (documentOf cs).indent.reread := by
    rw [documentOf, ← Element.reread_branch, Element.indent, ← Element.reread_indentAt]
    rfl
  rw [hread]
  exact Markup.read?_reread (Element.isBare_indentAt hline 0 (isBare_documentOf Markup.areAllowed_nil h))

theorem read?_bytesOf (h : ∀ c ∈ cs, c.IsPlain) :
    Markup.read? (bytesOf (documentOf cs)) = .ok (documentOf cs).indent :=
  Markup.read?_document (Element.isPlain_indentAt 0 (isPlain_documentOf h))

/-! ## What is found at a path -/

theorem current?_of_absent (hfile : fs.isFile? p = .ok false) : current? fs p = .ok empty := by
  rw [current?, hfile]
  rfl

theorem current?_of_unreadable {e : FileError} (hfile : fs.isFile? p = .ok true) (hread : fs.read? p = .error e) :
    current? fs p = .error (failure e) := by
  rw [current?, hfile, hread]
  rfl

theorem current?_of_file {bytes : List UInt8} (hfile : fs.isFile? p = .ok true) (hread : fs.read? p = .ok bytes) :
    current? fs p = parse? p bytes := by
  rw [current?, hfile, hread]
  rfl

/-- A file that is no document is told of. -/
theorem current?_of_malformed {bytes : List UInt8} {cause : Markup.Cause} {spot : Markup.Place}
    (hfile : fs.isFile? p = .ok true) (hread : fs.read? p = .ok bytes)
    (hmalformed : Markup.read? bytes = .error (.malformed cause spot)) :
    current? fs p = .error (.xmlDocument p cause spot) := by
  rw [current?_of_file hfile hread, parse?, hmalformed]
  rfl

/-- What is found at a path goes on like a document of some cases. -/
def Continues (fs : Files) (p : Path) (cs : List Element) : Prop :=
  ∃ d, current? fs p = .ok d ∧ ∀ c, (d.append c).indent = ((documentOf cs).append c).indent

/-- Where there is no file, a document begins. -/
theorem continues_nil (h : fs.LeadsTo p place) (hnode : fs.node? place = none) : Continues fs p [] := by
  exact ⟨empty, current?_of_absent (h.isFile?_eq_false hnode), fun c => rfl⟩

/-- A report that was written goes on as it is read. -/
theorem continues_reread (h : fs.LeadsTo p place) (hread : fs.Grants .read place)
    (hcs : ∀ c ∈ cs, c.IsBare AreAllowed) (hnode : fs.node? place = some (.file (bytesOf (documentOf cs)))) :
    Continues fs p (cs.map Element.reread) := by
  refine ⟨(documentOf (cs.map Element.reread)).indent, ?_, fun c => Element.indent_append _ c⟩
  rw [current?_of_file (h.isFile?_eq_true hnode) (h.read?_eq hread hnode), parse?, read?_bytesOf_reread hcs]
  rfl

/-- A report of plain cases goes on as it was written. -/
theorem continues_document (h : fs.LeadsTo p place) (hread : fs.Grants .read place) (hcs : ∀ c ∈ cs, c.IsPlain)
    (hnode : fs.node? place = some (.file (bytesOf (documentOf cs)))) : Continues fs p cs := by
  have hreread : cs.map Element.reread = cs :=
    (List.map_congr_left fun c hc => (hcs c hc).reread_eq).trans (List.map_id cs)
  have hcontinues := continues_reread h hread (fun c hc => (hcs c hc).imp fun _ ht => ht.areAllowed) hnode
  rwa [hreread] at hcontinues

/-! ## What is written -/

/-- Without a document nothing is written. -/
theorem on_add_of_error {e : SinkError} (hcurrent : current? o.files p = .error e) (r : Record) :
    Work.on o (add p r) = (.error e, o) := by
  rw [add, Work.on_bind_ok (Work.on_files o), hcurrent]
  exact Work.on_bind_error rfl _

/-- The document with one more case is written. -/
theorem on_add_of_current? {d : Element} (hcurrent : current? o.files p = .ok d) (r : Record) :
    Work.on o (add p r) =
      let written := o.files.write p (bytesOf (d.append r.case))
      (written.1.mapError (writeFailure p), { o with files := written.2 }) := by
  rw [add, Work.on_bind_ok (Work.on_files o), hcurrent, Work.on_bind_ok (Work.on_given o _), Work.on_failingWith,
    Work.on_change]
  rcases o.files.write p (bytesOf (d.append r.case)) with ⟨e | _, fs⟩
  · rfl
  · rfl

/-- **A record that was added** has found a document, and has written it with one more case. -/
theorem exists_put_of_add_eq_ok {o' : Outside} (h : Work.on o (add p r) = (.ok (), o')) :
    ∃ d place, current? o.files p = .ok d ∧ o.files.LeadsTo p place ∧
      o' = { o with files := o.files.put place (.file (bytesOf (d.append r.case))) } := by
  rcases hcurrent : current? o.files p with e | d
  · rw [on_add_of_error hcurrent] at h
    cases h
  · rw [on_add_of_current? hcurrent] at h
    obtain ⟨hresult, hfiles⟩ := Prod.mk.inj h
    obtain ⟨place, hleads, hput⟩ := Files.exists_put_of_write_eq_ok
      (Prod.ext (Except.mapError_eq_ok_iff.1 hresult) rfl)
    exact ⟨d, place, rfl, hleads, hfiles.symm.trans (congrArg (fun fs => { o with files := fs }) hput)⟩

/-- The first record that fails decides. -/
theorem on_forM_of_add_error {e : SinkError} {o' : Outside} (h : Work.on o (add p r) = (.error e, o'))
    (rs : List Record) : Work.on o ((r :: rs).forM (add p)) = (.error e, o') := by
  rw [Work.on_forM_cons, Work.on_bind_error h]

/-- The bytes of a document that goes on like one of some cases. -/
theorem bytesOf_append {d : Element} (h : ∀ c, (d.append c).indent = ((documentOf cs).append c).indent)
    (r : Record) : bytesOf (d.append r.case) = bytesOf (documentOf (cs ++ [r.case])) := by
  rw [bytesOf, bytesOf, h, documentOf, documentOf, Element.branch_append]

/-- What the files hold once the cases of some records were added to a
document of some cases. -/
structure Added (place : List String) (cs : List Element) (rs : List Record) (o o' : Outside) : Prop where
  sent : o'.sent = o.sent
  answers : o'.answers = o.answers
  directories : o.files.SameDirectories o'.files
  kept : ∀ other, other ≠ place ∨ rs = [] → o'.files.node? other = o.files.node? other
  grown : rs ≠ [] →
    o'.files.node? place = some (.file (bytesOf (documentOf (cs ++ rs.map Record.case))))

/-- Notes do not matter. -/
theorem Added.noted {o' o'' : Outside} (h : Added place cs rs o o') (hnoted : OnlyNoted o' o'') :
    Added place cs rs o o'' := by
  refine ⟨hnoted.sent.trans h.sent, hnoted.answers.trans h.answers, ?_, ?_, ?_⟩
  · rw [hnoted.files]
    exact h.directories
  · rw [hnoted.files]
    exact h.kept
  · rw [hnoted.files]
    exact h.grown

/-- Nothing is added without records. -/
theorem Added.refl (place : List String) (cs : List Element) (o : Outside) : Added place cs [] o o :=
  ⟨rfl, rfl, .refl _, fun _ _ => rfl, fun h => absurd rfl h⟩

/-- Records are added behind those that were added before. -/
theorem Added.append {o₁ o' : Outside} {more : List Record} (h : Added place cs rs o o₁)
    (hmore : Added place (cs ++ rs.map Record.case) more o₁ o') : Added place cs (rs ++ more) o o' := by
  refine ⟨hmore.sent.trans h.sent, hmore.answers.trans h.answers, h.directories.trans hmore.directories, ?_, ?_⟩
  · rintro other (hother | hnil)
    · rw [hmore.kept other (.inl hother), h.kept other (.inl hother)]
    · obtain ⟨hrs, hnil⟩ := List.append_eq_nil_iff.1 hnil
      rw [hmore.kept other (.inr hnil), h.kept other (.inr hrs)]
  · intro hsome
    by_cases hnil : more = []
    · subst hnil
      rw [List.append_nil] at hsome ⊢
      rw [hmore.kept place (.inr rfl), h.grown hsome]
    · rw [hmore.grown hnil, List.map_append, List.append_assoc]

/-- A document that was written with one more case. -/
theorem added_put (hnode : o.files.node? place ≠ some .directory) (r : Record) :
    Added place cs [r] o { o with files := o.files.put place (.file (bytesOf (documentOf (cs ++ [r.case])))) } := by
  refine ⟨rfl, rfl, Files.sameDirectories_put hnode _, ?_, ?_⟩
  · rintro other (hother | hnil)
    · exact Files.node?_put_of_ne _ _ hother
    · cases hnil
  · exact fun _ => Files.node?_put_self _ _ _ (Files.ne_nil_of_not_directory hnode)

/-- **One record** adds its case to a document that goes on. -/
theorem exists_on_add (h : o.files.LeadsTo p place) (hfree : o.files.IsFree place)
    (hcontinues : Continues o.files p cs) (r : Record) :
    ∃ o', Work.on o (add p r) = (.ok (), o') ∧ Added place cs [r] o o' := by
  obtain ⟨d, hcurrent, happend⟩ := hcontinues
  refine ⟨_, ?_, added_put h.notDirectory r⟩
  rw [on_add_of_current? hcurrent, h.write_eq hfree, bytesOf_append happend]
  rfl

/-- **A bundle** adds the cases of its records. -/
theorem write_eq (h : o.files.LeadsTo p place) (hfree : o.files.IsFree place) (hcs : ∀ c ∈ cs, c.IsPlain)
    (hcontinues : Continues o.files p cs) (b : Bundle) (hlegible : ∀ r ∈ b.records, r.IsLegible) :
    ∃ o', Work.on o (write p b) = (.ok (), o') ∧ Added place cs b.records o o' := by
  rw [write]
  generalize b.records = rs at hlegible ⊢
  induction rs generalizing o cs with
  | nil => exact ⟨o, rfl, .refl place cs o⟩
  | cons r rs ih =>
    have hr := Record.isPlain_case (hlegible r List.mem_cons_self)
    have hcs' : ∀ c ∈ cs ++ [r.case], c.IsPlain :=
      List.forall_mem_append.2 ⟨hcs, List.forall_mem_singleton.2 hr⟩
    obtain ⟨o₁, hfirst, hadded⟩ := exists_on_add h hfree hcontinues r
    -- the document that was just written is the one that goes on
    have hleads : o₁.files.LeadsTo p place := h.of_sameDirectories hadded.directories
    have hfree₁ := hfree.of_sameDirectories hadded.directories
    have hcontinues₁ := continues_document hleads hfree₁.read hcs' (hadded.grown (by simp))
    obtain ⟨o', hrs, hrest⟩ := ih hleads hfree₁ hcs' hcontinues₁ fun s hs => hlegible s (List.mem_cons_of_mem r hs)
    exact ⟨o', by rw [Work.on_forM_cons, Work.on_bind_ok hfirst, hrs], hadded.append hrest⟩

end XmlReport

/-! ## What reports tell -/

/-- The names of an element's children, each with its text. -/
def Markup.Element.parts (e : Element) : List (Name × List Char) :=
  e.children.map fun c => (c.1.name, c.1.text)

/-- A document with exactly one case for each record, in order. -/
structure XmlReport.TellsOf (document : Element) (b : Bundle) : Prop where
  name : document.name = .plain "test-cases"
  cases : document.children.map (fun c => (c.1.name, c.1.parts)) = b.records.map fun r =>
    (.plain "case", [(.plain "test-case-type", r.category.name.toList),
      (.plain "name", r.checkName.toList), (.plain "status", r.status.name.toList)])

namespace XmlReport

/-- The parts of a case, on a line of its own or not. -/
theorem parts_case (level : Nat) (r : Record) : (Element.indentAt level r.case).parts =
    [(.plain "test-case-type", r.category.name.toList), (.plain "name", r.checkName.toList),
      (.plain "status", r.status.name.toList)] := by
  have hchildren := Element.children_indentAt level r.case
  have hmap : (Element.indentAt level r.case).parts =
      ((Element.indentAt level r.case).children.map Prod.fst).map fun e => (e.name, e.text) := by
    rw [Element.parts, List.map_map]
    rfl
  rw [hmap, hchildren]
  simp only [Record.case, Element.branch, Element.leaf, Element.children, List.map_cons, List.map_nil,
    Element.indentAt, Element.name, Element.text]

/-- **The document of a bundle** tells of it. -/
theorem tellsOf_documentOf (b : Bundle) :
    TellsOf (documentOf (b.records.map Record.case)).indent b := by
  refine ⟨Element.name_indentAt 0 _, ?_⟩
  have hchildren := Element.children_indentAt 0 (documentOf (b.records.map Record.case))
  have hcases : (documentOf (b.records.map Record.case)).children.map
      (fun c => Element.indentAt (0 + 1) c.1) = b.records.map fun r => Element.indentAt 1 r.case := by
    simp [documentOf, Element.branch, Element.children]
  rw [hcases] at hchildren
  have hmap : (documentOf (b.records.map Record.case)).indent.children.map
      (fun c => (c.1.name, c.1.parts)) = ((documentOf (b.records.map Record.case)).indent.children.map
        Prod.fst).map fun e => (e.name, e.parts) := by
    rw [List.map_map]
    rfl
  rw [hmap, Element.indent, hchildren, List.map_map]
  refine List.map_congr_left fun r _ => ?_
  simp only [Function.comp, Element.name_indentAt, parts_case]
  rfl

end XmlReport
end ScriptGrader
