import ScriptGrader.Proofs.Markup.CutOff
import ScriptGrader.Proofs.Sink.XmlText

/-!
# Reading XML reports back

Names are written as they are, but for the characters of markup. Whoever
reads them takes a carriage return for the end of a line, and finds no
document where there is a character that XML does not admit. Writing does
not tell: it is the next record that finds the report unreadable, and the
last record has none behind it.
-/

namespace ScriptGrader

open Markup (Element AreAllowed IsLegal)

/-- What documents are read and written in. -/
local instance : Markup.Alphabet := .standard

namespace Record

/-- A record as a reader of reports knows it. -/
def reread (r : Record) : Record :=
  { r with checkName := String.ofList (Text.universalNewlines r.checkName.toList) }

theorem toList_checkName_reread (r : Record) :
    r.reread.checkName.toList = Text.universalNewlines r.checkName.toList := String.toList_ofList

/-- A name without carriage returns is known as it is. -/
theorem reread_eq_self {r : Record} (h : '\r' ∉ r.checkName.toList) : r.reread = r := by
  have hname : String.ofList (Text.universalNewlines r.checkName.toList) = r.checkName := by
    rw [Text.universalNewlines_of_not_mem h, String.ofList_toList]
  cases r
  simpa only [reread, mk.injEq, and_true] using hname

theorem map_reread_eq_self {rs : List Record} (h : ∀ r ∈ rs, ∀ c ∈ r.checkName.toList, c ≠ '\r') :
    rs.map reread = rs :=
  (List.map_congr_left fun r hr => reread_eq_self fun hmem => h r hr _ hmem rfl).trans (List.map_id rs)

theorem reread_reread (r : Record) : r.reread.reread = r.reread :=
  reread_eq_self (toList_checkName_reread r ▸ Text.not_mem_universalNewlines _)

/-- The case of a record is read as the case of what is known of it. -/
theorem case_reread (r : Record) : r.reread.case = r.case.reread := by
  have hcategory : ∀ c : Category,
      (Element.leaf "test-case-type" c.name).reread = Element.leaf "test-case-type" c.name :=
    fun c => (@Element.isPlain_leaf .standard _ _ (by decide) (by cases c <;> decide)).reread_eq
  have hstatus : ∀ s : Status, (Element.leaf "status" s.name).reread = Element.leaf "status" s.name :=
    fun s => (@Element.isPlain_leaf .standard _ _ (by decide) (by cases s <;> decide)).reread_eq
  have hname : (Element.leaf "name" r.checkName).reread = Element.leaf "name" r.reread.checkName := by
    rw [Element.leaf, Element.leaf, toList_checkName_reread, Element.reread, Element.rereadChildren]
  rw [case, case, Element.reread_branch]
  simp only [List.map_cons, List.map_nil, hcategory, hname, hstatus]
  rfl

/-- What is known of a record can be read. -/
theorem isLegible_reread {r : Record} (h : AreAllowed r.checkName.toList) : r.reread.IsLegible := by
  rw [IsLegible, toList_checkName_reread]
  exact h.isText_universalNewlines

end Record

/-- A bundle as a reader of reports knows it. -/
def Bundle.reread (b : Bundle) : Bundle where
  items := b.items.map fun x => (x.1, x.2.reread)
  metadata := b.metadata
  nodup := by
    rw [List.map_map]
    exact b.nodup

theorem Bundle.records_reread (b : Bundle) : b.reread.records = b.records.map Record.reread := by
  rw [records, records, reread, List.map_map, List.map_map]
  rfl

namespace Markup.Element

variable {P : List Char → Prop}

/-- The children of a bare element are bare. -/
theorem IsBare.children {e : Element} (h : e.IsBare P) : ∀ c ∈ e.children.map Prod.fst, c.IsBare P := by
  obtain ⟨n, a, t, cs⟩ := e
  obtain ⟨-, -, -, -, hcs⟩ := h
  rw [Element.children]
  induction cs with
  | nil => exact fun c hc => by cases hc
  | cons c cs ih =>
    obtain ⟨hc, -, hcs⟩ := hcs
    exact List.forall_mem_cons.2 ⟨hc, ih hcs⟩

end Markup.Element

namespace XmlReport

variable {o o' : Outside} {p : Path} {place : List String} {rs done : List Record} {b : Bundle}

/-! ## Reports of some records -/

/-- What holds of all texts of a report holds of the names in it. -/
theorem forall_name_of_isBare {P : List Char → Prop} (h : (documentOf (rs.map Record.case)).indent.IsBare P) :
    ∀ r ∈ rs, P r.checkName.toList := by
  intro r hr
  have hcases := h.children
  rw [Element.indent, Element.children_indentAt] at hcases
  have hcase : (Element.indentAt 1 r.case).IsBare P := by
    refine hcases _ (List.mem_map.2 ⟨(r.case, []), ?_, rfl⟩)
    exact List.mem_map_of_mem (List.mem_map_of_mem hr)
  -- the name is the second leaf of its case
  have hleaves := hcase.children
  rw [Element.children_indentAt] at hleaves
  have hname := hleaves (Element.indentAt 2 (.leaf "name" r.checkName))
    (by simp [Record.case, Element.branch, Element.children])
  rw [Element.leaf, Element.indentAt] at hname
  exact hname.2.2.2.1

theorem map_case_reread (rs : List Record) :
    (rs.map Record.case).map Element.reread = (rs.map Record.reread).map Record.case := by
  rw [List.map_map, List.map_map]
  exact List.map_congr_left fun r _ => (Record.case_reread r).symm

theorem isBare_cases (h : ∀ r ∈ rs, AreAllowed r.checkName.toList) :
    ∀ c ∈ rs.map Record.case, c.IsBare AreAllowed := by
  intro c hc
  obtain ⟨r, hr, rfl⟩ := List.mem_map.1 hc
  exact Record.isBare_case (fun _ ht => ht.areAllowed) (h r hr)

/-- **A report is read** when all names in it can be, and then as what a
reader knows of its records. -/
theorem read?_report (h : ∀ r ∈ rs, AreAllowed r.checkName.toList) :
    Markup.read? (bytesOf (documentOf (rs.map Record.case))) =
      .ok (documentOf ((rs.map Record.reread).map Record.case)).indent := by
  rw [read?_bytesOf_reread (isBare_cases h), map_case_reread]

/-- **A report is no document** when a name in it cannot be read. -/
theorem exists_malformed_report (h : ¬ ∀ r ∈ rs, AreAllowed r.checkName.toList) :
    ∃ cause place, Markup.read? (bytesOf (documentOf (rs.map Record.case))) = .error (.malformed cause place) := by
  have hcases : ∀ c ∈ rs.map Record.case, c.IsBare fun _ => True := by
    intro c hc
    obtain ⟨r, -, rfl⟩ := List.mem_map.1 hc
    exact Record.isBare_case (fun _ _ => trivial) trivial
  exact Markup.exists_malformed_of_not_allowed
    (Element.isBare_indentAt (fun _ => trivial) 0 (isBare_documentOf trivial hcases))
    fun hbare => h (forall_name_of_isBare hbare)

/-! ## Writing -/

/-- The document of some records goes on as what is known of them. -/
theorem continues_report {fs : Files} (hleads : fs.LeadsTo p place) (hread : fs.Grants .read place)
    (hnode : fs.node? place = some (.file (bytesOf (documentOf (rs.map Record.case)))))
    (h : ∀ r ∈ rs, AreAllowed r.checkName.toList) :
    Continues fs p ((rs.map Record.reread).map Record.case) := by
  have hcontinues := continues_reread hleads hread (isBare_cases h) hnode
  rwa [map_case_reread] at hcontinues

/-- What is known of records to which one more was added. -/
theorem map_reread_append_of_legible (hdone : ∀ r ∈ done, r.IsLegible) (r : Record) :
    (done ++ [r]).map Record.reread = done ++ [r.reread] := by
  rw [List.map_append, Record.map_reread_eq_self fun q hq c hc => (hdone q hq c hc).2]
  rfl

theorem isLegible_append_reread (hdone : ∀ r ∈ done, r.IsLegible) {r : Record}
    (hallowed : AreAllowed r.checkName.toList) : ∀ q ∈ done ++ [r.reread], q.IsLegible :=
  List.forall_mem_append.2 ⟨hdone, List.forall_mem_singleton.2 (Record.isLegible_reread hallowed)⟩

/-- A report to which a record with a readable name was added goes on as what is known of it. -/
theorem continues_append {fs : Files} (hleads : fs.LeadsTo p place) (hread : fs.Grants .read place)
    (hdone : ∀ r ∈ done, r.IsLegible) {r : Record}
    (hnode : fs.node? place = some (.file (bytesOf (documentOf ((done ++ [r]).map Record.case)))))
    (hallowed : AreAllowed r.checkName.toList) : Continues fs p ((done ++ [r.reread]).map Record.case) := by
  rw [← map_reread_append_of_legible hdone r]
  exact continues_report hleads hread hnode (List.forall_mem_append.2
    ⟨fun q hq => (hdone q hq).areAllowed, List.forall_mem_singleton.2 hallowed⟩)

/-- **A record that was added** to a report that goes on leaves the report of one more. -/
theorem exists_node?_of_add (hcontinues : Continues o.files p (done.map Record.case)) {r : Record}
    (h : Work.on o (add p r) = (.ok (), o')) :
    ∃ place, o.files.LeadsTo p place ∧ o'.files.LeadsTo p place ∧
      o'.files.node? place = some (.file (bytesOf (documentOf ((done ++ [r]).map Record.case)))) := by
  obtain ⟨d, hcurrent, happend⟩ := hcontinues
  obtain ⟨d', place, hcurrent', hleads, rfl⟩ := exists_put_of_add_eq_ok h
  rw [hcurrent] at hcurrent'
  cases hcurrent'
  refine ⟨place, hleads, hleads.of_sameDirectories (Files.sameDirectories_put hleads.notDirectory _), ?_⟩
  rw [bytesOf_append happend, List.map_append]
  exact Files.node?_put_self _ _ _ (Files.ne_nil_of_not_directory hleads.notDirectory)

/-- A record that was added to a report has found that this can be read, and all names in it too. -/
theorem areAllowed_of_add (hleads : o.files.LeadsTo p place)
    (hnode : o.files.node? place = some (.file (bytesOf (documentOf (rs.map Record.case))))) {r : Record}
    (h : Work.on o (add p r) = (.ok (), o')) :
    o.files.Grants .read place ∧ ∀ r ∈ rs, AreAllowed r.checkName.toList := by
  obtain ⟨d, -, hcurrent, -⟩ := exists_put_of_add_eq_ok h
  have hfile := hleads.isFile?_eq_true hnode
  rcases hrefused : o.files.rights.refusal? .read place with _ | err
  · refine ⟨hrefused, ?_⟩
    by_contra hnot
    obtain ⟨cause, spot, hmalformed⟩ := exists_malformed_report hnot
    rw [current?_of_malformed hfile (hleads.read?_eq hrefused hnode) hmalformed] at hcurrent
    cases hcurrent
  · rw [current?_of_unreadable hfile (hleads.read?_of_refused hrefused hnode)] at hcurrent
    cases hcurrent

/-- **What a run of writing leaves**: all names but the last were read on the
way, and the last is as it was written. -/
theorem node?_of_on_forM_add (hdone : ∀ r ∈ done, r.IsLegible)
    (hcontinues : Continues o.files p (done.map Record.case)) {before : List Record} {last : Record}
    (h : Work.on o ((before ++ [last]).forM (add p)) = (.ok (), o')) :
    (∀ r ∈ before, AreAllowed r.checkName.toList) ∧ ∃ place, o'.files.LeadsTo p place ∧
      o'.files.node? place =
        some (.file (bytesOf (documentOf ((done ++ before.map Record.reread ++ [last]).map Record.case)))) := by
  induction before generalizing o done with
  | nil =>
    rw [List.nil_append, Work.on_forM_cons] at h
    obtain ⟨⟨⟩, o₁, hfirst, hrest⟩ := Work.bind_eq_ok_iff.1 h
    cases hrest
    obtain ⟨place, -, hleads, hnode⟩ := exists_node?_of_add hcontinues hfirst
    refine ⟨by simp, place, hleads, ?_⟩
    rw [List.map_nil, List.append_nil]
    exact hnode
  | cons r before ih =>
    rw [List.cons_append, Work.on_forM_cons] at h
    obtain ⟨⟨⟩, o₁, hfirst, hrest⟩ := Work.bind_eq_ok_iff.1 h
    obtain ⟨place, -, hleads, hnode⟩ := exists_node?_of_add hcontinues hfirst
    -- the record behind this one has read its name
    obtain ⟨s, rest, heq⟩ : ∃ s rest, before ++ [last] = s :: rest := List.exists_cons_of_ne_nil (by simp)
    have hnext := hrest
    rw [heq, Work.on_forM_cons] at hnext
    obtain ⟨⟨⟩, o₂, hsecond, -⟩ := Work.bind_eq_ok_iff.1 hnext
    obtain ⟨hread, hallowed⟩ := areAllowed_of_add hleads hnode hsecond
    have hr := hallowed r (by simp)
    obtain ⟨hbefore, place', hleads', hnode'⟩ :=
      ih (isLegible_append_reread hdone hr) (continues_append hleads hread hdone hnode hr) hrest
    exact ⟨List.forall_mem_cons.2 ⟨hr, hbefore⟩, place', hleads', by simpa using hnode'⟩

/-- Where nothing is refused and there is room, records whose names can be
read are written, and one more behind them. -/
theorem exists_on_forM_add (hleads : o.files.LeadsTo p place) (hfree : o.files.IsFree place)
    (hdone : ∀ r ∈ done, r.IsLegible) (hcontinues : Continues o.files p (done.map Record.case))
    {before : List Record} (hbefore : ∀ r ∈ before, AreAllowed r.checkName.toList) (last : Record) :
    ∃ o', Work.on o ((before ++ [last]).forM (add p)) = (.ok (), o') := by
  induction before generalizing o done with
  | nil =>
    obtain ⟨o₁, hfirst, -⟩ := exists_on_add hleads hfree hcontinues last
    exact ⟨o₁, (Work.on_forM_cons _ _ _ _).trans (Work.on_bind_ok hfirst _)⟩
  | cons r before ih =>
    obtain ⟨hr, hbefore⟩ := List.forall_mem_cons.1 hbefore
    obtain ⟨o₁, hfirst, hadded⟩ := exists_on_add hleads hfree hcontinues r
    have hleads₁ : o₁.files.LeadsTo p place := hleads.of_sameDirectories hadded.directories
    have hfree₁ := hfree.of_sameDirectories hadded.directories
    have hnode : o₁.files.node? place = some (.file (bytesOf (documentOf ((done ++ [r]).map Record.case)))) := by
      rw [List.map_append]
      exact hadded.grown (by simp)
    obtain ⟨o', hrest⟩ := ih hleads₁ hfree₁ (isLegible_append_reread hdone hr)
      (continues_append hleads₁ hfree₁.read hdone hnode hr) hbefore
    exact ⟨o', by rw [List.cons_append, Work.on_forM_cons, Work.on_bind_ok hfirst, hrest]⟩

/-- **Writing comes to its end**, where there is room for a file, exactly when
all names but the last can be read. -/
theorem write_returns_iff (hleads : o.files.LeadsTo p place) (hfree : o.files.IsFree place)
    (hnone : o.files.node? place = none) {before : List Record} {last : Record}
    (hrecords : b.records = before ++ [last]) :
    (∃ o', Work.on o (write p b) = (.ok (), o')) ↔ ∀ r ∈ before, AreAllowed r.checkName.toList := by
  have hnothing : ∀ r ∈ ([] : List Record), r.IsLegible := fun r hr => by cases hr
  rw [write, hrecords]
  constructor
  · rintro ⟨o', h⟩
    exact (node?_of_on_forM_add hnothing (continues_nil hleads hnone) h).1
  · intro hbefore
    exact exists_on_forM_add hleads hfree hnothing (continues_nil hleads hnone) hbefore last

/-! ## Reading back -/

theorem areAllowed_iff {cs : List Char} : AreAllowed cs ↔ ∀ c ∈ cs, IsLegal c :=
  forall₂_congr fun _ _ => Markup.isAllowed_iff_isLegal

/-- What is known of some records, one of which is left as it was written. -/
theorem map_reread_append (before : List Record) (last : Record) :
    (before.map Record.reread ++ [last]).map Record.reread = (before ++ [last]).map Record.reread := by
  have hbefore : before.map (Record.reread ∘ Record.reread) = before.map Record.reread :=
    List.map_congr_left fun r _ => r.reread_reread
  rw [List.map_append, List.map_append, List.map_map, hbefore]

/-- **What a bundle leaves** at a path without a file: a report that is no
document when a name cannot be read, and otherwise tells of what a reader
knows of the bundle. -/
theorem exists_report_of_write (hfile : o.files.isFile? p = .ok false) (hsome : b.items ≠ [])
    (hwrite : Work.on o (write p b) = (.ok (), o')) :
    ∃ place bytes, o'.files.LeadsTo p place ∧ o'.files.node? place = some (.file bytes) ∧
      ((∃ document, Markup.read? bytes = .ok document ∧ TellsOf document b.reread ∧
          ∀ r ∈ b.records, AreAllowed r.checkName.toList) ∨
        ((∃ cause spot, Markup.read? bytes = .error (.malformed cause spot)) ∧
          ¬ ∀ r ∈ b.records, AreAllowed r.checkName.toList)) := by
  have hrecords : b.records ≠ [] := by simpa [Bundle.records] using hsome
  obtain ⟨before, last, heq⟩ := (List.eq_nil_or_concat b.records).resolve_left hrecords
  rw [List.concat_eq_append] at heq
  rw [write, heq] at hwrite
  have hcontinues : Continues o.files p (([] : List Record).map Record.case) :=
    ⟨empty, current?_of_absent hfile, fun c => rfl⟩
  obtain ⟨hbefore, place, hleads, hnode⟩ := node?_of_on_forM_add (fun r hr => by cases hr) hcontinues hwrite
  rw [List.nil_append] at hnode
  refine ⟨place, _, hleads, hnode, ?_⟩
  by_cases hlast : AreAllowed last.checkName.toList
  · refine .inl ⟨_, read?_report (List.forall_mem_append.2 ⟨?_, List.forall_mem_singleton.2 hlast⟩), ?_, ?_⟩
    · intro r hr
      obtain ⟨q, hq, rfl⟩ := List.mem_map.1 hr
      exact (Record.isLegible_reread (hbefore q hq)).areAllowed
    · rw [map_reread_append, ← heq, ← Bundle.records_reread]
      exact tellsOf_documentOf b.reread
    · rw [heq]
      exact List.forall_mem_append.2 ⟨hbefore, List.forall_mem_singleton.2 hlast⟩
  · refine .inr ⟨exists_malformed_report fun h => hlast (h last (by simp)), fun h => hlast (h last ?_)⟩
    rw [heq]
    simp

/-- The names that a document tells are those of the records. -/
theorem TellsOf.name_eq {document : Element} {b b' : Bundle} (h : TellsOf document b) (h' : TellsOf document b') :
    b.records.map (fun r => r.checkName.toList) = b'.records.map fun r => r.checkName.toList := by
  have hcases := congrArg (List.map fun c : Markup.Name × List (Markup.Name × List Char) => c.2.map Prod.snd)
    (h.cases.symm.trans h'.cases)
  rw [List.map_map, List.map_map] at hcases
  have hnames := congrArg (List.map fun texts : List (List Char) => texts.getD 1 []) hcases
  rw [List.map_map, List.map_map] at hnames
  exact hnames

/-- **What is written is read back** exactly when every character of every
name is admitted by XML and none is a carriage return. A bundle that was
written where there was no file leaves a document exactly when every
character is admitted, and then one case for each record, in order, in whose
names every end of a line is a line feed. -/
theorem reads_back_iff (hfile : o.files.isFile? p = .ok false) (hsome : b.items ≠ [])
    (hwrite : Work.on o (write p b) = (.ok (), o')) :
    ∃ place bytes, o'.files.LeadsTo p place ∧ o'.files.node? place = some (.file bytes) ∧
      ((∃ document, Markup.read? bytes = .ok document) ↔
        ∀ r ∈ b.records, ∀ c ∈ r.checkName.toList, IsLegal c) ∧
      (∀ document, Markup.read? bytes = .ok document → TellsOf document b.reread) ∧
      ((∃ document, Markup.read? bytes = .ok document ∧ TellsOf document b) ↔
        ∀ r ∈ b.records, ∀ c ∈ r.checkName.toList, IsLegal c ∧ c ≠ '\r') := by
  obtain ⟨place, bytes, hleads, hnode, hreport⟩ := exists_report_of_write hfile hsome hwrite
  simp only [areAllowed_iff] at hreport
  refine ⟨place, bytes, hleads, hnode, ?_⟩
  rcases hreport with ⟨document, hread, htell, hlegal⟩ | ⟨⟨cause, spot, hmalformed⟩, hillegal⟩
  · refine ⟨⟨fun _ => hlegal, fun _ => ⟨document, hread⟩⟩, fun d hd => ?_, fun ⟨d, hd, hb⟩ => ?_, fun h => ?_⟩
    · rw [hread] at hd
      cases hd
      exact htell
    · -- the one document tells of both bundles, so their names agree
      rw [hread] at hd
      cases hd
      have hnames := htell.name_eq hb
      rw [Bundle.records_reread, List.map_map, List.map_inj_left] at hnames
      intro r hr c hc
      refine ⟨hlegal r hr c hc, fun hreturn => ?_⟩
      have hname := hnames r hr
      rw [Function.comp, Record.toList_checkName_reread, Text.universalNewlines_eq_self_iff] at hname
      exact hname (hreturn ▸ hc)
    · have hreread : b.reread.records = b.records :=
        b.records_reread.trans (Record.map_reread_eq_self fun r hr c hc => (h r hr c hc).2)
      exact ⟨document, hread, htell.name, hreread ▸ htell.cases⟩
  · refine ⟨⟨fun ⟨d, hd⟩ => ?_, fun h => absurd h hillegal⟩, fun d hd => ?_, fun ⟨d, hd, _⟩ => ?_, fun h => ?_⟩
    · rw [hmalformed] at hd
      cases hd
    · rw [hmalformed] at hd
      cases hd
    · rw [hmalformed] at hd
      cases hd
    · exact absurd (fun r hr c hc => (h r hr c hc).1) hillegal

/-- A path in the empty directory. -/
def samplePath : Path := ⟨true, ["d", "x"]⟩

theorem leadsTo_samplePath : emptyOutside.files.LeadsTo samplePath ["d", "x"] := ⟨rfl, by decide⟩

/-- Two passed checks, with a carriage return in the name of the first. -/
def returnBundle : Bundle := ⟨[("a", sampleRecord "A\rB"), ("b", sampleRecord "C")], "", by decide⟩

/-- **A carriage return** leaves a document, but not the one that was meant. -/
theorem return_is_not_read_back :
    emptyOutside.files.isFile? samplePath = .ok false ∧ returnBundle.items ≠ [] ∧
      ∃ o', Work.on emptyOutside (write samplePath returnBundle) = (.ok (), o') ∧
        ∃ place bytes, o'.files.LeadsTo samplePath place ∧ o'.files.node? place = some (.file bytes) ∧
          (∃ document, Markup.read? bytes = .ok document ∧ TellsOf document returnBundle.reread) ∧
          ¬ ∃ document, Markup.read? bytes = .ok document ∧ TellsOf document returnBundle := by
  have hfile : emptyOutside.files.isFile? samplePath = .ok false := by decide
  have hsome : returnBundle.items ≠ [] := by decide
  have hrecords : returnBundle.records = [sampleRecord "A\rB"] ++ [sampleRecord "C"] := rfl
  obtain ⟨o', hwrite⟩ := (write_returns_iff leadsTo_samplePath (by decide) (by decide) hrecords).2
    (List.forall_mem_singleton.2 (List.all_eq_true.1 (by decide)))
  obtain ⟨place, bytes, hleads, hnode, hdocument, htell, hback⟩ := reads_back_iff hfile hsome hwrite
  have hlegal : (returnBundle.records.all fun r => r.checkName.toList.all fun c => decide (IsLegal c)) = true := by
    decide +kernel
  obtain ⟨document, hread⟩ := hdocument.2 (by simpa only [List.all_eq_true, decide_eq_true_eq] using hlegal)
  refine ⟨hfile, hsome, o', hwrite, place, bytes, hleads, hnode, ⟨document, hread, htell document hread⟩, fun hmeant => ?_⟩
  exact (hback.1 hmeant (sampleRecord "A\rB") (by simp [returnBundle, Bundle.records]) '\r' (by decide)).2 rfl

/-- One passed check. -/
def soleBundle (checkName : String) : Bundle := ⟨[("a", sampleRecord checkName)], "", by simp⟩

theorem exists_write_soleBundle (checkName : String) :
    ∃ o', Work.on emptyOutside (write samplePath (soleBundle checkName)) = (.ok (), o') := by
  have hrecords : (soleBundle checkName).records = [] ++ [sampleRecord checkName] := rfl
  exact (write_returns_iff leadsTo_samplePath (by decide) (by decide) hrecords).2 fun r hr => by cases hr

/-- **Not all that is written is read back**: what was written with a control
character in a name is no document, and a document may tell of another name. -/
theorem not_forall_reads_back :
    (¬ ∀ (p : Path) (b : Bundle) (o o' : Outside), o.files.isFile? p = .ok false → b.items ≠ [] →
      Work.on o (write p b) = (.ok (), o') → ∀ place bytes, o'.files.LeadsTo p place →
      o'.files.node? place = some (.file bytes) → ∃ document, Markup.read? bytes = .ok document) ∧
    ¬ ∀ (p : Path) (b : Bundle) (o o' : Outside), o.files.isFile? p = .ok false → b.items ≠ [] →
      Work.on o (write p b) = (.ok (), o') → ∀ place bytes document, o'.files.LeadsTo p place →
      o'.files.node? place = some (.file bytes) → Markup.read? bytes = .ok document → TellsOf document b := by
  have hfile : emptyOutside.files.isFile? samplePath = .ok false := by decide
  refine ⟨fun h => ?_, fun h => ?_⟩
  · obtain ⟨o', hwrite⟩ := exists_write_soleBundle "A\x01"
    have hsome : (soleBundle "A\x01").items ≠ [] := by simp [soleBundle]
    obtain ⟨place, bytes, hleads, hnode, hreport⟩ := exists_report_of_write hfile hsome hwrite
    obtain ⟨document, hread⟩ := h _ _ _ _ hfile hsome hwrite place bytes hleads hnode
    rcases hreport with ⟨-, -, -, hallowed⟩ | ⟨⟨cause, spot, hmalformed⟩, -⟩
    · have hcontrol := hallowed (sampleRecord "A\x01") (by simp [soleBundle, Bundle.records]) '\x01' (by decide)
      revert hcontrol
      decide
    · rw [hread] at hmalformed
      cases hmalformed
  · obtain ⟨o', hwrite⟩ := exists_write_soleBundle "A\rB"
    have hsome : (soleBundle "A\rB").items ≠ [] := by simp [soleBundle]
    obtain ⟨place, bytes, hleads, hnode, hreport⟩ := exists_report_of_write hfile hsome hwrite
    rcases hreport with ⟨document, hread, htell, -⟩ | ⟨-, hillegal⟩
    · have hnames := (h _ _ _ _ hfile hsome hwrite place bytes document hleads hnode hread).name_eq htell
      revert hnames
      decide +kernel
    · have hall : "A\rB".toList.all Markup.isAllowed = true := by decide
      refine hillegal fun r hr => ?_
      rw [List.mem_singleton.1 hr]
      exact List.all_eq_true.1 hall

end XmlReport
end ScriptGrader
