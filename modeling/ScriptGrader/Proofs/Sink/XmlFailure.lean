import ScriptGrader.Proofs.Markup.NamedEncoding
import ScriptGrader.Proofs.Sink.XmlReadBack

/-!
# Failing at an XML report that is there

Any bytes may stand where a bundle is to be added. If they are no document,
or the system refuses to let them be read, the first record finds that out and
nothing is written. The reason is told to lie outside if the text is
malformed, and not if its declaration names an encoding that cannot be used.
A document that does not fit into its file is cut off, and then what stood
there before is gone. Behind the first record stands what this program has
written, which names UTF-8, so that no later record fails for its encoding.
-/

namespace ScriptGrader

open Markup (Element)

/-- The declaration of a document names an encoding that cannot be used. -/
def Markup.NamesUnusable (bytes : List UInt8) : Prop :=
  ∃ name e, (Document.opening bytes).Names name ∧ IsUnusable name e

theorem Markup.namesUnusable_iff {bytes : List UInt8} :
    NamesUnusable bytes ↔ ∃ e, read? bytes = .error e ∧ ¬ e.IsMalformed := by
  simp only [read?_refuses_encoding_iff]
  exact ⟨fun ⟨name, e, h⟩ => ⟨e, name, h⟩, fun ⟨e, name, h⟩ => ⟨name, e, h⟩⟩

namespace XmlReport

variable {fs : Files} {o o' : Outside} {p : Path} {place : List String} {b : Bundle} {bytes : List UInt8}
  {d : Element} {r : Record} {rs : List Record} {e : SinkError}

/-! ## One record -/

/-- How it is told that no document stands at a path. -/
def refusal (p : Path) : Markup.Error → SinkError
  | .malformed c spot => .xmlDocument p c spot
  | e => .encoding e

theorem isExternal_refusal_iff (p : Path) (e : Markup.Error) :
    (refusal p e).isExternal = true ↔ e.IsMalformed := by
  cases e <;> simp [refusal, SinkError.isExternal, Markup.Error.IsMalformed]

theorem parse?_of_error {e : Markup.Error} (h : Markup.read? bytes = .error e) :
    parse? p bytes = .error (refusal p e) := by
  rw [parse?, h]
  cases e <;> rfl

theorem isExternal_failure {e : FileError} (h : e ≠ .zero) : (failure e).isExternal = true := by
  cases e with
  | fault f q => rfl
  | zero => exact absurd rfl h

theorem isExternal_writeFailure {e : WriteError} (h : e ≠ .unopened .zero) (p : Path) :
    (writeFailure p e).isExternal = true := by
  cases e with
  | unopened e => exact isExternal_failure fun hzero => h (congrArg _ hzero)
  | cut e => rfl

/-- **What stands at a path** is no document for one of two reasons. -/
theorem current?_eq_error (h : fs.LeadsTo p place) (hnode : fs.node? place = some (.file bytes))
    (hcurrent : current? fs p = .error e) :
    e.isExternal = true ∧ ¬ fs.Grants .read place ∨
      ∃ e', fs.Grants .read place ∧ Markup.read? bytes = .error e' ∧ e = refusal p e' := by
  have hfile := h.isFile?_eq_true hnode
  rcases hrefused : fs.rights.refusal? .read place with _ | err
  · rw [current?_of_file hfile (h.read?_eq hrefused hnode)] at hcurrent
    rcases hread : Markup.read? bytes with e' | d
    · rw [parse?_of_error hread] at hcurrent
      cases hcurrent
      exact .inr ⟨e', hrefused, rfl, rfl⟩
    · rw [parse?, hread] at hcurrent
      cases hcurrent
  · rw [current?_of_unreadable hfile (h.read?_of_refused hrefused hnode)] at hcurrent
    cases hcurrent
    exact .inl ⟨rfl, by simp [Files.Grants, hrefused]⟩

/-- What stands at a path is a document if it can be read and is one. -/
theorem current?_eq_ok_iff (h : fs.LeadsTo p place) (hnode : fs.node? place = some (.file bytes)) :
    current? fs p = .ok d ↔ fs.Grants .read place ∧ Markup.read? bytes = .ok d := by
  have hfile := h.isFile?_eq_true hnode
  rcases hrefused : fs.rights.refusal? .read place with _ | err
  · rw [current?_of_file hfile (h.read?_eq hrefused hnode), parse?]
    rw [Files.Grants, hrefused, Except.mapError_eq_ok_iff]
    simp
  · rw [current?_of_unreadable hfile (h.read?_of_refused hrefused hnode)]
    simp [Files.Grants, hrefused]

/-- **Where no document stands**, nothing is added. -/
theorem on_add_of_refused {e : Markup.Error} (h : o.files.LeadsTo p place)
    (hnode : o.files.node? place = some (.file bytes)) (hgrants : o.files.Grants .read place)
    (hread : Markup.read? bytes = .error e) (r : Record) : Work.on o (add p r) = (.error (refusal p e), o) := by
  refine on_add_of_error ?_ r
  rw [current?_of_file (h.isFile?_eq_true hnode) (h.read?_eq hgrants hnode), parse?_of_error hread]

/-- A document that is not written fails for a reason that lies outside. -/
theorem isExternal_of_add_of_current? (hzero : p.hasZero = false) (hcurrent : current? o.files p = .ok d)
    (hrun : Work.on o (add p r) = (.error e, o')) : e.isExternal = true := by
  rw [on_add_of_current? hcurrent] at hrun
  have hresult := congrArg Prod.fst hrun
  have hne := @Files.write_ne_zero o.files p (bytesOf (d.append r.case)) hzero
  simp only at hresult
  rcases hwrite : (o.files.write p (bytesOf (d.append r.case))).1 with e' | _
  · rw [hwrite] at hresult hne
    cases hresult
    exact isExternal_writeFailure (fun heq => hne (congrArg _ heq)) p
  · rw [hwrite] at hresult
    cases hresult

/-- **A record that is not added** fails for a reason that lies outside,
unless what stands there names an encoding that cannot be used. -/
theorem isExternal_of_add (h : o.files.LeadsTo p place) (hnode : o.files.node? place = some (.file bytes))
    (hrun : Work.on o (add p r) = (.error e, o')) :
    e.isExternal = true ∨ ∃ e', o.files.Grants .read place ∧ Markup.read? bytes = .error e' ∧ e = refusal p e' := by
  rcases hcurrent : current? o.files p with e' | d
  · rw [on_add_of_error hcurrent] at hrun
    cases hrun
    exact (current?_eq_error h hnode hcurrent).imp And.left id
  · exact .inl (isExternal_of_add_of_current? h.hasZero hcurrent hrun)

/-! ## Several records -/

/-- **Behind a document that was written**, records fail only for a reason that lies outside. -/
theorem isExternal_of_on_forM (h : o.files.LeadsTo p place)
    (hnode : o.files.node? place = some (.file (bytesOf d)))
    (hrun : Work.on o (rs.forM (add p)) = (.error e, o')) : e.isExternal = true := by
  induction rs generalizing o d place with
  | nil => cases hrun
  | cons r rs ih =>
    rcases hfirst : Work.on o (add p r) with ⟨e₁ | ⟨⟨⟩⟩, o₁⟩
    · rw [on_forM_of_add_error hfirst] at hrun
      cases hrun
      rcases isExternal_of_add h hnode hfirst with hexternal | ⟨e', -, hread, rfl⟩
      · exact hexternal
      · exact (isExternal_refusal_iff p e').2 (Markup.isMalformed_of_read?_document d.indent hread)
    · -- what was read is written with one more case, and is a document of this program again
      rw [Work.on_forM_cons, Work.on_bind_ok hfirst] at hrun
      obtain ⟨d', q, -, hleads, rfl⟩ := exists_put_of_add_eq_ok hfirst
      exact ih (hleads.of_sameDirectories (Files.sameDirectories_put hleads.notDirectory _))
        (Files.node?_put_self _ _ _ (Files.ne_nil_of_not_directory hleads.notDirectory)) hrun

/-- Behind a record that was added, all others fail only for a reason that lies outside. -/
theorem isExternal_of_on_forM_add {o₁ : Outside} (hfirst : Work.on o (add p r) = (.ok (), o₁))
    (hrun : Work.on o ((r :: rs).forM (add p)) = (.error e, o')) : e.isExternal = true := by
  obtain ⟨d, place, -, hleads, rfl⟩ := exists_put_of_add_eq_ok hfirst
  rw [Work.on_forM_cons, Work.on_bind_ok hfirst] at hrun
  exact isExternal_of_on_forM (hleads.of_sameDirectories (Files.sameDirectories_put hleads.notDirectory _))
    (Files.node?_put_self _ _ _ (Files.ne_nil_of_not_directory hleads.notDirectory)) hrun

/-- **A record is added** where a document can be read and, with one more case, written. -/
theorem add_eq_ok_iff (h : o.files.LeadsTo p place) (hnode : o.files.node? place = some (.file bytes)) (r : Record) :
    (∃ o', Work.on o (add p r) = (.ok (), o')) ↔
      ∃ d, o.files.Grants .read place ∧ Markup.read? bytes = .ok d ∧ o.files.Grants .write place ∧
        o.files.Holds place (bytesOf (d.append r.case)).length := by
  constructor
  · rintro ⟨o', hrun⟩
    obtain ⟨d, -, hcurrent, -, -⟩ := exists_put_of_add_eq_ok hrun
    obtain ⟨hread, hdocument⟩ := (current?_eq_ok_iff h hnode).1 hcurrent
    rw [on_add_of_current? hcurrent] at hrun
    refine ⟨d, hread, hdocument, ?_⟩
    rcases hrefused : o.files.rights.refusal? .write place with _ | err
    · refine ⟨hrefused, ?_⟩
      by_contra hnot
      simp only [Files.Holds, not_forall, Nat.not_le] at hnot
      obtain ⟨size, err, hroom, hlong⟩ := hnot
      rw [h.write_of_room hrefused hroom hlong] at hrun
      cases hrun
    · rw [h.write_of_refused hrefused] at hrun
      cases hrun
  · rintro ⟨d, hread, hdocument, hwrite, hholds⟩
    rw [on_add_of_current? ((current?_eq_ok_iff h hnode).2 ⟨hread, hdocument⟩), h.write_of_holds hwrite hholds]
    exact ⟨_, rfl⟩

/-- **What a record that is not added leaves**: everything as it is, unless the
document that it was added to did not fit. -/
theorem exists_cut_of_add_error (h : o.files.LeadsTo p place) (hnode : o.files.node? place = some (.file bytes))
    (hrun : Work.on o (add p r) = (.error e, o')) :
    o' = o ∨ ∃ d size err, Markup.read? bytes = .ok d ∧ o.files.rights.room? place = some (size, err) ∧
      size < (bytesOf (d.append r.case)).length ∧
      o' = { o with files := o.files.put place (.file ((bytesOf (d.append r.case)).take size)) } := by
  rcases hcurrent : current? o.files p with e' | d
  · rw [on_add_of_error hcurrent] at hrun
    cases hrun
    exact .inl rfl
  rw [on_add_of_current? hcurrent] at hrun
  rcases hrefused : o.files.rights.refusal? .write place with _ | err
  · by_cases hholds : o.files.Holds place (bytesOf (d.append r.case)).length
    · rw [h.write_of_holds hrefused hholds] at hrun
      cases hrun
    · simp only [Files.Holds, not_forall, Nat.not_le] at hholds
      obtain ⟨size, err, hroom, hlong⟩ := hholds
      rw [h.write_of_room hrefused hroom hlong] at hrun
      cases hrun
      exact .inr ⟨d, size, err, ((current?_eq_ok_iff h hnode).1 hcurrent).2, hroom, hlong, rfl⟩
  · rw [h.write_of_refused hrefused] at hrun
    cases hrun
    exact .inl rfl

/-- **Writing to a file that is there**, whatever it holds, comes to its end
or fails for a reason that lies outside, but for a document whose declaration
names an encoding that cannot be used. The first record fails exactly where no
document can be read, or the new one cannot be written. Then the file is left
as it was, unless the new document did not fit, of which only the beginning is
left then. -/
theorem write_fails_otherwise_iff (hleads : o.files.LeadsTo p place)
    (hnode : o.files.node? place = some (.file bytes)) (hsome : b.items ≠ []) :
    ((∃ e o', Work.on o (write p b) = (.error e, o') ∧ e.isExternal = false) ↔
        o.files.Grants .read place ∧ Markup.NamesUnusable bytes) ∧
      ∀ r rs, b.records = r :: rs →
        ((∃ o', Work.on o (add p r) = (.ok (), o')) ↔
          ∃ document, o.files.Grants .read place ∧ Markup.read? bytes = .ok document ∧
            o.files.Grants .write place ∧ o.files.Holds place (bytesOf (document.append r.case)).length) ∧
        ∀ e o₁, Work.on o (add p r) = (.error e, o₁) → Work.on o (write p b) = (.error e, o₁) ∧
          (o₁ = o ∨ ∃ document size err, Markup.read? bytes = .ok document ∧
            o.files.rights.room? place = some (size, err) ∧ size < (bytesOf (document.append r.case)).length ∧
            o₁ = { o with files := o.files.put place (.file ((bytesOf (document.append r.case)).take size)) }) := by
  refine ⟨⟨?_, ?_⟩, fun r rs hrs => ⟨add_eq_ok_iff hleads hnode r, fun e o₁ hadd => ⟨?_, ?_⟩⟩⟩
  · rintro ⟨e, o', hrun, hnot⟩
    obtain ⟨r, rs, hrs⟩ : ∃ r rs, b.records = r :: rs :=
      List.exists_cons_of_ne_nil (by simpa [Bundle.records] using hsome)
    rw [write, hrs] at hrun
    rcases hfirst : Work.on o (add p r) with ⟨e₁ | ⟨⟨⟩⟩, o₁⟩
    · rw [on_forM_of_add_error hfirst] at hrun
      cases hrun
      rcases isExternal_of_add hleads hnode hfirst with hexternal | ⟨e', hgrants, hread, rfl⟩
      · rw [hexternal] at hnot
        cases hnot
      · refine ⟨hgrants, Markup.namesUnusable_iff.2 ⟨e', hread, fun hmalformed => ?_⟩⟩
        rw [(isExternal_refusal_iff p e').2 hmalformed] at hnot
        cases hnot
    · rw [isExternal_of_on_forM_add hfirst hrun] at hnot
      cases hnot
  · rintro ⟨hgrants, hnames⟩
    obtain ⟨e, hrefused, hnot⟩ := Markup.namesUnusable_iff.1 hnames
    obtain ⟨r, rs, hrs⟩ : ∃ r rs, b.records = r :: rs :=
      List.exists_cons_of_ne_nil (by simpa [Bundle.records] using hsome)
    refine ⟨refusal p e, o, ?_, ?_⟩
    · rw [write, hrs, on_forM_of_add_error (on_add_of_refused hleads hnode hgrants hrefused r)]
    · rw [← Bool.not_eq_true, isExternal_refusal_iff]
      exact hnot
  · rw [write, hrs, on_forM_of_add_error hadd]
  · exact exists_cut_of_add_error hleads hnode hadd

/-- A document in an encoding that nobody knows. -/
def foreignBytes : List UInt8 := Text.encode "<?xml version='1.0' encoding='foo'?><a/>"

/-- The document in a directory. -/
def foreignOutside : Outside :=
  ⟨{ entries := [(["d"], .directory), (["d", "x"], .file foreignBytes)] }, [], [], []⟩

theorem node?_foreign : foreignOutside.files.node? ["d", "x"] = some (.file foreignBytes) := rfl

theorem leadsTo_foreign : foreignOutside.files.LeadsTo samplePath ["d", "x"] := ⟨rfl, by simp [node?_foreign]⟩

theorem plainName_foo : Text.plainName "foo" = "foo" := by
  have hlower : ("foo".toLower.map fun c => if c.isAlphanum || c = '.' then c else ' ') = "foo" := by
    decide +kernel
  have hsplit : "foo".splitOn = ["foo"] := by
    rw [String.splitOn, if_neg (by decide)]
    repeat rw [String.splitOnAux, if_neg (by decide), if_neg (by decide)]
    rw [String.splitOnAux, if_pos (by rfl)]
    rfl
  rw [Text.plainName, hlower, hsplit]
  rfl

theorem isUnusable_foo : Markup.IsUnusable "foo" (.unknownEncoding "foo") := by
  have hnone : Text.Charset.ofName? "foo" = none := by
    have hisNone : (Text.Charset.ofName? "foo").isNone = true := by
      rw [Text.Charset.ofName?, plainName_foo]
      decide +kernel
    simpa using hisNone
  refine ⟨by decide +kernel, ?_⟩
  rw [Markup.Naming.ofName, hnone]

theorem namesUnusable_foreign : Markup.NamesUnusable foreignBytes := by
  let text := "xml version='1.0' encoding='foo'?><a/>".toList
  have hencoding : (Markup.Document.opening foreignBytes).encoding = .utf8 := by
    have hbytes : foreignBytes = 0x3c :: 0x3f :: foreignBytes.drop 2 := by decide +kernel
    rw [hbytes]
    rfl
  have hchars : (Markup.Encoding.utf8.decode (Markup.Document.opening foreignBytes).bytes).chars =
      '<' :: '?' :: text := by
    decide +kernel
  obtain ⟨⟨⟨target, said⟩, rest⟩, hinstruction, hsaid⟩ := @exists_ok_of_any _ _
    (@Markup.Scan.instruction .standard ('<' :: '?' :: text) text)
    (fun x => x.1 = ("xml", " version='1.0' encoding='foo'".toList)) (by decide +kernel)
  obtain ⟨rfl, rfl⟩ := Prod.mk.inj (of_decide_eq_true hsaid)
  obtain ⟨d, hdeclaration, hname⟩ := @exists_ok_of_any _ _
    (Markup.Declaration.parse? " version='1.0' encoding='foo'".toList)
    (fun d => d.encoding = some ("foo", "foo'".toList)) (by decide)
  refine ⟨"foo", _, ?_, isUnusable_foo⟩
  rw [Markup.Document.Opening.Names, hencoding]
  exact ⟨text, _, rest, d, _, hchars, hinstruction, hdeclaration, of_decide_eq_true hname⟩

/-- **An encoding that nobody knows** makes writing fail for a reason that does not lie outside. -/
theorem foreign_write_fails_otherwise : foreignOutside.files.LeadsTo samplePath ["d", "x"] ∧
    foreignOutside.files.node? ["d", "x"] = some (.file foreignBytes) ∧ (soleBundle "A").items ≠ [] ∧
      ∃ e o', Work.on foreignOutside (write samplePath (soleBundle "A")) = (.error e, o') ∧ e.isExternal = false := by
  have hsome : (soleBundle "A").items ≠ [] := by simp [soleBundle]
  exact ⟨leadsTo_foreign, node?_foreign, hsome,
    (write_fails_otherwise_iff leadsTo_foreign node?_foreign hsome).1.2 ⟨rfl, namesUnusable_foreign⟩⟩

/-- A document without cases in a directory, in a file that holds few bytes. -/
def crowdedOutside : Outside :=
  ⟨{ entries := [(["d"], .directory), (["d", "x"], .file (Text.encode "<a/>"))]
     rights := { room? := fun _ => some (10, ⟨28, "No space left on device"⟩) } }, [], [], []⟩

/-- **Not whatever stands at a path** is coped with, and it is not always
left as it was when the first record fails. -/
theorem not_forall_write_copes :
    (¬ ∀ (p : Path) (b : Bundle) (o : Outside) (place : List String) (bytes : List UInt8),
      o.files.LeadsTo p place → o.files.node? place = some (.file bytes) → b.items ≠ [] →
      ∀ e o', Work.on o (write p b) = (.error e, o') → e.isExternal = true) ∧
    ¬ ∀ (p : Path) (r : Record) (o o' : Outside) (e : SinkError) (place : List String) (bytes : List UInt8),
      o.files.LeadsTo p place → o.files.node? place = some (.file bytes) →
      Work.on o (add p r) = (.error e, o') → o'.files.node? place = some (.file bytes) := by
  refine ⟨fun h => ?_, fun h => ?_⟩
  · obtain ⟨e, hrefused, hnot⟩ := Markup.namesUnusable_iff.1 namesUnusable_foreign
    have hsome : (soleBundle "A").items ≠ [] := by simp [soleBundle]
    have hwrite : Work.on foreignOutside (write samplePath (soleBundle "A")) =
        (.error (refusal samplePath e), foreignOutside) :=
      on_forM_of_add_error (on_add_of_refused leadsTo_foreign node?_foreign rfl hrefused _) _
    have hexternal := h _ _ _ _ _ leadsTo_foreign node?_foreign hsome _ _ hwrite
    exact hnot ((isExternal_refusal_iff samplePath e).1 hexternal)
  · have hleads : crowdedOutside.files.LeadsTo samplePath ["d", "x"] := ⟨rfl, by rintro ⟨⟩⟩
    have htest : (Work.on crowdedOutside (add samplePath (sampleRecord "A"))).1.isOk = false ∧
        ((Work.on crowdedOutside (add samplePath (sampleRecord "A"))).2.files.bytesAt ["d", "x"]).length = 10 := by
      decide +kernel
    obtain ⟨hfails, hlength⟩ := htest
    rcases hrun : Work.on crowdedOutside (add samplePath (sampleRecord "A")) with ⟨e | ⟨⟨⟩⟩, o'⟩
    · rw [hrun, Files.bytesAt_of_file (h _ _ _ _ _ _ _ hleads rfl hrun)] at hlength
      revert hlength
      decide +kernel
    · rw [hrun] at hfails
      cases hfails

end XmlReport
end ScriptGrader
