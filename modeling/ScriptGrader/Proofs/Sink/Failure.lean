import ScriptGrader.Proofs.Files.Agree
import ScriptGrader.Proofs.Files.Path
import ScriptGrader.Proofs.Markup.Refusal
import ScriptGrader.Proofs.Outside.Frame
import ScriptGrader.Proofs.Sink.Publisher
import ScriptGrader.Proofs.Sink.TextLines
import ScriptGrader.Proofs.Sink.XmlFailure

/-!
# Why sinks fail

Sinks that write reports fail only for reasons that lie outside. A text
report does so wherever its paths lead, an XML report wherever no document
of an earlier run is left: what a text report has written to the same place,
all of it or what fits, is no document either, and is told to be malformed. A
publisher does so if
all that it sends can be sent and each answer can be coped with.
-/

namespace ScriptGrader

open Work (Keeps FailsOnly)
open Markup (beginsWithLetter areWords)

variable {p : Path} {b : Bundle} {o o' : Outside} {e : SinkError}

/-! ## Text reports -/

namespace TextReport

variable {t : TextReport}

/-- **A text report** fails only for a reason that lies outside. -/
theorem failsOnly_write (hzero : ∀ c p, t.paths.lookup c = some p → p.hasZero = false) (b : Bundle) :
    FailsOnly (fun e => e.isExternal = true) (t.write b) := by
  refine FailsOnly.forM fun r _ => ?_
  rw [writeRecord]
  rcases hlookup : t.paths.lookup r.category with _ | p
  · exact Work.failsOnly_note _ _
  · have hchange : FailsOnly (fun e => e ≠ .unopened .zero)
        (Work.change fun fs => fs.append p (Text.encode (line r))) := by
      refine Work.failsOnly_change fun fs e he => ?_
      rintro rfl
      exact Files.append_ne_zero (hzero _ p hlookup) he
    exact hchange.failingWith fun e he => isExternal_failure he p

/-- What can be read at a path is no document, but the beginning of words. -/
def LeavesWords (p : Path) (fs : Files) : Prop :=
  ∀ bytes, fs.read? p = .ok bytes → areWords bytes = true

theorem isFrame_leavesWords (p : Path) :
    Outside.IsFrame fun o o' => LeavesWords p o.files → LeavesWords p o'.files :=
  ⟨fun _ h => h, fun _ _ h => h, fun h h' hwords => h' (h hwords)⟩

/-- Where no file was, there were no words. -/
theorem areWords_bytesAt {fs : Files} {place : List String} (h : fs.LeadsTo p place)
    (hread : fs.Grants .read place) (hwords : LeavesWords p fs) : areWords (fs.bytesAt place) = true := by
  rcases hnode : fs.node? place with _ | ⟨old | _⟩
  · rw [Files.bytesAt_of_none hnode]
    rfl
  · rw [Files.bytesAt_of_file hnode]
    exact hwords old (h.read?_eq hread hnode)
  · exact absurd hnode h.notDirectory

/-- A line that is added begins with a letter, and so does what fits of it. -/
theorem leavesWords_append {fs : Files} {q : Path} {line : List UInt8} (hp : Path.above ∉ p.parts)
    (hq : Path.above ∉ q.parts) (hline : beginsWithLetter line = true) (hwords : LeavesWords p fs) :
    LeavesWords p (fs.append q line).2 := by
  intro bytes hread
  rw [Files.append] at hread
  rcases hopen : fs.open? q with e | ⟨place, old⟩
  · rw [hopen] at hread
    exact hwords bytes hread
  rw [hopen] at hread
  obtain ⟨hleads, hwrite⟩ := Files.leadsTo_of_open? hopen
  obtain ⟨hqreaches, rfl, -⟩ := (Files.locate_eq_ok_iff hq).1 hleads.locate_eq
  obtain rfl : fs.bytesAt q.parts = old := by
    rw [hleads.open?_eq hwrite] at hopen
    cases hopen
    rfl
  obtain ⟨n, hfill⟩ := Files.exists_fill_eq fs q.parts (fs.bytesAt q.parts) line
  simp only [hfill] at hread
  obtain ⟨hreaches, hgrants, hnode⟩ := (Files.read?_eq_ok_iff hp).1 hread
  have hsame := (Files.sameDirectories_put hleads.notDirectory
    (fs.bytesAt q.parts ++ line.take n)).symm
  have hbefore := hsame.reaches hreaches
  by_cases hparts : p.parts = q.parts
  · have hleads' : fs.LeadsTo p q.parts :=
      ⟨by rw [hbefore.locate_eq hp, hparts], hleads.notDirectory⟩
    rw [hparts, Files.node?_put_self _ _ _ (Files.ne_nil_of_not_directory hleads.notDirectory)] at hnode
    cases hnode
    exact Markup.areWords_append (areWords_bytesAt hleads' (hparts ▸ hsame.grants hgrants) hwords)
      (Markup.areWords_take (Markup.areWords_of_beginsWithLetter hline) n)
  · rw [Files.node?_put_of_ne _ _ hparts] at hnode
    exact hwords bytes ((Files.read?_eq_ok_iff hp).2 ⟨hbefore, hsame.grants hgrants, hnode⟩)

/-- **Text reports leave words**: no document is there that was not there before. -/
theorem keeps_leavesWords (hp : Path.above ∉ p.parts)
    (hflat : ∀ c q, t.paths.lookup c = some q → Path.above ∉ q.parts)
    (hlines : ∀ r ∈ b.records, beginsWithLetter (Text.encode (line r)) = true) :
    Keeps (fun o o' => LeavesWords p o.files → LeavesWords p o'.files) (t.write b) := by
  refine Keeps.forM (isFrame_leavesWords p) fun r hr => ?_
  rw [writeRecord]
  rcases hlookup : t.paths.lookup r.category with _ | q
  · exact Work.keeps_note (isFrame_leavesWords p) _
  · exact (Work.keeps_change fun o => leavesWords_append hp (hflat _ q hlookup) (hlines r hr)).failingWith
      (failure q)

end TextReport

/-! ## XML reports -/

namespace XmlReport

variable {fs : Files}

/-- **Where no document is left**, the document so far is empty, or the
reason why there is none lies outside. -/
theorem current?_of_leavesWords (hwords : TextReport.LeavesWords p fs) :
    current? fs p = .ok empty ∨ ∃ e, current? fs p = .error e ∧ e.isExternal = true := by
  rcases hfile : fs.isFile? p with f | _ | _
  · refine .inr ⟨failure f, by rw [current?, hfile]; rfl, isExternal_failure ?_⟩
    obtain ⟨f, rfl, -⟩ := Files.isFile?_eq_error_iff.1 hfile
    simp
  · exact .inl (current?_of_absent hfile)
  · obtain ⟨place, bytes, hlocate⟩ := Files.isFile?_eq_true_iff_locate.1 hfile
    obtain ⟨hnode, -⟩ := (Files.SameDirectories.refl fs).locate_eq_ok hlocate
    have hleads : fs.LeadsTo p place := ⟨by rw [hlocate, hnode], by simp [← hnode]⟩
    rcases hread : fs.read? p with f | bytes'
    · refine .inr ⟨failure f, current?_of_unreadable hfile hread, isExternal_failure ?_⟩
      rintro rfl
      exact Files.read?_ne_zero hleads.hasZero hread
    · obtain ⟨cause, spot, hmalformed⟩ := Markup.exists_malformed_of_areWords (hwords bytes' hread)
      exact .inr ⟨_, current?_of_malformed hfile hread hmalformed, rfl⟩

/-- **An XML report** at a path where no document of an earlier run is left
fails only for a reason that lies outside. -/
theorem isExternal_of_write (hzero : p.hasZero = false) (hwords : TextReport.LeavesWords p o.files)
    (h : Work.on o (write p b) = (.error e, o')) : e.isExternal = true := by
  rw [write] at h
  generalize b.records = rs at h
  rcases rs with _ | ⟨r, rs⟩
  · cases h
  rcases hfirst : Work.on o (add p r) with ⟨e₁ | ⟨⟨⟩⟩, o₁⟩
  · rw [on_forM_of_add_error hfirst] at h
    cases h
    rcases current?_of_leavesWords hwords with hcurrent | ⟨e', hcurrent, he'⟩
    · exact isExternal_of_add_of_current? hzero hcurrent hfirst
    · rw [on_add_of_error hcurrent] at hfirst
      cases hfirst
      exact he'
  · -- the first record makes a document, and from there nothing else fails
    exact isExternal_of_on_forM_add hfirst h

end XmlReport

/-! ## Scores that can be sent -/

theorem Score.isFinite_toJson (s : Score) : s.toJson.isFinite = s.isFinite := by
  cases s <;> rfl

theorem Score.toValue_toJson (s : Score) : s.toJson.toValue = s.toValue := by
  cases s <;> rfl

/-- A score that is the same number as a finite one is finite. -/
theorem Score.isFinite_of_same {s t : Score} (h : s.same t = true) (ht : t.isFinite = true) : s.isFinite = true := by
  have hinteger : ∀ (x : Binary64) (n : Int), x.isInt n = true → x.isFinite = true := by
    intro x n h
    cases x with
    | zero _ | finite _ => rfl
    | nan | infinity _ => cases h
  rcases s with _ | _ | x
  · rfl
  · rfl
  · rcases t with b | n | y
    · exact hinteger x _ h
    · exact hinteger x n h
    · cases x with
      | zero _ | finite _ => rfl
      | nan => cases h
      | infinity _ =>
        cases y with
        | zero _ | finite _ => cases h
        | nan | infinity _ => cases ht

/-- What was earned can be sent if what could have been earned can. -/
theorem Record.isFinite_earnedScore {r : Record} (h : r.maxScore.isFinite = true) : r.earnedScore.isFinite = true := by
  have hearned := r.earned_allowed
  rw [Record.earnedScore]
  generalize r.earned = earned at hearned ⊢
  rcases earned with _ | s
  · exact h
  · rw [Earned.isAllOrNothing, Bool.or_eq_true] at hearned
    rcases hearned with hzero | hmax
    · exact Score.isFinite_of_same hzero rfl
    · exact Score.isFinite_of_same hmax h

theorem Json.isFinite_object_iff {fs : List (String × Json)} :
    (Json.object fs).isFinite = true ↔ ∀ f ∈ fs, f.2.isFinite = true := by
  rw [Json.isFinite]
  induction fs with
  | nil => simp [Json.fieldsFinite]
  | cons f fs ih => rw [Json.fieldsFinite, Bool.and_eq_true, ih, List.forall_mem_cons]

theorem Json.isWritable_object_iff {fs : List (String × Json)} :
    (Json.object fs).toValue.isWritable = true ↔ ∀ f ∈ fs, f.2.toValue.isWritable = true := by
  rw [Json.toValue, Value.isWritable]
  induction fs with
  | nil => simp [Json.toEntries, Value.entriesAreWritable]
  | cons f fs ih =>
    have hname : (Value.text f.1).isWritable = true := by simp only [Value.isWritable]
    rw [Json.toEntries, Value.entriesAreWritable, hname, Bool.true_and, Bool.and_eq_true, ih, List.forall_mem_cons]

/-- **What is sent of a record**: under names of their own texts, a truth
value and the two scores. -/
theorem Record.exists_toWire_eq {P : Json → Prop} (r : Record) (htext : ∀ t, P (.text t)) (hbool : ∀ b, P (.bool b))
    (hmax : P r.maxScore.toJson) (hearned : P r.earnedScore.toJson) :
    ∃ fs, r.toWire = .object fs ∧ (fs.map Prod.fst).Nodup ∧ ∀ f ∈ fs, P f.2 := by
  refine ⟨_, rfl, by simp, fun f hf => ?_⟩
  simp only [List.mem_cons, List.not_mem_nil, or_false] at hf
  rcases hf with rfl | rfl | rfl | rfl | rfl | rfl | rfl
  · exact htext _
  · exact htext _
  · exact hmax
  · exact hearned
  · exact htext _
  · exact hbool _
  · exact htext _

/-- A record can be sent if its greatest score can. -/
theorem Record.isFinite_toWire {r : Record} (h : r.maxScore.isFinite = true) : r.toWire.isFinite = true := by
  obtain ⟨fs, hfs, -, hfinite⟩ := r.exists_toWire_eq (P := fun j => j.isFinite = true) (fun _ => rfl) (fun _ => rfl)
    (by rwa [Score.isFinite_toJson]) (by rw [Score.isFinite_toJson]; exact isFinite_earnedScore h)
  rw [hfs, Json.isFinite_object_iff]
  exact hfinite

/-- A record can be written if its scores can. -/
theorem Record.isWritable_toWire {r : Record} (hmax : r.maxScore.toValue.isWritable = true)
    (hearned : r.earnedScore.toValue.isWritable = true) : r.toWire.toValue.isWritable = true := by
  obtain ⟨fs, hfs, -, hwritable⟩ := r.exists_toWire_eq (P := fun j => j.toValue.isWritable = true) (fun _ => rfl)
    (fun _ => rfl) (by rwa [Score.toValue_toJson]) (by rwa [Score.toValue_toJson])
  rw [hfs, Json.isWritable_object_iff]
  exact hwritable

/-! ## Publishers -/

namespace Publisher

variable {p : Publisher} {a : Web.Answer}

/-- An answer that is good, or is refused for a reason that lies outside. -/
def Copes (p : Publisher) (a : Web.Answer) : Prop :=
  ∀ e, p.noteOf p.target.text a = .error e → e.isExternal = true

/-- **A publisher copes** with an answer that has failed, or that is accepted,
where the place that it names makes sense. -/
theorem copes_of_fails (habsolute : p.target.isAbsolute = true) (hfails : a.Fails) (hshown : a.NamesShown p.target) :
    p.Copes a := by
  obtain ⟨e', he', hexternal⟩ := exists_noteOf_eq_error habsolute hfails p.target.text
  intro e h
  rw [he'] at h
  cases h
  exact hexternal.2 hshown

theorem copes_of_isSuccess (habsolute : p.target.isAbsolute = true) {status : Int} {headers : List Web.Header}
    {body : List UInt8} {r : Web.Reply} (hread : Web.Reply.read status headers body = .ok r)
    (hsuccess : Web.Status.isSuccess status = true) (htext : ∃ t, r.text = .ok t) :
    p.Copes (.response status headers body) := by
  obtain ⟨t, ht⟩ := htext
  intro e h
  rw [noteOf_of_isSuccess habsolute hread hsuccess, ht] at h
  cases h

/-- An answer without headers and body can always be coped with. -/
theorem copes_empty (habsolute : p.target.isAbsolute = true) (status : Int) :
    p.Copes (.response status [] []) := by
  rcases hsuccess : Web.Status.isSuccess status with _ | _
  · refine copes_of_fails habsolute (.inl hsuccess) fun l hl => ?_
    rw [Web.Reply.elsewhere?] at hl
    split at hl <;> cases hl
  · exact copes_of_isSuccess habsolute (r := ⟨status, [], []⟩) rfl hsuccess ⟨"", rfl⟩

/-- What hinders a request that can be sent lies outside. -/
theorem isExternal_hindrance (hopen : p.isOpen = true) {content : Json} (hfinite : content.isFinite = true)
    (h : p.hindrance? content = some e) : e.isExternal = true := by
  rw [hindrance?] at h
  split at h
  · cases h
    rfl
  · simp only [hfinite, hopen, Bool.not_true, Bool.false_eq_true, if_false, Option.map_eq_some_iff] at h
    obtain ⟨reason, -, rfl⟩ := h
    rfl

/-- **A request** that can be sent, to an answer that can be coped with. -/
theorem isExternal_of_post_of_copes (hopen : p.isOpen = true) {content : Json}
    (hwritable : content.toValue.isWritable = true) (hfinite : content.isFinite = true)
    (hcopes : p.Copes (o.answers.headD .standard)) (h : Work.on o (p.post content) = (.error e, o')) :
    e.isExternal = true := by
  rcases post_eq_error h with ⟨hunwritable, -⟩ | hhindrance | hnote
  · rw [hwritable] at hunwritable
    cases hunwritable
  · exact isExternal_hindrance hopen hfinite hhindrance
  · exact hcopes _ hnote

/-- The results of records whose greatest scores can be sent can be sent. -/
theorem isFinite_payload {items : List (String × Record)} (h : ∀ x ∈ items, x.2.maxScore.isFinite = true)
    (metadata : String) : (payload items metadata).isFinite = true := by
  have hresults : (Json.object (items.map fun x => (x.1, x.2.toWire))).isFinite = true := by
    refine Json.isFinite_object_iff.2 fun f hf => ?_
    obtain ⟨x, hx, rfl⟩ := List.mem_map.1 hf
    exact Record.isFinite_toWire (h x hx)
  refine Json.isFinite_object_iff.2 fun f hf => ?_
  simp only [List.mem_cons, List.not_mem_nil, or_false] at hf
  rcases hf with rfl | rfl
  · exact hresults
  · rfl

/-- The results of records whose scores can be written can be written. -/
theorem isWritable_payload {items : List (String × Record)}
    (h : ∀ x ∈ items, x.2.maxScore.toValue.isWritable = true ∧ x.2.earnedScore.toValue.isWritable = true)
    (metadata : String) : (payload items metadata).toValue.isWritable = true := by
  have hresults : (Json.object (items.map fun x => (x.1, x.2.toWire))).toValue.isWritable = true := by
    refine Json.isWritable_object_iff.2 fun f hf => ?_
    obtain ⟨x, hx, rfl⟩ := List.mem_map.1 hf
    exact Record.isWritable_toWire (h x hx).1 (h x hx).2
  refine Json.isWritable_object_iff.2 fun f hf => ?_
  simp only [List.mem_cons, List.not_mem_nil, or_false] at hf
  rcases hf with rfl | rfl
  · exact hresults
  · rfl

/-- What holds of the results of some records holds of all that is posted for a bundle. -/
theorem forall_mem_payloads {P : Json → Prop} {Q : Record → Prop}
    (hpayload : ∀ items metadata, (∀ x ∈ items, Q x.2) → P (payload items metadata))
    (h : ∀ r ∈ b.records, Q r) {content : Json} (hcontent : content ∈ p.payloads b) : P content := by
  have hitems : ∀ x ∈ b.items, Q x.2 := fun x hx => h x.2 (List.mem_map.2 ⟨x, hx, rfl⟩)
  rw [payloads] at hcontent
  split at hcontent
  · obtain ⟨x, hx, rfl⟩ := List.mem_map.1 hcontent
    refine hpayload _ _ fun y hy => ?_
    rw [List.mem_singleton.1 hy]
    exact hitems x hx
  · rw [List.mem_singleton.1 hcontent]
    exact hpayload _ _ hitems

theorem isFinite_of_mem_payloads (h : ∀ r ∈ b.records, r.maxScore.isFinite = true) {content : Json}
    (hcontent : content ∈ p.payloads b) : content.isFinite = true :=
  forall_mem_payloads (P := fun c => c.isFinite = true) (Q := fun r => r.maxScore.isFinite = true)
    (fun _ metadata hitems => isFinite_payload hitems metadata) h hcontent

theorem isWritable_of_mem_payloads
    (h : ∀ r ∈ b.records, r.maxScore.toValue.isWritable = true ∧ r.earnedScore.toValue.isWritable = true)
    {content : Json} (hcontent : content ∈ p.payloads b) : content.toValue.isWritable = true :=
  forall_mem_payloads (P := fun c => c.toValue.isWritable = true)
    (Q := fun r => r.maxScore.toValue.isWritable = true ∧ r.earnedScore.toValue.isWritable = true)
    (fun _ metadata hitems => isWritable_payload hitems metadata) h hcontent

/-- **A publisher** that can send all it has to send, to a server whose
answers can be coped with, fails only for a reason that lies outside. -/
theorem isExternal_of_write_of_copes (hopen : p.isOpen = true)
    (hwritable : ∀ content ∈ p.payloads b, content.toValue.isWritable = true)
    (hfinite : ∀ content ∈ p.payloads b, content.isFinite = true)
    (hcopes : ∀ a ∈ .standard :: o.answers, p.Copes a) (h : Work.on o (p.write b) = (.error e, o')) :
    e.isExternal = true := by
  rw [write] at h
  generalize p.payloads b = contents at hwritable hfinite h
  induction contents generalizing o with
  | nil => cases h
  | cons content contents ih =>
    rw [Work.on_forM_cons] at h
    rcases hfirst : Work.on o (p.post content) with ⟨e' | ⟨⟨⟩⟩, o₁⟩
    · rw [Work.on_bind_error hfirst] at h
      cases h
      refine isExternal_of_post_of_copes hopen (hwritable content List.mem_cons_self)
        (hfinite content List.mem_cons_self) (hcopes _ ?_) hfirst
      cases o.answers with
      | nil => exact List.mem_cons_self
      | cons a answers => exact List.mem_cons_of_mem _ List.mem_cons_self
    · -- the answers to the others are among those that were left
      rw [Work.on_bind_ok hfirst] at h
      obtain ⟨-, hanswers, -⟩ := post_eq_ok hfirst
      refine ih (fun a ha => hcopes a ?_) (fun c hc => hwritable c (List.mem_cons_of_mem content hc))
        (fun c hc => hfinite c (List.mem_cons_of_mem content hc)) h
      rw [hanswers] at ha
      rcases List.mem_cons.1 ha with rfl | ha
      · exact List.mem_cons_self
      · exact List.mem_cons_of_mem _ (List.mem_of_mem_tail ha)

end Publisher
end ScriptGrader
