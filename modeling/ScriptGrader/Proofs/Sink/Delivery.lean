import ScriptGrader.Proofs.Number.ReadBack
import ScriptGrader.Proofs.Position
import ScriptGrader.Proofs.Report.JsonRoundTrip
import ScriptGrader.Proofs.Sink.Failure

/-!
# What a server is told

A publisher posts the results of a bundle one by one, or all at once. Both
ways the server reads the same results under the same keys in the same
order, with the same text attached to each post, and each result tells all
that its record says (`ofResult?_toWire`). That the posts are read as they
were meant rests on JSON being read back, and on doubles being so.

The posts come to an end only if each of them is answered with success and
the answer can be read.
-/

namespace ScriptGrader

/-! ## Results -/

/-- A score that can be sent: an integer that is not too long to be written,
or a finite double. -/
def Score.IsSendable : Score → Prop
  | .flag _ => True
  | .whole n => n.natAbs < Value.unwritten
  | .binary x => x.isFinite = true ∧ x.IsDouble

theorem Score.IsSendable.isReadable {s : Score} (h : s.IsSendable) : s.IsReadable := by
  cases s with
  | flag b => trivial
  | whole n => exact h
  | binary x => exact ⟨h.1, Numeral.binary64?_binary64 h.2 h.1⟩

theorem Score.IsReadable.isSendable {s : Score} (h : s.IsReadable) (hdouble : ∀ x, s = .binary x → x.IsDouble) :
    s.IsSendable := by
  cases s with
  | flag b => trivial
  | whole n => exact h
  | binary x => exact ⟨h.1, hdouble x rfl⟩

theorem Score.IsSendable.isFinite {s : Score} (h : s.IsSendable) : s.isFinite = true := by
  cases s with
  | flag b => rfl
  | whole n => rfl
  | binary x => exact h.1

theorem Score.IsSendable.isWritable {s : Score} (h : s.IsSendable) : s.toValue.isWritable = true :=
  s.toValue_toJson ▸ h.isReadable.isWritable

/-- The scores of a record can be sent. -/
structure Record.IsSendable (r : Record) : Prop where
  maxScore : r.maxScore.IsSendable
  earnedScore : r.earnedScore.IsSendable

/-- What a server can know of a record. -/
structure Told where
  checkName : String
  category : Category
  maxScore : Score
  earnedScore : Score
  status : Status
  mandatory : Bool
  feedback : String
  deriving DecidableEq

/-- What a record says. -/
def Record.told (r : Record) : Told :=
  ⟨r.checkName, r.category, r.maxScore, r.earnedScore, r.status, r.mandatory, r.feedback⟩

namespace Json

/-- The field of a name. -/
def field? (j : Json) (name : String) : Option Json :=
  match j with
  | object fs => fs.lookup name
  | _ => none

def string? : Json → Option String
  | text s => some s
  | _ => none

def bool? : Json → Option Bool
  | bool b => some b
  | _ => none

def score? : Json → Option Score
  | bool b => some (.flag b)
  | int n => some (.whole n)
  | float x => some (.binary x)
  | _ => none

theorem score?_toJson (s : Score) : s.toJson.score? = some s := by
  cases s <;> rfl

end Json

namespace Told

/-- What a result tells. -/
def ofResult? (j : Json) : Option Told := do
  let checkName ← (← j.field? "methodName").string?
  let category ← Category.ofName? (← (← j.field? "methodType").string?)
  let maxScore ← (← j.field? "actualScore").score?
  let earnedScore ← (← j.field? "earnedScore").score?
  let status ← Status.ofName? (← (← j.field? "status").string?)
  let mandatory ← (← j.field? "isMandatory").bool?
  let feedback ← (← j.field? "errorMessage").string?
  return ⟨checkName, category, maxScore, earnedScore, status, mandatory, feedback⟩

theorem ofName?_category (c : Category) : Category.ofName? c.name = some c := by
  cases c <;> decide

theorem ofName?_status (s : Status) : Status.ofName? s.name = some s := by
  cases s <;> decide

/-- **A result tells all that its record says.** -/
theorem ofResult?_toWire (r : Record) : ofResult? r.toWire = some r.told := by
  have hname : r.toWire.field? "methodName" = some (.text r.checkName) := rfl
  have hcategory : r.toWire.field? "methodType" = some (.text r.category.name) := rfl
  have hmax : r.toWire.field? "actualScore" = some r.maxScore.toJson := rfl
  have hearned : r.toWire.field? "earnedScore" = some r.earnedScore.toJson := rfl
  have hstatus : r.toWire.field? "status" = some (.text r.status.name) := rfl
  have hmandatory : r.toWire.field? "isMandatory" = some (.bool r.mandatory) := rfl
  have hfeedback : r.toWire.field? "errorMessage" = some (.text r.feedback) := rfl
  simp only [ofResult?, hname, hcategory, hmax, hearned, hstatus, hmandatory, hfeedback,
    Option.bind_eq_bind, Option.bind_some, Json.string?, Json.bool?, Json.score?_toJson,
    ofName?_category, ofName?_status]
  rfl

end Told

/-- What a request tells: results under their keys, and the attached text. -/
def Web.Request.report? (q : Web.Request) : Option (List (String × Json) × String) := do
  let j ← Json.read? q.body
  let metadata ← (← j.field? "customData").string?
  match ← j.field? "testCaseResults" with
  | .object results => some (results, metadata)
  | _ => none

namespace Publisher

variable {p : Publisher} {b : Bundle} {o o' : Outside} {items : List (String × Record)}

/-! ## Bodies -/

theorem isPlain_body : Json.Style.body.IsPlain where
  comma := ⟨[], rfl, by simp [Json.Reader.AreBlank]⟩
  colon := ⟨[], rfl, by simp [Json.Reader.AreBlank]⟩
  indent := fun t ht => by cases ht

theorem isReadable_toWire {r : Record} (hr : r.IsSendable) : r.toWire.IsReadable := by
  obtain ⟨fs, hfs, hnodup, hreadable⟩ := r.exists_toWire_eq .text .bool hr.maxScore.isReadable.toJson
    hr.earnedScore.isReadable.toJson
  rw [hfs]
  exact .object hnodup hreadable

theorem isReadable_payload (hnodup : (items.map Prod.fst).Nodup) (hitems : ∀ x ∈ items, x.2.IsSendable)
    (metadata : String) : (payload items metadata).IsReadable := by
  have hresults : (Json.object (items.map fun x => (x.1, x.2.toWire))).IsReadable := by
    refine .object ?_ fun f hf => ?_
    · rw [List.map_map]
      exact hnodup
    · obtain ⟨x, hx, rfl⟩ := List.mem_map.1 hf
      exact isReadable_toWire (hitems x hx)
  refine .object (by simp) fun f hf => ?_
  simp only [List.mem_cons, List.not_mem_nil, or_false] at hf
  rcases hf with rfl | rfl
  · exact hresults
  · exact .text _

/-- **A request is read as it was meant.** -/
theorem report?_request (p : Publisher) (hnodup : (items.map Prod.fst).Nodup)
    (hitems : ∀ x ∈ items, x.2.IsSendable) (metadata : String) :
    (p.request (payload items metadata)).report? =
      some (items.map fun x => (x.1, x.2.toWire), metadata) := by
  have hread := (isReadable_payload hnodup hitems metadata).read?_render isPlain_body
  rw [Web.Request.report?, request, hread]
  rfl

open Json (ReadsAs)

/-- A score that is finite is read as a number of some kind. -/
theorem exists_readsAs_score (s : Score) (h : s.toJson.isFinite = true) (depth : Nat) :
    ∃ j, ReadsAs .body depth s.toJson j := by
  cases s with
  | flag b => exact ⟨_, .bool b⟩
  | whole n => exact ⟨_, .int n⟩
  | binary x =>
    obtain ⟨y, hback⟩ := Numeral.exists_binary64?_binary64 h
    exact ⟨_, .float h hback⟩

/-- So is a result, as an object of some kind. -/
theorem exists_readsAs_toWire (r : Record) (h : r.toWire.isFinite = true) (depth : Nat) :
    ∃ fs, ReadsAs .body depth r.toWire (.object fs) := by
  obtain ⟨fs, hfs, hnodup, hreads⟩ := r.exists_toWire_eq
    (P := fun j => j.isFinite = true → ∃ j', ReadsAs .body (depth + 1) j j') (fun t _ => ⟨_, .text t⟩)
    (fun b _ => ⟨_, .bool b⟩) (fun h => exists_readsAs_score _ h _) (fun h => exists_readsAs_score _ h _)
  rw [hfs] at h ⊢
  exact ReadsAs.exists_object isPlain_body hnodup fun f hf => hreads f hf (Json.isFinite_object_iff.1 h f hf)

/-- **A request that can be sent carries its text**, whatever its results are read as. -/
theorem exists_report?_request (p : Publisher) (hnodup : (items.map Prod.fst).Nodup) {metadata : String}
    (hfinite : (payload items metadata).isFinite = true) :
    ∃ results, (p.request (payload items metadata)).report? = some (results, metadata) := by
  have hfields := Json.isFinite_object_iff.1 (Json.isFinite_object_iff.1 hfinite _ List.mem_cons_self)
  have hresults : ∃ results, ReadsAs .body 1 (.object (items.map fun x => (x.1, x.2.toWire))) (.object results) := by
    refine ReadsAs.exists_object isPlain_body (by rwa [List.map_map]) fun f hf => ?_
    obtain ⟨x, -, rfl⟩ := List.mem_map.1 hf
    obtain ⟨fs, hfs⟩ := exists_readsAs_toWire x.2 (hfields _ hf) 2
    exact ⟨_, hfs⟩
  obtain ⟨results, hreads⟩ := hresults
  have hbody : ReadsAs .body 0 (payload items metadata)
      (.object [("testCaseResults", .object results), ("customData", .text metadata)]) :=
    .object isPlain_body (by simp) (.cons ⟨rfl, hreads⟩ (.cons ⟨rfl, .text metadata⟩ .nil))
  refine ⟨results, ?_⟩
  rw [Web.Request.report?, request, hbody.read?_render]
  rfl

end Publisher

/-! ## Answers -/

/-- An answer that tells of success, and can be read. -/
def Web.Answer.Accepts : Web.Answer → Prop
  | .response status headers body => Web.Status.isSuccess status = true ∧
      ∃ r t, Web.Reply.read status headers body = .ok r ∧ r.text = .ok t
  | .failure _ | .raised _ _ => False

theorem Web.Answer.accepts_standard : Web.Answer.standard.Accepts := ⟨rfl, ⟨200, [], []⟩, "", rfl, rfl⟩

/-- The answer to a request, when so many others were answered before. -/
def Outside.answerTo (o : Outside) (n : Nat) : Web.Answer := o.answers.getD n .standard

theorem Outside.answerTo_zero (o : Outside) : o.answerTo 0 = o.answers.headD .standard := by
  rw [answerTo]
  cases o.answers <;> rfl

theorem Outside.accepts_answerTo {o : Outside} (ha : ∀ a ∈ o.answers, a.Accepts) (n : Nat) :
    (o.answerTo n).Accepts := by
  rw [answerTo, List.getD_eq_getElem?_getD]
  rcases hanswer : o.answers[n]? with _ | a
  · exact Web.Answer.accepts_standard
  · exact ha a (List.mem_of_getElem? hanswer)

namespace Publisher

variable {p : Publisher} {b : Bundle} {o o' : Outside} {content : Json} {contents : List Json}

/-- The connection of a publisher takes its requests. -/
structure IsConnected (p : Publisher) : Prop where
  isOpen : p.isOpen = true
  absolute : p.target.isAbsolute = true
  supported : p.unsupported? = none

theorem IsConnected.hindrance?_eq_none (hp : p.IsConnected) (hfinite : content.isFinite = true) :
    p.hindrance? content = none := by
  have hcheck : p.target.checkRequest = .ok () := by rw [Web.Address.checkRequest, if_pos hp.absolute]
  simp only [hindrance?, hcheck, hfinite, hp.isOpen, hp.supported, Bool.not_true, Bool.false_eq_true, if_false,
    Option.map_none]

/-- An answer that is accepted is noted. -/
theorem exists_noteOf_eq_ok (hp : p.IsConnected) {a : Web.Answer} (ha : a.Accepts) (address : String) :
    ∃ line, p.noteOf address a = .ok line := by
  rcases a with ⟨status, headers, body⟩ | message | ⟨kind, message⟩
  · obtain ⟨hsuccess, r, t, hread, htext⟩ := ha
    exact ⟨_, by rw [noteOf_of_isSuccess hp.absolute hread hsuccess, htext]; rfl⟩
  · cases ha
  · cases ha

/-- **A post that has a text** is sent, and its answer is used up, whatever it is. -/
theorem on_post_of_connected (hp : p.IsConnected) (hwritable : content.toValue.isWritable = true)
    (hfinite : content.isFinite = true) (o : Outside) :
    ∃ o', Work.on o (p.post content) = ((p.noteOf p.target.text (o.answerTo 0)).map fun _ => (), o') ∧
      o'.sent = o.sent ++ [p.request content] ∧ o'.answers = o.answers.tail := by
  rw [Outside.answerTo_zero, on_post, if_pos hwritable, hp.hindrance?_eq_none hfinite]
  dsimp only
  rw [Work.on_bind_ok (Work.on_send _ _)]
  have haddress : (p.request content).address = p.target.text := rfl
  have hanswers : (p.announced content o).answers = o.answers := rfl
  rw [haddress, hanswers]
  rcases p.noteOf p.target.text (o.answers.headD .standard) with e | line
  · exact ⟨_, rfl, rfl, rfl⟩
  · exact ⟨_, rfl, rfl, rfl⟩

/-- A post has a text: no integer in it has more digits than are written. -/
def HasText (contents : List Json) (n : Nat) : Prop := HoldsAt (fun c => c.toValue.isWritable = true) contents n

/-- A post is done: it has a text, and its answer is accepted. -/
def IsDone (contents : List Json) (o : Outside) (n : Nat) : Prop := HasText contents n ∧ (o.answerTo n).Accepts

/-- **Posts that are done** are all sent, and each of them uses up its answer. -/
theorem on_forM_of_done (hp : p.IsConnected) (hfinite : ∀ c ∈ contents, c.isFinite = true)
    (hdone : ∀ n < contents.length, IsDone contents o n) :
    ∃ o', Work.on o (contents.forM p.post) = (.ok (), o') ∧ o'.sent = o.sent ++ contents.map p.request ∧
      o'.answers = o.answers.drop contents.length := by
  induction contents generalizing o with
  | nil => exact ⟨o, rfl, by simp, rfl⟩
  | cons c contents ih =>
    obtain ⟨⟨c, hc, hwritable⟩, haccepts⟩ := hdone 0 (by simp)
    cases hc
    obtain ⟨o₁, hpost, hsent, hanswers⟩ := on_post_of_connected hp hwritable (hfinite c List.mem_cons_self) o
    obtain ⟨line, hline⟩ := exists_noteOf_eq_ok hp haccepts p.target.text
    rw [hline] at hpost
    -- the answers to the others come one earlier now
    have hnext : ∀ n, o₁.answerTo n = o.answerTo (n + 1) := by
      intro n
      rw [Outside.answerTo, Outside.answerTo, hanswers]
      cases o.answers <;> simp
    obtain ⟨o', hrest, hsent', hanswers'⟩ := ih (fun c hc => hfinite c (List.mem_cons_of_mem _ hc)) fun n hn => by
      obtain ⟨htext, haccepts⟩ := hdone (n + 1) (by simpa using hn)
      exact ⟨htext, by rwa [hnext]⟩
    refine ⟨o', ?_, ?_, ?_⟩
    · rw [Work.on_forM_cons, Work.on_bind_ok hpost, hrest]
    · rw [hsent', hsent, List.map_cons, List.append_assoc, List.singleton_append]
    · rw [hanswers', hanswers, List.length_cons, List.drop_tail]

/-- **All posts are done** when each of them can be sent and all answers are accepted. -/
theorem exists_write_eq_ok (hp : p.IsConnected) (hb : ∀ r ∈ b.records, r.IsSendable)
    (ha : ∀ a ∈ o.answers, a.Accepts) : ∃ o', Work.on o (p.write b) = (.ok (), o') := by
  have hwritable : ∀ c ∈ p.payloads b, c.toValue.isWritable = true := fun c hc =>
    isWritable_of_mem_payloads (fun r hr => ⟨(hb r hr).maxScore.isWritable, (hb r hr).earnedScore.isWritable⟩) hc
  have hfinite : ∀ c ∈ p.payloads b, c.isFinite = true := fun c hc =>
    isFinite_of_mem_payloads (fun r hr => (hb r hr).maxScore.isFinite) hc
  obtain ⟨o', hwrite, -⟩ := on_forM_of_done (o := o) hp hfinite fun n hn =>
    ⟨⟨_, List.getElem?_eq_getElem hn, hwritable _ (List.getElem_mem hn)⟩, Outside.accepts_answerTo ha n⟩
  exact ⟨o', hwrite⟩

/-! ## Both ways -/

/-- Posts of one record each, and one post of all of them, tell the same of a
bundle: the same results under the same keys in the same order, none of them
twice, and each with all that the record says. -/
structure TellTheSame (posts : List Web.Request) (batch : Web.Request) (b : Bundle) : Prop where
  count : posts.length = b.size
  each : List.Forall₂ (fun post item => ∃ result, post.report? = some ([(item.1, result)], b.metadata) ∧
    Told.ofResult? result = some item.2.told) posts b.items
  all : ∃ results, batch.report? = some (results, b.metadata) ∧
    results.map Prod.fst = b.keys ∧ b.keys.Nodup ∧
    (posts.filterMap Web.Request.report?).flatMap Prod.fst = results ∧
    results.map (fun x => (x.1, Told.ofResult? x.2)) = b.items.map fun x => (x.1, some x.2.told)

/-- The post of one record. -/
def single (p : Publisher) (b : Bundle) (x : String × Record) : Web.Request :=
  p.request (payload [x] b.metadata)

/-- The post of all records. -/
def batch (p : Publisher) (b : Bundle) : Web.Request := p.request (payload b.items b.metadata)

theorem report?_single (hb : ∀ r ∈ b.records, r.IsSendable) {x : String × Record} (hx : x ∈ b.items) :
    (p.single b x).report? = some ([(x.1, x.2.toWire)], b.metadata) := by
  refine report?_request p (by simp) (fun y hy => ?_) b.metadata
  rw [List.mem_singleton.1 hy]
  exact hb x.2 (List.mem_map_of_mem hx)

theorem report?_batch (hb : ∀ r ∈ b.records, r.IsSendable) :
    (p.batch b).report? = some (b.items.map fun x => (x.1, x.2.toWire), b.metadata) :=
  report?_request p b.nodup (fun x hx => hb x.2 (List.mem_map_of_mem hx)) b.metadata

theorem tellTheSame (p : Publisher) (hb : ∀ r ∈ b.records, r.IsSendable) :
    TellTheSame (b.items.map (p.single b)) (p.batch b) b where
  count := List.length_map _
  each := by
    rw [List.forall₂_map_left_iff, List.forall₂_same]
    exact fun x hx => ⟨_, report?_single hb hx, Told.ofResult?_toWire x.2⟩
  all := by
    refine ⟨_, report?_batch hb, ?_, b.nodup, ?_, ?_⟩
    · rw [List.map_map]
      rfl
    · have hreports : (b.items.map (p.single b)).filterMap Web.Request.report? =
          b.items.map fun x => ([(x.1, x.2.toWire)], b.metadata) := by
        rw [List.filterMap_map, ← List.filterMap_eq_map]
        exact List.filterMap_congr fun x hx => report?_single hb hx
      rw [hreports, List.flatMap_map, ← List.map_eq_flatMap]
    · rw [List.map_map]
      exact List.map_congr_left fun x _ => by simp only [Function.comp, Told.ofResult?_toWire]

/-- **One by one or all at once, a server is told the same.** A publisher
whose connection takes its requests posts a bundle whose scores can be sent
to a server that accepts every post. One by one it sends a post for each
record, in their order; otherwise it sends a single one; either way it comes
to its end. What the server reads is the same. -/
theorem write_tells_the_same (hp : p.IsConnected) (hb : ∀ r ∈ b.records, r.IsSendable) :
    ∃ posts batch, TellTheSame posts batch b ∧
      (∀ o : Outside, (∀ a ∈ o.answers, a.Accepts) →
        ∃ o', Work.on o ({ p with perRecord := true }.write b) = (.ok (), o') ∧ o'.sent = o.sent ++ posts) ∧
      ∀ o : Outside, (∀ a ∈ o.answers, a.Accepts) →
        ∃ o', Work.on o ({ p with perRecord := false }.write b) = (.ok (), o') ∧ o'.sent = o.sent ++ [batch] := by
  have hconnected (perRecord : Bool) : { p with perRecord := perRecord }.IsConnected :=
    ⟨hp.isOpen, hp.absolute, hp.supported⟩
  refine ⟨_, _, tellTheSame p hb, fun o ha => ?_, fun o ha => ?_⟩
  · obtain ⟨o', hwrite⟩ := exists_write_eq_ok (hconnected true) hb ha
    refine ⟨o', hwrite, ?_⟩
    rw [(write_eq_ok hwrite).1, payloads, if_pos rfl, List.map_map]
    rfl
  · obtain ⟨o', hwrite⟩ := exists_write_eq_ok (hconnected false) hb ha
    refine ⟨o', hwrite, ?_⟩
    rw [(write_eq_ok hwrite).1, payloads, if_neg (by simp)]
    rfl

/-! ## A server, and how it may cut a report short -/

/-- A publisher of one record at a time. -/
def samplePublisher : Publisher :=
  ⟨"http://h/", ⟨['h', 't', 't', 'p'], [], ['h'], none, ['/'], none, none⟩, true, ⟨true, true⟩, defaultTimeout, true,
    .sinks⟩

theorem isConnected_samplePublisher : samplePublisher.IsConnected := ⟨rfl, by decide, rfl⟩

theorem isSendable_hardBundle : ∀ r ∈ Bundle.hardBundle.records, r.IsSendable := by
  -- the one double of the bundle is what a tenth is rounded to
  have htenth : Binary64.round (1 / 10) false = .finite (3602879701896397 / 36028797018963968) := by
    decide +kernel
  have hdouble : (Binary64.finite (3602879701896397 / 36028797018963968)).IsDouble :=
    htenth ▸ Binary64.isDouble_round _ _
  have hdoubles : ∀ r ∈ Bundle.hardBundle.records, (∀ x, r.maxScore = .binary x → x.IsDouble) ∧
      ∀ x, r.earnedScore = .binary x → x.IsDouble := by
    simp [Bundle.hardBundle, Bundle.records, Bundle.failedRecord, Record.earnedScore, Earned.score, hdouble]
  have hreadable : ∀ r ∈ Bundle.hardBundle.records, r.IsReadable := by decide +kernel
  intro r hr
  exact ⟨(hreadable r hr).1.isSendable (hdoubles r hr).1, (hreadable r hr).2.isSendable (hdoubles r hr).2⟩

/-- A server that has an answer to the first request. -/
def answeredBy (a : Web.Answer) : Outside := ⟨{ entries := [] }, [], [], [a]⟩

/-- **Hard texts and numbers are told** to a server that answers with no content. -/
theorem write_tells_hard_bundle : samplePublisher.IsConnected ∧
    (∀ r ∈ Bundle.hardBundle.records, r.IsSendable) ∧
    ∃ posts batch, TellTheSame posts batch Bundle.hardBundle ∧
      (∃ o', Work.on (answeredBy (.response 204 [] [])) (samplePublisher.write Bundle.hardBundle) = (.ok (), o') ∧
        o'.sent = posts) ∧
      ∃ o', Work.on (answeredBy (.response 204 [] []))
          ({ samplePublisher with perRecord := false }.write Bundle.hardBundle) = (.ok (), o') ∧
        o'.sent = [batch] := by
  have haccepts : ∀ a ∈ (answeredBy (.response 204 [] [])).answers, a.Accepts := by
    intro a ha
    rw [List.mem_singleton.1 ha]
    exact ⟨rfl, ⟨204, [], []⟩, "", rfl, rfl⟩
  obtain ⟨posts, batch, htell, hsingle, hbatch⟩ :=
    write_tells_the_same isConnected_samplePublisher isSendable_hardBundle
  exact ⟨isConnected_samplePublisher, isSendable_hardBundle, posts, batch, htell,
    hsingle (answeredBy (.response 204 [] [])) haccepts, hbatch (answeredBy (.response 204 [] [])) haccepts⟩

/-- Two records. -/
def pairBundle : Bundle :=
  ⟨[("k", Bundle.failedRecord "C" (.whole 1) (by decide) (by decide)),
    ("l", Bundle.failedRecord "D" (.whole 2) (by decide) (by decide))], "m", by decide⟩

theorem isWritable_payload_wholeBundle {n : Int} (hn : n ≠ 0) (hlong : Value.unwritten ≤ n.natAbs) (metadata : String) :
    (payload (Bundle.wholeBundle n hn).items metadata).toValue.isWritable = false := by
  simp [Bundle.wholeBundle, payload, Bundle.failedRecord, Record.toWire, Score.toJson, Json.toValue, Json.toEntries,
    Value.isWritable, Value.entriesAreWritable, Nat.not_lt.2 hlong]

/-- **A status of success is not enough, and neither is an integer**: an
answer that cannot be read ends the publishing after the first of two posts,
and a score with more digits than are written is not posted at all. -/
theorem not_forall_write_tells :
    (¬ ∀ (b : Bundle) (o : Outside), (∀ r ∈ b.records, r.IsSendable) →
      (∀ a ∈ o.answers, ∃ status headers body, a = .response status headers body ∧
        Web.Status.isSuccess status = true) →
      (Work.on o (samplePublisher.write b)).2.sent.length = o.sent.length + b.size) ∧
    (¬ ∀ (b : Bundle) (o : Outside),
      (∀ r ∈ b.records, ∃ m n : Int, r.maxScore = .whole m ∧ r.earnedScore = .whole n) →
      (∀ a ∈ o.answers, a.Accepts) →
      (Work.on o (samplePublisher.write b)).2.sent.length = o.sent.length + b.size) := by
  refine ⟨fun h => ?_, fun h => ?_⟩
  · have hdoubles : ∀ r ∈ pairBundle.records, (∀ x, r.maxScore = .binary x → x.IsDouble) ∧
        ∀ x, r.earnedScore = .binary x → x.IsDouble := by
      simp [pairBundle, Bundle.records, Bundle.failedRecord, Record.earnedScore, Earned.score]
    have hreadable : ∀ r ∈ pairBundle.records, r.IsReadable := by decide +kernel
    -- the body claims to be compressed and is not, so the first of the two posts is the last
    have hcount := h pairBundle
      (answeredBy (.response 200 [.ofText "content-encoding" "gzip"] (Text.encode "none")))
      (fun r hr => ⟨(hreadable r hr).1.isSendable (hdoubles r hr).1,
        (hreadable r hr).2.isSendable (hdoubles r hr).2⟩)
      fun a ha => ⟨_, _, _, List.mem_singleton.1 ha, rfl⟩
    revert hcount
    decide +kernel
  · have hn : (Value.unwritten : Int) ≠ 0 := Int.natCast_ne_zero.2 Value.unwritten_ne_zero
    let b := Bundle.wholeBundle Value.unwritten hn
    let o : Outside := ⟨{ entries := [] }, [], [], []⟩
    have hlong : Value.unwritten ≤ (Value.unwritten : Int).natAbs := Nat.le_of_eq (Int.natAbs_natCast _).symm
    have hpost : Work.on o (samplePublisher.post (payload b.items b.metadata)) = (.error .tooManyDigits, o) := by
      rw [on_post, isWritable_payload_wholeBundle hn hlong b.metadata, if_neg Bool.false_ne_true]
    have hwrite : Work.on o (samplePublisher.write b) = (.error .tooManyDigits, o) := by
      -- there is one record, and the post of it is the post of all
      rw [write]
      exact (Work.on_forM_cons o _ _ _).trans (Work.on_bind_error hpost _)
    have hcount := h b o
      (fun r hr => by rw [List.mem_singleton.1 hr]; exact ⟨_, _, rfl, rfl⟩) fun a ha => by cases ha
    have hsize : b.size = 1 := rfl
    rw [hwrite, hsize] at hcount
    cases hcount

end Publisher
end ScriptGrader
