import ScriptGrader.Proofs.Outside
import ScriptGrader.Proofs.Text.Utf8
import ScriptGrader.Sink.Publisher

/-!
# What is published

Posting either succeeds, and then the request was sent and nothing else
outside has changed, or it fails. Where a request can be made and its
answer is good, it fails only for a reason that does not lie outside.
-/

namespace ScriptGrader

namespace Web.Answer

/-- An answer with a status that tells of success and a body that can be read. -/
def IsGood : Answer → Prop
  | response status headers body =>
    Status.isSuccess status = true ∧ ∃ r, Reply.read status headers body = .ok r
  | failure _ | raised _ _ => False

/-- **A request has failed**: no answer arrives, or none that can be unpacked,
or its status tells of no success. -/
def Fails : Answer → Prop
  | failure _ => True
  | response status headers body =>
    Status.isSuccess status = false ∨ ∃ f, Reply.read status headers body = .error f
  | raised _ _ => False

/-- Where an answer names another place to ask, the host of that place can be shown. -/
def NamesShown (asked : Address) : Answer → Prop
  | response status headers _ =>
    ∀ l, Reply.elsewhere? status headers = some l → ∀ f, Redirect.check asked l ≠ .error (.host f)
  | failure _ | raised _ _ => True

/-- An answer without headers and body needs no more than its status. -/
theorem isGood_empty {status : Int} (h : Status.isSuccess status = true) :
    (response status [] []).IsGood :=
  ⟨h, ⟨status, [], []⟩, rfl⟩

theorem isGood_standard : standard.IsGood := isGood_empty rfl

end Web.Answer

namespace Web.Status

/-- A status that tells of success asks for no other request. -/
theorem redirects_of_isSuccess {status : Int} (h : isSuccess status = true) : redirects status = false := by
  rw [isSuccess, Bool.and_eq_true, decide_eq_true_eq, decide_eq_true_eq] at h
  rw [redirects, List.contains_eq_mem, decide_eq_false_iff_not]
  simp only [List.mem_cons, List.not_mem_nil, or_false]
  omega

end Web.Status

theorem Web.Reply.elsewhere?_of_isSuccess {status : Int} (h : Web.Status.isSuccess status = true)
    (headers : List Web.Header) : elsewhere? status headers = none := by
  rw [elsewhere?, Web.Status.redirects_of_isSuccess h, if_neg Bool.false_ne_true]

namespace Publisher

variable {p : Publisher} {o o' : Outside} {e : SinkError} {content : Json}

/-! ## Answers -/

section Answers

variable {status : Int} {headers : List Web.Header} {body : List UInt8} {r : Web.Reply}

theorem isExternal_checkRedirect_iff {l : String} (h : p.checkRedirect l = .error e) :
    e.isExternal = true ↔ ∀ f, Web.Redirect.check p.target l ≠ .error (.host f) := by
  rw [checkRedirect] at h
  rcases hcheck : Web.Redirect.check p.target l with f | _
  · rw [hcheck] at h
    cases h
    cases f <;> simp [SinkError.isExternal, refusal]
  · rw [hcheck] at h
    cases h

theorem checkRedirect_eq_ok {l : String} (h : p.checkRedirect l = .ok ()) (f : Web.HostName.LabelFault) :
    Web.Redirect.check p.target l ≠ .error (.host f) := by
  intro hf
  rw [checkRedirect, hf] at h
  cases h

/-- **An answer that arrives**, by what becomes of the place that it names. -/
theorem noteOf_response (habsolute : p.target.isAbsolute = true) (address : String) :
    p.noteOf address (.response status headers body) =
      match (Web.Reply.elsewhere? status headers).forM p.checkRedirect with
      | .error e => .error e
      | .ok () => p.noteOfReply address status headers body := by
  simp only [noteOf, habsolute, Bool.not_true, Bool.false_eq_true, if_false, bind, Except.bind]
  rcases (Web.Reply.elsewhere? status headers).forM p.checkRedirect with e | ⟨⟨⟩⟩ <;> rfl

/-- Of an answer that tells of success, the text is noted. -/
theorem noteOf_of_isSuccess (habsolute : p.target.isAbsolute = true)
    (hread : Web.Reply.read status headers body = .ok r) (hsuccess : Web.Status.isSuccess status = true)
    (address : String) : p.noteOf address (.response status headers body) = (r.text.mapError .text).map fun t =>
      .debug p.channel s!"Server response: {Layout.int status} {t}" := by
  rw [noteOf_response habsolute, Web.Reply.elsewhere?_of_isSuccess hsuccess]
  rcases htext : r.text with f | t
  all_goals
    simp [Option.forM, pure, Except.pure, noteOfReply, hread, Except.mapError, bind, Except.bind, hsuccess, htext,
      Except.map]

/-- A reply that has failed is refused. -/
theorem exists_noteOfReply_eq_error (hfails : (Web.Answer.response status headers body).Fails) (address : String) :
    ∃ reason, p.noteOfReply address status headers body = .error (p.refusal reason) := by
  rw [noteOfReply]
  rcases hread : Web.Reply.read status headers body with f | r
  · exact ⟨f.message, rfl⟩
  · rcases hfails with hsuccess | ⟨f, hf⟩
    · exact ⟨_, by rw [hsuccess]; rfl⟩
    · rw [hread] at hf
      cases hf

/-- **A request that has failed** is refused, for a reason that lies outside
unless it lies in the host of the place to ask instead. -/
theorem exists_noteOf_eq_error (habsolute : p.target.isAbsolute = true) {a : Web.Answer} (hfails : a.Fails)
    (address : String) : ∃ e, p.noteOf address a = .error e ∧ (e.isExternal = true ↔ a.NamesShown p.target) := by
  rcases a with ⟨status, headers, body⟩ | message | ⟨kind, message⟩
  · obtain ⟨reason, hreply⟩ := p.exists_noteOfReply_eq_error hfails address
    rw [noteOf_response habsolute]
    simp only [Web.Answer.NamesShown]
    rcases Web.Reply.elsewhere? status headers with _ | l
    · exact ⟨_, hreply, by simp [refusal, SinkError.isExternal]⟩
    · simp only [Option.some.injEq, forall_eq', Option.forM]
      rcases hcheck : p.checkRedirect l with e | ⟨⟨⟩⟩
      · exact ⟨e, rfl, isExternal_checkRedirect_iff hcheck⟩
      · exact ⟨_, hreply, fun _ => checkRedirect_eq_ok hcheck, fun _ => rfl⟩
  · exact ⟨_, rfl, by simp [refusal, SinkError.isExternal, Web.Answer.NamesShown]⟩
  · cases hfails

end Answers

/-! ## One request -/

/-- Why a request is not even sent. -/
def hindrance? (p : Publisher) (content : Json) : Option SinkError :=
  match p.target.checkRequest with
  | .error e => some (p.refusal e.message)
  | .ok () =>
    if !content.isFinite then some .notFinite
    else if !p.isOpen then some .closed
    else p.unsupported?.map p.refusal

/-- What is outside when a request is about to be made. -/
def announced (p : Publisher) (content : Json) (o : Outside) : Outside :=
  { o with log := o.log ++ [.debug p.channel s!"Sending results to {p.address}: {content.toValue.literal}"] }

/-- **Posting** in one equation. -/
theorem on_post (p : Publisher) (content : Json) (o : Outside) :
    Work.on o (p.post content) =
      if content.toValue.isWritable then
        match p.hindrance? content with
        | some e => (.error e, p.announced content o)
        | none =>
          Work.on (p.announced content o) (do
            let r := p.request content
            Work.note [← Work.given (p.noteOf r.address (← Work.send r))])
      else (.error .tooManyDigits, o) := by
  by_cases hwritable : content.toValue.isWritable = true
  swap
  · simp only [post, hwritable, Bool.not_false, if_true, Bool.false_eq_true, if_false]
    rfl
  simp only [post, hwritable, Bool.not_true, Bool.false_eq_true, if_false, if_true]
  rw [hindrance?]
  rcases p.target.checkRequest with e | ⟨⟨⟩⟩
  · rfl
  · by_cases hfinite : content.isFinite = true
    · by_cases hopen : p.isOpen = true
      · rcases hunsupported : p.unsupported? with _ | reason
        · simp only [hfinite, hopen, Bool.not_true, Bool.false_eq_true, if_false, Option.map_none]
          rfl
        · simp only [hfinite, hopen, Bool.not_true, Bool.false_eq_true, if_false, Option.map_some]
          rfl
      · simp only [hfinite, hopen, Bool.not_true, Bool.false_eq_true, if_false, if_true, Bool.not_false]
        rfl
    · simp only [hfinite, Bool.not_false, if_true]
      rfl

/-- A request that was sent and got a good answer. -/
theorem post_eq_ok (h : Work.on o (p.post content) = (.ok (), o')) :
    o'.sent = o.sent ++ [p.request content] ∧ o'.answers = o.answers.tail ∧ o'.files = o.files := by
  by_cases hwritable : content.toValue.isWritable = true
  swap
  · rw [on_post, if_neg hwritable] at h
    cases h
  rw [on_post, if_pos hwritable] at h
  split at h
  · cases h
  · rw [Work.on_bind_ok (Work.on_send _ _)] at h
    obtain ⟨line, o₁, hgiven, h⟩ := Work.bind_eq_ok_iff.1 h
    obtain ⟨-, rfl⟩ := Work.given_eq_ok_iff.1 hgiven
    cases h
    exact ⟨rfl, rfl, rfl⟩

/-- Why a post fails: it has no text, it is not sent, or its answer is refused. -/
theorem post_eq_error (h : Work.on o (p.post content) = (.error e, o')) :
    (content.toValue.isWritable = false ∧ e = .tooManyDigits) ∨ p.hindrance? content = some e ∨
      p.noteOf (p.request content).address (o.answers.headD .standard) = .error e := by
  by_cases hwritable : content.toValue.isWritable = true
  swap
  · rw [on_post, if_neg hwritable] at h
    cases h
    exact .inl ⟨Bool.eq_false_iff.2 hwritable, rfl⟩
  rw [on_post, if_pos hwritable] at h
  split at h
  · next he =>
    cases h
    exact .inr (.inl he)
  · rw [Work.on_bind_ok (Work.on_send _ _)] at h
    rcases hnote : p.noteOf (p.request content).address ((p.announced content o).answers.headD .standard)
      with e' | line
    · rw [hnote, Work.on_bind_error (Work.on_given _ _)] at h
      cases h
      exact .inr (.inr hnote)
    · rw [hnote, Work.on_bind_ok (Work.on_given _ _)] at h
      cases h

/-- A good answer is refused only for a reason that does not lie outside. -/
theorem isExternal_of_noteOf {address : String} {a : Web.Answer} (ha : a.IsGood)
    (h : p.noteOf address a = .error e) : e.isExternal = false := by
  rcases a with ⟨status, headers, body⟩ | message | ⟨kind, message⟩
  rotate_left
  · cases ha
  · cases ha
  obtain ⟨hsuccess, r, hread⟩ := ha
  by_cases habsolute : p.target.isAbsolute = true
  · rw [noteOf_of_isSuccess habsolute hread hsuccess] at h
    rcases htext : r.text with f | t
    · rw [htext] at h
      cases h
      rfl
    · rw [htext] at h
      cases h
  · simp [noteOf, bind, Except.bind, habsolute] at h
    cases h
    rfl

/-- Of what hinders a request, only the address and the connection lie outside. -/
theorem isExternal_of_hindrance (hsupported : p.unsupported? = none) (hcheck : p.target.checkRequest = .ok ())
    (h : p.hindrance? content = some e) : e.isExternal = false := by
  simp only [hindrance?, hcheck, hsupported, Option.map_none] at h
  split at h
  · cases h
    rfl
  · split at h
    · cases h
      rfl
    · cases h

/-- **A request** that can be made and gets a good answer fails only for a
reason that does not lie outside. -/
theorem isExternal_of_post (hsupported : p.unsupported? = none) (hcheck : p.target.checkRequest = .ok ())
    (ha : (o.answers.headD .standard).IsGood) (h : Work.on o (p.post content) = (.error e, o')) :
    e.isExternal = false := by
  rcases post_eq_error h with ⟨-, rfl⟩ | hhindrance | hnote
  · rfl
  · exact isExternal_of_hindrance hsupported hcheck hhindrance
  · exact isExternal_of_noteOf ha hnote

/-! ## All requests -/

/-- **Publishing that succeeds** has sent a request for each content, in order. -/
theorem write_eq_ok {b : Bundle} (h : Work.on o (p.write b) = (.ok (), o')) :
    o'.sent = o.sent ++ (p.payloads b).map p.request ∧ o'.files = o.files := by
  rw [write] at h
  generalize p.payloads b = contents at h ⊢
  induction contents generalizing o with
  | nil =>
    cases h
    exact ⟨by simp, rfl⟩
  | cons content contents ih =>
    rw [Work.on_forM_cons] at h
    obtain ⟨⟨⟩, o₁, hfirst, hrest⟩ := Work.bind_eq_ok_iff.1 h
    obtain ⟨hsent, -, hfiles⟩ := post_eq_ok hfirst
    obtain ⟨hsent', hfiles'⟩ := ih hrest
    refine ⟨?_, hfiles'.trans hfiles⟩
    rw [hsent', hsent, List.map_cons, List.append_assoc, List.singleton_append]

/-- The answers to the next requests are good. -/
def AnswersGood (answers : List Web.Answer) (n : Nat) : Prop := ∀ a ∈ answers.take n, a.IsGood

theorem isGood_headD {answers : List Web.Answer} {n : Nat} (h : AnswersGood answers (n + 1)) :
    (answers.headD .standard).IsGood := by
  cases answers with
  | nil => exact Web.Answer.isGood_standard
  | cons a answers => exact h a (by simp)

theorem answersGood_tail {answers : List Web.Answer} {n : Nat} (h : AnswersGood answers (n + 1)) :
    AnswersGood answers.tail n := by
  intro a ha
  cases answers with
  | nil => simp at ha
  | cons b answers => exact h a (by simpa using .inr ha)

/-- **Publishing** for good answers fails only for a reason that does not lie outside. -/
theorem isExternal_of_write (hsupported : p.unsupported? = none) (hcheck : p.target.checkRequest = .ok ())
    {b : Bundle} (ha : AnswersGood o.answers (p.payloads b).length)
    (h : Work.on o (p.write b) = (.error e, o')) : e.isExternal = false := by
  rw [write] at h
  generalize p.payloads b = contents at ha h
  induction contents generalizing o with
  | nil => cases h
  | cons content contents ih =>
    rw [Work.on_forM_cons] at h
    rcases hfirst : Work.on o (p.post content) with ⟨e' | ⟨⟨⟩⟩, o₁⟩
    · rw [Work.on_bind_error hfirst] at h
      cases h
      exact isExternal_of_post hsupported hcheck (isGood_headD ha) hfirst
    · -- a request that succeeded has used up one answer, and the others are still good
      rw [Work.on_bind_ok hfirst] at h
      obtain ⟨-, hanswers, -⟩ := post_eq_ok hfirst
      exact ih (by rw [hanswers]; exact answersGood_tail ha) h

end Publisher
end ScriptGrader
