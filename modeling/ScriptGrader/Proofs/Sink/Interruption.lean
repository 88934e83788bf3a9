import ScriptGrader.Proofs.Sink.Delivery

/-!
# Where publishing ends

Posts are made one after the other and none of them twice, and the first one
that is not done ends the publishing (`on_forM_of_done`, `on_forM_of_isLeast`).
It is told as a failure exactly if the request has failed (`Fails`), and the
answer does not name a host that cannot be shown (`NamesShown`). An answer
may also tell of success and have a text that cannot be read: nothing has
failed then, and yet no other post is made (`not_forall_write_sends_all`).
-/

namespace ScriptGrader

/-! ## Scores -/

/-- A score that is an integer or a finite double. -/
def Score.IsNumber : Score → Prop
  | .flag _ | .whole _ => True
  | .binary x => x.isFinite = true ∧ x.IsDouble

theorem Score.IsNumber.isFinite {s : Score} (h : s.IsNumber) : s.isFinite = true := by
  cases s with
  | flag b => rfl
  | whole n => rfl
  | binary x => exact h.1

/-- A number that is not too long to be written can be sent. -/
theorem Score.IsNumber.isSendable {s : Score} (h : s.IsNumber) (hwritable : s.toValue.isWritable = true) :
    s.IsSendable := by
  cases s with
  | flag b => trivial
  | whole n => simpa [Score.IsSendable] using hwritable
  | binary x => exact h

/-- The scores of a record are numbers. -/
structure Record.HasNumbers (r : Record) : Prop where
  maxScore : r.maxScore.IsNumber
  earnedScore : r.earnedScore.IsNumber

/-! ## Answers -/

theorem Web.Answer.Fails.not_accepts {a : Web.Answer} (h : a.Fails) : ¬ a.Accepts := by
  rcases a with ⟨status, headers, body⟩ | message | ⟨kind, message⟩
  · rintro ⟨hsuccess, r, t, hread, -⟩
    rcases h with hfailed | ⟨f, hf⟩
    · rw [hsuccess] at hfailed
      cases hfailed
    · rw [hread] at hf
      cases hf
  · exact id
  · exact id

namespace Publisher

variable {p : Publisher} {b : Bundle} {o : Outside} {n : Nat} {content : Json} {contents : List Json}

/-- **What is accepted, and what is told of what is not.** -/
theorem noteOf_cases (habsolute : p.target.isAbsolute = true) (address : String) (a : Web.Answer) :
    (a.Accepts ∧ ∃ line, p.noteOf address a = .ok line) ∨
      ¬ a.Accepts ∧ ∃ e, p.noteOf address a = .error e ∧ (e.isExternal = true ↔ a.Fails ∧ a.NamesShown p.target) := by
  by_cases hfails : a.Fails
  · obtain ⟨e, he, hexternal⟩ := exists_noteOf_eq_error habsolute hfails address
    exact .inr ⟨hfails.not_accepts, e, he, by rw [hexternal, and_iff_right hfails]⟩
  rcases a with ⟨status, headers, body⟩ | message | ⟨kind, message⟩
  · -- the answer can be read and tells of success, so its text decides
    simp only [Web.Answer.Fails, not_or, Bool.not_eq_false, not_exists] at hfails
    obtain ⟨hsuccess, hread⟩ := hfails
    rcases hreply : Web.Reply.read status headers body with f | r
    · exact absurd hreply (hread f)
    have hnote := noteOf_of_isSuccess habsolute hreply hsuccess address
    rcases htext : r.text with f | t
    · refine .inr ⟨by simp [Web.Answer.Accepts, hreply, htext], .text f, by rw [hnote, htext]; rfl, ?_⟩
      simp [SinkError.isExternal, Web.Answer.Fails, hreply, hsuccess]
    · exact .inl ⟨⟨hsuccess, r, t, hreply, htext⟩, _, by rw [hnote, htext]; rfl⟩
  · exact absurd trivial hfails
  · exact .inr ⟨id, .raised kind message, rfl, by simp [SinkError.isExternal, Web.Answer.Fails]⟩

/-! ## One post -/

theorem on_post_of_not_isWritable (hwritable : content.toValue.isWritable = false) (o : Outside) :
    Work.on o (p.post content) = (.error .tooManyDigits, o) := by
  rw [on_post, hwritable, if_neg Bool.false_ne_true]

/-! ## All posts -/

/-- Behind posts that are done, publishing goes on with the next one. -/
theorem on_forM_drop_of_done (hp : p.IsConnected) (hfinite : ∀ c ∈ contents, c.isFinite = true)
    (hlt : n < contents.length) (hbefore : ∀ i < n, IsDone contents o i) :
    ∃ o', Work.on o (contents.forM p.post) =
        Work.on o' (p.post contents[n] >>= fun _ => (contents.drop (n + 1)).forM p.post) ∧
      o'.sent = o.sent ++ (contents.take n).map p.request ∧ o'.answerTo 0 = o.answerTo n := by
  have hlength : (contents.take n).length = n := List.length_take_of_le hlt.le
  have hdone : ∀ i < (contents.take n).length, IsDone (contents.take n) o i := by
    intro i hi
    obtain ⟨⟨c, hc, hwritable⟩, haccepts⟩ := hbefore i (by omega)
    exact ⟨⟨c, by rw [List.getElem?_take_of_lt (by omega), hc], hwritable⟩, haccepts⟩
  obtain ⟨o', hfront, hsent, hanswers⟩ :=
    on_forM_of_done hp (fun c hc => hfinite c (List.mem_of_mem_take hc)) hdone
  refine ⟨o', ?_, hsent, ?_⟩
  · conv_lhs => rw [eq_take_append_cons_drop (List.getElem?_eq_getElem hlt)]
    rw [Work.on_forM_append, Work.on_bind_ok hfront, Work.on_forM_cons]
  · rw [Outside.answerTo, Outside.answerTo, hanswers, hlength]
    simp

/-- **The first post that is not done** ends the publishing. Without a text it
is not even sent; otherwise it is the last one that is sent, and what is told
of it is a failure exactly if the request has failed and names no host that
cannot be shown. -/
theorem on_forM_of_isLeast (hp : p.IsConnected) (hfinite : ∀ c ∈ contents, c.isFinite = true)
    (hn : IsLeast {n | n < contents.length ∧ ¬ IsDone contents o n} n) :
    ∃ e o', Work.on o (contents.forM p.post) = (.error e, o') ∧
      (HasText contents n → o'.sent = o.sent ++ (contents.take (n + 1)).map p.request ∧
        (e.isExternal = true ↔ (o.answerTo n).Fails ∧ (o.answerTo n).NamesShown p.target)) ∧
      (¬ HasText contents n → o'.sent = o.sent ++ (contents.take n).map p.request ∧ e.isExternal = false) := by
  obtain ⟨⟨hlt, hnot⟩, hleast⟩ := hn
  have hbefore : ∀ i < n, IsDone contents o i := by
    intro i hi
    by_contra hnot
    have hle := hleast ⟨hi.trans hlt, hnot⟩
    omega
  have hc := List.getElem?_eq_getElem hlt
  obtain ⟨o₁, hall, hsent, hanswer⟩ := on_forM_drop_of_done hp hfinite hlt hbefore
  rw [hall]
  by_cases hwritable : contents[n].toValue.isWritable = true
  · have htext : HasText contents n := ⟨_, hc, hwritable⟩
    obtain ⟨o', hpost, hsent', -⟩ := on_post_of_connected hp hwritable (hfinite _ (List.getElem_mem hlt)) o₁
    rcases noteOf_cases hp.absolute p.target.text (o.answerTo n) with ⟨haccepts, -⟩ | ⟨-, e, he, hexternal⟩
    · exact absurd ⟨htext, haccepts⟩ hnot
    · rw [hanswer, he] at hpost
      refine ⟨e, o', Work.on_bind_error hpost _, fun _ => ⟨?_, hexternal⟩, fun hno => absurd htext hno⟩
      rw [hsent', hsent, List.append_assoc, List.take_add_one, hc, List.map_append]
      rfl
  · have hno : ¬ HasText contents n := by
      rintro ⟨c, hc', hwritable'⟩
      rw [hc] at hc'
      cases hc'
      exact absurd hwritable' hwritable
    have hpost := on_post_of_not_isWritable (p := p) (Bool.eq_false_iff.2 hwritable) o₁
    exact ⟨_, o₁, Work.on_bind_error hpost _, fun htext => absurd htext hno, fun _ => ⟨hsent, rfl⟩⟩

/-! ## Bundles -/

/-- What is posted for a bundle: the results of each record, or of all of them at once. -/
def posts (p : Publisher) (b : Bundle) : List Web.Request :=
  if p.perRecord then b.items.map (p.single b) else [p.batch b]

theorem posts_eq (p : Publisher) (b : Bundle) : p.posts b = (p.payloads b).map p.request := by
  rw [posts, payloads]
  split
  · rw [List.map_map]
    rfl
  · rfl

theorem length_posts (p : Publisher) (b : Bundle) : (p.posts b).length = if p.perRecord then b.size else 1 := by
  rw [posts]
  split
  · exact List.length_map _
  · rfl

/-- A record whose results have a text has scores that can be sent. -/
theorem isSendable_of_isWritable {x : String × Record} {metadata : String} (hx : x.2.HasNumbers)
    (h : (payload [x] metadata).toValue.isWritable = true) : x.2.IsSendable := by
  obtain ⟨hmax, hearned⟩ : x.2.maxScore.toValue.isWritable = true ∧ x.2.earnedScore.toValue.isWritable = true := by
    simpa [payload, Record.toWire, Json.toValue, Json.toEntries, Value.isWritable, Value.entriesAreWritable,
      Score.toValue_toJson] using h
  exact ⟨hx.maxScore.isSendable hmax, hx.earnedScore.isSendable hearned⟩

/-- **No post is made twice**: as far as they have a text, all posts are different. -/
theorem nodup_take_posts (hb : ∀ r ∈ b.records, r.HasNumbers) (htext : ∀ i < n, HasText (p.payloads b) i) :
    ((p.posts b).take n).Nodup := by
  by_cases hrecord : p.perRecord = true
  swap
  · rw [posts, if_neg hrecord]
    exact (List.nodup_singleton _).sublist (List.take_sublist _ _)
  rw [posts, if_pos hrecord, ← List.map_take]
  have hreport : ∀ x ∈ b.items.take n, (p.single b x).report? = some ([(x.1, x.2.toWire)], b.metadata) := by
    intro x hx
    obtain ⟨i, hi, rfl⟩ := List.mem_take_iff_getElem.1 hx
    obtain ⟨c, hc, hwritable⟩ := htext i (by omega)
    rw [payloads, if_pos hrecord, List.getElem?_map, List.getElem?_eq_getElem (by omega)] at hc
    cases hc
    refine report?_request p (by simp) (fun y hy => ?_) b.metadata
    rw [List.mem_singleton.1 hy]
    exact isSendable_of_isWritable (hb _ (List.mem_map_of_mem (List.getElem_mem _))) hwritable
  have hitems : (b.items.take n).Nodup := b.nodup.of_map.sublist (List.take_sublist n b.items)
  refine hitems.map_on fun x hx y hy hxy => ?_
  -- equal posts are read under the same key, and no key stands twice
  have hsame := hreport x hx
  rw [hxy, hreport y hy] at hsame
  simp only [Option.some.injEq, Prod.mk.injEq, List.cons.injEq] at hsame
  exact List.inj_on_of_nodup_map b.nodup (List.mem_of_mem_take hx) (List.mem_of_mem_take hy) hsame.1.1.1.symm

theorem isFinite_of_hasNumbers (hb : ∀ r ∈ b.records, r.HasNumbers) : ∀ c ∈ p.payloads b, c.isFinite = true :=
  fun _ hc => isFinite_of_mem_payloads (fun r hr => (hb r hr).maxScore.isFinite) hc

theorem write_of_done (hp : p.IsConnected) (hb : ∀ r ∈ b.records, r.HasNumbers)
    (hdone : ∀ n < (p.posts b).length, IsDone (p.payloads b) o n) :
    ∃ o', Work.on o (p.write b) = (.ok (), o') ∧ o'.sent = o.sent ++ p.posts b := by
  rw [posts_eq] at hdone ⊢
  rw [List.length_map] at hdone
  obtain ⟨o', hwrite, hsent, -⟩ := on_forM_of_done hp (isFinite_of_hasNumbers hb) hdone
  exact ⟨o', hwrite, hsent⟩

theorem write_of_isLeast (hp : p.IsConnected) (hb : ∀ r ∈ b.records, r.HasNumbers)
    (hn : IsLeast {n | n < (p.posts b).length ∧ ¬ IsDone (p.payloads b) o n} n) :
    ∃ e o', Work.on o (p.write b) = (.error e, o') ∧
      (HasText (p.payloads b) n → o'.sent = o.sent ++ (p.posts b).take (n + 1) ∧
        (e.isExternal = true ↔ (o.answerTo n).Fails ∧ (o.answerTo n).NamesShown p.target)) ∧
      (¬ HasText (p.payloads b) n → o'.sent = o.sent ++ (p.posts b).take n ∧ e.isExternal = false) := by
  rw [posts_eq, List.length_map] at hn
  rw [posts_eq, ← List.map_take, ← List.map_take]
  exact on_forM_of_isLeast hp (isFinite_of_hasNumbers hb) hn

/-- Posts are all done, or there is a first one that is not. -/
theorem done_or_isLeast (contents : List Json) (o : Outside) (m : Nat) :
    (∀ n < m, IsDone contents o n) ∨ ∃ n, IsLeast {n | n < m ∧ ¬ IsDone contents o n} n := by
  classical
  by_cases h : ∃ n, n < m ∧ ¬ IsDone contents o n
  · exact .inr ⟨_, Nat.isLeast_find h⟩
  · push Not at h
    exact .inl h

/-- **Publishing ends at the first post that is not done.** -/
structure EndsAtFirstFailure (p : Publisher) (b : Bundle) (o : Outside) : Prop where
  /-- There is a post for each record, or one for all of them. -/
  count : (p.posts b).length = if p.perRecord then b.size else 1
  /-- No post that has a text is made twice. -/
  distinct : ∀ n, (∀ i < n, HasText (p.payloads b) i) → ((p.posts b).take n).Nodup
  /-- If all posts are done, all were sent and nothing is told. -/
  done : (∀ n < (p.posts b).length, IsDone (p.payloads b) o n) →
    ∃ o', Work.on o (p.write b) = (.ok (), o') ∧ o'.sent = o.sent ++ p.posts b
  /-- Otherwise those in front of the first one that is not done were sent, and
  so was that one unless it has no text. A failure is told exactly if it was
  sent and has failed, unless the host that its answer names cannot be shown. -/
  first : ∀ n, IsLeast {n | n < (p.posts b).length ∧ ¬ IsDone (p.payloads b) o n} n →
    ∃ e o', Work.on o (p.write b) = (.error e, o') ∧
      (HasText (p.payloads b) n → o'.sent = o.sent ++ (p.posts b).take (n + 1) ∧
        (e.isExternal = true ↔ (o.answerTo n).Fails ∧ (o.answerTo n).NamesShown p.target)) ∧
      (¬ HasText (p.payloads b) n → o'.sent = o.sent ++ (p.posts b).take n ∧ e.isExternal = false)
  /-- So where each post has a text, and fails or is accepted, and all hosts
  that are named can be shown, a failure is told exactly if one of them fails. -/
  told : (∀ n < (p.posts b).length, HasText (p.payloads b) n ∧ (o.answerTo n).NamesShown p.target ∧
      ((o.answerTo n).Fails ∨ (o.answerTo n).Accepts)) →
    ((∃ e o', Work.on o (p.write b) = (.error e, o') ∧ e.isExternal = true) ↔
      ∃ n < (p.posts b).length, (o.answerTo n).Fails)

/-- A failure is told exactly if there is one. -/
theorem told_iff_fails (hp : p.IsConnected) (hb : ∀ r ∈ b.records, r.HasNumbers)
    (hheard : ∀ n < (p.posts b).length, HasText (p.payloads b) n ∧ (o.answerTo n).NamesShown p.target ∧
      ((o.answerTo n).Fails ∨ (o.answerTo n).Accepts)) :
    (∃ e o', Work.on o (p.write b) = (.error e, o') ∧ e.isExternal = true) ↔
      ∃ n < (p.posts b).length, (o.answerTo n).Fails := by
  constructor
  · rintro ⟨e, o', hwrite, hexternal⟩
    rcases done_or_isLeast (p.payloads b) o (p.posts b).length with hdone | ⟨n, hn⟩
    · obtain ⟨o₁, hwrite', -⟩ := write_of_done hp hb hdone
      rw [hwrite] at hwrite'
      cases hwrite'
    · obtain ⟨e', o₁, hwrite', hsent, -⟩ := write_of_isLeast hp hb hn
      rw [hwrite] at hwrite'
      cases hwrite'
      -- the post at which it ended has a text, so it was sent and has failed
      exact ⟨n, hn.1.1, ((hsent (hheard n hn.1.1).1).2.1 hexternal).1⟩
  · rintro ⟨m, hm, hfails⟩
    rcases done_or_isLeast (p.payloads b) o (p.posts b).length with hdone | ⟨n, hn⟩
    · exact absurd (hdone m hm).2 hfails.not_accepts
    · -- the first post that is not done need not be the m-th, but it has failed as well
      obtain ⟨e, o', hwrite, hsent, -⟩ := write_of_isLeast hp hb hn
      obtain ⟨htext, hshown, hfails' | haccepts⟩ := hheard n hn.1.1
      · exact ⟨e, o', hwrite, (hsent htext).2.2 ⟨hfails', hshown⟩⟩
      · exact absurd ⟨htext, haccepts⟩ hn.1.2

/-- A connection that does not know the scheme of the address refuses the first post. -/
theorem write_of_unsupported (hopen : p.isOpen = true) (hunsupported : p.unsupported? ≠ none)
    (hb : ∀ r ∈ b.records, r.HasNumbers) (htext : HasText (p.payloads b) 0) :
    ∃ e o', Work.on o (p.write b) = (.error e, o') ∧ e.isExternal = true ∧ o'.sent = o.sent := by
  obtain ⟨c, hc, hwritable⟩ := htext
  have hfinite := isFinite_of_hasNumbers (p := p) hb c (List.mem_of_getElem? hc)
  -- whether the address is refused before the scheme is or not, there is a hindrance
  obtain ⟨e, he⟩ : ∃ e, p.hindrance? c = some e := by
    rw [← Option.isSome_iff_exists, hindrance?]
    split
    · rfl
    · simpa [hfinite, hopen, Option.isSome_iff_ne_none] using hunsupported
  have hpost : Work.on o (p.post c) = (.error e, p.announced c o) := by rw [on_post, if_pos hwritable, he]
  refine ⟨e, p.announced c o, ?_, isExternal_hindrance hopen hfinite he, rfl⟩
  rw [write, eq_take_append_cons_drop hc, List.take_zero, List.nil_append, Work.on_forM_cons, Work.on_bind_error hpost]

/-- **Where publishing ends.** A bundle of integers and finite doubles is
posted in order, record by record or at once, up to the first post that is
not done. A connection that takes no post for its address tells of a failure
at the first one. -/
theorem write_ends_at_first_failure (p : Publisher) (hb : ∀ r ∈ b.records, r.HasNumbers) (o : Outside) :
    (p.IsConnected → p.EndsAtFirstFailure b o) ∧
    (p.isOpen = true → p.unsupported? ≠ none → HasText (p.payloads b) 0 →
      ∃ e o', Work.on o (p.write b) = (.error e, o') ∧ e.isExternal = true ∧ o'.sent = o.sent) :=
  ⟨fun hp => ⟨length_posts p b, fun _ => nodup_take_posts hb, write_of_done hp hb, fun _ => write_of_isLeast hp hb,
      told_iff_fails hp hb⟩,
    fun hopen hunsupported htext => write_of_unsupported hopen hunsupported hb htext⟩

theorem hasNumbers_pairBundle : ∀ r ∈ pairBundle.records, r.HasNumbers := by
  have hnumbers : ∀ r ∈ pairBundle.records, r.maxScore.IsNumber ∧ r.earnedScore.IsNumber := by
    simp [pairBundle, Bundle.records, Bundle.failedRecord, Record.earnedScore, Earned.score, Score.IsNumber]
  exact fun r hr => ⟨(hnumbers r hr).1, (hnumbers r hr).2⟩

/-- **A server that refuses the first of two posts** is sent no other one. -/
theorem write_ends_at_refused_post : (∀ r ∈ pairBundle.records, r.HasNumbers) ∧
    ∃ e o', Work.on (answeredBy (.response 500 [] [])) (samplePublisher.write pairBundle) = (.error e, o') ∧
      e.isExternal = true ∧ o'.sent = (samplePublisher.posts pairBundle).take 1 := by
  let o := answeredBy (.response 500 [] [])
  have hfails : (o.answerTo 0).Fails := .inl rfl
  have hleast : IsLeast {n | n < (samplePublisher.posts pairBundle).length ∧
      ¬ IsDone (samplePublisher.payloads pairBundle) o n} 0 :=
    ⟨⟨by decide, fun hdone => hfails.not_accepts hdone.2⟩, fun _ _ => Nat.zero_le _⟩
  have hends := (write_ends_at_first_failure samplePublisher hasNumbers_pairBundle o).1 isConnected_samplePublisher
  obtain ⟨e, o', hwrite, hsent, -⟩ := hends.first 0 hleast
  obtain ⟨hsent, hexternal⟩ := hsent ⟨_, rfl, by decide +kernel⟩
  exact ⟨hasNumbers_pairBundle, e, o', hwrite, hexternal.2 ⟨hfails, fun l hl => by cases hl⟩, hsent⟩

theorem plainName_utf16 : Text.plainName "utf-16" = "utf_16" := by
  have hlower : ("utf-16".toLower.map fun c => if c.isAlphanum || c = '.' then c else ' ') = "utf 16" := by
    decide +kernel
  have hsplit : "utf 16".splitOn = ["utf", "16"] := by
    rw [String.splitOn, if_neg (by decide)]
    repeat rw [String.splitOnAux, if_neg (by decide), if_neg (by decide)]
    -- here is the blank
    rw [String.splitOnAux, if_neg (by decide), if_pos (by rfl)]
    dsimp only
    rw [if_pos (by rfl)]
    repeat rw [String.splitOnAux, if_neg (by decide), if_neg (by decide)]
    rw [String.splitOnAux, if_pos (by rfl)]
    rfl
  rw [Text.plainName, hlower, hsplit]
  rfl

/-- A text in UTF-16 is not read without the mark that tells the order of its bytes. -/
theorem exists_text_eq_error {r : Web.Reply} (hbody : r.body = [111, 107])
    (htype : r.headers.value? "content-type" = some "text/plain; charset=utf-16") : ∃ e, r.text = .error e := by
  have hname : Web.ContentType.charset? "text/plain; charset=utf-16" = .ok (some "utf-16") := by
    have hsome : (Web.ContentType.charset? "text/plain; charset=utf-16").toOption = some (some "utf-16") := by
      rfl
    rcases hname : Web.ContentType.charset? "text/plain; charset=utf-16" with e | name
    · rw [hname] at hsome
      cases hsome
    · rw [hname] at hsome
      cases hsome
      rfl
  have hcharset : ((Text.Charset.ofName? "utf-16").any fun c => (c.decode [111, 107]).toOption = none) = true := by
    rw [Text.Charset.ofName?, plainName_utf16]
    decide +kernel
  obtain ⟨c, hc, hdecode⟩ := (Option.any_eq_true _ _).1 hcharset
  have hnamed : Web.ContentType.named? "utf-16" = .ok (some c) := by
    rw [Web.ContentType.named?, if_neg (by decide), hc]
  rcases hbytes : c.decode [111, 107] with e | t
  · refine ⟨.charset e, ?_⟩
    simp [Web.Reply.text, hbody, htype, hname, hnamed, hbytes, Except.mapError, bind, Except.bind]
  · simp [hbytes, Except.toOption] at hdecode

/-- An answer in UTF-16 without the mark. -/
def unmarkedAnswer : Web.Answer :=
  .response 200 [.ofText "content-type" "text/plain; charset=utf-16"] [111, 107]

/-- What is read of that answer. -/
theorem exists_read_unmarked :
    ∃ r, Web.Reply.read 200 [.ofText "content-type" "text/plain; charset=utf-16"] [111, 107] = .ok r ∧
      r.body = [111, 107] ∧ r.headers.value? "content-type" = some "text/plain; charset=utf-16" := by
  have htest : (Web.Reply.read 200 [.ofText "content-type" "text/plain; charset=utf-16"] [111, 107]).toOption.any (fun r =>
      r.body = [111, 107] ∧ r.headers.value? "content-type" = some "text/plain; charset=utf-16") = true := by
    decide +kernel
  rcases hread : Web.Reply.read 200 [.ofText "content-type" "text/plain; charset=utf-16"] [111, 107] with e | r
  · rw [hread] at htest
    cases htest
  · rw [hread] at htest
    exact ⟨r, rfl, by simpa [Except.toOption] using htest⟩

theorem isGood_unmarkedAnswer : unmarkedAnswer.IsGood := by
  obtain ⟨r, hread, -⟩ := exists_read_unmarked
  exact ⟨rfl, r, hread⟩

theorem not_accepts_unmarkedAnswer : ¬ unmarkedAnswer.Accepts := by
  rintro ⟨-, r, t, hread, htext⟩
  obtain ⟨r', hread', hbody, htype⟩ := exists_read_unmarked
  rw [hread'] at hread
  cases hread
  obtain ⟨e, he⟩ := exists_text_eq_error hbody htype
  rw [he] at htext
  cases htext

/-- **A status of success is not enough**: where the text of the answer to the
first of two posts cannot be read, the other post is not made, though the
first one has not failed. -/
theorem not_forall_write_sends_all :
    ¬ ∀ (b : Bundle) (o : Outside), (∀ r ∈ b.records, r.IsSendable) → (∀ a ∈ o.answers, a.IsGood) →
      ∃ o', Work.on o (samplePublisher.write b) = (.ok (), o') ∧ o'.sent = o.sent ++ samplePublisher.posts b := by
  intro h
  let o := answeredBy unmarkedAnswer
  have hwritable : ∀ r ∈ pairBundle.records, r.maxScore.toValue.isWritable = true ∧
      r.earnedScore.toValue.isWritable = true := by
    decide +kernel
  have hsendable : ∀ r ∈ pairBundle.records, r.IsSendable := fun r hr =>
    ⟨(hasNumbers_pairBundle r hr).maxScore.isSendable (hwritable r hr).1,
      (hasNumbers_pairBundle r hr).earnedScore.isSendable (hwritable r hr).2⟩
  obtain ⟨o', hwrite, -⟩ := h pairBundle o hsendable fun a ha => by
    rw [List.mem_singleton.1 ha]
    exact isGood_unmarkedAnswer
  have hleast : IsLeast {n | n < (samplePublisher.posts pairBundle).length ∧
      ¬ IsDone (samplePublisher.payloads pairBundle) o n} 0 :=
    ⟨⟨by decide, fun hdone => not_accepts_unmarkedAnswer hdone.2⟩, fun _ _ => Nat.zero_le _⟩
  obtain ⟨e, o₁, hends, -⟩ := write_of_isLeast isConnected_samplePublisher hasNumbers_pairBundle hleast
  rw [hwrite] at hends
  cases hends

end Publisher
end ScriptGrader
