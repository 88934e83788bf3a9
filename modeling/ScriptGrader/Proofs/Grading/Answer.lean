import ScriptGrader.Proofs.Grading.Verdict
import ScriptGrader.Proofs.Results

/-!
# What a record says about its check

A check worth a positive score is recorded in one of three ways. It says
that it is satisfied and has nothing to add, and gets the full score. It
says that it is not, and why, and gets nothing. Everything else is
misbehaviour, gets nothing either, and is reported as an error of the
grader. `record_cases` is this classification. It can be read backwards
from the record except at one place: a check may fail with the grader's own
report of a broken check as its message, and then only the log tells that
it was not taken for broken. An error that cannot be told leaves neither a
record nor a line.
-/

namespace ScriptGrader

namespace Evaluation

/-- The check answered with an outcome of this verdict, whose messages are
texts that join to this one. -/
inductive Says : Evaluation → Bool → String → Prop
  | outcome (o : Outcome) : Says (.outcome o) o.passed.isTrue (Grading.joined o.feedback)
  | unchecked (passed : Value) (messages : List String) :
    Says (.unchecked passed (messages.map .text)) passed.isTrue (Grading.joined messages)

end Evaluation

/-- Greater than zero. -/
def Score.IsPositive : Score → Prop
  | flag b => b = true
  | whole n => 0 < n
  | binary (.finite v) => 0 < v
  | binary (.infinity negative) => negative = false
  | binary _ => False

theorem Score.ne_nan_of_isPositive {s : Score} (h : s.IsPositive) : s ≠ .binary .nan := by
  rintro rfl
  exact h

/-- The full score, and nothing to say. -/
structure Record.Passes (r : Record) (max : Score) : Prop where
  status : r.status = .pass
  earned : r.earnedScore = max
  feedback : r.feedback = ""

/-- No score, and a text that says why. -/
structure Record.FailsWith (r : Record) (text : String) : Prop where
  status : r.status = .fail
  earned : r.earnedScore = .whole 0
  feedback : r.feedback = text

/-- The errors among the lines of a log. -/
def LogLine.errors (log : List LogLine) : List LogLine := log.filter fun l => l.level = .error

namespace Grading

variable {e : Entry} {p : Program} {ev : Evaluation} {verdict : Bool} {text : String}

/-! ## What a check says -/

/-- Messages are texts when they are read as such. -/
theorem texts?_eq_ok_iff {place : Nat} {messages : List Value} {ts : List String} :
    texts? place messages = .ok ts ↔ messages = ts.map .text := by
  induction messages generalizing place ts with
  | nil => simp [texts?, eq_comm]
  | cons v vs ih =>
    cases v with
    | text s =>
      cases ts with
      | nil => cases h : texts? (place + 1) vs <;> simp [texts?, h, Except.map]
      | cons t ts =>
        rw [List.map_cons, List.cons.injEq, ← @ih (place + 1) ts]
        cases h : texts? (place + 1) vs <;> simp [texts?, h, Except.map]
    | _ => cases ts <;> simp [texts?]

theorem says_unchecked_iff {passed : Value} {messages : List Value} :
    (Evaluation.unchecked passed messages).Says verdict text ↔
      ∃ ts, texts? 0 messages = .ok ts ∧ passed.isTrue = verdict ∧ joined ts = text := by
  constructor
  · rintro ⟨⟩
    exact ⟨_, texts?_eq_ok_iff.2 rfl, rfl, rfl⟩
  · rintro ⟨ts, hts, rfl, rfl⟩
    obtain rfl := texts?_eq_ok_iff.1 hts
    exact .unchecked passed ts

/-- An outcome says one thing. -/
theorem says_unique {verdict' : Bool} {text' : String} (h : ev.Says verdict text)
    (h' : ev.Says verdict' text') : verdict = verdict' ∧ text = text' := by
  cases h with
  | outcome o =>
    cases h'
    exact ⟨rfl, rfl⟩
  | unchecked passed messages =>
    obtain ⟨ts, hts, hverdict, htext⟩ := says_unchecked_iff.1 h'
    rw [texts?_eq_ok_iff.2 rfl] at hts
    cases hts
    exact ⟨hverdict, htext⟩

/-- **A check that behaves** says something that fits together, and nothing
else does. -/
theorem not_misbehaves_iff :
    ¬ ev.Misbehaves ↔ ∃ verdict text, ev.Says verdict text ∧ verdict = decide (text = "") := by
  constructor
  · intro h
    cases ev with
    | raised f => exact absurd (.raised f) h
    | other v => exact absurd (.other v) h
    | outcome o => exact ⟨_, _, .outcome o, outcome_fits o⟩
    | unchecked passed messages =>
      cases hts : texts? 0 messages with
      | error f => exact absurd (.notTexts hts) h
      | ok ts =>
        refine ⟨_, _, says_unchecked_iff.2 ⟨ts, hts, rfl, rfl⟩, ?_⟩
        by_contra hne
        exact h (.contradiction hts hne)
  · rintro ⟨verdict, text, hsaid, hfits⟩ hbad
    cases hbad with
    | raised f => cases hsaid
    | other v => cases hsaid
    | notTexts hts =>
      obtain ⟨ts, hok, -, -⟩ := says_unchecked_iff.1 hsaid
      rw [hts] at hok
      cases hok
    | contradiction hts hne =>
      obtain ⟨ts, hok, hverdict, htext⟩ := says_unchecked_iff.1 hsaid
      rw [hts] at hok
      cases hok
      exact hne (by rw [hverdict, htext, hfits])

/-- **Misbehaviour is everything else**: a check misbehaves when it neither
says that it is satisfied without a message nor that it is not with one. -/
theorem misbehaves_iff :
    ev.Misbehaves ↔ ¬ ev.Says true "" ∧ ¬ ∃ text, ev.Says false text ∧ text ≠ "" := by
  rw [← not_iff_not, not_misbehaves_iff, not_and_or, not_not, not_not]
  constructor
  · rintro ⟨verdict, text, hsaid, rfl⟩
    by_cases h : text = ""
    · subst h
      exact .inl hsaid
    · exact .inr ⟨text, by simpa [h] using hsaid, h⟩
  · rintro (h | ⟨text, hsaid, hne⟩)
    · exact ⟨true, "", h, by simp⟩
    · exact ⟨false, text, hsaid, by simp [hne]⟩

/-! ## What its record says -/

/-- What a check says is what its record is made of. -/
theorem judge_of_saying (h : ev.Says verdict text) :
    judge e ev = judge.close (answered e verdict text) := by
  cases h with
  | outcome o => rfl
  | unchecked passed messages => exact judge_unchecked_of_ok (texts?_eq_ok_iff.2 rfl)

/-- The record of a check that says something that fits together. -/
theorem record_of_saying (hvalue : e.maxScore ≠ .binary .nan)
    (h : (e.evaluate p).result.Says verdict text) (hfits : verdict = decide (text = "")) :
    judge e (e.evaluate p).result = .ok (record e p) ∧
      (record e p).earned = (if verdict then .full else .points (.whole 0)) ∧
      (record e p).status = (if verdict then .pass else .fail) ∧
      (record e p).feedback = text := by
  obtain ⟨r, hr⟩ := exists_answered_eq_ok_iff.2 ⟨hfits, fun _ => hvalue⟩
  have hjudge : judge e (e.evaluate p).result = .ok r := by
    rw [judge_of_saying h, close_eq_ok_iff]
    exact hr
  obtain ⟨-, -, -, hearned, hstatus, -, hfeedback⟩ := Record.eq_of_make?_eq_ok hr
  rw [record_eq_of_judge hjudge]
  exact ⟨hjudge, hearned, hstatus, hfeedback⟩

theorem failsWith_brokenRecord (e : Entry) : (brokenRecord e).FailsWith (brokenFeedback e.name) :=
  ⟨rfl, rfl, rfl⟩

/-- **The three kinds of records** of a check whose score has a value. -/
theorem record_cases (hvalue : e.maxScore ≠ .binary .nan) :
    ((e.evaluate p).result.Says true "" ∧ judge e (e.evaluate p).result = .ok (record e p) ∧
        (record e p).Passes e.maxScore) ∨
      (∃ text, (e.evaluate p).result.Says false text ∧ text ≠ "" ∧
        judge e (e.evaluate p).result = .ok (record e p) ∧ (record e p).FailsWith text) ∨
      ((e.evaluate p).result.Misbehaves ∧ (∃ f, judge e (e.evaluate p).result = .error f) ∧
        (record e p).FailsWith (brokenFeedback e.name)) := by
  by_cases hbad : (e.evaluate p).result.Misbehaves
  · obtain ⟨f, hf⟩ := exists_judge_eq_error_iff.2 (.inl hbad)
    refine .inr (.inr ⟨hbad, ⟨f, hf⟩, ?_⟩)
    rw [record_eq_broken hf]
    exact failsWith_brokenRecord e
  · obtain ⟨verdict, text, hsaid, hfits⟩ := not_misbehaves_iff.1 hbad
    obtain ⟨hjudge, hearned, hstatus, hfeedback⟩ := record_of_saying hvalue hsaid hfits
    by_cases h : text = ""
    · subst h
      obtain rfl : verdict = true := by simpa using hfits
      refine .inl ⟨hsaid, hjudge, hstatus, ?_, hfeedback⟩
      rw [Record.earnedScore, hearned]
      exact (carries_record e p).maxScore
    · obtain rfl : verdict = false := by simpa [h] using hfits
      refine .inr (.inl ⟨text, hsaid, h, hjudge, hstatus, ?_, hfeedback⟩)
      rw [Record.earnedScore, hearned]
      rfl

/-! ## What is logged -/

@[simp]
theorem errors_append (log log' : List LogLine) :
    LogLine.errors (log ++ log') = LogLine.errors log ++ LogLine.errors log' :=
  List.filter_append ..

theorem errors_debug (c : Channel) (notes : List String) :
    LogLine.errors (notes.map (.debug c)) = [] := by
  simp [LogLine.errors, LogLine.debug]

theorem errors_resultLine (r : Record) : LogLine.errors [resultLine r] = [] := by
  unfold resultLine
  split <;> rfl

/-- Grading an entry logs no error before it is known what the check came to. -/
theorem errors_entryLog :
    LogLine.errors (entryLog e p) = LogLine.errors (verdictLog e (judge e (e.evaluate p).result)) := by
  have hhead (m : String) (log : List LogLine) :
      LogLine.errors (.debug .engine m :: log) = LogLine.errors log := rfl
  simp only [entryLog, List.cons_append, hhead, errors_append, errors_debug, List.nil_append]

/-- A record of the check's own is no error. -/
theorem errors_of_judge_ok {r : Record} (h : judge e (e.evaluate p).result = .ok r) :
    LogLine.errors (entryLog e p) = [] := by
  rw [errors_entryLog, h, verdictLog, errors_resultLine]

/-- A broken check is an error, which its line tells. -/
theorem errors_of_judge_told {kind text : String}
    (h : judge e (e.evaluate p).result = .error (.told kind text)) :
    LogLine.errors (entryLog e p) = [faultLine e kind text] := by
  have hcons (r : Record) : LogLine.errors [faultLine e kind text, resultLine r] =
      faultLine e kind text :: LogLine.errors [resultLine r] := rfl
  rw [errors_entryLog, h, verdictLog, hcons, errors_resultLine]

/-- Where no record is built, no error is logged. -/
theorem errors_of_record?_error {f : Fault} (h : record? e p = .error f) :
    LogLine.errors (entryLog e p) = [] := by
  rw [record?, interruption?] at h
  split at h
  · next hf =>
    split at hf
    · next hjudge =>
      rw [errors_entryLog, hjudge]
      rfl
    · cases hf
  · cases h

/-- The line that sums up a grading is no error. -/
theorem level_of_summaryLine {base : String} {b : Bundle} {line : LogLine}
    (h : summaryLine base b = .ok line) : line.level = .info := by
  obtain ⟨total, -, h⟩ := Except.bind_eq_ok_iff.1 h
  obtain ⟨totalText, -, h⟩ := Except.bind_eq_ok_iff.1 h
  obtain ⟨max, -, h⟩ := Except.bind_eq_ok_iff.1 h
  obtain ⟨maxText, -, h⟩ := Except.bind_eq_ok_iff.1 h
  rw [← Except.ok.inj h]
  rfl

/-- The errors of going through entries are those of the entries that records are built of. -/
theorem errors_course (p : Program) (es : List Entry) :
    LogLine.errors (course p es).1 =
      (es.takeWhile fun e => (record? e p).isOk).flatMap fun e => LogLine.errors (entryLog e p) := by
  induction es with
  | nil => rfl
  | cons e es ih =>
    rw [course]
    cases hrecord : record? e p with
    | error f =>
      rw [List.takeWhile_cons_of_neg (by simp [hrecord, Except.isOk, Except.toBool])]
      exact errors_of_record?_error hrecord
    | ok r =>
      rw [List.takeWhile_cons_of_pos (by simp [hrecord, Except.isOk, Except.toBool]), List.flatMap_cons,
        ← ih, ← errors_append]

/-- **The errors of a grading are those of its entries**, in their order. -/
theorem errors_run (base : String) (p : Program) (r : Rubric) (metadata : String) :
    LogLine.errors (run base p r metadata).1 =
      (r.entries.takeWhile fun e => (record? e p).isOk).flatMap fun e =>
        LogLine.errors (entryLog e p) := by
  rw [← errors_course]
  unfold run
  rw [bundle_eq_ok]
  rcases course p r.entries with ⟨log, _ | f⟩
  · cases h : summaryLine base (bundleOf base p r metadata) with
    | error cause => simp only [h]
    | ok line =>
      have hline : LogLine.errors [line] = [] := by
        simp [LogLine.errors, level_of_summaryLine h]
      simp only [h, errors_append, hline, List.append_nil]
  · rfl

/-- What grading makes of a check: a record that carries the entry's data,
and the errors that it logs. -/
structure Reflects (e : Entry) (ev : Evaluation) (errors : List LogLine) (record : Record) :
    Prop where
  carries : record.Carries e
  passes_iff : record.Passes e.maxScore ↔ ev.Says true ""
  fails_iff (text : String) : record.FailsWith text ∧ errors = [] ↔ ev.Says false text ∧ text ≠ ""
  /-- The log is needed only where the text is the grader's own. -/
  failsWith_iff (text : String) (h : text ≠ brokenFeedback e.name) :
    record.FailsWith text ↔ ev.Says false text ∧ text ≠ ""
  broken_iff : record.FailsWith (brokenFeedback e.name) ∧ errors ≠ [] ↔ ev.Misbehaves
  misbehaves_iff : ev.Misbehaves ↔ ¬ ev.Says true "" ∧ ¬ ∃ text, ev.Says false text ∧ text ≠ ""
  logged_iff : (∃ kind text, errors = [faultLine e kind text]) ↔ ev.Misbehaves
  silent_iff : errors = [] ↔ ¬ ev.Misbehaves

/-- A record that passes reflects a check that is satisfied, and logs nothing. -/
theorem reflects_of_passes (hsaid : (e.evaluate p).result.Says true "")
    (hsilent : LogLine.errors (entryLog e p) = []) (hpasses : (record e p).Passes e.maxScore) :
    Reflects e (e.evaluate p).result (LogLine.errors (entryLog e p)) (record e p) := by
  have hkinds := @misbehaves_iff (e.evaluate p).result
  have hbad : ¬ (e.evaluate p).result.Misbehaves := fun h => (hkinds.1 h).1 hsaid
  have hnot (text : String) : ¬ (record e p).FailsWith text := by
    rintro ⟨hstatus, -, -⟩
    rw [hpasses.status] at hstatus
    cases hstatus
  have hother (text : String) : ¬ (e.evaluate p).result.Says false text := fun h => by
    cases (says_unique hsaid h).1
  exact {
    carries := carries_record e p
    passes_iff := iff_of_true hpasses hsaid
    fails_iff := fun text => iff_of_false (fun h => hnot text h.1) (fun h => hother text h.1)
    failsWith_iff := fun text _ => iff_of_false (hnot text) (fun h => hother text h.1)
    broken_iff := iff_of_false (fun h => hnot _ h.1) hbad
    misbehaves_iff := hkinds
    logged_iff := iff_of_false (by simp [hsilent]) hbad
    silent_iff := iff_of_true hsilent hbad }

/-- A record that fails with a reason of the check reflects it, even if the
reason reads like the grader's. -/
theorem reflects_of_fails {said : String} (hsaid : (e.evaluate p).result.Says false said) (hne : said ≠ "")
    (hsilent : LogLine.errors (entryLog e p) = []) (hfails : (record e p).FailsWith said) :
    Reflects e (e.evaluate p).result (LogLine.errors (entryLog e p)) (record e p) := by
  have hkinds := @misbehaves_iff (e.evaluate p).result
  have hbad : ¬ (e.evaluate p).result.Misbehaves := fun h => (hkinds.1 h).2 ⟨said, hsaid, hne⟩
  have htext (text : String) :
      (record e p).FailsWith text ↔ (e.evaluate p).result.Says false text ∧ text ≠ "" := by
    constructor
    · intro h
      obtain rfl : text = said := h.feedback.symm.trans hfails.feedback
      exact ⟨hsaid, hne⟩
    · intro h
      obtain rfl := (says_unique h.1 hsaid).2
      exact hfails
  exact {
    carries := carries_record e p
    passes_iff := by
      refine iff_of_false (fun h => hne ?_) (fun h => ?_)
      · rw [← hfails.feedback, h.feedback]
      · cases (says_unique hsaid h).1
    fails_iff := fun text => by rw [and_iff_left hsilent, htext]
    failsWith_iff := fun text _ => htext text
    broken_iff := iff_of_false (fun h => h.2 hsilent) hbad
    misbehaves_iff := hkinds
    logged_iff := iff_of_false (by simp [hsilent]) hbad
    silent_iff := iff_of_true hsilent hbad }

/-- A record of a broken check, which the log tells. -/
theorem reflects_of_broken {kind text : String} (hbad : (e.evaluate p).result.Misbehaves)
    (hlogged : LogLine.errors (entryLog e p) = [faultLine e kind text])
    (hfails : (record e p).FailsWith (brokenFeedback e.name)) :
    Reflects e (e.evaluate p).result (LogLine.errors (entryLog e p)) (record e p) := by
  have hkinds := @misbehaves_iff (e.evaluate p).result
  obtain ⟨hnotPass, hnotFail⟩ := hkinds.1 hbad
  exact {
    carries := carries_record e p
    passes_iff := by
      refine iff_of_false (fun h => brokenFeedback_ne e.name ?_) hnotPass
      rw [← hfails.feedback, h.feedback]
    fails_iff := fun text => iff_of_false (by simp [hlogged]) (fun h => hnotFail ⟨text, h⟩)
    failsWith_iff := fun text hne =>
      iff_of_false (fun h => hne (h.feedback.symm.trans hfails.feedback)) (fun h => hnotFail ⟨text, h⟩)
    broken_iff := iff_of_true ⟨hfails, by simp [hlogged]⟩ hbad
    misbehaves_iff := hkinds
    logged_iff := iff_of_true ⟨kind, text, hlogged⟩ hbad
    silent_iff := iff_of_false (by simp [hlogged]) (not_not_intro hbad) }

/-- **A record that is built** reflects its check. -/
theorem reflects_record (hvalue : e.maxScore ≠ .binary .nan) (hbuilt : interruption? e p = none) :
    Reflects e (e.evaluate p).result (LogLine.errors (entryLog e p)) (record e p) := by
  rcases record_cases hvalue with
    ⟨hsaid, hjudge, hpasses⟩ | ⟨said, hsaid, hne, hjudge, hfails⟩ | ⟨hbad, ⟨f, hjudge⟩, hfails⟩
  · exact reflects_of_passes hsaid (errors_of_judge_ok hjudge) hpasses
  · exact reflects_of_fails hsaid hne (errors_of_judge_ok hjudge) hfails
  · cases f with
    | told kind text => exact reflects_of_broken hbad (errors_of_judge_told hjudge) hfails
    | untold kind g =>
      -- no record is built of a check whose error cannot be told
      rw [interruption?_eq_some_iff.2 ⟨kind, judge_eq_untold_iff.1 hjudge⟩] at hbuilt
      cases hbuilt

end Grading
end ScriptGrader
