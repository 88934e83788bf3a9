import ScriptGrader.Value.Literal

/-!
# Outcomes of checks

What a check has to answer: whether the submission satisfies it, and
messages for the learner exactly when it does not.
-/

namespace ScriptGrader

/-- Whether a check is satisfied, with the messages for the learner if not. -/
structure Outcome where
  passed : Value
  feedback : List String
  feedback_eq : passed.isTrue = feedback.isEmpty
  empty_notMem : "" ∉ feedback

/-- Why an outcome is refused. -/
inductive OutcomeError
  /-- The messages are no collection. -/
  | notIterable (kind : String)
  /-- A message is empty or no text. -/
  | badMessage (message : Value)
  | passWithFeedback
  | failWithoutFeedback
  deriving Repr

namespace OutcomeError

def message : OutcomeError → String
  | .notIterable kind => s!"'{kind}' object is not iterable"
  | .badMessage v => s!"Feedback messages must be non-empty strings, got {v.literal}"
  | .passWithFeedback => "A passing outcome must not carry feedback"
  | .failWithoutFeedback => "A failing outcome must carry feedback"

end OutcomeError

namespace Outcome

/-- Messages that are texts with something in them. -/
def messages? : List Value → Except OutcomeError (List String)
  | [] => .ok []
  | v :: vs =>
    match v with
    | .text s => if s = "" then .error (.badMessage v) else (messages? vs).map (s :: ·)
    | _ => .error (.badMessage v)

theorem empty_notMem_of_messages? {vs : List Value} {texts : List String}
    (h : messages? vs = .ok texts) : "" ∉ texts := by
  induction vs generalizing texts with
  | nil => cases h; simp
  | cons v vs ih =>
    cases v with
    | text s =>
      by_cases hs : s = ""
      · simp [messages?, hs] at h
      · cases hr : messages? vs with
        | error e => simp [messages?, hs, hr, Except.map] at h
        | ok ts =>
          simp only [messages?, hs, hr, if_false, Except.map, Except.ok.injEq] at h
          rw [← h, List.mem_cons, not_or]
          exact ⟨fun he => hs he.symm, ih hr⟩
    | _ => simp [messages?] at h

/-- The outcome of given parts, if they agree. -/
def make? (passed : Value) (feedback : List Value) : Except OutcomeError Outcome :=
  match hm : messages? feedback with
  | .error e => .error e
  | .ok texts =>
    if h : passed.isTrue = texts.isEmpty then .ok ⟨passed, texts, h, empty_notMem_of_messages? hm⟩
    else if passed.isTrue then .error .passWithFeedback
    else .error .failWithoutFeedback

/-- The outcome whose messages are the items of a value. -/
def ofValue? (passed feedback : Value) : Except OutcomeError Outcome :=
  match feedback.items? with
  | none => .error (.notIterable feedback.fullKind)
  | some items => make? passed items

/-- The check is satisfied. -/
def success : Outcome := ⟨.bool true, [], rfl, by simp⟩

end Outcome
end ScriptGrader
