import Mathlib.Data.List.Basic
import ScriptGrader.Proofs.Text.Utf8

/-!
# Ends of lines

A reader of texts takes every end of a line for a line feed. What it has
read holds no carriage return any more, and only a text without one is read
as it was written.
-/

namespace ScriptGrader.Text

/-- A text without carriage returns is read as it is written. -/
theorem universalNewlines_of_not_mem {cs : List Char} (h : '\r' ∉ cs) : universalNewlines cs = cs := by
  induction cs with
  | nil => rfl
  | cons c cs ih =>
    rw [List.mem_cons, not_or] at h
    rw [universalNewlines_cons (Ne.symm h.1), ih h.2]

theorem universalNewlines_eq_self_iff {cs : List Char} : universalNewlines cs = cs ↔ '\r' ∉ cs :=
  ⟨fun h => h ▸ not_mem_universalNewlines cs, universalNewlines_of_not_mem⟩

/-- What is not a line feed begins a text of its own. -/
theorem universalNewlines_append_cons {d : Char} (hd : d ≠ '\n') (cs ds : List Char) :
    universalNewlines (cs ++ d :: ds) = universalNewlines cs ++ universalNewlines (d :: ds) := by
  induction cs using universalNewlines.induct with
  | case1 => rfl
  | case2 r ih => simp [ih]
  | case3 r hfeed ih =>
    have hfeed' : ∀ r', r ++ d :: ds ≠ '\n' :: r' := by
      cases r with
      | nil => exact fun r' h => hd (List.cons.inj h).1
      | cons c r => exact fun r' h => hfeed r (by rw [(List.cons.inj h).1])
    rw [List.cons_append, universalNewlines_return hfeed, universalNewlines_return hfeed', ih, List.cons_append]
  | case4 c r _ hreturn ih =>
    rw [List.cons_append, universalNewlines_cons hreturn, universalNewlines_cons hreturn, ih, List.cons_append]

/-- Whatever holds of the characters of a text and of line feeds holds of what is read. -/
theorem forall_mem_universalNewlines {P : Char → Prop} (hfeed : P '\n') {cs : List Char} (h : ∀ c ∈ cs, P c) :
    ∀ c ∈ universalNewlines cs, P c := by
  induction cs using universalNewlines.induct with
  | case1 => exact h
  | case2 r ih => exact List.forall_mem_cons.2 ⟨hfeed, ih fun c hc => h c (by simp [hc])⟩
  | case3 r hr ih =>
    rw [universalNewlines_return hr]
    exact List.forall_mem_cons.2 ⟨hfeed, ih fun c hc => h c (List.mem_cons_of_mem _ hc)⟩
  | case4 c r _ hreturn ih =>
    rw [universalNewlines_cons hreturn]
    exact List.forall_mem_cons.2 ⟨h c List.mem_cons_self, ih fun d hd => h d (List.mem_cons_of_mem c hd)⟩

/-- Only a text without characters is read as one. -/
theorem universalNewlines_eq_nil_iff {cs : List Char} : universalNewlines cs = [] ↔ cs = [] := by
  refine ⟨fun h => ?_, fun h => by rw [h, universalNewlines_nil]⟩
  cases cs using universalNewlines.fun_cases with
  | case1 => rfl
  | case2 r => cases h
  | case3 r hr =>
    rw [universalNewlines_return hr] at h
    cases h
  | case4 c r _ hreturn =>
    rw [universalNewlines_cons hreturn] at h
    cases h

/-- A text as the reader of its file sees it. -/
theorem decodeFile_encode (s : String) : decodeFile (encode s) = .ok (String.ofList (universalNewlines s.toList)) := by
  rw [decodeFile, decodeFrom_encode]
  rfl

/-- **A text file is read byte for byte** only if no carriage return is in it. -/
theorem encode_universalNewlines_iff {s : String} :
    encode (String.ofList (universalNewlines s.toList)) = encode s ↔ '\r' ∉ s.toList := by
  rw [encode_inj, ← universalNewlines_eq_self_iff, String.ext_iff, String.toList_ofList]

end ScriptGrader.Text
