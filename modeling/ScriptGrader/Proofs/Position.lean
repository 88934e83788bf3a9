import Mathlib.Data.List.Nodup
import Mathlib.Order.Nat

/-!
# Positions in lists

What stands at a position of a list, and the first position at which
something holds. Where a list is worked through up to a first failure, it is
this position that decides (`split_of_isLeast`). What is picked from a list
in its order is told by the positions (`PickedAt`).
-/

namespace ScriptGrader

variable {α β : Type} {as : List α} {a : α} {P : α → Prop} {i : Nat}

/-- A list around what stands at a position of it. -/
theorem eq_take_append_cons_drop (h : as[i]? = some a) : as = as.take i ++ a :: as.drop (i + 1) := by
  obtain ⟨hlt, rfl⟩ := List.getElem?_eq_some_iff.1 h
  rw [List.getElem_cons_drop, List.take_append_drop]

/-- Where keys are distinct, what is found by its key is what has it. -/
theorem find?_eq_some_iff_of_nodup [DecidableEq β] {key : α → β} {b : β} (hnodup : (as.map key).Nodup) :
    as.find? (fun x => key x = b) = some a ↔ a ∈ as ∧ key a = b := by
  constructor
  · intro h
    exact ⟨List.mem_of_find?_eq_some h, by simpa using List.find?_some h⟩
  · rintro ⟨ha, rfl⟩
    rcases hfind : as.find? fun x => key x = key a with _ | x
    · have hne := List.find?_eq_none.1 hfind a ha
      simp at hne
    · have hkey : key x = key a := by simpa using List.find?_some hfind
      have hxa : x = a := List.inj_on_of_nodup_map hnodup (List.mem_of_find?_eq_some hfind) ha hkey
      rw [hxa]

/-- At a position of a list something holds. -/
def HoldsAt (P : α → Prop) (as : List α) (i : Nat) : Prop := ∃ a, as[i]? = some a ∧ P a

theorem HoldsAt.lt_length (h : HoldsAt P as i) : i < as.length := by
  obtain ⟨_, ha, -⟩ := h
  exact (List.getElem?_eq_some_iff.1 ha).1

/-- With one more at the end, what held anywhere still does, and it may hold there. -/
theorem holdsAt_append_singleton_iff : HoldsAt P (as ++ [a]) i ↔ HoldsAt P as i ∨ i = as.length ∧ P a := by
  rcases Nat.lt_trichotomy i as.length with hi | rfl | hi
  · simp [HoldsAt, List.getElem?_append_left hi, hi.ne]
  · simp [HoldsAt]
  · have hlast : (as ++ [a])[i]? = none := List.getElem?_eq_none (by simp; omega)
    have hall : as[i]? = none := List.getElem?_eq_none hi.le
    simp [HoldsAt, hlast, hall, hi.ne']

@[simp] theorem holdsAt_cons_zero : HoldsAt P (a :: as) 0 ↔ P a := by simp [HoldsAt]

@[simp] theorem holdsAt_cons_succ : HoldsAt P (a :: as) (i + 1) ↔ HoldsAt P as i := by simp [HoldsAt]

/-- What holds of the head holds there first. -/
theorem isLeast_holdsAt_cons_zero : IsLeast {i | HoldsAt P (a :: as) i} 0 ↔ P a :=
  ⟨fun h => holdsAt_cons_zero.1 h.1, fun h => ⟨holdsAt_cons_zero.2 h, fun _ _ => Nat.zero_le _⟩⟩

/-- What holds first behind the head does not hold of the head. -/
theorem isLeast_holdsAt_cons_succ :
    IsLeast {i | HoldsAt P (a :: as) i} (i + 1) ↔ ¬ P a ∧ IsLeast {i | HoldsAt P as i} i := by
  constructor
  · rintro ⟨hi, hleast⟩
    refine ⟨fun ha => ?_, holdsAt_cons_succ.1 hi, fun j hj => ?_⟩
    · have := hleast (holdsAt_cons_zero.2 ha)
      omega
    · have := hleast (holdsAt_cons_succ.2 hj)
      omega
  · rintro ⟨ha, hi, hleast⟩
    refine ⟨holdsAt_cons_succ.2 hi, fun j hj => ?_⟩
    cases j with
    | zero => exact absurd (holdsAt_cons_zero.1 hj) ha
    | succ j => exact Nat.succ_le_succ (hleast (holdsAt_cons_succ.1 hj))

/-- **The first position** at which something holds: in front of it, it does not. -/
theorem split_of_isLeast (h : IsLeast {i | HoldsAt P as i} i) :
    ∃ a, as[i]? = some a ∧ P a ∧ as = as.take i ++ a :: as.drop (i + 1) ∧ ∀ x ∈ as.take i, ¬ P x := by
  obtain ⟨⟨a, ha, hP⟩, hleast⟩ := h
  refine ⟨a, ha, hP, eq_take_append_cons_drop ha, fun x hx hPx => ?_⟩
  obtain ⟨j, hj, rfl⟩ := List.mem_take_iff_getElem.1 hx
  have hle := hleast ⟨_, List.getElem?_eq_getElem (by omega), hPx⟩
  omega

/-! ## What stands at some of the positions -/

/-- What stands at the positions of a kind, in the order of the list. -/
def PickedAt (Q : ℕ → Prop) (as bs : List α) : Prop :=
  ∃ is : List ℕ, is.Pairwise (· < ·) ∧ (∀ i, i ∈ is ↔ Q i) ∧ bs.map some = is.map (as[·]?)

namespace PickedAt

variable {Q Q' : ℕ → Prop} {bs : List α}

theorem congr (h : PickedAt Q as bs) (heq : ∀ i, Q i ↔ Q' i) : PickedAt Q' as bs := by
  obtain ⟨is, horder, hmem, hbs⟩ := h
  exact ⟨is, horder, fun i => (hmem i).trans (heq i), hbs⟩

theorem nil (h : ∀ i, ¬ Q i) : PickedAt Q as [] := ⟨[], .nil, by simpa using h, rfl⟩

/-- The head is passed over. -/
theorem skip (h : PickedAt (fun i => Q (i + 1)) as bs) (hhead : ¬ Q 0) : PickedAt Q (a :: as) bs := by
  obtain ⟨is, horder, hmem, hbs⟩ := h
  refine ⟨is.map (· + 1), ?_, fun i => ?_, ?_⟩
  · exact List.pairwise_map.2 (horder.imp Nat.succ_lt_succ)
  · cases i with
    | zero => simpa using hhead
    | succ i => simpa using hmem i
  · simp [hbs, Function.comp_def]

/-- The head is picked. -/
theorem pick (h : PickedAt (fun i => Q (i + 1)) as bs) (hhead : Q 0) : PickedAt Q (a :: as) (a :: bs) := by
  obtain ⟨is, horder, hmem, hbs⟩ := h
  refine ⟨0 :: is.map (· + 1), ?_, fun i => ?_, ?_⟩
  · exact List.pairwise_cons.2 ⟨by simp, List.pairwise_map.2 (horder.imp Nat.succ_lt_succ)⟩
  · cases i with
    | zero => simpa using hhead
    | succ i => simpa using hmem i
  · simp [hbs, Function.comp_def]

end PickedAt
end ScriptGrader
