import ScriptGrader.Proofs.Number.Shortest

/-!
# Doubles that are written are read back

The reader takes the parts of a written number one after the other, and
what they stand for is rounded (`binary64?_parts`). A double is written as
its shortest decimal, which rounds to it, so its text stands for it again:
`binary64?_binary64`.
-/

namespace ScriptGrader

namespace Numeral

/-! ## Digits -/

theorem toNat_of_isDigit {c : Char} (h : c.isDigit = true) : 0x30 ≤ c.toNat ∧ c.toNat < 0x3a := by
  rw [Char.isDigit, Bool.and_eq_true, decide_eq_true_eq, decide_eq_true_eq] at h
  exact ⟨h.1, Nat.lt_succ_of_le h.2⟩

/-- A digit counts what it shows. -/
theorem digit?_eq {c : Char} (h : c.isDigit = true) : digit? c = some (c.toNat - '0'.toNat) := by
  have hrange := toNat_of_isDigit h
  unfold digit? zeros
  rw [List.find?_cons_of_pos (by simpa using hrange)]
  rfl

theorem isDigit_of_isDigit {c : Char} (h : c.isDigit = true) : isDigit c = true := by
  rw [isDigit, digit?_eq h]
  rfl

theorem natOf_eq {ds : List Char} (hds : ∀ c ∈ ds, c.isDigit = true) :
    natOf ds = Nat.ofDigitChars 10 ds 0 := by
  have hfold (n : Nat) : ds.foldl (fun n c => n * 10 + (digit? c).getD 0) n = Nat.ofDigitChars 10 ds n := by
    induction ds generalizing n with
    | nil => rfl
    | cons c ds ih =>
      rw [List.foldl_cons, ih fun d hd => hds d (List.mem_cons_of_mem c hd), Nat.ofDigitChars_cons,
        digit?_eq (hds c List.mem_cons_self), Option.getD_some, Nat.mul_comm]
  exact hfold 0

/-- What stands behind digits does not go on with them. -/
def EndsDigits (rest : List Char) : Prop := ∀ c ∈ rest.head?, isDigit c = false ∧ c ≠ '_'

theorem digitRun_append {ds rest : List Char} (hds : ∀ c ∈ ds, c.isDigit = true) (hrest : EndsDigits rest) :
    digitRun isDigit (ds ++ rest) = (ds, rest) := by
  induction ds with
  | nil =>
    cases rest with
    | nil => rfl
    | cons c rest =>
      obtain ⟨hc, hne⟩ := hrest c rfl
      rw [List.nil_append]
      unfold digitRun
      simp only [hc, Bool.false_eq_true, if_false]
      split
      · next heq => exact absurd rfl hne
      · rfl
  | cons c ds ih =>
    have hrun := ih fun d hd => hds d (List.mem_cons_of_mem c hd)
    have hc := isDigit_of_isDigit (hds c List.mem_cons_self)
    rw [List.cons_append]
    unfold digitRun
    simp only [hc, if_true, hrun]

theorem digits_append {ds rest : List Char} (hds : IsDigits ds) (hrest : EndsDigits rest) :
    digits isDigit (ds ++ rest) = (ds, rest) := by
  rw [← digitRun_append hds.2 hrest]
  obtain ⟨c, cs, rfl⟩ := List.exists_cons_of_ne_nil hds.1
  have hc : c ≠ '_' := by
    rintro rfl
    exact absurd (hds.2 '_' List.mem_cons_self) (by decide)
  rw [List.cons_append, digits.eq_2 _ _ fun r heq => hc (List.cons.inj heq).1]

/-! ## The parts of a number -/

/-- The digits behind a point, if there is one, and the rest. -/
def readFraction (cs : List Char) : List Char × List Char :=
  match cs with
  | '.' :: r => digits isDigit r
  | r => ([], r)

/-- An exponent, if there is one, and the rest. -/
def readExponent? (cs : List Char) : Option (Int × List Char) :=
  match cs with
  | c :: r =>
    if c = 'e' ∨ c = 'E' then
      let (minus, r) := sign r
      let (ds, r) := digits isDigit r
      if ds.isEmpty then none else some (if minus then -(natOf ds : Int) else natOf ds, r)
    else some (0, cs)
  | [] => some (0, [])

/-- The reader, part by part. -/
theorem binary64?_eq (text : String) :
    binary64? text =
      let (negative, body) := sign (strip text.toList)
      let special := lower body
      if special = "inf".toList ∨ special = "infinity".toList then some (.infinity negative)
      else if special = "nan".toList then some .nan
      else
        let (whole, r₁) := digits isDigit body
        let (fraction, r₂) := readFraction r₁
        if whole.isEmpty ∧ fraction.isEmpty then none
        else
          match readExponent? r₂ with
          | some (e, []) =>
            let q := Decimal.tenPow (natOf (whole ++ fraction))
              (clampExponent (whole.length + fraction.length) (e - fraction.length))
            some (Binary64.round (if negative then -q else q) negative)
          | _ => none := rfl

theorem endsDigits_nil : EndsDigits [] := fun c hc => by cases hc

theorem endsDigits_exponent {exponent : List Char} (h : exponent = [] ∨ IsExponent exponent) :
    EndsDigits exponent := by
  rcases h with rfl | ⟨c, ds, rfl, -⟩
  · exact endsDigits_nil
  · intro d hd
    cases hd
    decide

theorem readFraction_eq {fraction exponent : List Char} (hfraction : fraction = [] ∨ IsFraction fraction)
    (hexponent : exponent = [] ∨ IsExponent exponent) :
    readFraction (fraction ++ exponent) = (fraction.tail, exponent) := by
  rcases hfraction with rfl | ⟨ds, rfl, hds⟩
  · rcases hexponent with rfl | ⟨c, es, rfl, -⟩
    · rfl
    · rfl
  · exact digits_append hds (endsDigits_exponent hexponent)

theorem readExponent?_eq {exponent : List Char} (h : exponent = [] ∨ IsExponent exponent) :
    readExponent? exponent = some (exponentOf exponent, []) := by
  rcases h with rfl | ⟨c, ds, rfl, hc, hds⟩
  · rfl
  · have hdigits := digits_append hds endsDigits_nil
    rw [List.append_nil] at hdigits
    have hne : ds.isEmpty = false := by simpa using hds.1
    rcases hc with rfl | rfl
    · simp only [readExponent?, sign, hdigits, hne, natOf_eq hds.2]
      rfl
    · simp only [readExponent?, sign, hdigits, hne, natOf_eq hds.2]
      rfl

/-- The characters of a number are no blanks. -/
theorem isBlank_eq_false {c : Char} (h : c.isDigit = true ∨ c ∈ ['-', '+', '.', 'e']) : isBlank c = false := by
  rcases h with h | h
  · have hrange := toNat_of_isDigit h
    simp only [isBlank, Bool.or_eq_false_iff, Bool.and_eq_false_iff, decide_eq_false_iff_not, beq_eq_false_iff_ne]
    omega
  · simp only [List.mem_cons, List.not_mem_nil, or_false] at h
    rcases h with rfl | rfl | rfl | rfl
    all_goals decide

theorem strip_eq {cs : List Char} (h : ∀ c ∈ cs, isBlank c = false) : strip cs = cs := by
  have hdrop {cs : List Char} (h : ∀ c ∈ cs, isBlank c = false) : cs.dropWhile isBlank = cs := by
    cases cs with
    | nil => rfl
    | cons c cs => rw [List.dropWhile_cons_of_neg (by simp [h c List.mem_cons_self])]
  rw [strip, hdrop h, hdrop fun c hc => h c (List.mem_reverse.1 hc), List.reverse_reverse]

/-- The first digit of a number tells it from the special values. -/
theorem lower_ne {c : Char} (hc : c.isDigit = true) (cs : List Char) {d : Char} {ds : List Char}
    (hd : d.isDigit = false) : lower (c :: cs) ≠ d :: ds := by
  intro h
  have hrange := toNat_of_isDigit hc
  have hlower : c.toLower = c := by
    have hupper : ¬ ('A'.val ≤ c.val) := fun hle => by
      have hle' : 'A'.toNat ≤ c.toNat := hle
      have hA : 'A'.toNat = 0x41 := rfl
      omega
    exact dif_neg fun h => hupper h.1
  rw [lower, List.map_cons, hlower, List.cons.injEq] at h
  rw [← h.1, hc] at hd
  cases hd

theorem sign_of_isDigit {c : Char} (hc : c.isDigit = true) (cs : List Char) : sign (c :: cs) = (false, c :: cs) := by
  unfold sign
  split
  · next heq =>
    cases heq
    cases hc
  · next heq =>
    cases heq
    cases hc
  · rfl

theorem isDigit_or_mem_of_mem_parts (negative : Bool) {whole fraction exponent : List Char}
    (h : IsParts whole fraction exponent) {c : Char}
    (hc : c ∈ (if negative then ['-'] else []) ++ whole ++ fraction ++ exponent) :
    c.isDigit = true ∨ c ∈ ['-', '+', '.', 'e'] := by
  simp only [List.mem_append] at hc
  rcases hc with ((hc | hc) | hc) | hc
  · cases negative with
    | true =>
      obtain rfl := List.mem_singleton.1 hc
      exact .inr (by decide)
    | false => cases hc
  · exact .inl (h.isWhole.1.2 c hc)
  · rcases h.isFraction with rfl | ⟨ds, rfl, hds⟩
    · cases hc
    · rcases List.mem_cons.1 hc with rfl | hc
      · exact .inr (by decide)
      · exact .inl (hds.2 c hc)
  · rcases h.isExponent with rfl | ⟨d, ds, rfl, hd, hds⟩
    · cases hc
    · rcases List.mem_cons.1 hc with rfl | hc
      · exact .inr (by decide)
      · rcases List.mem_cons.1 hc with rfl | hc
        · rcases hd with rfl | rfl
          · exact .inr (by decide)
          · exact .inr (by decide)
        · exact .inl (hds.2 c hc)

/-- **The parts of a number** are read as what they stand for. -/
theorem binary64?_parts (negative : Bool) {whole fraction exponent : List Char}
    (h : IsParts whole fraction exponent) :
    binary64? (String.ofList ((if negative then ['-'] else []) ++ whole ++ fraction ++ exponent)) =
      let q := Decimal.tenPow (digitsOf whole fraction)
        (clampExponent (whole.length + fraction.tail.length) (lastExponent fraction exponent))
      some (Binary64.round (if negative then -q else q) negative) := by
  have hfraction := h.isFraction
  have hexponent := h.isExponent
  have hblank := fun c hc => isBlank_eq_false (isDigit_or_mem_of_mem_parts negative h (c := c) hc)
  have hends : EndsDigits (fraction ++ exponent) := by
    rcases hfraction with rfl | ⟨ds, rfl, -⟩
    · exact endsDigits_exponent hexponent
    · intro c hc
      cases hc
      decide
  have htail : ∀ c ∈ fraction.tail, c.isDigit = true := by
    rcases hfraction with rfl | ⟨ds, rfl, hds⟩
    · exact fun c hc => by cases hc
    · exact hds.2
  have hnat : natOf (whole ++ fraction.tail) = digitsOf whole fraction := by
    refine natOf_eq fun c hc => ?_
    rcases List.mem_append.1 hc with hc | hc
    · exact h.isWhole.1.2 c hc
    · exact htail c hc
  obtain ⟨c, cs, rfl⟩ := List.exists_cons_of_ne_nil h.isWhole.1.1
  have hc := h.isWhole.1.2 c List.mem_cons_self
  have hsign : sign ((if negative then ['-'] else []) ++ (c :: cs) ++ fraction ++ exponent) =
      (negative, c :: cs ++ (fraction ++ exponent)) := by
    rw [List.append_assoc, List.append_assoc]
    cases negative with
    | true => rfl
    | false => exact sign_of_isDigit hc _
  -- a number begins with a digit, so it is none of the special words
  have hinf : ¬ (lower (c :: cs ++ (fraction ++ exponent)) = "inf".toList ∨
      lower (c :: cs ++ (fraction ++ exponent)) = "infinity".toList) :=
    not_or.2 ⟨lower_ne hc _ (d := 'i') (by decide), lower_ne hc _ (d := 'i') (by decide)⟩
  have hnan : lower (c :: cs ++ (fraction ++ exponent)) ≠ "nan".toList :=
    lower_ne hc _ (d := 'n') (by decide)
  have hsome : ¬ ((c :: cs).isEmpty = true ∧ fraction.tail.isEmpty = true) := by simp
  rw [binary64?_eq, String.toList_ofList, strip_eq hblank, hsign]
  simp only [if_neg hinf, if_neg hnan, digits_append h.isWhole.1 hends, readFraction_eq hfraction hexponent,
    readExponent?_eq hexponent, if_neg hsome, hnat, lastExponent]

/-- The text of a finite number stands for some double. -/
theorem exists_binary64?_binary64 {x : Binary64} (hx : x.isFinite = true) :
    ∃ y, binary64? (Layout.json.binary64 x) = some y := by
  obtain ⟨negative, whole, fraction, exponent, htext, hparts⟩ := Layout.exists_parts_binary64 hx
  have hread := binary64?_parts negative hparts
  rw [← htext, String.ofList_toList] at hread
  exact ⟨_, hread⟩

/-- What parts stand for is the decimal, whose exponent is no larger than what counts. -/
theorem tenPow_clampExponent {whole fraction exponent : List Char} {d : Decimal}
    (h : StandFor whole fraction exponent d) (hlow : -400 ≤ d.exponent) (hhigh : d.exponent ≤ 400) (count : Nat) :
    Decimal.tenPow (digitsOf whole fraction) (clampExponent count (lastExponent fraction exponent)) = d.value := by
  -- the exponent of a double is far from where exponents are cut
  have hclamp : clampExponent count (lastExponent fraction exponent) = lastExponent fraction exponent := by
    unfold clampExponent
    rcases h with ⟨-, hlast⟩ | ⟨-, -, hlast⟩ <;> omega
  rw [hclamp, Decimal.tenPow_eq, Decimal.value_eq]
  rcases h with ⟨hdigits, hlast⟩ | ⟨hexponent, hdigits, hlast⟩
  · rw [hdigits, hlast]
  · obtain ⟨k, hk⟩ := Int.eq_ofNat_of_zero_le hexponent
    rw [hdigits, hlast, hk, Int.toNat_natCast, zpow_natCast, zpow_neg_one, pow_succ]
    push_cast
    ring

end Numeral

namespace Binary64

/-- A negative number is rounded as its opposite is. -/
theorem round_neg {q v : Rat} {negative : Bool} (hq : 0 < q) (h : round q negative = .finite v) :
    round (-q) negative = .finite (-v) := by
  unfold round at h ⊢
  simp only [if_neg (natAbs_num_ne_zero hq), if_neg hq.not_gt] at h
  simp only [Rat.neg_num, Int.natAbs_neg, Rat.neg_den, if_neg (natAbs_num_ne_zero hq),
    if_pos (neg_neg_of_pos hq)]
  split_ifs at h ⊢
  cases h
  rfl

end Binary64

open Binary64 (shortest IsMagnitude)

/-- The text of a positive double behind a sign. -/
theorem Numeral.binary64?_shortest {v : Rat} (hv : IsMagnitude v) (negative : Bool) :
    binary64? (String.ofList ((if negative then ['-'] else []) ++ Layout.json.decimal (shortest v))) =
      some (.finite (if negative then -v else v)) := by
  obtain ⟨hdigits, hlow, hhigh⟩ := Binary64.shortest_bounds hv
  obtain ⟨whole, fraction, exponent, htext, hparts, hstand⟩ := Layout.exists_parts_decimal Layout.json hdigits
  have hround := Binary64.round_value_shortest hv negative
  have hread := binary64?_parts negative hparts
  simp only [tenPow_clampExponent hstand hlow hhigh] at hread
  rw [htext, ← List.append_assoc, ← List.append_assoc, hread]
  cases negative with
  | true =>
    have hpos := (Binary64.round_of_inInterval hv (Binary64.shortest_spec hv).1 true).1
    rw [if_pos rfl, if_pos rfl, Binary64.round_neg hpos hround]
  | false => rw [if_neg (by simp), if_neg (by simp), hround]

/-- **A double that is written is read back**, with its sign if it is zero. -/
theorem Numeral.binary64?_binary64 {x : Binary64} (hx : x.IsDouble) (hfinite : x.isFinite = true) :
    binary64? (Layout.json.binary64 x) = some x := by
  cases x with
  | nan => cases hfinite
  | infinity negative => cases hfinite
  | zero negative =>
    cases negative with
    | true => decide +kernel
    | false => decide +kernel
  | finite v =>
    rw [Binary64.IsDouble] at hx
    rcases lt_or_ge v 0 with hneg | hpos
    · rw [abs_of_neg hneg] at hx
      have hread := binary64?_shortest hx true
      rw [if_pos rfl, if_pos rfl, neg_neg] at hread
      have hminus : "-" = String.ofList ['-'] := rfl
      rw [Layout.binary64, if_pos hneg, hminus, ← String.ofList_append, hread]
    · rw [abs_of_nonneg hpos] at hx
      have hread := binary64?_shortest hx false
      rw [if_neg (by simp), if_neg (by simp), List.nil_append] at hread
      rw [Layout.binary64, if_neg hpos.not_gt, hread]

end ScriptGrader
