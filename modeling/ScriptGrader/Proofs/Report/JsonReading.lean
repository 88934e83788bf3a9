import Mathlib.Data.List.Basic
import ScriptGrader.Report.Json
import ScriptGrader.Proofs.Number.Decimal

/-!
# Reading JSON

A strict reader of JSON text, to say what a text stands for. It takes what
the grammar of JSON admits and nothing else: blanks are the four of the
grammar, a whole part has no needless zeros, and halves of surrogate pairs
stand in pairs. A number with a fraction or an exponent is a double, every
other one an integer. A name that stands twice in an object keeps its place
and takes the last value.

Every token is shown to be read as it was written, whatever stands behind
it, as long as that does not go on a number.
-/

namespace ScriptGrader.Json

open Numeral (IsDigits IsWhole IsFraction IsExponent IsParts)

namespace Reader

/-! ## Texts -/

/-- The value of a hexadecimal digit. -/
def hexValue? (c : Char) : Option Nat :=
  if '0' ≤ c ∧ c ≤ '9' then some (c.toNat - '0'.toNat)
  else if 'a' ≤ c ∧ c ≤ 'f' then some (c.toNat - 'a'.toNat + 10)
  else if 'A' ≤ c ∧ c ≤ 'F' then some (c.toNat - 'A'.toNat + 10)
  else none

/-- Four hexadecimal digits. -/
def codeUnit? : List Char → Option (Nat × List Char)
  | a :: b :: c :: d :: r => do
    let n := (← hexValue? a) * 0x1000 + (← hexValue? b) * 0x100 + (← hexValue? c) * 0x10 + (← hexValue? d)
    return (n, r)
  | _ => none

/-- What a character behind a backslash stands for. -/
def shortEscape? (c : Char) : Option Char :=
  match c with
  | '"' | '\\' | '/' => some c
  | 'b' => some '\x08'
  | 'f' => some '\x0c'
  | 'n' => some '\n'
  | 'r' => some '\r'
  | 't' => some '\t'
  | _ => none

/-- What stands behind a backslash and a `u`: a code unit, or two of them that are a pair. -/
def unicodeEscape? (cs : List Char) : Option (Char × List Char) := do
  let (n, r) ← codeUnit? cs
  if 0xd800 ≤ n ∧ n < 0xdc00 then
    match r with
    | '\\' :: 'u' :: r =>
      let (m, r) ← codeUnit? r
      if 0xdc00 ≤ m ∧ m < 0xe000 then
        return (Char.ofNat (0x10000 + (n - 0xd800) * 0x400 + (m - 0xdc00)), r)
      else none
    | _ => none
  else if 0xdc00 ≤ n ∧ n < 0xe000 then none
  else return (Char.ofNat n, r)

/-- One character of a text, as it is or escaped. -/
def char? : List Char → Option (Char × List Char)
  | [] => none
  | '\\' :: 'u' :: r => unicodeEscape? r
  | '\\' :: c :: r => (shortEscape? c).map (·, r)
  | c :: r => if c.toNat < 0x20 ∨ c = '"' ∨ c = '\\' then none else some (c, r)

/-- The characters up to a quote. -/
def chars? : Nat → List Char → Option (List Char × List Char)
  | _, '"' :: r => some ([], r)
  | 0, _ => none
  | n + 1, cs => do
    let (c, r) ← char? cs
    let (s, r) ← chars? n r
    return (c :: s, r)

/-- A text behind its first quote. -/
def text? (cs : List Char) : Option (String × List Char) :=
  (chars? cs.length cs).map fun (s, r) => (String.ofList s, r)

theorem codeUnit?_hex {n : Nat} (hn : n < 0x10000) (rest : List Char) :
    codeUnit? (Text.hex 4 n ++ rest) = some (n, rest) := by
  have hdigit : ∀ m < 16, hexValue? (Text.hexDigit m) = some m := by decide
  have hmod : ∀ m, hexValue? (Text.hexDigit (m % 16)) = some (m % 16) := fun m => hdigit _ (Nat.mod_lt _ (by decide))
  simp only [Text.hex, List.nil_append, List.cons_append, codeUnit?, hmod, bind, Option.bind, pure]
  congr 2
  omega

/-- A code unit that is no half of a pair. -/
theorem unicodeEscape?_single {c : Char} (hc : c.toNat < 0x10000) (rest : List Char) :
    unicodeEscape? (Text.hex 4 c.toNat ++ rest) = some (c, rest) := by
  have hvalid : c.toNat < 0xd800 ∨ 0xdfff < c.toNat ∧ c.toNat < 0x110000 := c.valid
  rw [unicodeEscape?, codeUnit?_hex hc]
  simp only [bind, Option.bind]
  rw [if_neg (by omega), if_neg (by omega), Char.ofNat_toNat]
  rfl

/-- A pair of code units. -/
theorem unicodeEscape?_pair {high low : Nat} (hhigh : high < 0x400) (hlow : low < 0x400) (rest : List Char) :
    unicodeEscape? (Text.hex 4 (0xd800 + high) ++ '\\' :: 'u' :: (Text.hex 4 (0xdc00 + low) ++ rest)) =
      some (Char.ofNat (0x10000 + high * 0x400 + low), rest) := by
  have hn : 0xd800 ≤ 0xd800 + high ∧ 0xd800 + high < 0xdc00 := by omega
  have hm : 0xdc00 ≤ 0xdc00 + low ∧ 0xdc00 + low < 0xe000 := by omega
  have hn_sub : 0xd800 + high - 0xd800 = high := Nat.add_sub_cancel_left _ _
  have hm_sub : 0xdc00 + low - 0xdc00 = low := Nat.add_sub_cancel_left _ _
  rw [unicodeEscape?, codeUnit?_hex (by omega)]
  generalize 0xd800 + high = n at hn hn_sub
  simp only [Option.bind_eq_bind, Option.bind_some, if_pos hn, hn_sub]
  rw [codeUnit?_hex (by omega)]
  generalize 0xdc00 + low = m at hm hm_sub
  simp only [Option.bind_some, if_pos hm, hm_sub]
  rfl

/-- A character that is not escaped. -/
theorem char?_plain {c : Char} (hquote : c ≠ '"') (hbackslash : c ≠ '\\') (hprintable : 0x20 ≤ c.toNat)
    (rest : List Char) : char? (c :: rest) = some (c, rest) := by
  unfold char?
  split
  · next heq => cases heq
  · next heq => exact absurd (List.cons.inj heq).1 hbackslash
  · next heq => exact absurd (List.cons.inj heq).1 hbackslash
  · next heq =>
    cases heq
    rw [if_neg]
    rintro (hcontrol | rfl | rfl)
    · omega
    · exact hquote rfl
    · exact hbackslash rfl

/-- **How a character is written**: by a letter behind a backslash, by one code
unit or two, or as it is. -/
theorem escapeChar_cases (ascii : Bool) (c : Char) :
    (∃ l, escapeChar ascii c = ['\\', l] ∧ l ≠ 'u' ∧ shortEscape? l = some c) ∨
      (c.toNat < 0x10000 ∧ escapeChar ascii c = unitEscape c.toNat) ∨
      (0x10000 ≤ c.toNat ∧ escapeChar ascii c = unitEscape (0xd800 + (c.toNat - 0x10000) / 0x400) ++
        unitEscape (0xdc00 + (c.toNat - 0x10000) % 0x400)) ∨
      (c ≠ '"' ∧ c ≠ '\\' ∧ 0x20 ≤ c.toNat ∧ escapeChar ascii c = [c]) := by
  have hcode : ∀ d : Char, c.toNat = d.toNat → c = d := fun d h => by
    rw [← Char.ofNat_toNat c, h, Char.ofNat_toNat]
  rw [escapeChar]
  by_cases hquote : c = '"'
  · exact .inl ⟨'"', by rw [if_pos hquote], by decide, by rw [hquote]; rfl⟩
  by_cases hbackslash : c = '\\'
  · exact .inl ⟨'\\', by rw [if_neg hquote, if_pos hbackslash], by decide, by rw [hbackslash]; rfl⟩
  rw [if_neg hquote, if_neg hbackslash]
  by_cases hn : c = '\n'
  · exact .inl ⟨'n', by rw [if_pos hn], by decide, by rw [hn]; rfl⟩
  by_cases hr : c = '\r'
  · exact .inl ⟨'r', by rw [if_neg hn, if_pos hr], by decide, by rw [hr]; rfl⟩
  by_cases ht : c = '\t'
  · exact .inl ⟨'t', by rw [if_neg hn, if_neg hr, if_pos ht], by decide, by rw [ht]; rfl⟩
  rw [if_neg hn, if_neg hr, if_neg ht]
  by_cases hb : c.toNat = 8
  · exact .inl ⟨'b', by rw [if_pos hb], by decide, by rw [hcode '\x08' hb]; rfl⟩
  by_cases hf : c.toNat = 12
  · exact .inl ⟨'f', by rw [if_neg hb, if_pos hf], by decide, by rw [hcode '\x0c' hf]; rfl⟩
  rw [if_neg hb, if_neg hf]
  by_cases hcontrol : c.toNat < 0x20
  · exact .inr (.inl ⟨by omega, if_pos hcontrol⟩)
  rw [if_neg hcontrol]
  by_cases hascii : (ascii && decide (0x7f ≤ c.toNat)) = true
  · rw [if_pos hascii]
    by_cases hsmall : c.toNat < 0x10000
    · exact .inr (.inl ⟨hsmall, if_pos hsmall⟩)
    · exact .inr (.inr (.inl ⟨Nat.not_lt.1 hsmall, if_neg hsmall⟩))
  · exact .inr (.inr (.inr ⟨hquote, hbackslash, Nat.not_lt.1 hcontrol, if_neg hascii⟩))

/-- **A character is read as it was written.** -/
theorem char?_escapeChar (ascii : Bool) (c : Char) (rest : List Char) :
    char? (escapeChar ascii c ++ rest) = some (c, rest) := by
  rcases escapeChar_cases ascii c with ⟨l, hescape, hl, hletter⟩ | ⟨hsmall, hescape⟩ | ⟨hlarge, hescape⟩ |
    ⟨hquote, hbackslash, hprintable, hescape⟩
  · rw [hescape, List.cons_append, List.cons_append, List.nil_append, char?.eq_3 _ _ hl, hletter]
    rfl
  · rw [hescape]
    exact unicodeEscape?_single hsmall rest
  · have hvalid : c.toNat < 0xd800 ∨ 0xdfff < c.toNat ∧ c.toNat < 0x110000 := c.valid
    have hsum : 0x10000 + (c.toNat - 0x10000) / 0x400 * 0x400 + (c.toNat - 0x10000) % 0x400 = c.toNat := by omega
    have hpair := unicodeEscape?_pair (by omega : (c.toNat - 0x10000) / 0x400 < 0x400)
      (Nat.mod_lt (c.toNat - 0x10000) (by decide)) rest
    rw [hsum, Char.ofNat_toNat] at hpair
    rw [hescape, List.append_assoc]
    exact hpair
  · rw [hescape]
    exact char?_plain hquote hbackslash hprintable rest

/-- What a character is written as does not end the text. -/
theorem exists_escapeChar_eq_cons (ascii : Bool) (c : Char) : ∃ d ds, escapeChar ascii c = d :: ds ∧ d ≠ '"' := by
  rcases escapeChar_cases ascii c with ⟨l, hescape, -⟩ | ⟨-, hescape⟩ | ⟨-, hescape⟩ | ⟨hquote, -, -, hescape⟩
  · exact ⟨_, _, hescape, by decide⟩
  · exact ⟨_, _, hescape, by decide⟩
  · exact ⟨_, _, hescape, by decide⟩
  · exact ⟨_, _, hescape, hquote⟩

theorem chars?_quote (n : Nat) (rest : List Char) : chars? n ('"' :: rest) = some ([], rest) := by
  cases n with
  | zero => rfl
  | succ n => rfl

/-- One character more, if it does not end the text. -/
theorem chars?_cons {c d : Char} {ds r rest : List Char} {s : List Char} {n : Nat} (hd : d ≠ '"')
    (hchar : char? (d :: ds) = some (c, r)) (hchars : chars? n r = some (s, rest)) :
    chars? (n + 1) (d :: ds) = some (c :: s, rest) := by
  rw [chars?.eq_3 _ _ fun r heq => hd (List.cons.inj heq).1, hchar]
  simp only [Option.bind_eq_bind, Option.bind_some, hchars]
  rfl

/-- The characters of a text, with steps to spare. -/
theorem chars?_escaped (ascii : Bool) (cs rest : List Char) {n : Nat} (hn : cs.length ≤ n) :
    chars? n (cs.flatMap (escapeChar ascii) ++ '"' :: rest) = some (cs, rest) := by
  induction cs generalizing n with
  | nil => exact chars?_quote n rest
  | cons c cs ih =>
    obtain ⟨n, rfl⟩ : ∃ m, n = m + 1 := ⟨n - 1, by rw [List.length_cons] at hn; omega⟩
    obtain ⟨d, ds, hescape, hd⟩ := exists_escapeChar_eq_cons ascii c
    have hchar := char?_escapeChar ascii c (cs.flatMap (escapeChar ascii) ++ '"' :: rest)
    rw [List.flatMap_cons, List.append_assoc]
    rw [hescape, List.cons_append] at hchar ⊢
    exact chars?_cons hd hchar (ih (Nat.le_of_succ_le_succ hn))

/-- **A text is read as it was written.** -/
theorem text?_escaped (ascii : Bool) (s : String) (rest : List Char) :
    text? (s.toList.flatMap (escapeChar ascii) ++ '"' :: rest) = some (s, rest) := by
  have hlength : ∀ cs : List Char, cs.length ≤ (cs.flatMap (escapeChar ascii)).length := by
    intro cs
    induction cs with
    | nil => exact Nat.le_refl _
    | cons c cs ih =>
      obtain ⟨d, ds, hescape, -⟩ := exists_escapeChar_eq_cons ascii c
      rw [List.flatMap_cons, hescape, List.length_append, List.length_cons, List.length_cons]
      omega
  have hsteps : s.toList.length ≤ (s.toList.flatMap (escapeChar ascii) ++ '"' :: rest).length := by
    rw [List.length_append]
    exact Nat.le_trans (hlength _) (Nat.le_add_right _ _)
  rw [text?, chars?_escaped ascii s.toList rest hsteps, Option.map_some]
  simp only [String.ofList_toList]

/-! ## Numbers -/

/-- Digits behind a point, if there is one. -/
def fraction? : List Char → Option (List Char × List Char)
  | '.' :: r =>
    let ds := r.takeWhile Char.isDigit
    if ds = [] then none else some ('.' :: ds, r.dropWhile Char.isDigit)
  | r => some ([], r)

/-- A sign, if there is one. -/
def sign : List Char → List Char × List Char
  | '+' :: r => (['+'], r)
  | '-' :: r => (['-'], r)
  | r => ([], r)

/-- An exponent, if there is one. -/
def exponent? : List Char → Option (List Char × List Char)
  | c :: r =>
    if c = 'e' ∨ c = 'E' then
      let (s, r) := sign r
      let ds := r.takeWhile Char.isDigit
      if ds = [] then none else some (c :: s ++ ds, r.dropWhile Char.isDigit)
    else some ([], c :: r)
  | [] => some ([], [])

/-- A minus, if there is one. -/
def minus : List Char → Bool × List Char
  | '-' :: r => (true, r)
  | r => (false, r)

/-- The text of a minus, if there is one. -/
def minusText (negative : Bool) : List Char := if negative then ['-'] else []

/-- What the parts of a number stand for. -/
def numberOf? (negative : Bool) (whole fraction exponent : List Char) : Option Json :=
  if fraction = [] ∧ exponent = [] then
    let n : Int := Nat.ofDigitChars 10 whole 0
    some (int (if negative then -n else n))
  else (Numeral.binary64? (String.ofList (minusText negative ++ whole ++ fraction ++ exponent))).map float

/-- A number: an integer, unless it has a fraction or an exponent. -/
def number? (cs : List Char) : Option (Json × List Char) := do
  let (negative, r) := minus cs
  let whole := r.takeWhile Char.isDigit
  if IsWhole whole then
    let (fraction, r) ← fraction? (r.dropWhile Char.isDigit)
    let (exponent, r) ← exponent? r
    return (← numberOf? negative whole fraction exponent, r)
  else none

/-- What stands behind a number does not go on with it. -/
def Ends (rest : List Char) : Prop := ∀ c ∈ rest.head?, c.isDigit = false ∧ c ≠ '.' ∧ c ≠ 'e' ∧ c ≠ 'E'

/-- What stands behind digits is none. -/
def NoDigit (rest : List Char) : Prop := ∀ c ∈ rest.head?, c.isDigit = false

/-- **Digits** are taken as far as they go. -/
theorem takeWhile_digits {ds rest : List Char} (hds : ∀ c ∈ ds, c.isDigit = true) (hrest : NoDigit rest) :
    (ds ++ rest).takeWhile Char.isDigit = ds ∧ (ds ++ rest).dropWhile Char.isDigit = rest := by
  rw [List.takeWhile_append_of_pos hds, List.dropWhile_append_of_pos hds]
  cases rest with
  | nil => simp
  | cons c r =>
    have hc : ¬ c.isDigit = true := by simp [hrest c rfl]
    rw [List.takeWhile_cons_of_neg hc, List.dropWhile_cons_of_neg hc, List.append_nil]
    exact ⟨rfl, rfl⟩

theorem fraction?_eq {fraction rest : List Char} (hfraction : fraction = [] ∨ IsFraction fraction)
    (hdigit : NoDigit rest) (hpoint : rest.head? ≠ some '.') :
    fraction? (fraction ++ rest) = some (fraction, rest) := by
  rcases hfraction with rfl | ⟨ds, rfl, hne, hds⟩
  · rw [List.nil_append]
    unfold fraction?
    split
    · exact absurd rfl hpoint
    · rfl
  · obtain ⟨htake, hdrop⟩ := takeWhile_digits hds hdigit
    rw [List.cons_append, fraction?]
    simp only [htake, hdrop, if_neg hne]

theorem sign_eq {c : Char} (hc : c = '+' ∨ c = '-') (r : List Char) : sign (c :: r) = ([c], r) := by
  rcases hc with rfl | rfl
  · rfl
  · rfl

theorem exponent?_eq {exponent rest : List Char} (hexponent : exponent = [] ∨ IsExponent exponent)
    (hdigit : NoDigit rest) (hletter : rest.head? ≠ some 'e' ∧ rest.head? ≠ some 'E') :
    exponent? (exponent ++ rest) = some (exponent, rest) := by
  rcases hexponent with rfl | ⟨c, ds, rfl, hc, hne, hds⟩
  · rw [List.nil_append]
    cases rest with
    | nil => rfl
    | cons c r =>
      rw [exponent?, if_neg]
      simpa using hletter
  · obtain ⟨htake, hdrop⟩ := takeWhile_digits hds hdigit
    rw [List.cons_append, List.cons_append, exponent?, if_pos (.inl rfl), sign_eq hc]
    simp only [htake, hdrop, if_neg hne]
    rfl

theorem minus_eq (negative : Bool) {whole rest : List Char} (hwhole : IsWhole whole) :
    minus (minusText negative ++ (whole ++ rest)) = (negative, whole ++ rest) := by
  cases negative with
  | true => rfl
  | false =>
    obtain ⟨c, ds, rfl⟩ := List.exists_cons_of_ne_nil hwhole.1.1
    have hc := hwhole.1.2 c List.mem_cons_self
    rw [minusText, if_neg (by simp), List.nil_append, List.cons_append]
    unfold minus
    split
    · next heq =>
      cases heq
      cases hc
    · rfl

/-- **A number** is read as it was written. -/
theorem number?_eq (negative : Bool) {whole fraction exponent rest : List Char} (hwhole : IsWhole whole)
    (hfraction : fraction = [] ∨ IsFraction fraction) (hexponent : exponent = [] ∨ IsExponent exponent)
    (hrest : Ends rest) :
    number? (minusText negative ++ (whole ++ (fraction ++ (exponent ++ rest)))) =
      (numberOf? negative whole fraction exponent).map (·, rest) := by
  have hrest_digit : NoDigit rest := fun c hc => (hrest c hc).1
  have hrest_ne : rest.head? ≠ some '.' ∧ rest.head? ≠ some 'e' ∧ rest.head? ≠ some 'E' := by
    refine ⟨fun h => ?_, fun h => ?_, fun h => ?_⟩
    · exact (hrest _ h).2.1 rfl
    · exact (hrest _ h).2.2.1 rfl
    · exact (hrest _ h).2.2.2 rfl
  -- no part goes on with the one in front of it
  have hexponent_rest : NoDigit (exponent ++ rest) ∧ (exponent ++ rest).head? ≠ some '.' := by
    rcases hexponent with rfl | ⟨c, ds, rfl, -⟩
    · exact ⟨hrest_digit, hrest_ne.1⟩
    · exact ⟨fun d hd => by cases hd; rfl, fun h => by cases h⟩
  have hfraction_rest : NoDigit (fraction ++ (exponent ++ rest)) := by
    rcases hfraction with rfl | ⟨ds, rfl, -⟩
    · exact hexponent_rest.1
    · exact fun d hd => by cases hd; rfl
  obtain ⟨htake, hdrop⟩ := takeWhile_digits hwhole.1.2 hfraction_rest
  rw [number?, minus_eq negative hwhole]
  simp only [htake, hdrop, if_pos hwhole, fraction?_eq hfraction hexponent_rest.1 hexponent_rest.2,
    exponent?_eq hexponent hrest_digit hrest_ne.2, Option.bind_eq_bind, Option.bind_some]
  rcases numberOf? negative whole fraction exponent with _ | j
  · rfl
  · rfl

/-- **An integer** is read as it was written. -/
theorem number?_int (n : Int) {rest : List Char} (hrest : Ends rest) :
    number? ((Layout.int n).toList ++ rest) = some (int n, rest) := by
  have hread := fun negative => number?_eq negative (Layout.isWhole_nat n.natAbs) (.inl rfl) (.inl rfl) hrest
  have hvalue : ∀ negative, numberOf? negative (Layout.nat n.natAbs) [] [] =
      some (int (if negative then -(n.natAbs : Int) else n.natAbs)) := by
    intro negative
    rw [numberOf?, if_pos ⟨rfl, rfl⟩, Layout.nat, Nat.ofDigitChars_ten_toDigits]
  rw [Layout.int]
  split
  · next hneg =>
    have hn : -(n.natAbs : Int) = n := by omega
    rw [String.toList_append, String.toList_ofList, String.toList_ofList]
    have hminus := hread true
    rw [hvalue, if_pos rfl, hn] at hminus
    exact hminus
  · next hneg =>
    have hn : (n.natAbs : Int) = n := by omega
    rw [String.toList_ofList]
    have hplain := hread false
    rw [hvalue, if_neg (by simp), hn] at hplain
    exact hplain

/-- **A double** is read as what its text stands for. -/
theorem number?_float {x y : Binary64} (hx : x.isFinite = true)
    (hback : Numeral.binary64? (Layout.json.binary64 x) = some y) {rest : List Char} (hrest : Ends rest) :
    number? ((Layout.json.binary64 x).toList ++ rest) = some (float y, rest) := by
  obtain ⟨negative, whole, fraction, exponent, htext, hparts⟩ := Layout.exists_parts_binary64 hx
  have hvalue : numberOf? negative whole fraction exponent = some (float y) := by
    have hsome : ¬ (fraction = [] ∧ exponent = []) := fun h =>
      hparts.notInteger.elim (fun hne => hne h.1) (fun hne => hne h.2)
    rw [numberOf?, if_neg hsome, minusText, ← htext, String.ofList_toList, hback]
    rfl
  have hread := number?_eq negative hparts.isWhole hparts.isFraction hparts.isExponent hrest
  rw [hvalue] at hread
  rw [htext]
  simpa only [minusText, List.append_assoc, Option.map_some] using hread

/-! ## Values -/

/-- What may stand between tokens. -/
def isBlank (c : Char) : Bool := c = ' ' || c = '\t' || c = '\n' || c = '\r'

def skip (cs : List Char) : List Char := cs.dropWhile isBlank

/-- What is neither a text nor made of others. -/
def atom? : List Char → Option (Json × List Char)
  | 't' :: 'r' :: 'u' :: 'e' :: r => some (bool true, r)
  | 'f' :: 'a' :: 'l' :: 's' :: 'e' :: r => some (bool false, r)
  | 'n' :: 'u' :: 'l' :: 'l' :: r => some (null, r)
  | r => number? r

/-- The fields of an object with one more; a name that stands there keeps its place. -/
def put (done : List (String × Json)) (name : String) (v : Json) : List (String × Json) :=
  if name ∈ done.map Prod.fst then done.map fun f => if f.1 = name then (name, v) else f
  else done ++ [(name, v)]

mutual

/-- A value, with blanks in front of it. -/
def value? : Nat → List Char → Option (Json × List Char)
  | 0, _ => none
  | n + 1, cs =>
    match skip cs with
    | '"' :: r => (text? r).map fun (s, r) => (text s, r)
    | '[' :: r =>
      match skip r with
      | ']' :: r => some (array [], r)
      | r => (items? n r).map fun (xs, r) => (array xs, r)
    | '\x7b' :: r =>
      match skip r with
      | '\x7d' :: r => some (object [], r)
      | r => (fields? n [] r).map fun (fs, r) => (object fs, r)
    | r => atom? r

/-- The items of an array up to its end. -/
def items? : Nat → List Char → Option (List Json × List Char)
  | 0, _ => none
  | n + 1, cs => do
    let (x, r) ← value? n cs
    match skip r with
    | ',' :: r =>
      let (xs, r) ← items? n r
      return (x :: xs, r)
    | ']' :: r => return ([x], r)
    | _ => none

/-- The fields of an object up to its end, behind those that are done. -/
def fields? : Nat → List (String × Json) → List Char → Option (List (String × Json) × List Char)
  | 0, _, _ => none
  | n + 1, done, cs =>
    match skip cs with
    | '"' :: r => do
      let (name, r) ← text? r
      match skip r with
      | ':' :: r =>
        let (v, r) ← value? n r
        match skip r with
        | ',' :: r => fields? n (put done name v) r
        | '\x7d' :: r => return (put done name v, r)
        | _ => none
      | _ => none
    | _ => none

end

/-- Blanks alone. -/
def AreBlank (cs : List Char) : Prop := ∀ c ∈ cs, isBlank c = true

instance (cs : List Char) : Decidable (AreBlank cs) := decidable_of_iff (cs.all isBlank = true) List.all_eq_true

@[simp] theorem skip_append {bs : List Char} (hbs : AreBlank bs) (cs : List Char) : skip (bs ++ cs) = skip cs :=
  List.dropWhile_append_of_pos hbs

theorem skip_cons {c : Char} (hc : isBlank c = false) (cs : List Char) : skip (c :: cs) = c :: cs :=
  List.dropWhile_cons_of_neg (by simp [hc])

theorem exists_skip (cs : List Char) : ∃ bs, AreBlank bs ∧ cs = bs ++ skip cs :=
  ⟨cs.takeWhile isBlank, List.all_eq_true.1 List.all_takeWhile, List.takeWhile_append_dropWhile.symm⟩

/-- What may stand behind a value goes on with no number. -/
theorem ends_of_isBlank_or {c : Char} (hc : isBlank c = true ∨ c = ',' ∨ c = ']' ∨ c = '\x7d') (cs : List Char) :
    Ends (c :: cs) := by
  rintro d hd
  obtain rfl : c = d := Option.some.inj hd
  rcases hc with hc | rfl | rfl | rfl
  · rcases (by simpa [isBlank, or_assoc] using hc : c = ' ' ∨ c = '\t' ∨ c = '\n' ∨ c = '\r') with
      rfl | rfl | rfl | rfl <;> decide
  · decide
  · decide
  · decide

theorem ends_append {bs : List Char} (hbs : AreBlank bs) {cs : List Char} (hcs : Ends cs) : Ends (bs ++ cs) := by
  cases bs with
  | nil => exact hcs
  | cons b bs => exact ends_of_isBlank_or (.inl (hbs b List.mem_cons_self)) _

/-- Blanks in front of a value do not matter. -/
theorem value?_append {bs : List Char} (hbs : AreBlank bs) (n : Nat) (cs : List Char) :
    value? n (bs ++ cs) = value? n cs := by
  cases n with
  | zero => rfl
  | succ n => rw [value?, value?, skip_append hbs]

theorem items?_append {bs : List Char} (hbs : AreBlank bs) (n : Nat) (cs : List Char) :
    items? n (bs ++ cs) = items? n cs := by
  cases n with
  | zero => rfl
  | succ n => rw [items?, items?, value?_append hbs]

theorem fields?_append {bs : List Char} (hbs : AreBlank bs) (n : Nat) (done : List (String × Json))
    (cs : List Char) : fields? n done (bs ++ cs) = fields? n done cs := by
  cases n with
  | zero => rfl
  | succ n => rw [fields?, fields?, skip_append hbs]

/-! ## How values are put together -/

variable {n : Nat} {c : Char} {bs cs r rest : List Char} {x v : Json} {xs : List Json}
  {name : String} {done fs : List (String × Json)}

theorem value?_atom (hblank : isBlank c = false) (hquote : c ≠ '"') (hbracket : c ≠ '[') (hbrace : c ≠ '\x7b') :
    value? (n + 1) (c :: cs) = atom? (c :: cs) := by
  rw [value?, skip_cons hblank]
  split
  · next heq => exact absurd (List.cons.inj heq).1 hquote
  · next heq => exact absurd (List.cons.inj heq).1 hbracket
  · next heq => exact absurd (List.cons.inj heq).1 hbrace
  · rfl

/-- A number begins with a minus or with a digit. -/
theorem exists_cons_of_number? (hnumber : number? cs = some (x, rest)) :
    ∃ c r, cs = c :: r ∧ (c = '-' ∨ c.isDigit = true) := by
  cases cs with
  | nil => cases hnumber
  | cons c r =>
    refine ⟨c, r, rfl, ?_⟩
    by_contra hc
    obtain ⟨hminus, hdigit⟩ := not_or.1 hc
    have hplain : minus (c :: r) = (false, c :: r) := by
      unfold minus
      split
      · next heq => exact absurd (List.cons.inj heq).1 hminus
      · rfl
    rw [number?, hplain] at hnumber
    simp only [List.takeWhile_cons_of_neg hdigit] at hnumber
    cases hnumber

theorem value?_number (hnumber : number? cs = some (x, rest)) : value? (n + 1) cs = some (x, rest) := by
  obtain ⟨c, r, rfl, hc⟩ := exists_cons_of_number? hnumber
  have hne : ∀ d : Char, d ≠ '-' → d.isDigit = false → c ≠ d := by
    rintro d hminus hdigit rfl
    rcases hc with rfl | hc
    · exact hminus rfl
    · rw [hdigit] at hc
      cases hc
  have hblank : isBlank c = false := by
    simp [isBlank, hne ' ' (by decide) (by decide), hne '\t' (by decide) (by decide),
      hne '\n' (by decide) (by decide), hne '\r' (by decide) (by decide)]
  rw [value?_atom hblank (hne _ (by decide) (by decide)) (hne _ (by decide) (by decide))
    (hne _ (by decide) (by decide)), ← hnumber]
  unfold atom?
  split
  · next heq => exact absurd (List.cons.inj heq).1 (hne 't' (by decide) (by decide))
  · next heq => exact absurd (List.cons.inj heq).1 (hne 'f' (by decide) (by decide))
  · next heq => exact absurd (List.cons.inj heq).1 (hne 'n' (by decide) (by decide))
  · rfl

theorem value?_text (ascii : Bool) (s : String) (rest : List Char) :
    value? (n + 1) ('"' :: (s.toList.flatMap (escapeChar ascii) ++ '"' :: rest)) = some (text s, rest) := by
  rw [value?, skip_cons rfl]
  simp only [text?_escaped, Option.map_some]

/-- Items do not begin with the end of an array. -/
theorem items?_bracket : items? n (']' :: r) = none := by
  rcases n with _ | _ | n
  · rfl
  · rfl
  · have hvalue : value? (n + 1) (']' :: r) = none := by
      rw [value?_atom (by decide) (by decide) (by decide) (by decide)]
      rfl
    rw [items?, hvalue]
    rfl

theorem value?_array (hbs : AreBlank bs) (hitems : items? n cs = some (xs, rest)) :
    value? (n + 1) ('[' :: (bs ++ cs)) = some (array xs, rest) := by
  obtain ⟨bs', hbs', hcs⟩ := exists_skip cs
  rw [hcs, items?_append hbs'] at hitems
  rw [value?, skip_cons rfl]
  simp only [skip_append hbs]
  split
  · next heq =>
    rw [heq, items?_bracket] at hitems
    cases hitems
  · rw [hitems]
    rfl

/-- Fields do not begin with the end of an object. -/
theorem fields?_brace : fields? n done ('\x7d' :: r) = none := by
  cases n with
  | zero => rfl
  | succ n => rfl

theorem value?_object (hbs : AreBlank bs) (hfields : fields? n [] cs = some (fs, rest)) :
    value? (n + 1) ('\x7b' :: (bs ++ cs)) = some (object fs, rest) := by
  obtain ⟨bs', hbs', hcs⟩ := exists_skip cs
  rw [hcs, fields?_append hbs'] at hfields
  rw [value?, skip_cons rfl]
  simp only [skip_append hbs]
  split
  · next heq =>
    rw [heq, fields?_brace] at hfields
    cases hfields
  · rw [hfields]
    rfl

theorem items?_last (hvalue : value? n cs = some (x, bs ++ ']' :: rest)) (hbs : AreBlank bs) :
    items? (n + 1) cs = some ([x], rest) := by
  rw [items?, hvalue]
  simp only [Option.bind_eq_bind, Option.bind_some, skip_append hbs, skip_cons (show isBlank ']' = false from rfl)]
  rfl

theorem items?_cons (hvalue : value? n cs = some (x, ',' :: r)) (hitems : items? n r = some (xs, rest)) :
    items? (n + 1) cs = some (x :: xs, rest) := by
  rw [items?, hvalue]
  simp only [Option.bind_eq_bind, Option.bind_some, skip_cons (show isBlank ',' = false from rfl), hitems]
  rfl

theorem fields?_last (ascii : Bool) (hvalue : value? n cs = some (v, bs ++ '\x7d' :: rest)) (hbs : AreBlank bs) :
    fields? (n + 1) done ('"' :: (name.toList.flatMap (escapeChar ascii) ++ '"' :: ':' :: cs)) =
      some (put done name v, rest) := by
  rw [fields?, skip_cons rfl]
  simp only [text?_escaped, Option.bind_eq_bind, Option.bind_some, skip_cons (show isBlank ':' = false from rfl),
    hvalue, skip_append hbs, skip_cons (show isBlank '\x7d' = false from rfl)]
  rfl

theorem fields?_cons (ascii : Bool) (hvalue : value? n cs = some (v, ',' :: r))
    (hfields : fields? n (put done name v) r = some (fs, rest)) :
    fields? (n + 1) done ('"' :: (name.toList.flatMap (escapeChar ascii) ++ '"' :: ':' :: cs)) = some (fs, rest) := by
  rw [fields?, skip_cons rfl]
  simp only [text?_escaped, Option.bind_eq_bind, Option.bind_some, skip_cons (show isBlank ':' = false from rfl),
    hvalue, skip_cons (show isBlank ',' = false from rfl), hfields]

/-- Where no name stands twice, one more field goes to the end. -/
theorem put_of_nodup (hnodup : ((done ++ (name, v) :: fs).map Prod.fst).Nodup) :
    put done name v = done ++ [(name, v)] := by
  rw [put, if_neg]
  rw [List.map_append, List.map_cons] at hnodup
  exact fun hmem => List.disjoint_of_nodup_append hnodup hmem List.mem_cons_self

end Reader

/-- **The value that a text stands for**, if it is JSON. -/
def read? (s : String) : Option Json :=
  match Reader.value? (s.length + 1) s.toList with
  | some (j, rest) => if Reader.skip rest = [] then some j else none
  | none => none

example : read? " [-12, \x7b\"a\": null, \"b\": true, \"a\": \"\\ud83d\\ude00\"\x7d]" =
    some (array [int (-12), object [("a", text "😀"), ("b", bool true)]]) := by
  cbv

example : ["01", "1.", "[1,]", "NaN", "\"\\ud83d\""].map read? = List.replicate 5 none := by cbv

end ScriptGrader.Json
