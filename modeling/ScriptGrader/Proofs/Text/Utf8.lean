import Mathlib.Data.List.Basic
import ScriptGrader.Text.Utf8

/-!
# Reading what was encoded

The bytes of a text, decoded, are the text again. `exists_promises` says it of
one character beyond ASCII: its first byte promises the bytes that follow,
and these give back its code. Every reader of UTF-8 rests on it.
-/

namespace ScriptGrader.Text

/-- Listing an array of bytes takes what is left from an index on. -/
theorem listing_eq (bs : ByteArray) (i : Nat) (done : List UInt8) :
    ByteArray.toList.loop bs i done = done.reverse ++ bs.data.toList.drop i := by
  fun_induction ByteArray.toList.loop bs i done with
  | case1 i done h ih =>
    have hdrop : bs.data.toList.drop i = bs.get! i :: bs.data.toList.drop (i + 1) := by
      rw [List.drop_eq_getElem_cons (by simpa using h)]
      simp [ByteArray.get!, h]
    rw [ih, hdrop, List.reverse_cons, List.append_assoc, List.singleton_append]
  | case2 i done h =>
    have hend : bs.data.toList.drop i = [] := List.drop_eq_nil_of_le (by simpa using Nat.not_lt.1 h)
    rw [hend, List.append_nil]

/-- The bytes of a text, character by character. -/
theorem encode_eq (s : String) : encode s = s.toList.flatMap String.utf8EncodeChar := by
  have hbytes : s.toUTF8 = s.toList.utf8Encode := String.utf8Encode_toList.symm
  rw [encode, hbytes, ByteArray.toList, listing_eq, List.reverse_nil, List.nil_append, List.drop_zero]
  exact List.toList_data_toByteArray

theorem encode_ofList (cs : List Char) :
    encode (String.ofList cs) = cs.flatMap String.utf8EncodeChar := by
  rw [encode_eq, String.toList_ofList]

theorem encode_append (s t : String) : encode (s ++ t) = encode s ++ encode t := by
  rw [encode_eq, encode_eq, encode_eq, String.toList_append, List.flatMap_append]

@[simp]
theorem encode_empty : encode "" = [] := by
  rw [encode_eq]
  rfl

/-- An ASCII character is its own byte. -/
theorem encodeChar_ascii {c : Char} (h : c.toNat < 0x80) :
    String.utf8EncodeChar c = [UInt8.ofNat c.toNat] := by
  have hle : c.val.toNat ≤ 0x7f := Nat.le_of_lt_succ h
  rw [String.utf8EncodeChar]
  simp only [hle, if_true]
  rfl

/-! ## One character -/

@[simp]
theorem continuation_zero (low high code count : Nat) (r : List UInt8) :
    continuation 0 low high code count r = .ok (code, r) := by
  cases r <;> rfl

/-- A byte within its bounds adds six bits. -/
theorem continuation_succ {more low high code count : Nat} {b : UInt8} {r : List UInt8}
    (hlow : low ≤ b.toNat) (hhigh : b.toNat ≤ high) :
    continuation (more + 1) low high code count (b :: r) =
      continuation more 0x80 0xbf (code * 64 + (b.toNat - 0x80)) (count + 1) r := by
  rw [continuation]
  simp [hlow, hhigh]

theorem toNat_ofNat_of_lt {n : Nat} (h : n < 256) : (UInt8.ofNat n).toNat = n :=
  Nat.mod_eq_of_lt h

/-- A byte that continues a character. -/
theorem toNat_tail (n : Nat) : (UInt8.ofNat (n % 64 + 0x80)).toNat = n % 64 + 0x80 :=
  toNat_ofNat_of_lt (by omega)

/-- What a first byte promises, as a statement about the bytes behind it. -/
def Promises (b : UInt8) (rest : List UInt8) (code : Nat) : Prop :=
  0x80 ≤ b.toNat ∧ ∃ low high bits, leadByte? b = some (rest.length, low, high, bits) ∧
    ∀ r, continuation rest.length low high bits 1 (rest ++ r) = .ok (code, r)

theorem promises_two {v : Nat} (hlow : 0x80 ≤ v) (hhigh : v ≤ 0x7ff) :
    Promises (UInt8.ofNat (v / 64 % 0x20 + 0xc0)) [UInt8.ofNat (v % 64 + 0x80)] v := by
  have hb : (UInt8.ofNat (v / 64 % 0x20 + 0xc0)).toNat = v / 64 + 0xc0 := by
    rw [toNat_ofNat_of_lt (by omega)]
    omega
  have ht := toNat_tail v
  refine ⟨by omega, 0x80, 0xbf, v / 64, ?_, fun r => ?_⟩
  · rw [leadByte?, hb]
    simp only [List.length_singleton]
    rw [if_neg (by omega), if_pos (by omega), Nat.add_sub_cancel]
  · rw [List.length_singleton, List.singleton_append, continuation_succ (by omega) (by omega),
      continuation_zero, ht]
    have hcode : v / 64 * 64 + (v % 64 + 0x80 - 0x80) = v := by omega
    rw [hcode]

/-- The bounds of a second byte keep out what shorter forms have, the
surrogates, and what is beyond the last character. -/
theorem promises_three {v : Nat} (hlow : 0x800 ≤ v) (hhigh : v ≤ 0xffff)
    (hvalid : v < 0xd800 ∨ 0xdfff < v) :
    Promises (UInt8.ofNat (v / 4096 % 0x10 + 0xe0))
      [UInt8.ofNat (v / 64 % 64 + 0x80), UInt8.ofNat (v % 64 + 0x80)] v := by
  have hb : (UInt8.ofNat (v / 4096 % 0x10 + 0xe0)).toNat = v / 4096 + 0xe0 := by
    rw [toNat_ofNat_of_lt (by omega)]
    omega
  have ht := toNat_tail v
  have hs := toNat_tail (v / 64)
  have hcode : (v / 4096 * 64 + (v / 64 % 64 + 0x80 - 0x80)) * 64 + (v % 64 + 0x80 - 0x80) = v := by
    omega
  have hread : ∀ low high r, low ≤ v / 64 % 64 + 0x80 → v / 64 % 64 + 0x80 ≤ high →
      continuation 2 low high (v / 4096) 1
        ([UInt8.ofNat (v / 64 % 64 + 0x80), UInt8.ofNat (v % 64 + 0x80)] ++ r) = .ok (v, r) := by
    intro low high r hl hh
    rw [List.cons_append, List.singleton_append, continuation_succ (by omega) (by omega),
      continuation_succ (by omega) (by omega), continuation_zero, hs, ht, hcode]
  refine ⟨by omega, ?_⟩
  rw [leadByte?, hb]
  simp only [List.length_cons, List.length_nil, Nat.zero_add, Nat.reduceAdd]
  rw [if_neg (by omega), if_neg (by omega)]
  -- two first bytes bound the second one further, all others leave it free
  by_cases h0 : v / 4096 = 0
  · have hzero : v / 4096 + 0xe0 = 0xe0 := by omega
    rw [if_pos hzero]
    refine ⟨_, _, _, rfl, fun r => ?_⟩
    rw [← h0]
    exact hread _ _ r (by omega) (by omega)
  rw [if_neg (by omega)]
  by_cases hd : v / 4096 = 0xd
  · have hsurrogate : v / 4096 + 0xe0 = 0xed := by omega
    rw [if_pos hsurrogate]
    refine ⟨_, _, _, rfl, fun r => ?_⟩
    rw [← hd]
    exact hread _ _ r (by omega) (by omega)
  rw [if_neg (by omega), if_pos (by omega), Nat.add_sub_cancel]
  exact ⟨_, _, _, rfl, fun r => hread _ _ r (by omega) (by omega)⟩

theorem promises_four {v : Nat} (hlow : 0x10000 ≤ v) (hhigh : v ≤ 0x10ffff) :
    Promises (UInt8.ofNat (v / 262144 % 0x08 + 0xf0))
      [UInt8.ofNat (v / 4096 % 64 + 0x80), UInt8.ofNat (v / 64 % 64 + 0x80),
        UInt8.ofNat (v % 64 + 0x80)] v := by
  have hb : (UInt8.ofNat (v / 262144 % 0x08 + 0xf0)).toNat = v / 262144 + 0xf0 := by
    rw [toNat_ofNat_of_lt (by omega)]
    omega
  have ht := toNat_tail v
  have hs := toNat_tail (v / 64)
  have hr := toNat_tail (v / 4096)
  have hcode : ((v / 262144 * 64 + (v / 4096 % 64 + 0x80 - 0x80)) * 64 +
      (v / 64 % 64 + 0x80 - 0x80)) * 64 + (v % 64 + 0x80 - 0x80) = v := by
    omega
  have hread : ∀ low high r, low ≤ v / 4096 % 64 + 0x80 → v / 4096 % 64 + 0x80 ≤ high →
      continuation 3 low high (v / 262144) 1
        ([UInt8.ofNat (v / 4096 % 64 + 0x80), UInt8.ofNat (v / 64 % 64 + 0x80),
          UInt8.ofNat (v % 64 + 0x80)] ++ r) = .ok (v, r) := by
    intro low high r hl hh
    rw [List.cons_append, List.cons_append, List.singleton_append,
      continuation_succ (by omega) (by omega), continuation_succ (by omega) (by omega),
      continuation_succ (by omega) (by omega), continuation_zero, hr, hs, ht, hcode]
  refine ⟨by omega, ?_⟩
  rw [leadByte?, hb]
  simp only [List.length_cons, List.length_nil, Nat.zero_add, Nat.reduceAdd]
  rw [if_neg (by omega), if_neg (by omega), if_neg (by omega), if_neg (by omega), if_neg (by omega)]
  -- again the first and the last of the first bytes bound the second one further
  by_cases h0 : v / 262144 = 0
  · have hzero : v / 262144 + 0xf0 = 0xf0 := by omega
    rw [if_pos hzero]
    refine ⟨_, _, _, rfl, fun r => ?_⟩
    rw [← h0]
    exact hread _ _ r (by omega) (by omega)
  rw [if_neg (by omega)]
  by_cases h4 : v / 262144 = 4
  · have hlast : v / 262144 + 0xf0 = 0xf4 := by omega
    rw [if_neg (by omega), if_pos hlast]
    refine ⟨_, _, _, rfl, fun r => ?_⟩
    rw [← h4]
    exact hread _ _ r (by omega) (by omega)
  rw [if_pos (by omega), Nat.add_sub_cancel]
  exact ⟨_, _, _, rfl, fun r => hread _ _ r (by omega) (by omega)⟩

/-- **The bytes of a character** beyond ASCII: the first one promises the others. -/
theorem exists_promises {c : Char} (h : 0x80 ≤ c.toNat) :
    ∃ b rest, String.utf8EncodeChar c = b :: rest ∧ Promises b rest c.toNat := by
  have hvalid : c.toNat < 0xd800 ∨ 0xdfff < c.toNat ∧ c.toNat < 0x110000 := c.valid
  have hval : c.val.toNat = c.toNat := rfl
  rw [String.utf8EncodeChar]
  simp only [hval]
  rw [if_neg (by omega)]
  -- one case for each length
  split
  · exact ⟨_, _, rfl, promises_two h ‹_›⟩
  · split
    · exact ⟨_, _, rfl, promises_three (by omega) ‹_› (by omega)⟩
    · exact ⟨_, _, rfl, promises_four (by omega) (by omega)⟩

/-! ## Whole texts -/

/-- Decoding takes a character off the front, and a step of fuel. -/
theorem decodeFrom_go_char (c : Char) (fuel position : Nat) (r : List UInt8) (done : List Char) :
    decodeFrom.go (fuel + 1) position (String.utf8EncodeChar c ++ r) done =
      decodeFrom.go fuel (position + (String.utf8EncodeChar c).length) r (c :: done) := by
  rcases Nat.lt_or_ge c.toNat 0x80 with h | h
  · have hb : (UInt8.ofNat c.toNat).toNat = c.toNat := toNat_ofNat_of_lt (by omega)
    rw [encodeChar_ascii h, List.singleton_append, decodeFrom.go, hb, if_pos h, Char.ofNat_toNat]
    rfl
  · obtain ⟨b, rest, hc, hb, low, high, bits, hlead, hread⟩ := exists_promises h
    rw [hc, List.cons_append, decodeFrom.go, if_neg (by omega)]
    simp only [hlead, hread r, Char.ofNat_toNat, List.length_cons, Nat.add_assoc]

theorem decodeFrom_go_encoded (cs : List Char) (fuel position : Nat) (done : List Char)
    (hfuel : (cs.flatMap String.utf8EncodeChar).length ≤ fuel) :
    decodeFrom.go fuel position (cs.flatMap String.utf8EncodeChar) done = .ok (done.reverse ++ cs) := by
  induction cs generalizing fuel position done with
  | nil => simp [decodeFrom.go]
  | cons c cs ih =>
    have hpos : 0 < (String.utf8EncodeChar c).length := by
      rw [String.length_utf8EncodeChar]
      exact c.utf8Size_pos
    rw [List.flatMap_cons, List.length_append] at hfuel
    obtain ⟨fuel, rfl⟩ : ∃ n, fuel = n + 1 := ⟨fuel - 1, by omega⟩
    rw [List.flatMap_cons, decodeFrom_go_char, ih _ _ _ (by omega), List.reverse_cons,
      List.append_assoc, List.singleton_append]

theorem decodeFrom_encode (s : String) : decodeFrom 0 (encode s) = .ok s.toList := by
  rw [decodeFrom, encode_eq, decodeFrom_go_encoded _ _ _ _ (Nat.le_refl _)]
  rfl

/-- **Decoding undoes encoding.** -/
theorem decode_encode (s : String) : decode (encode s) = .ok s := by
  rw [decode, decodeFrom_encode, Except.map, String.ofList_toList]

/-- So different texts have different bytes. -/
theorem encode_inj {s t : String} : encode s = encode t ↔ s = t := by
  refine ⟨fun h => ?_, fun h => h ▸ rfl⟩
  have hdecode := decode_encode s
  rw [h, decode_encode] at hdecode
  exact (Except.ok.inj hdecode).symm

end ScriptGrader.Text
