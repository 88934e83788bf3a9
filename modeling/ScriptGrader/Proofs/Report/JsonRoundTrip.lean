import ScriptGrader.Proofs.Report.JsonReading
import ScriptGrader.Proofs.Report.Total
import ScriptGrader.Report.Bundle

/-!
# JSON that is written is read back

Whatever the layout, a value that is written comes back when its text is
read: the same names in the same order, the same texts, and numbers that
stay what they are, integers or doubles. Each value is read in front of
anything that does not go on with it, so values are put together from their
parts. A bundle is such a value.
-/

namespace ScriptGrader

namespace Json

open Reader (AreBlank Ends ends_of_isBlank_or ends_append value? items? fields? put)

namespace Style

/-- Commas, colons and lines are of no more than blanks beside themselves. -/
structure IsPlain (s : Style) : Prop where
  comma : ∃ bs, s.comma.toList = ',' :: bs ∧ AreBlank bs
  colon : ∃ bs, s.colon.toList = ':' :: bs ∧ AreBlank bs
  indent : ∀ unit ∈ s.indent, AreBlank unit.toList

variable {s : Style}

theorem areBlank_join {unit : String} (hunit : AreBlank unit.toList) (depth : Nat) :
    AreBlank (String.join (List.replicate depth unit)).toList := by
  intro c hc
  rw [String.toList_join, List.mem_flatMap] at hc
  obtain ⟨t, ht, hc⟩ := hc
  rw [List.eq_of_mem_replicate ht] at hc
  exact hunit c hc

theorem IsPlain.areBlank_newline (hs : s.IsPlain) (depth : Nat) : AreBlank (s.newline depth).toList := by
  rw [newline]
  split
  · exact fun c hc => by simp at hc
  · next unit hunit =>
    intro c hc
    rw [String.toList_append, List.mem_append] at hc
    rcases hc with hc | hc
    · obtain rfl : c = '\n' := List.mem_singleton.1 hc
      rfl
    · exact areBlank_join (hs.indent unit hunit) depth c hc

theorem IsPlain.exists_separator (hs : s.IsPlain) (depth : Nat) :
    ∃ bs, (s.separator depth).toList = ',' :: bs ∧ AreBlank bs := by
  rw [separator]
  split
  · exact hs.comma
  · next unit hunit =>
    refine ⟨'\n' :: (String.join (List.replicate depth unit)).toList, ?_, ?_⟩
    · rw [String.toList_append]
      rfl
    · intro c hc
      rcases List.mem_cons.1 hc with rfl | hc
      · rfl
      · exact areBlank_join (hs.indent unit hunit) depth c hc

end Style

/-! ## What is read back -/

/-- What is read back: doubles are finite and their texts read back, and no
name stands twice in an object. -/
inductive IsReadable : Json → Prop
  | null : IsReadable null
  | bool (b : Bool) : IsReadable (bool b)
  | int (k : Int) : IsReadable (int k)
  | float {x : Binary64} (hx : x.isFinite = true)
      (hback : Numeral.binary64? (Layout.json.binary64 x) = some x) : IsReadable (float x)
  | text (t : String) : IsReadable (text t)
  | array {xs : List Json} (hxs : ∀ x ∈ xs, IsReadable x) : IsReadable (array xs)
  | object {fs : List (String × Json)} (hnodup : (fs.map Prod.fst).Nodup) (hfs : ∀ f ∈ fs, IsReadable f.2) :
      IsReadable (object fs)

theorem toList_quoted (ascii : Bool) (t : String) :
    (quoted ascii t).toList = '"' :: (t.toList.flatMap (escapeChar ascii) ++ ['"']) := by
  rw [quoted, String.toList_ofList]
  rfl

theorem toList_intercalate_cons_cons (sep x y : String) (ts : List String) :
    (sep.intercalate (x :: y :: ts)).toList =
      x.toList ++ (sep.toList ++ (sep.intercalate (y :: ts)).toList) := by
  simp only [String.toList_intercalate, List.map_cons, List.intercalate_cons_cons, List.append_assoc]

variable {s : Style}

theorem toList_render_array (depth : Nat) (x : Json) (xs : List Json) :
    ((array (x :: xs)).render s depth).toList =
      '[' :: ((s.newline (depth + 1)).toList ++ (((s.separator (depth + 1)).intercalate
        (renderItems s (depth + 1) (x :: xs))).toList ++ ((s.newline depth).toList ++ [']']))) := by
  rw [render.eq_7 s depth _ (by simp)]
  simp only [String.toList_append, List.append_assoc]
  rfl

theorem toList_render_object (depth : Nat) (f : String × Json) (fs : List (String × Json)) :
    ((object (f :: fs)).render s depth).toList =
      '\x7b' :: ((s.newline (depth + 1)).toList ++ (((s.separator (depth + 1)).intercalate
        (renderFields s (depth + 1) (f :: fs))).toList ++ ((s.newline depth).toList ++ ['\x7d']))) := by
  rw [render.eq_9 s depth _ (by simp)]
  simp only [String.toList_append, List.append_assoc]
  rfl

theorem renderFields_cons (depth : Nat) (f : String × Json) (fs : List (String × Json)) :
    renderFields s depth (f :: fs) =
      (quoted s.ascii f.1 ++ s.colon ++ render s depth f.2) :: renderFields s depth fs := by
  rw [renderFields]

theorem toList_field (depth : Nat) (f : String × Json) :
    (quoted s.ascii f.1 ++ s.colon ++ render s depth f.2).toList =
      '"' :: (f.1.toList.flatMap (escapeChar s.ascii) ++ '"' :: (s.colon.toList ++ (render s depth f.2).toList)) := by
  simp only [String.toList_append, toList_quoted, List.cons_append, List.append_assoc, List.nil_append]

/-- A value at a depth is read as another one, with steps to spare and
whatever stands behind it. One step for each character is more than enough:
each token takes one at most, and has a character of its own. -/
def ReadsAs (s : Style) (depth : Nat) (j j' : Json) : Prop :=
  ∀ ⦃n : Nat⦄ ⦃rest : List Char⦄, (j.render s depth).toList.length ≤ n → Ends rest →
    value? (n + 1) ((j.render s depth).toList ++ rest) = some (j', rest)

/-- A value at a depth is read as it was written. -/
def ReadsBack (s : Style) (depth : Nat) (j : Json) : Prop :=
  ∀ ⦃n : Nat⦄ ⦃rest : List Char⦄, (j.render s depth).toList.length ≤ n → Ends rest →
    value? (n + 1) ((j.render s depth).toList ++ rest) = some (j, rest)

theorem readsBack_iff {depth : Nat} {j : Json} : ReadsBack s depth j ↔ ReadsAs s depth j j := Iff.rfl

/-- A field is read under its name. -/
def FieldReadsAs (s : Style) (depth : Nat) (f f' : String × Json) : Prop :=
  f'.1 = f.1 ∧ ReadsAs s depth f.2 f'.2

/-- Items that are read one by one are read together. -/
theorem items?_render (hs : s.IsPlain) {depth : Nat} {x y : Json} {xs ys : List Json}
    (hx : ReadsAs s depth x y) (hxs : List.Forall₂ (ReadsAs s depth) xs ys) {n : Nat}
    (hn : ((s.separator depth).intercalate (renderItems s depth (x :: xs))).toList.length ≤ n)
    {bs : List Char} (hbs : AreBlank bs) (rest : List Char) :
    items? (n + 2) (((s.separator depth).intercalate (renderItems s depth (x :: xs))).toList ++ (bs ++ ']' :: rest)) =
      some (y :: ys, rest) := by
  induction hxs generalizing x y n with
  | nil =>
    rw [renderItems, renderItems, String.intercalate_singleton] at hn ⊢
    refine Reader.items?_last (hx hn (ends_append hbs ?_)) hbs
    exact ends_of_isBlank_or (.inr (.inr (.inl rfl))) _
  | cons hx' _ ih =>
    obtain ⟨bs', hseparator, hbs'⟩ := hs.exists_separator depth
    rw [renderItems, renderItems, toList_intercalate_cons_cons, ← renderItems, hseparator] at hn ⊢
    simp only [List.length_append, List.length_cons] at hn
    obtain ⟨n, rfl⟩ : ∃ m, n = m + 1 := ⟨n - 1, by omega⟩
    have hitems := ih hx' (by omega : _ ≤ n)
    rw [← Reader.items?_append hbs'] at hitems
    simp only [List.cons_append, List.append_assoc]
    exact Reader.items?_cons (hx (by omega) (ends_of_isBlank_or (.inr (.inl rfl)) _)) hitems

/-- Fields that are read one by one are read together, behind those that are done. -/
theorem fields?_render (hs : s.IsPlain) {depth : Nat} {f g : String × Json} {fs gs done : List (String × Json)}
    (hf : FieldReadsAs s depth f g) (hfs : List.Forall₂ (FieldReadsAs s depth) fs gs)
    (hnodup : ((done ++ g :: gs).map Prod.fst).Nodup) {n : Nat}
    (hn : ((s.separator depth).intercalate (renderFields s depth (f :: fs))).toList.length ≤ n)
    {bs : List Char} (hbs : AreBlank bs) (rest : List Char) :
    fields? (n + 2) done (((s.separator depth).intercalate (renderFields s depth (f :: fs))).toList ++
      (bs ++ '\x7d' :: rest)) = some (done ++ g :: gs, rest) := by
  obtain ⟨bs', hcolon, hbs'⟩ := hs.colon
  induction hfs generalizing f g done n with
  | nil =>
    rw [renderFields_cons, renderFields, String.intercalate_singleton, toList_field, hcolon] at hn ⊢
    simp only [List.length_cons, List.length_append] at hn
    simp only [List.cons_append, List.append_assoc]
    rw [← Reader.put_of_nodup hnodup, hf.1]
    refine Reader.fields?_last s.ascii ?_ hbs
    rw [Reader.value?_append hbs']
    exact hf.2 (by omega) (ends_append hbs (ends_of_isBlank_or (.inr (.inr (.inr rfl))) _))
  | @cons f' g' fs gs hf' _ ih =>
    obtain ⟨bs'', hseparator, hbs''⟩ := hs.exists_separator depth
    rw [renderFields_cons, renderFields_cons, toList_intercalate_cons_cons, ← renderFields_cons, toList_field,
      hcolon, hseparator] at hn ⊢
    simp only [List.length_cons, List.length_append] at hn
    obtain ⟨n, rfl⟩ : ∃ m, n = m + 1 := ⟨n - 1, by omega⟩
    have hput : put done f.1 g.2 = done ++ [g] := hf.1 ▸ Reader.put_of_nodup hnodup
    have hnodup' : ((done ++ [g] ++ g' :: gs).map Prod.fst).Nodup := by
      rw [List.append_assoc]
      exact hnodup
    have hfields := ih hf' hnodup' (by omega : _ ≤ n)
    -- the reader puts the field in, the recursion has it at the end already
    rw [List.append_assoc, List.singleton_append, ← hput, ← Reader.fields?_append hbs''] at hfields
    simp only [List.cons_append, List.append_assoc]
    refine Reader.fields?_cons s.ascii ?_ hfields
    rw [Reader.value?_append hbs']
    exact hf.2 (by omega) (ends_of_isBlank_or (.inr (.inl rfl)) _)

namespace ReadsAs

variable {depth : Nat} {xs ys : List Json} {fs gs : List (String × Json)}

theorem null : ReadsAs s depth null null := by
  intro n rest hn hrest
  rw [render]
  rfl

theorem bool (b : Bool) : ReadsAs s depth (bool b) (bool b) := by
  intro n rest hn hrest
  rw [render]
  cases b with
  | true => rfl
  | false => rfl

theorem int (k : Int) : ReadsAs s depth (int k) (int k) := by
  intro n rest hn hrest
  rw [render]
  exact Reader.value?_number (Reader.number?_int k hrest)

/-- A double is read as what its text stands for. -/
theorem float {x y : Binary64} (hx : x.isFinite = true)
    (hback : Numeral.binary64? (Layout.json.binary64 x) = some y) : ReadsAs s depth (float x) (float y) := by
  intro n rest hn hrest
  rw [render]
  exact Reader.value?_number (Reader.number?_float hx hback hrest)

theorem text (t : String) : ReadsAs s depth (text t) (text t) := by
  intro n rest hn hrest
  rw [render, toList_quoted, List.cons_append, List.append_assoc]
  exact Reader.value?_text s.ascii t rest

theorem array (hs : s.IsPlain) (hxs : List.Forall₂ (ReadsAs s (depth + 1)) xs ys) :
    ReadsAs s depth (array xs) (array ys) := by
  intro n rest hn hrest
  cases hxs with
  | nil =>
    rw [render]
    rfl
  | cons hx hxs =>
    rw [toList_render_array] at hn ⊢
    simp only [List.length_cons, List.length_append, List.length_nil] at hn
    obtain ⟨n, rfl⟩ : ∃ m, n = m + 2 := ⟨n - 2, by omega⟩
    simp only [List.cons_append, List.append_assoc, List.nil_append]
    refine Reader.value?_array (hs.areBlank_newline (depth + 1)) ?_
    exact items?_render hs hx hxs (by omega) (hs.areBlank_newline depth) rest

theorem object (hs : s.IsPlain) (hnodup : (gs.map Prod.fst).Nodup)
    (hfs : List.Forall₂ (FieldReadsAs s (depth + 1)) fs gs) : ReadsAs s depth (object fs) (object gs) := by
  intro n rest hn hrest
  cases hfs with
  | nil =>
    rw [render]
    rfl
  | cons hf hfs =>
    rw [toList_render_object] at hn ⊢
    simp only [List.length_cons, List.length_append, List.length_nil] at hn
    obtain ⟨n, rfl⟩ : ∃ m, n = m + 2 := ⟨n - 2, by omega⟩
    simp only [List.cons_append, List.append_assoc, List.nil_append]
    refine Reader.value?_object (hs.areBlank_newline (depth + 1)) ?_
    exact fields?_render hs hf hfs hnodup (by omega) (hs.areBlank_newline depth) rest

/-- Fields whose values are read as something, each under its name. -/
theorem exists_forall₂_fields (hfs : ∀ f ∈ fs, ∃ v, ReadsAs s depth f.2 v) :
    ∃ gs, gs.map Prod.fst = fs.map Prod.fst ∧ List.Forall₂ (FieldReadsAs s depth) fs gs := by
  induction fs with
  | nil => exact ⟨[], rfl, .nil⟩
  | cons f fs ih =>
    obtain ⟨v, hv⟩ := hfs f List.mem_cons_self
    obtain ⟨gs, hnames, hgs⟩ := ih fun g hg => hfs g (List.mem_cons_of_mem f hg)
    exact ⟨(f.1, v) :: gs, by rw [List.map_cons, List.map_cons, hnames], .cons ⟨rfl, hv⟩ hgs⟩

/-- Such an object is read as an object. -/
theorem exists_object (hs : s.IsPlain) (hnodup : (fs.map Prod.fst).Nodup)
    (hfs : ∀ f ∈ fs, ∃ v, ReadsAs s (depth + 1) f.2 v) : ∃ gs, ReadsAs s depth (.object fs) (.object gs) := by
  obtain ⟨gs, hnames, hgs⟩ := exists_forall₂_fields hfs
  exact ⟨gs, object hs (hnames ▸ hnodup) hgs⟩

/-- **A JSON text stands for the value that it is read as.** -/
theorem read?_render {j j' : Json} (h : ReadsAs s 0 j j') : read? (j.render s 0) = some j' := by
  have hend : Ends [] := fun c hc => by cases hc
  have hvalue := h (Nat.le_refl _) hend
  rw [List.append_nil, String.length_toList] at hvalue
  rw [read?, hvalue]
  rfl

end ReadsAs

/-- **What is written is read back**, whatever its layout. -/
theorem IsReadable.readsBack (hs : s.IsPlain) {j : Json} (hj : j.IsReadable) (depth : Nat) : ReadsBack s depth j := by
  -- by induction on why it is readable: items and fields come with their own round trips, at every depth
  rw [readsBack_iff]
  induction hj generalizing depth with
  | null => exact .null
  | bool b => exact .bool b
  | int k => exact .int k
  | float hx hback => exact .float hx hback
  | text t => exact .text t
  | array hxs ih => exact .array hs (List.forall₂_same.2 fun x hx => ih x hx (depth + 1))
  | object hnodup hfs ih => exact .object hs hnodup (List.forall₂_same.2 fun f hf => ⟨rfl, ih f hf (depth + 1)⟩)

/-- **A JSON text stands for the value it was written for.** -/
theorem IsReadable.read?_render (hs : s.IsPlain) {j : Json} (hj : j.IsReadable) : read? (j.render s 0) = some j :=
  (readsBack_iff.1 (hj.readsBack hs 0)).read?_render

/-! ## Texts that are asked for -/

/-- An indentation of blanks: none, so many, or these. -/
def IsBlankIndent (indent : Value) : Prop :=
  indent = .null ∨ (∃ n, indent.integer? = some n ∧ isCount n = true) ∨
    ∃ t, indent = .text t ∧ AreBlank t.toList

theorem isPlain_report {unit : Option String} (hunit : ∀ t ∈ unit, AreBlank t.toList) :
    (Style.report unit).IsPlain where
  comma := ⟨[' '], show ", ".toList = [',', ' '] from rfl, by decide⟩
  colon := ⟨[' '], show ": ".toList = [':', ' '] from rfl, by decide⟩
  indent := hunit

theorem indentOf?_of_integer {indent : Value} {n : Int} (hn : indent.integer? = some n) (hcount : isCount n = true) :
    indentOf? indent = .ok (some (String.ofList (List.replicate n.toNat ' '))) := by
  unfold indentOf?
  split
  · cases hn
  · cases hn
  · simp only [hn, if_pos hcount]

theorem exists_indentOf?_eq_ok {indent : Value} (hindent : IsBlankIndent indent) :
    ∃ unit, indentOf? indent = .ok unit ∧ (Style.report unit).IsPlain := by
  rcases hindent with rfl | ⟨n, hn, hcount⟩ | ⟨t, rfl, ht⟩
  · exact ⟨none, rfl, isPlain_report fun t ht => by cases ht⟩
  · refine ⟨some (String.ofList (List.replicate n.toNat ' ')), ?_, isPlain_report ?_⟩
    · exact indentOf?_of_integer hn hcount
    · rintro t ht c hc
      cases ht
      rw [String.toList_ofList] at hc
      rw [List.eq_of_mem_replicate hc]
      rfl
  · exact ⟨some t, rfl, isPlain_report fun u hu => by cases hu; exact ht⟩

/-- A text that is asked for stands for the value it was written for. -/
theorem IsReadable.exists_text? {j : Json} (hj : j.IsReadable) (hwritable : j.toValue.isWritable = true)
    {indent : Value} (hindent : IsBlankIndent indent) :
    ∃ text, j.text? indent = .ok text ∧ read? text = some j := by
  obtain ⟨unit, hunit, hplain⟩ := exists_indentOf?_eq_ok hindent
  refine ⟨j.render (.report unit) 0, ?_, hj.read?_render hplain⟩
  rw [text?, hunit]
  simp [Except.mapError, bind, Except.bind, hwritable, pure, Except.pure]

end Json

/-! ## Bundles -/

/-- A score whose text is read back: an integer that is not too long to be
written, or a finite double whose text reads back. -/
def Score.IsReadable : Score → Prop
  | .flag _ => True
  | .whole n => n.natAbs < Value.unwritten
  | .binary x => x.isFinite = true ∧ Numeral.binary64? (Layout.json.binary64 x) = some x

instance : DecidablePred Score.IsReadable
  | .flag _ => inferInstanceAs (Decidable True)
  | .whole n => inferInstanceAs (Decidable (n.natAbs < Value.unwritten))
  | .binary x => inferInstanceAs
      (Decidable (x.isFinite = true ∧ Numeral.binary64? (Layout.json.binary64 x) = some x))

theorem Score.IsReadable.toJson {s : Score} (hs : s.IsReadable) : s.toJson.IsReadable := by
  cases s with
  | flag b => exact .bool b
  | whole n => exact .int n
  | binary x => exact .float hs.1 hs.2

theorem Score.IsReadable.isWritable {s : Score} (hs : s.IsReadable) : s.toJson.toValue.isWritable = true := by
  cases s with
  | flag b => rfl
  | whole n =>
    rw [Score.IsReadable] at hs
    simp only [Score.toJson, Json.toValue, Value.isWritable, hs, decide_true]
  | binary x => rfl

namespace Record

/-- A record whose scores are read back. -/
def IsReadable (r : Record) : Prop := r.maxScore.IsReadable ∧ r.earnedScore.IsReadable

instance : DecidablePred IsReadable := fun r =>
  inferInstanceAs (Decidable (r.maxScore.IsReadable ∧ r.earnedScore.IsReadable))

theorem IsReadable.toJson {r : Record} (hr : r.IsReadable) : r.toJson.IsReadable := by
  refine .object (by simp) fun f hf => ?_
  simp only [List.mem_cons, List.not_mem_nil, or_false] at hf
  rcases hf with rfl | rfl | rfl | rfl | rfl | rfl | rfl
  · exact .text _
  · exact .text _
  · exact hr.1.toJson
  · exact hr.2.toJson
  · exact .text _
  · exact .bool _
  · exact .text _

theorem IsReadable.isWritable {r : Record} (hr : r.IsReadable) : r.toJson.toValue.isWritable = true := by
  simp [Record.toJson, Json.toValue, Json.toEntries, Value.isWritable, Value.entriesAreWritable,
    hr.1.isWritable, hr.2.isWritable]

end Record

namespace Bundle

variable {b : Bundle}

theorem isReadable_toJson (hb : ∀ r ∈ b.records, r.IsReadable) : b.toJson.IsReadable := by
  have hresults : (Json.object (b.items.map fun x => (x.1, x.2.toJson))).IsReadable := by
    refine .object ?_ ?_
    · rw [List.map_map]
      exact b.nodup
    · intro f hf
      obtain ⟨x, hx, rfl⟩ := List.mem_map.1 hf
      exact (hb x.2 (List.mem_map_of_mem hx)).toJson
  refine .object (by simp) fun f hf => ?_
  simp only [List.mem_cons, List.not_mem_nil, or_false] at hf
  rcases hf with rfl | rfl
  · exact hresults
  · exact .text _

theorem isWritable_toJson (hb : ∀ r ∈ b.records, r.IsReadable) : b.toJson.toValue.isWritable = true := by
  have hentries : ∀ items : List (String × Record), (∀ x ∈ items, x.2.IsReadable) →
      Value.entriesAreWritable (Json.toEntries (items.map fun x => (x.1, x.2.toJson))) = true := by
    intro items hitems
    induction items with
    | nil => rfl
    | cons x items ih =>
      have hx := (hitems x List.mem_cons_self).isWritable
      have hrest := ih fun y hy => hitems y (List.mem_cons_of_mem x hy)
      simp [Json.toEntries, Value.entriesAreWritable, Value.isWritable, hx, hrest]
  have hitems := hentries b.items fun x hx => hb x.2 (List.mem_map_of_mem hx)
  simp [Bundle.toJson, Json.toValue, Json.toEntries, Value.isWritable, Value.entriesAreWritable, hitems]

/-- **The text of a bundle is JSON and stands for what the bundle shows**:
whatever its names, texts and keys are made of, on one line or indented with
blanks, the same records come back under the same keys in the same order,
integers as integers and doubles as doubles. -/
theorem jsonText?_reads_back (hb : ∀ r ∈ b.records, r.IsReadable) {indent : Value}
    (hindent : Json.IsBlankIndent indent) :
    ∃ text, b.jsonText? indent = .ok text ∧ Json.read? text = some b.toJson :=
  (isReadable_toJson hb).exists_text? (isWritable_toJson hb) hindent

/-- A failed check of a score, with feedback. -/
def failedRecord (feedback : String) (score : Score) (hfeedback : feedback ≠ "")
    (hscore : (Score.whole 0).same score = false) : Record :=
  ⟨"A", .boundary, score, .points (.whole 0), .fail, true, feedback, rfl, hscore.symm,
    (decide_eq_false hfeedback).symm⟩

/-- Hard texts, an integer that no double is and the double nearest to a tenth. -/
def hardBundle : Bundle :=
  ⟨[("", failedRecord "\"\\\n\x01\x7f" (.whole (-0x20000000000001)) (by decide) (by decide)),
    ("é😀", failedRecord "\u2028" (.binary (.finite (3602879701896397 / 36028797018963968))) (by decide)
      (by decide +kernel))], "m", by decide⟩

/-- **Hard texts and numbers come back** from a text with two blanks for each level. -/
theorem hard_bundle_reads_back :
    (∀ r ∈ hardBundle.records, r.IsReadable) ∧ Json.IsBlankIndent (.int 2) ∧
      ∃ text, hardBundle.jsonText? (.int 2) = .ok text ∧ Json.read? text = some hardBundle.toJson := by
  have hreadable : ∀ r ∈ hardBundle.records, r.IsReadable := by decide +kernel
  have hindent : Json.IsBlankIndent (.int 2) := .inr (.inl ⟨2, rfl, by decide⟩)
  exact ⟨hreadable, hindent, jsonText?_reads_back hreadable hindent⟩

/-- One failed check with an integer score. -/
def wholeBundle (n : Int) (hn : n ≠ 0) : Bundle :=
  ⟨[("k", failedRecord "B" (.whole n) (by decide) (by simpa [Score.same, Score.integer?] using hn.symm))], "",
    List.nodup_singleton "k"⟩

theorem isWritable_wholeBundle {n : Int} (hn : n ≠ 0) (hlong : Value.unwritten ≤ n.natAbs) :
    (wholeBundle n hn).toJson.toValue.isWritable = false := by
  simp [wholeBundle, toJson, Record.toJson, failedRecord, Record.earnedScore, Earned.score, Score.toJson,
    Json.toValue, Json.toEntries, Value.isWritable, Value.entriesAreWritable, Nat.not_lt.2 hlong]

/-- **Not every number can be asked for or written**: an integer that does not
fit is no indentation, though it would ask for no blanks, and a score with more
digits than are written leaves no text at all. -/
theorem not_forall_jsonText?_reads_back :
    (¬ ∀ (b : Bundle) (n : Int), (∀ r ∈ b.records, r.IsReadable) →
      ∃ text, b.jsonText? (.int n) = .ok text ∧ Json.read? text = some b.toJson) ∧
    (¬ ∀ b : Bundle, (∀ r ∈ b.records, ∃ m n : Int, r.maxScore = .whole m ∧ r.earnedScore = .whole n) →
      ∃ text, b.jsonText? .null = .ok text ∧ Json.read? text = some b.toJson) := by
  refine ⟨fun h => ?_, fun h => ?_⟩
  · obtain ⟨text, htext, -⟩ := h ⟨[], "", by decide⟩ (-2 ^ 63 - 1) (by decide)
    cases htext
  · have hn : (Value.unwritten : Int) ≠ 0 := Int.natCast_ne_zero.2 Value.unwritten_ne_zero
    have hwhole : ∀ r ∈ (wholeBundle Value.unwritten hn).records,
        ∃ m n : Int, r.maxScore = .whole m ∧ r.earnedScore = .whole n := by
      intro r hr
      rw [List.mem_singleton.1 hr]
      exact ⟨_, _, rfl, rfl⟩
    have hlong : Value.unwritten ≤ (Value.unwritten : Int).natAbs := Nat.le_of_eq (Int.natAbs_natCast _).symm
    obtain ⟨text, htext, -⟩ := h (wholeBundle Value.unwritten hn) hwhole
    rw [jsonText?, Json.text?, isWritable_wholeBundle hn hlong] at htext
    cases htext

end Bundle
end ScriptGrader
