import ScriptGrader.Proofs.Markup.Scan

/-!
# Reading written texts

Reading is followed from the back: `Reads` says what the reader makes of a
text, and `Passes` that it passes a written piece in front of a text and
goes on there, whatever comes of it. What references add is never more than
the bytes they take, so a written document is never refused for its growth.
It is refused where it is cut off by a character that no document may hold,
since its root is never ended.
-/

namespace ScriptGrader.Markup

namespace Growth

/-- A document that at most doubled has not grown too much. -/
theorem isTooMuch_of_le {own added : Nat} (h : added ≤ own) : isTooMuch own added = false := by
  have hfactor : ¬ factor * own < own + added := by
    rw [factor]
    omega
  simp [isTooMuch, hfactor]

theorem ofReferences_standard {name : String} {c : Char} (h : Scan.standardEntity? name = some c)
    (t : Table) : ofReferences t [.entity name] = 1 := by
  simp [ofReferences, ofItems, ofReference, h]

end Growth

namespace Content

/-! ## Runs of text -/

/-- A character in the middle of a run. -/
theorem run_cons {c : Char} (hc : IsTextChar c) (hspecial : ¬ IsSpecial c) {rest : List Char}
    (hend : ∀ r, c :: rest ≠ ']' :: ']' :: '>' :: r) (done : List Char) :
    run done (c :: rest) = run (c :: done) rest := by
  simp only [IsSpecial, not_or] at hspecial
  have hhalf : c ≠ half := by
    rintro rfl
    exact absurd hc.1 (by decide)
  rw [run.eq_def]
  -- every branch but the last is for a character that is none of these
  split
  · next h => cases h
  · next h => exact absurd (List.cons.inj h).1 hc.2
  · next h => exact absurd (List.cons.inj h).1 hc.2
  · next h => exact absurd h (hend _)
  · next h =>
    obtain ⟨rfl, rfl⟩ := List.cons.inj h
    rw [if_neg (by simp [hspecial.1, hspecial.2.1, hhalf])]

/-- What a run of text ends at. -/
def EndsRun (rest : List Char) : Prop := ∃ c r, rest = c :: r ∧ (c = '<' ∨ c = '&')

/-- What needs no escape holds no end of a section. -/
theorem ne_sectionEnd {c : Char} {cs rest : List Char} (hplain : ∀ d ∈ c :: cs, ¬ IsSpecial d)
    (hrest : EndsRun rest) (r : List Char) : c :: (cs ++ rest) ≠ ']' :: ']' :: '>' :: r := by
  intro h
  have hclose : ∀ d ∈ cs, d ≠ '>' := by
    rintro d hd rfl
    exact hplain _ (List.mem_cons_of_mem c hd) (.inr (.inr rfl))
  obtain ⟨d, s, rfl, hd⟩ := hrest
  obtain ⟨-, h⟩ := List.cons.inj h
  match cs with
  | [] =>
    obtain ⟨rfl, -⟩ := List.cons.inj h
    simp at hd
  | [e] =>
    obtain ⟨rfl, -⟩ := List.cons.inj (List.cons.inj h).2
    simp at hd
  | e :: f :: fs =>
    obtain ⟨rfl, -⟩ := List.cons.inj (List.cons.inj h).2
    exact hclose '>' (by simp) rfl

/-- Something comes behind a run that is not at the end. -/
theorem isEnd_eq_false {c : Char} (hc : c ≠ half) (r : List Char) : Scan.isEnd (c :: r) = false := by
  simp [Scan.isEnd, hc]

theorem ne_half_of_isAllowed {c : Char} (h : isAllowed c = true) : c ≠ half := by
  rintro rfl
  exact absurd h (by decide)

/-- **A run** is taken up to the next markup. -/
theorem run_append {cs rest : List Char} (hallowed : AreAllowed cs) (hplain : ∀ c ∈ cs, ¬ IsSpecial c)
    (hrest : EndsRun rest) (done : List Char) :
    run done (cs ++ rest) = (done.reverse ++ Text.universalNewlines cs, rest) := by
  induction cs using Text.universalNewlines.induct generalizing done with
  | case1 =>
    obtain ⟨c, r, rfl, hc⟩ := hrest
    rw [List.nil_append, run_markup hc, Text.universalNewlines_nil, List.append_nil]
  | case2 r ih =>
    have hmem : ∀ c ∈ r, c ∈ '\r' :: '\n' :: r := fun c hc => by simp [hc]
    rw [List.cons_append, List.cons_append, run_pair, Text.universalNewlines_pair,
      ih (fun c hc => hallowed c (hmem c hc)) (fun c hc => hplain c (hmem c hc)), List.reverse_cons,
      List.append_assoc, List.singleton_append]
  | case3 r hfeed ih =>
    have hr : AreAllowed r := fun c hc => hallowed c (List.mem_cons_of_mem _ hc)
    have hfeed' : ∀ r', r ++ rest ≠ '\n' :: r' := by
      cases r with
      | nil =>
        obtain ⟨c, s, rfl, hc⟩ := hrest
        rintro r' h
        obtain ⟨rfl, -⟩ := List.cons.inj h
        simp at hc
      | cons c r => exact fun r' h => hfeed r (by rw [(List.cons.inj h).1])
    have hend : Scan.isEnd (r ++ rest) = false := by
      cases r with
      | nil =>
        obtain ⟨c, s, rfl, rfl | rfl⟩ := hrest
        · exact isEnd_eq_false (by decide) s
        · exact isEnd_eq_false (by decide) s
      | cons c r => exact isEnd_eq_false (ne_half_of_isAllowed (hr c List.mem_cons_self)) _
    rw [List.cons_append, run_return hfeed' hend, ih hr (fun c hc => hplain c (List.mem_cons_of_mem _ hc)),
      Text.universalNewlines_return hfeed, List.reverse_cons, List.append_assoc, List.singleton_append]
  | case4 c r _ hreturn ih =>
    have hc : IsTextChar c := ⟨hallowed c List.mem_cons_self, hreturn⟩
    rw [List.cons_append, run_cons hc (hplain c List.mem_cons_self) (ne_sectionEnd hplain hrest),
      ih (fun d hd => hallowed d (List.mem_cons_of_mem c hd)) (fun d hd => hplain d (List.mem_cons_of_mem c hd)),
      Text.universalNewlines_cons hreturn, List.reverse_cons, List.append_assoc, List.singleton_append]

/-- A run at the end of a text is taken to its end, or up to a last carriage return. -/
theorem exists_run_eq {cs : List Char} (hallowed : AreAllowed cs) (hplain : ∀ c ∈ cs, ¬ IsSpecial c)
    (done : List Char) : ∃ taken left, run done cs = (taken, left) ∧ (left = [] ∨ left = ['\r']) := by
  induction cs using Text.universalNewlines.induct generalizing done with
  | case1 => exact ⟨_, _, rfl, .inl rfl⟩
  | case2 r ih =>
    rw [run_pair]
    exact ih (fun c hc => hallowed c (by simp [hc])) (fun c hc => hplain c (by simp [hc])) _
  | case3 r hfeed ih =>
    have hr : AreAllowed r := fun c hc => hallowed c (List.mem_cons_of_mem _ hc)
    cases r with
    | nil => exact ⟨_, _, rfl, .inr rfl⟩
    | cons c r =>
      rw [run_return (fun r' h => hfeed r' h) (isEnd_eq_false (ne_half_of_isAllowed (hr c List.mem_cons_self)) r)]
      exact ih hr (fun d hd => hplain d (List.mem_cons_of_mem _ hd)) _
  | case4 c r hpair hreturn ih =>
    have hsection : ∀ r', c :: r ≠ ']' :: ']' :: '>' :: r' := by
      rintro r' h
      exact hplain '>' (by rw [h]; simp) (.inr (.inr rfl))
    rw [run_cons ⟨hallowed c List.mem_cons_self, hreturn⟩ (hplain c List.mem_cons_self) hsection]
    exact ih (fun d hd => hallowed d (List.mem_cons_of_mem c hd))
      (fun d hd => hplain d (List.mem_cons_of_mem c hd)) _

/-! ## Tags without attributes -/

/-- A tag without references adds nothing. -/
theorem grow_nil (s : Setting) (added : Nat) (inValue : Bool) (start rest : List Char) :
    s.grow added inValue [] start rest = .ok added := by
  simp [Setting.grow, Growth.ofReferences, Growth.ofItems]

/-- A character that is escaped is no part of an end of a line. -/
theorem consText_universalNewlines {d : Char} (hd : IsSpecial d) (cs ds : List Char) :
    consText (Text.universalNewlines (cs ++ d :: ds)) =
      consText (Text.universalNewlines cs) ∘ consText [d] ∘ consText (Text.universalNewlines ds) := by
  have hline : d ≠ '\n' ∧ d ≠ '\r' := by rcases hd with rfl | rfl | rfl <;> decide
  rw [Text.universalNewlines_append_cons hline.1, Text.universalNewlines_cons hline.2]
  funext c
  simp [consText]

/-- What is done with the content behind a piece. -/
theorem bind_return_eq (f : Content → Content) (x : Except Halt Read) :
    (do let (c, stop, added, r) ← x; return (f c, stop, added, r)) = x.map fun x => (f x.1, x.2) := by
  cases x <;> rfl

end Content

namespace StartTag

/-- A tag without attributes, in a document that declares none. -/
theorem resolve_plain {d : Declared} (hd : d.attributes = []) (name : String) (isEmpty : Bool) :
    resolve d [] ⟨⟨none, name⟩, [], isEmpty⟩ = .ok (.plain name, [], []) := by
  have hrules : d.rules name = [] := by rw [Declared.rules, hd]; rfl
  simp only [resolve, Label.text, hrules]
  rfl

end StartTag

variable [a : Alphabet]

/-- A document without a document type, whose bytes are counted from a total. -/
structure Setting.IsBare (s : Setting) (total : Nat) : Prop where
  opened : s.opened = []
  attributes : s.declared.attributes = []
  own : ∀ rest, s.own rest = total - unitsOf rest

namespace Content

/-! ## What reading gives -/

/-- Reading a text with enough fuel gives content, stops where it says, and
leaves a rest. What references add stays within the bytes that were read. -/
def Reads (expand : List String → Scope → List Char → Except Cause Content) (s : Setting) (total : Nat)
    (text : List Char) (c : Content) (stop : Option (String × List Char)) (rest : List Char) : Prop :=
  ∀ fuel added, text.length < fuel → added + unitsOf text ≤ total →
    ∃ added', read expand s fuel [] added text = .ok (c, stop, added', rest) ∧
      added' + unitsOf rest ≤ total

/-- Reading a text with enough fuel gives no content. -/
def Refuses (expand : List String → Scope → List Char → Except Cause Content) (s : Setting) (total : Nat)
    (text : List Char) : Prop :=
  ∀ fuel added, text.length < fuel → added + unitsOf text ≤ total →
    ∃ halt, read expand s fuel [] added text = .error halt

/-- A piece in front of a text is passed: reading goes on at the text, and
what the piece stands for is put in front of the content there. -/
def Passes (expand : List String → Scope → List Char → Except Cause Content) (s : Setting) (total : Nat)
    (piece : List Char) (f : Content → Content) (text : List Char) : Prop :=
  ∀ fuel added, (piece ++ text).length < fuel → added + unitsOf (piece ++ text) ≤ total →
    ∃ fuel' added', text.length < fuel' ∧ added' + unitsOf text ≤ total ∧
      read expand s fuel [] added (piece ++ text) =
        (read expand s fuel' [] added' text).map fun x => (f x.1, x.2)

variable {expand : List String → Scope → List Char → Except Cause Content} {s : Setting} {total : Nat}
variable {piece more text rest : List Char} {c : Content} {stop : Option (String × List Char)}
variable {f g : Content → Content}

theorem Passes.reads (hpiece : Passes expand s total piece f text) (h : Reads expand s total text c stop rest) :
    Reads expand s total (piece ++ text) (f c) stop rest := by
  intro fuel added hfuel hadded
  obtain ⟨fuel', added', hfuel', hadded', heq⟩ := hpiece fuel added hfuel hadded
  obtain ⟨added'', hread, hunits⟩ := h fuel' added' hfuel' hadded'
  exact ⟨added'', by rw [heq, hread]; rfl, hunits⟩

theorem Passes.refuses (hpiece : Passes expand s total piece f text) (h : Refuses expand s total text) :
    Refuses expand s total (piece ++ text) := by
  intro fuel added hfuel hadded
  obtain ⟨fuel', added', hfuel', hadded', heq⟩ := hpiece fuel added hfuel hadded
  obtain ⟨halt, hread⟩ := h fuel' added' hfuel' hadded'
  exact ⟨halt, by rw [heq, hread]; rfl⟩

theorem passes_nil (text : List Char) : Passes expand s total [] id text := by
  intro fuel added hfuel hadded
  refine ⟨fuel, added, hfuel, hadded, ?_⟩
  rw [List.nil_append]
  cases read expand s fuel [] added text <;> rfl

/-- One piece after the other. -/
theorem Passes.append (hpiece : Passes expand s total piece f (more ++ text))
    (hmore : Passes expand s total more g text) : Passes expand s total (piece ++ more) (f ∘ g) text := by
  intro fuel added hfuel hadded
  rw [List.append_assoc] at hfuel hadded ⊢
  obtain ⟨fuel₁, added₁, hfuel₁, hadded₁, heq₁⟩ := hpiece fuel added hfuel hadded
  obtain ⟨fuel₂, added₂, hfuel₂, hadded₂, heq₂⟩ := hmore fuel₁ added₁ hfuel₁ hadded₁
  refine ⟨fuel₂, added₂, hfuel₂, hadded₂, ?_⟩
  rw [heq₁, heq₂]
  cases read expand s fuel₂ [] added₂ text <;> rfl

/-- An end tag ends the content. -/
theorem reads_endTag {name : List Char} (hname : IsName name) (rest : List Char) :
    Reads expand s total ('<' :: '/' :: (name ++ '>' :: rest)) empty
      (some (String.ofList name, name ++ '>' :: rest)) rest := by
  intro fuel added hfuel hadded
  obtain ⟨fuel, rfl⟩ : ∃ n, fuel = n + 1 := ⟨fuel - 1, by omega⟩
  refine ⟨added, ?_, ?_⟩
  · rw [read, Scan.endTag_append hname]
    rfl
  · simp only [unitsOf, unitsOf_append] at hadded
    omega

/-- An escaped character stands for itself. -/
theorem passes_escaped (hs : s.IsBare total) (hsize : ∀ d, 0 < a.size d) {d : Char} (hd : IsSpecial d)
    (text : List Char) : Passes expand s total (escapeText d) (consText [d]) text := by
  intro fuel added hfuel hadded
  obtain ⟨name, more, heq, hname, href⟩ := Scan.reference_escaped hd
  rw [heq, List.cons_append] at hfuel hadded ⊢
  obtain ⟨fuel, rfl⟩ : ∃ n, fuel = n + 1 := ⟨fuel - 1, by omega⟩
  have hamp := hsize '&'
  rw [List.length_cons, List.length_append] at hfuel
  rw [unitsOf, unitsOf_append] at hadded
  have hgrow : s.grow added false [.entity name] ('&' :: (more ++ text)) text = .ok (added + 1) := by
    -- a reference adds one unit, and its own text is longer than that
    have hown := hs.own text
    rw [Setting.grow, Growth.ofReferences_standard hname, Growth.isTooMuch_of_le (by omega)]
    simp
  have hinside : ofReference expand s [] ('&' :: (more ++ text)) (.entity name) = .ok ⟨[d], []⟩ := by
    simp only [ofReference, hname]
  refine ⟨fuel, added + 1, by omega, by omega, ?_⟩
  rw [read]
  simp only [href, hgrow, hinside, bind, Except.bind, pure, Except.pure]
  cases read expand s fuel [] (added + 1) text <;> rfl

/-- What is read of a run, when nothing else begins with it. -/
theorem read_run {d : Char} {cs : List Char} (hs : s.IsBare total) (hd : isAllowed d = true)
    (hspecial : ¬ IsSpecial d) (hend : ∀ r, d :: cs ≠ ']' :: ']' :: '>' :: r) {taken left : List Char}
    (hrun : run [] (d :: cs) = (taken, left)) (hleft : left ≠ [half]) (fuel added : Nat) :
    read expand s (fuel + 1) [] added (d :: cs) =
      if taken.isEmpty then .error (if s.ending.isWhole then .fault .noElement (d :: cs) else .ended .noElement [])
      else (read expand s fuel [] added left).map fun x => (x.1.consText taken, x.2) := by
  have hentity : s.isEntity = false := by rw [Setting.isEntity, hs.opened]; rfl
  have hhalf : d :: cs ≠ [half] := fun h => ne_half_of_isAllowed hd (List.cons.inj h).1
  simp only [IsSpecial, not_or] at hspecial
  rw [read]
  · simp only [hentity, hhalf, hrun, hleft, bind_return_eq, Bool.false_eq_true, if_false, decide_false,
      Bool.false_and]
  -- no other branch takes a text that begins so
  all_goals simp [hspecial, hend]

/-- A run of text is passed up to the markup behind it. -/
theorem passes_run (hs : s.IsBare total) (htext : EndsRun text) {cs : List Char} (hallowed : AreAllowed cs)
    (hplain : ∀ d ∈ cs, ¬ IsSpecial d) :
    Passes expand s total cs (consText (Text.universalNewlines cs)) text := by
  cases cs with
  | nil => exact passes_nil text
  | cons d cs =>
    intro fuel added hfuel hadded
    obtain ⟨fuel, rfl⟩ : ∃ n, fuel = n + 1 := ⟨fuel - 1, by omega⟩
    rw [List.length_append, List.length_cons] at hfuel
    rw [unitsOf_append] at hadded
    refine ⟨fuel, added, by omega, by omega, ?_⟩
    have hhalf : text ≠ [half] := by
      rintro rfl
      obtain ⟨x, r, heq, hx⟩ := htext
      obtain ⟨rfl, -⟩ := List.cons.inj heq
      revert hx
      decide
    have hsome : (Text.universalNewlines (d :: cs)).isEmpty = false := by
      simp [Text.universalNewlines_eq_nil_iff]
    rw [List.cons_append, read_run hs (hallowed d List.mem_cons_self) (hplain d List.mem_cons_self)
      (ne_sectionEnd hplain htext) (run_append hallowed hplain htext []) hhalf]
    simp only [List.reverse_nil, List.nil_append, hsome, Bool.false_eq_true, if_false, consText]

/-- Escaped characters begin like other markup. -/
theorem endsRun_escapeText {d : Char} (hd : IsSpecial d) (rest : List Char) : EndsRun (escapeText d ++ rest) := by
  obtain ⟨name, more, heq, -, -⟩ := Scan.reference_escaped hd
  rw [heq]
  exact ⟨'&', _, rfl, .inr rfl⟩

/-- **A text** is passed, whatever it holds: run by run, with an escaped
character behind each. -/
theorem passes_text (hs : s.IsBare total) (hsize : ∀ d, 0 < a.size d) {cs : List Char} (hallowed : AreAllowed cs)
    (text : List Char) :
    Passes expand s total (cs.flatMap escapeText) (consText (Text.universalNewlines cs)) ('<' :: text) := by
  -- by induction on the runs: what stops a run is an escaped character or the end
  induction cs using runs_induction with
  | run cs hplain =>
    rw [flatMap_escapeText hplain]
    exact passes_run hs ⟨'<', text, rfl, .inl rfl⟩ hallowed hplain
  | special cs d ds hplain hd ih =>
    obtain ⟨hcs, hds⟩ := List.forall_mem_append.1 hallowed
    have hrest := ih (List.forall_mem_cons.1 hds).2
    rw [List.flatMap_append, List.flatMap_cons, flatMap_escapeText hplain, consText_universalNewlines hd]
    -- a run ends in front of the escaped character, which begins like markup
    have hends := endsRun_escapeText hd (ds.flatMap escapeText ++ '<' :: text)
    rw [← List.append_assoc] at hends
    exact (passes_run hs hends hcs hplain).append ((passes_escaped hs hsize hd _).append hrest)

/-! ## Texts that are cut off -/

/-- Nothing behind a last run ends the element that it stands in. -/
theorem refuses_run (hs : s.IsBare total) (hcut : s.ending.isWhole = false) {cs : List Char}
    (hallowed : AreAllowed cs) (hplain : ∀ d ∈ cs, ¬ IsSpecial d) : Refuses expand s total cs := by
  have hentity : s.isEntity = false := by rw [Setting.isEntity, hs.opened]; rfl
  -- at the end of the text the element is still open; a lone carriage return waits for a line feed
  have hnil : ∀ fuel added, ∃ halt, read expand s fuel [] added [] = .error halt := by
    rintro (_ | fuel) added
    · exact ⟨_, read_zero expand s [] added _⟩
    · exact ⟨.ended .noElement [], by rw [read_nil, endOfText]; simp [hentity, hcut]⟩
  have hreturn : ∀ fuel added, ∃ halt, read expand s fuel [] added ['\r'] = .error halt := by
    rintro (_ | fuel) added
    · exact ⟨_, read_zero expand s [] added _⟩
    · have hrun : run [] ['\r'] = ([], ['\r']) := by simp [run, Scan.isEnd]
      exact ⟨_, read_run hs (by decide) (by decide) (by simp) hrun (by decide) fuel added⟩
  intro fuel added hfuel _
  cases cs with
  | nil => exact hnil fuel added
  | cons d cs =>
    obtain ⟨fuel, rfl⟩ : ∃ n, fuel = n + 1 := ⟨fuel - 1, by omega⟩
    obtain ⟨taken, left, hrun, hleft⟩ := exists_run_eq hallowed hplain []
    have hsection : ∀ r, d :: cs ≠ ']' :: ']' :: '>' :: r := by
      rintro r h
      exact hplain '>' (by rw [h]; simp) (.inr (.inr rfl))
    have hhalf : left ≠ [half] := by rcases hleft with rfl | rfl <;> decide
    have hrest : ∃ halt, read expand s fuel [] added left = .error halt := by
      rcases hleft with rfl | rfl
      · exact hnil fuel added
      · exact hreturn fuel added
    obtain ⟨halt, hrest⟩ := hrest
    rw [read_run hs (hallowed d List.mem_cons_self) (hplain d List.mem_cons_self) hsection hrun hhalf, hrest]
    split
    · exact ⟨_, rfl⟩
    · exact ⟨_, rfl⟩

/-- Nor does anything in a text at the end. -/
theorem refuses_text (hs : s.IsBare total) (hsize : ∀ d, 0 < a.size d) (hcut : s.ending.isWhole = false)
    {cs : List Char} (hallowed : AreAllowed cs) : Refuses expand s total (cs.flatMap escapeText) := by
  induction cs using runs_induction with
  | run cs hplain =>
    rw [flatMap_escapeText hplain]
    exact refuses_run hs hcut hallowed hplain
  | special cs d ds hplain hd ih =>
    obtain ⟨hcs, hds⟩ := List.forall_mem_append.1 hallowed
    have hrest := ih (List.forall_mem_cons.1 hds).2
    rw [List.flatMap_append, List.flatMap_cons, flatMap_escapeText hplain]
    exact (passes_run hs (endsRun_escapeText hd _) hcs hplain).refuses
      ((passes_escaped hs hsize hd _).refuses hrest)

end Content

end ScriptGrader.Markup
