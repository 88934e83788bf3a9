import Mathlib.Data.List.Induction
import ScriptGrader.Proofs.Files.Walk
import ScriptGrader.Proofs.Outside
import ScriptGrader.Proofs.Position
import ScriptGrader.Sink.TextReport

/-!
# Where the lines of text reports land

The line of a record goes to the place to which the path of its category
leads, so that paths of one file share it however they are spelled. Lines
that are added make no directory and take none away, so where the others
go, and whether they can, is known before the first one is added
(`place?_congr`, `isBlocked_congr`). Writing ends at the first record whose
report cannot be opened, or cannot hold its line behind those of the records
before it (`StopsAt`): these lines are added, with the part of its own that
fits, and nothing else has changed (`BrokenOff`).
-/

namespace ScriptGrader.TextReport

variable {t : TextReport} {fs fs' : Files} {o o' : Outside} {r : Record} {rs rs' before : List Record}
  {p : Path} {place : List String} {i : ℕ}

/-! ## Places -/

/-- The place to which the line of a record goes. -/
def place? (t : TextReport) (fs : Files) (r : Record) : Option (List String) := do
  let p ← t.paths.lookup r.category
  let (place, _) ← (fs.open? p).toOption
  return place

/-- The report of a record cannot be opened. -/
def IsBlocked (t : TextReport) (fs : Files) (r : Record) : Prop :=
  ∃ p e, t.paths.lookup r.category = some p ∧ fs.open? p = .error e

theorem isBlocked_iff_any : t.IsBlocked fs r ↔
    (t.paths.lookup r.category).any (fun p => (fs.open? p).toOption.isNone) = true := by
  rw [IsBlocked, Option.any_eq_true]
  refine exists_congr fun p => ?_
  rcases hopen : fs.open? p with e | found
  · simp [Except.toOption]
  · simp [Except.toOption]

instance (t : TextReport) (fs : Files) (r : Record) : Decidable (t.IsBlocked fs r) :=
  decidable_of_iff _ isBlocked_iff_any.symm

theorem place?_eq_some_iff : t.place? fs r = some place ↔
    ∃ p, t.paths.lookup r.category = some p ∧ fs.LeadsTo p place ∧ fs.Grants .write place := by
  rw [place?]
  rcases hlookup : t.paths.lookup r.category with _ | p
  · simp
  constructor
  · intro h
    rcases hopen : fs.open? p with e | ⟨q, old⟩
    · rw [Option.bind_eq_bind, Option.bind_some, hopen] at h
      cases h
    · rw [Option.bind_eq_bind, Option.bind_some, hopen] at h
      cases h
      exact ⟨p, rfl, Files.leadsTo_of_open? hopen⟩
  · rintro ⟨q, hq, hleads, hwrite⟩
    cases hq
    rw [Option.bind_eq_bind, Option.bind_some, hleads.open?_eq hwrite]
    rfl

/-- A report that can be opened leads to a place where a file can be. -/
theorem not_isBlocked_iff : ¬ t.IsBlocked fs r ↔
    ∀ p, t.paths.lookup r.category = some p → ∃ place, fs.LeadsTo p place ∧ fs.Grants .write place := by
  constructor
  · intro h p hp
    rcases hopen : fs.open? p with e | ⟨place, old⟩
    · exact absurd ⟨p, e, hp, hopen⟩ h
    · exact ⟨place, Files.leadsTo_of_open? hopen⟩
  · rintro h ⟨p, e, hp, hopen⟩
    obtain ⟨place, hleads, hwrite⟩ := h p hp
    rw [hleads.open?_eq hwrite] at hopen
    cases hopen

/-- The same directories lead lines to the same places. -/
theorem place?_congr (h : fs.SameDirectories fs') : t.place? fs r = t.place? fs' r := by
  refine Option.ext fun place => ?_
  rw [place?_eq_some_iff, place?_eq_some_iff]
  constructor
  · rintro ⟨p, hp, hleads, hwrite⟩
    exact ⟨p, hp, hleads.of_sameDirectories h, h.grants hwrite⟩
  · rintro ⟨p, hp, hleads, hwrite⟩
    exact ⟨p, hp, hleads.of_sameDirectories h.symm, h.symm.grants hwrite⟩

theorem isBlocked_congr (h : fs.SameDirectories fs') : t.IsBlocked fs r ↔ t.IsBlocked fs' r := by
  rw [← not_iff_not, not_isBlocked_iff, not_isBlocked_iff]
  constructor
  · intro hleads p hp
    obtain ⟨place, hplace, hwrite⟩ := hleads p hp
    exact ⟨place, hplace.of_sameDirectories h, h.grants hwrite⟩
  · intro hleads p hp
    obtain ⟨place, hplace, hwrite⟩ := hleads p hp
    exact ⟨place, hplace.of_sameDirectories h.symm, h.symm.grants hwrite⟩

/-! ## Lines at a place -/

/-- The lines of records as they stand in a file. -/
def lines (rs : List Record) : List UInt8 := rs.flatMap fun r => Text.encode (line r)

/-- The records whose lines go to a place. -/
def landed (t : TextReport) (fs : Files) (place : List String) (rs : List Record) : List Record :=
  rs.filter fun r => t.place? fs r = some place

theorem landed_append (t : TextReport) (fs : Files) (place : List String) (rs rs' : List Record) :
    t.landed fs place (rs ++ rs') = t.landed fs place rs ++ t.landed fs place rs' := List.filter_append rs rs'

theorem landed_congr (h : fs.SameDirectories fs') (place : List String) (rs : List Record) :
    t.landed fs place rs = t.landed fs' place rs :=
  List.filter_congr fun r _ => by rw [place?_congr h]

theorem landed_singleton_of_eq (h : t.place? fs r = some place) : t.landed fs place [r] = [r] := by
  simp [landed, h]

theorem landed_singleton_of_ne (h : t.place? fs r ≠ some place) : t.landed fs place [r] = [] := by
  simp [landed, h]

/-- The file of a record, with the lines of those before it, cannot hold its line too. -/
def Overflows (t : TextReport) (fs : Files) (before : List Record) (r : Record) : Prop :=
  ∃ place, t.place? fs r = some place ∧
    ¬ fs.Holds place (fs.bytesAt place ++ lines (t.landed fs place (before ++ [r]))).length

theorem overflows_iff_any : t.Overflows fs before r ↔ (t.place? fs r).any (fun place =>
    decide (¬ fs.Holds place (fs.bytesAt place ++ lines (t.landed fs place (before ++ [r]))).length)) = true := by
  simp only [Overflows, Option.any_eq_true, decide_eq_true_iff]

instance (t : TextReport) (fs : Files) (before : List Record) (r : Record) : Decidable (t.Overflows fs before r) :=
  decidable_of_iff _ overflows_iff_any.symm

/-- The record at a position cannot be written once those before it are. -/
def StopsAt (t : TextReport) (fs : Files) (rs : List Record) (i : ℕ) : Prop :=
  ∃ r, rs[i]? = some r ∧ (t.IsBlocked fs r ∨ t.Overflows fs (rs.take i) r)

instance (t : TextReport) (fs : Files) (rs : List Record) (i : ℕ) : Decidable (t.StopsAt fs rs i) :=
  decidable_of_iff ((rs[i]?).any (fun r => decide (t.IsBlocked fs r ∨ t.Overflows fs (rs.take i) r)) = true) <| by
    simp only [StopsAt, Option.any_eq_true, decide_eq_true_iff]

/-- The lines of some records were added at their places, behind what stood
there, and nothing else has changed but the notes. -/
structure Grown (t : TextReport) (rs : List Record) (o o' : Outside) : Prop where
  sent : o'.sent = o.sent
  answers : o'.answers = o.answers
  directories : o.files.SameDirectories o'.files
  kept : ∀ place, t.landed o.files place rs = [] → o'.files.node? place = o.files.node? place
  grown : ∀ place, t.landed o.files place rs ≠ [] →
    o'.files.node? place = some (.file (o.files.bytesAt place ++ lines (t.landed o.files place rs)))

namespace Grown

theorem refl (t : TextReport) (o : Outside) : t.Grown [] o o :=
  ⟨rfl, rfl, .refl _, fun _ _ => rfl, fun _ h => absurd rfl h⟩

/-- Records after others. -/
theorem append {o₁ : Outside} (h : t.Grown rs o o₁) (h' : t.Grown rs' o₁ o') : t.Grown (rs ++ rs') o o' := by
  refine ⟨h'.sent.trans h.sent, h'.answers.trans h.answers, h.directories.trans h'.directories, ?_, ?_⟩
  · intro place hplace
    rw [landed_append, List.append_eq_nil_iff] at hplace
    obtain ⟨hrs, hrs'⟩ := hplace
    rw [landed_congr h.directories] at hrs'
    rw [h'.kept place hrs', h.kept place hrs]
  · intro place hplace
    rw [landed_append] at hplace ⊢
    rw [landed_congr h.directories place rs'] at hplace ⊢
    -- the first ones land there or not, and so do the others
    by_cases hrs : t.landed o.files place rs = []
    · rw [hrs, List.nil_append] at hplace ⊢
      rw [h'.grown place hplace, Files.bytesAt, Files.bytesAt, h.kept place hrs]
    · have hnode := h.grown place hrs
      by_cases hrs' : t.landed o₁.files place rs' = []
      · rw [h'.kept place hrs', hnode, hrs', List.append_nil]
      · rw [h'.grown place hrs', Files.bytesAt_of_file hnode, lines, lines, lines, List.flatMap_append,
          List.append_assoc]

/-- What a file holds once lines were added. -/
theorem bytesAt_eq (h : t.Grown rs o o') (place : List String) :
    o'.files.bytesAt place = o.files.bytesAt place ++ lines (t.landed o.files place rs) := by
  by_cases hplace : t.landed o.files place rs = []
  · rw [hplace, Files.bytesAt, h.kept place hplace, ← Files.bytesAt]
    simp [lines]
  · exact Files.bytesAt_of_file (h.grown place hplace)

end Grown

/-- Writing has ended at a record. The lines of those before it were added,
and where its report can be opened but not hold its line, what fits of that. -/
inductive BrokenOff (t : TextReport) (before : List Record) (r : Record) (o o' : Outside) : Prop
  | blocked (h : t.IsBlocked o.files r) (hgrown : t.Grown before o o')
  | overflowed {place : List String} {size : ℕ} {err : SystemError} {o₁ : Outside}
      (hplace : t.place? o.files r = some place) (hroom : o.files.rights.room? place = some (size, err))
      (hgrown : t.Grown before o o₁)
      (heq : o' = { o₁ with files := o₁.files.put place (.file (o₁.files.bytesAt place ++
        (Text.encode (line r)).take (size - (o₁.files.bytesAt place).length))) })

/-! ## One record -/

theorem isExternal_failure {e : WriteError} (h : e ≠ .unopened .zero) (p : Path) :
    (failure p e).isExternal = true := by
  rcases e with (⟨f, q⟩ | _) | e
  · rfl
  · exact absurd rfl h
  · rfl

/-- A record whose report cannot be opened leaves everything as it is. -/
theorem writeRecord_of_isBlocked (hzero : ∀ c p, t.paths.lookup c = some p → p.hasZero = false)
    (h : t.IsBlocked o.files r) : ∃ e, Work.on o (t.writeRecord r) = (.error e, o) ∧ e.isExternal = true := by
  obtain ⟨p, f, hp, hopen⟩ := h
  have hwrite : Work.on o (t.writeRecord r) = (.error (failure p (.unopened f)), o) := by
    rw [writeRecord, hp]
    simp only [Work.on_failingWith, Work.on_change, Files.append, hopen]
  refine ⟨_, hwrite, isExternal_failure ?_ p⟩
  rintro heq
  cases heq
  exact Files.open?_ne_zero (hzero _ p hp) hopen

/-- What adding a line does to the file of its record. -/
theorem on_writeRecord (hlookup : t.paths.lookup r.category = some p) (hleads : o.files.LeadsTo p place)
    (hwrite : o.files.Grants .write place) :
    Work.on o (t.writeRecord r) =
      let filled := o.files.fill place (o.files.bytesAt place) (Text.encode (line r))
      (filled.1.mapError (failure p), { o with files := filled.2 }) := by
  rw [writeRecord, hlookup]
  simp only [Work.on_failingWith, Work.on_change, Files.append, hleads.open?_eq hwrite]
  rcases o.files.fill place (o.files.bytesAt place) (Text.encode (line r)) with ⟨e | _, fs⟩
  · rfl
  · rfl

/-- **One record** adds its line at its place, if it has one. -/
theorem writeRecord_of_holds (h : ¬ t.IsBlocked o.files r)
    (hholds : ∀ place, t.place? o.files r = some place →
      o.files.Holds place (o.files.bytesAt place ++ Text.encode (line r)).length) :
    ∃ o', Work.on o (t.writeRecord r) = (.ok (), o') ∧ t.Grown [r] o o' := by
  rcases hlookup : t.paths.lookup r.category with _ | p
  · -- no file is named for the category, so the record lands nowhere
    have hnone : ∀ place, t.landed o.files place [r] = [] := by
      intro place
      refine landed_singleton_of_ne fun hplace => ?_
      obtain ⟨p, hp, -⟩ := place?_eq_some_iff.1 hplace
      rw [hlookup] at hp
      cases hp
    have hnote : Work.on o (t.writeRecord r) =
        (.ok (), { o with log := o.log ++ [.debug t.channel s!"No report file for category '{r.category.name}'"] }) := by
      rw [writeRecord, hlookup]
      rfl
    exact ⟨_, hnote, rfl, rfl, .refl _, fun _ _ => rfl, fun place hplace => absurd (hnone place) hplace⟩
  · obtain ⟨place, hleads, hwrite⟩ := not_isBlocked_iff.1 h p hlookup
    have hplace : t.place? o.files r = some place := place?_eq_some_iff.2 ⟨p, hlookup, hleads, hwrite⟩
    let bytes := o.files.bytesAt place ++ Text.encode (line r)
    have hwrite : Work.on o (t.writeRecord r) =
        (.ok (), { o with files := o.files.put place (.file bytes) }) := by
      rw [on_writeRecord hlookup hleads hwrite, Files.fill_of_holds (hholds place hplace)]
      rfl
    refine ⟨_, hwrite, rfl, rfl, Files.sameDirectories_put hleads.notDirectory _, ?_, ?_⟩
    · intro q hq
      refine Files.node?_put_of_ne _ _ ?_
      rintro rfl
      rw [landed_singleton_of_eq hplace] at hq
      cases hq
    · intro q hq
      by_cases hqplace : q = place
      · subst hqplace
        rw [landed_singleton_of_eq hplace,
          Files.node?_put_self _ _ _ (Files.ne_nil_of_not_directory hleads.notDirectory)]
        simp [lines, bytes]
      · refine absurd (landed_singleton_of_ne ?_) hq
        rw [hplace]
        exact fun h => hqplace (Option.some.inj h).symm

/-- A record whose line does not fit into its file adds the part that does. -/
theorem writeRecord_of_room (hplace : t.place? o.files r = some place) {size : ℕ} {err : SystemError}
    (hroom : o.files.rights.room? place = some (size, err))
    (hlong : size < (o.files.bytesAt place ++ Text.encode (line r)).length) :
    ∃ p, Work.on o (t.writeRecord r) = (.error (.textCut p err),
      { o with files := o.files.put place (.file (o.files.bytesAt place ++
        (Text.encode (line r)).take (size - (o.files.bytesAt place).length))) }) := by
  obtain ⟨p, hlookup, hleads, hwrite⟩ := place?_eq_some_iff.1 hplace
  refine ⟨p, ?_⟩
  rw [on_writeRecord hlookup hleads hwrite, Files.fill_of_room hroom hlong]
  rfl

/-! ## All records -/

theorem stopsAt_append_left_iff (hi : i < rs.length) : t.StopsAt fs (rs ++ rs') i ↔ t.StopsAt fs rs i := by
  simp only [StopsAt, List.getElem?_append_left hi, List.take_append_of_le_length hi.le]

theorem StopsAt.lt_length (h : t.StopsAt fs rs i) : i < rs.length := by
  obtain ⟨_, hr, -⟩ := h
  exact (List.getElem?_eq_some_iff.1 hr).1

/-- Behind the lines of others, a file holds a line if it does not overflow. -/
theorem Grown.holds_iff (h : t.Grown before o o') :
    (∀ place, t.place? o'.files r = some place →
      o'.files.Holds place (o'.files.bytesAt place ++ Text.encode (line r)).length) ↔
    ¬ t.Overflows o.files before r := by
  rw [Overflows, not_exists]
  refine forall_congr' fun place => ?_
  rw [not_and, not_not, ← place?_congr h.directories]
  refine imp_congr_right fun hplace => ?_
  have hbytes : o'.files.bytesAt place ++ Text.encode (line r) =
      o.files.bytesAt place ++ lines (t.landed o.files place (before ++ [r])) := by
    rw [h.bytesAt_eq, landed_append, landed_singleton_of_eq hplace, List.append_assoc]
    simp [lines]
  rw [hbytes]
  exact ⟨h.directories.symm.holds, h.directories.holds⟩

/-- Records of which none stops the writing add their lines. -/
theorem on_forM_of_forall_not (h : ∀ i, ¬ t.StopsAt o.files rs i) :
    ∃ o', Work.on o (rs.forM t.writeRecord) = (.ok (), o') ∧ t.Grown rs o o' := by
  induction rs using List.reverseRecOn with
  | nil => exact ⟨o, rfl, .refl t o⟩
  | append_singleton rs r ih =>
    obtain ⟨o₁, hrs, hgrown⟩ := ih fun i hi => h i ((stopsAt_append_left_iff hi.lt_length).2 hi)
    have hlast := h rs.length
    simp only [StopsAt, List.getElem?_concat_length, Option.some.injEq, exists_eq_left', List.take_left', not_or] at hlast
    -- the lines before it move no directory, so the last report can still be opened
    obtain ⟨o', hr, hone⟩ := writeRecord_of_holds ((isBlocked_congr hgrown.directories).not.1 hlast.1)
      (hgrown.holds_iff.2 hlast.2)
    refine ⟨o', ?_, hgrown.append hone⟩
    rw [Work.on_forM_append, Work.on_bind_ok hrs, Work.on_forM_cons, Work.on_bind_ok hr]
    rfl

/-- **The first record that cannot be written** ends the writing. -/
theorem on_forM_of_isLeast (hzero : ∀ c p, t.paths.lookup c = some p → p.hasZero = false)
    (hi : IsLeast {i | t.StopsAt o.files rs i} i) :
    ∃ e o' r, Work.on o (rs.forM t.writeRecord) = (.error e, o') ∧ e.isExternal = true ∧
      rs[i]? = some r ∧ t.BrokenOff (rs.take i) r o o' := by
  obtain ⟨⟨r, hr, hstops⟩, hleast⟩ := hi
  have hsplit := eq_take_append_cons_drop hr
  have hlength : (rs.take i).length = i := List.length_take_of_le (List.getElem?_eq_some_iff.1 hr).1.le
  obtain ⟨o₁, hwrite, hgrown⟩ := @on_forM_of_forall_not t o (rs.take i) fun j hj => by
    have hlt : j < i := hlength ▸ hj.lt_length
    have hj' : t.StopsAt o.files rs j := by
      rw [hsplit]
      exact (stopsAt_append_left_iff hj.lt_length).2 hj
    exact absurd (hleast hj') (Nat.not_le_of_lt hlt)
  suffices h : ∃ e o', Work.on o₁ (t.writeRecord r) = (.error e, o') ∧ e.isExternal = true ∧
      t.BrokenOff (rs.take i) r o o' by
    obtain ⟨e, o', he, hexternal, hbroken⟩ := h
    refine ⟨e, o', r, ?_, hexternal, hr, hbroken⟩
    rw [hsplit, Work.on_forM_append, Work.on_bind_ok hwrite, Work.on_forM_cons, Work.on_bind_error he]
  by_cases hblocked : t.IsBlocked o.files r
  · obtain ⟨e, he, hexternal⟩ := writeRecord_of_isBlocked hzero ((isBlocked_congr hgrown.directories).1 hblocked)
    exact ⟨e, o₁, he, hexternal, .blocked hblocked hgrown⟩
  · have hoverflows := hstops.resolve_left hblocked
    rw [← not_not (a := t.Overflows _ _ _), ← hgrown.holds_iff] at hoverflows
    simp only [not_forall] at hoverflows
    obtain ⟨place, hplace, hlong⟩ := hoverflows
    obtain ⟨size, err, hroom, hlt⟩ : ∃ size err, o₁.files.rights.room? place = some (size, err) ∧
        size < (o₁.files.bytesAt place ++ Text.encode (line r)).length := by
      simpa [Files.Holds] using hlong
    obtain ⟨p, he⟩ := writeRecord_of_room hplace hroom hlt
    rw [← place?_congr hgrown.directories] at hplace
    rw [← hgrown.directories.rights] at hroom
    exact ⟨_, _, he, rfl, .overflowed hplace hroom hgrown rfl⟩

/-- What stops a writing does so somewhere first. -/
theorem exists_isLeast_stopsAt (h : ∃ i, t.StopsAt fs rs i) : ∃ i, IsLeast {i | t.StopsAt fs rs i} i := by
  classical
  exact ⟨_, Nat.isLeast_find h⟩

/-- Where the records before one do not stop a writing, it does so first. -/
theorem isLeast_stopsAt (h : t.StopsAt fs rs i) (hbefore : ∀ j < i, ¬ t.StopsAt fs rs j) :
    IsLeast {i | t.StopsAt fs rs i} i := by
  refine ⟨h, fun j hj => ?_⟩
  by_contra hlt
  exact hbefore j (Nat.lt_of_not_le hlt) hj

/-- Writing that succeeds is stopped by no record, and has added all lines. -/
theorem grown_of_on_forM_eq_ok (hzero : ∀ c p, t.paths.lookup c = some p → p.hasZero = false)
    (h : Work.on o (rs.forM t.writeRecord) = (.ok (), o')) :
    (∀ i, ¬ t.StopsAt o.files rs i) ∧ t.Grown rs o o' := by
  have hnone : ∀ i, ¬ t.StopsAt o.files rs i := by
    intro i hi
    obtain ⟨j, hj⟩ := exists_isLeast_stopsAt ⟨i, hi⟩
    obtain ⟨e, o₁, r, he, -⟩ := on_forM_of_isLeast hzero hj
    rw [h] at he
    cases he
  obtain ⟨o₁, ho₁, hgrown⟩ := on_forM_of_forall_not hnone
  rw [h] at ho₁
  cases ho₁
  exact ⟨hnone, hgrown⟩

/-- Bundles one after the other are all their records. -/
theorem on_forM_write (t : TextReport) (bs : List Bundle) (o : Outside) :
    Work.on o (bs.forM t.write) = Work.on o ((bs.flatMap Bundle.records).forM t.writeRecord) := by
  induction bs generalizing o with
  | nil => rfl
  | cons b bs ih =>
    rw [Work.on_forM_cons, List.flatMap_cons, Work.on_forM_append, Work.on_bind, Work.on_bind, write]
    rcases Work.on o (b.records.forM t.writeRecord) with ⟨e | ⟨⟨⟩⟩, o₁⟩
    · rfl
    · exact ih o₁

/-- **Text reports add up.** Bundles that are written one after the other
without a failure leave at each path at which a record lands what stood
there, and behind it the lines of all records that land there, in their
order; every other place is as it was. That happens exactly if all their
reports can be opened and hold their lines. Otherwise writing a bundle fails,
for a reason that lies outside, and exactly the lines of the records before
the first one that cannot be written are added, with the part of its own that
fits. -/
theorem lines_add_up (hzero : ∀ c p, t.paths.lookup c = some p → p.hasZero = false) (o : Outside) :
    (∀ bs : List Bundle, ((∃ o', Work.on o (bs.forM t.write) = (.ok (), o')) ↔
        ∀ i, ¬ t.StopsAt o.files (bs.flatMap Bundle.records) i) ∧
      ∀ o', Work.on o (bs.forM t.write) = (.ok (), o') →
        (∀ c p place, t.paths.lookup c = some p → o.files.LeadsTo p place →
          t.landed o.files place (bs.flatMap Bundle.records) ≠ [] →
          o'.files.node? place =
            some (.file (o.files.bytesAt place ++ lines (t.landed o.files place (bs.flatMap Bundle.records))))) ∧
        ∀ place, t.landed o.files place (bs.flatMap Bundle.records) = [] →
          o'.files.node? place = o.files.node? place) ∧
    ∀ b : Bundle, ((∃ e o', Work.on o (t.write b) = (.error e, o') ∧ e.isExternal = true) ↔
        ∃ i, t.StopsAt o.files b.records i) ∧
      ∀ i, IsLeast {i | t.StopsAt o.files b.records i} i →
        ∃ e o' r, Work.on o (t.write b) = (.error e, o') ∧ e.isExternal = true ∧
          b.records[i]? = some r ∧ t.BrokenOff (b.records.take i) r o o' := by
  refine ⟨fun bs => ⟨⟨?_, ?_⟩, ?_⟩, fun b => ⟨⟨?_, ?_⟩, fun i hi => on_forM_of_isLeast hzero hi⟩⟩
  · rintro ⟨o', h⟩
    rw [on_forM_write] at h
    exact (grown_of_on_forM_eq_ok hzero h).1
  · intro hnone
    obtain ⟨o', hwrite, -⟩ := on_forM_of_forall_not hnone
    exact ⟨o', by rw [on_forM_write, hwrite]⟩
  · intro o' h
    rw [on_forM_write] at h
    have hgrown := (grown_of_on_forM_eq_ok hzero h).2
    exact ⟨fun c p place _ _ hplace => hgrown.grown place hplace, hgrown.kept⟩
  · rintro ⟨e, o', he, -⟩
    by_contra hnone
    obtain ⟨o₁, hwrite, -⟩ := on_forM_of_forall_not fun i hi => hnone ⟨i, hi⟩
    rw [write, hwrite] at he
    cases he
  · intro hstops
    obtain ⟨i, hi⟩ := exists_isLeast_stopsAt hstops
    obtain ⟨e, o', r, he, hexternal, -⟩ := on_forM_of_isLeast hzero hi
    exact ⟨e, o', he, hexternal⟩

/-- One file for two categories under two names, and a directory for the third. -/
def mixedReport : TextReport where
  paths := [(.functional, ⟨true, ["d", "a"]⟩), (.boundary, ⟨true, ["d", "e", "..", "a"]⟩),
    (.exception, ⟨true, ["d", "e"]⟩)]
  channel := .sinks

theorem mixedReport_hasZero : ∀ c p, mixedReport.paths.lookup c = some p → p.hasZero = false := by
  intro c p hp
  cases c <;> · cases hp; decide

/-- A directory with a directory in it and a file that holds one line. -/
def mixedOutside : Outside where
  files := { entries := [(["d"], .directory), (["d", "e"], .directory), (["d", "a"], .file (Text.encode "old\n"))] }
  answers := []
  sent := []
  log := []

/-- The record of a check of a category that was passed or failed. -/
def mixedRecord (name : String) (category : Category) (passed : Bool) : Record where
  checkName := name
  category := category
  maxScore := .whole 1
  earned := .points (.whole (if passed then 1 else 0))
  status := if passed then .pass else .fail
  mandatory := false
  feedback := if passed then "" else "f"
  earned_allowed := by cases passed <;> rfl
  status_eq := by cases passed <;> rfl
  feedback_eq := by cases passed <;> rfl

/-- Records of two categories. -/
def mixedBundle : Bundle :=
  ⟨[("a", mixedRecord "A" .functional true), ("b", mixedRecord "B" .boundary false)], "", by decide⟩

/-- Records of three categories; the report of the second one cannot be opened. -/
def brokenBundle : Bundle :=
  ⟨[("a", mixedRecord "A" .functional true), ("c", mixedRecord "C" .exception true),
    ("b", mixedRecord "B" .boundary false)], "", by decide⟩

/-- The same directory, where the file can only hold one line more. -/
def narrowOutside : Outside :=
  { mixedOutside with files := { mixedOutside.files with
      rights := { room? := fun place => if place = ["d", "a"] then some (14, ⟨28, "full"⟩) else none } } }

/-- **Lines of a file with two names** stand in the order of writing, and a
bundle is cut off at a directory. -/
theorem mixed_lines_add_up : (∀ c p, mixedReport.paths.lookup c = some p → p.hasZero = false) ∧
    (∃ o', Work.on mixedOutside ([mixedBundle, mixedBundle].forM mixedReport.write) = (.ok (), o') ∧
      o'.files.node? ["d", "a"] = some (.file (Text.encode "old\nA=PASS\nB=FAIL\nA=PASS\nB=FAIL\n"))) ∧
    (∃ e o', Work.on mixedOutside (mixedReport.write brokenBundle) = (.error e, o') ∧ e.isExternal = true ∧
      o'.files.bytesAt ["d", "a"] = Text.encode "old\nA=PASS\n") ∧
    ∃ e o', Work.on narrowOutside (mixedReport.write mixedBundle) = (.error e, o') ∧ e.isExternal = true ∧
      o'.files.bytesAt ["d", "a"] = Text.encode "old\nA=PASS\nB=F" := by
  have hzero := mixedReport_hasZero
  obtain ⟨hbundles, hbundle⟩ := lines_add_up hzero mixedOutside
  refine ⟨hzero, ?_, ?_, ?_⟩
  · obtain ⟨hreturns, hlines⟩ := hbundles [mixedBundle, mixedBundle]
    have hleads : mixedOutside.files.LeadsTo ⟨true, ["d", "a"]⟩ ["d", "a"] := ⟨rfl, by decide⟩
    have hnone : ∀ i < 4, ¬ mixedReport.StopsAt mixedOutside.files
        ([mixedBundle, mixedBundle].flatMap Bundle.records) i := by decide
    obtain ⟨o', hwrite⟩ := hreturns.2 fun i hi => hnone i hi.lt_length hi
    refine ⟨o', hwrite, ?_⟩
    rw [(hlines o' hwrite).1 .functional _ ["d", "a"] rfl hleads (by decide)]
    decide +kernel
  · obtain ⟨e, o', r, hwrite, hexternal, hr, hbroken⟩ :=
      hbundle brokenBundle |>.2 1 (isLeast_stopsAt (by decide) (by decide))
    refine ⟨e, o', hwrite, hexternal, ?_⟩
    cases hr
    have hnone : mixedReport.place? mixedOutside.files (mixedRecord "C" .exception true) = none := rfl
    rcases hbroken with ⟨-, hgrown⟩ | ⟨hplace, -⟩
    · rw [hgrown.bytesAt_eq]
      decide +kernel
    · cases hnone.symm.trans hplace
  · obtain ⟨e, o', r, hwrite, hexternal, hr, hbroken⟩ :=
      (lines_add_up hzero narrowOutside).2 mixedBundle |>.2 1 (isLeast_stopsAt (by decide +kernel) (by decide +kernel))
    refine ⟨e, o', hwrite, hexternal, ?_⟩
    cases hr
    have hopen : ¬ mixedReport.IsBlocked narrowOutside.files (mixedRecord "B" .boundary false) := by decide
    have hsome : mixedReport.place? narrowOutside.files (mixedRecord "B" .boundary false) = some ["d", "a"] := by
      rfl
    rcases hbroken with ⟨hblocked, -⟩ | ⟨hplace, hroom, hgrown, rfl⟩
    · exact absurd hblocked hopen
    · cases hsome.symm.trans hplace
      cases hroom
      rw [Files.bytesAt_of_file (Files.node?_put_self _ _ _ (by simp)), hgrown.bytesAt_eq]
      decide +kernel

/-- The same directory, where a file can be opened and holds nothing. -/
def exhaustedOutside : Outside :=
  { mixedOutside with files := { mixedOutside.files with
      rights := { room? := fun _ => some (0, ⟨28, "No space left on device"⟩) } } }

/-- **A report that can be opened may still have no room**: writing fails
although no report is blocked. -/
theorem not_forall_write_fails_iff_blocked : ¬ ∀ (t : TextReport) (o : Outside) (b : Bundle),
    (∀ c p, t.paths.lookup c = some p → p.hasZero = false) →
    ((∃ e o', Work.on o (t.write b) = (.error e, o') ∧ e.isExternal = true) ↔
      ∃ r ∈ b.records, t.IsBlocked o.files r) := by
  intro hall
  have hleast : IsLeast {i | mixedReport.StopsAt exhaustedOutside.files mixedBundle.records i} 0 :=
    isLeast_stopsAt (by decide +kernel) (by simp)
  obtain ⟨e, o', r, hwrite, hexternal, -⟩ := on_forM_of_isLeast mixedReport_hasZero hleast
  have hopen : ∀ r ∈ mixedBundle.records, ¬ mixedReport.IsBlocked exhaustedOutside.files r := by decide
  obtain ⟨r, hr, hblocked⟩ := (hall mixedReport exhaustedOutside mixedBundle mixedReport_hasZero).1
    ⟨e, o', hwrite, hexternal⟩
  exact hopen r hr hblocked

/-! ## Paths that name their places

Where paths can be opened and have no double dots in them, nothing fails, and
which records land at a place is known from the paths alone. -/

/-- The records whose lines land at a place. -/
def landing (t : TextReport) (place : List String) (rs : List Record) : List Record :=
  rs.filter fun r => (t.paths.lookup r.category).any fun p => p.parts = place

/-- All paths of the report can be opened. -/
def Opens (t : TextReport) (fs : Files) : Prop := ∀ c p, t.paths.lookup c = some p → fs.Opens p

/-- Paths that can be opened lead where their components say. -/
theorem landed_eq_landing (hopens : t.Opens fs) (place : List String) (rs : List Record) :
    t.landed fs place rs = t.landing place rs := by
  refine List.filter_congr fun r _ => ?_
  rw [Bool.eq_iff_iff, decide_eq_true_iff, place?_eq_some_iff, Option.any_eq_true]
  refine exists_congr fun p => and_congr_right fun hp => ?_
  have hleads := (hopens _ p hp).leadsTo
  rw [decide_eq_true_iff]
  constructor
  · rintro ⟨h, -⟩
    exact hleads.unique h
  · rintro rfl
    exact ⟨hleads, (hopens _ p hp).free.write⟩

/-- What the files hold behind what they held before, once the lines of some
records were added. -/
structure Added (t : TextReport) (rs : List Record) (o o' : Outside) : Prop where
  sent : o'.sent = o.sent
  answers : o'.answers = o.answers
  directories : o.files.SameDirectories o'.files
  kept : ∀ place, t.landing place rs = [] → o'.files.node? place = o.files.node? place
  grown : ∀ place, t.landing place rs ≠ [] →
    o'.files.node? place = some (.file (o.files.bytesAt place ++ lines (t.landing place rs)))

namespace Added

/-- Notes do not matter. -/
theorem noted {o'' : Outside} (h : t.Added rs o o') (hnoted : OnlyNoted o' o'') : t.Added rs o o'' := by
  refine ⟨hnoted.sent.trans h.sent, hnoted.answers.trans h.answers, ?_, ?_, ?_⟩
  · rw [hnoted.files]
    exact h.directories
  · rw [hnoted.files]
    exact h.kept
  · rw [hnoted.files]
    exact h.grown

end Added

theorem Grown.added (h : t.Grown rs o o') (hopens : t.Opens o.files) : t.Added rs o o' := by
  refine ⟨h.sent, h.answers, h.directories, fun place hplace => ?_, fun place hplace => ?_⟩
  · exact h.kept place (by rw [landed_eq_landing hopens, hplace])
  · rw [← landed_eq_landing hopens] at hplace ⊢
    exact h.grown place hplace

/-- **A bundle** adds the lines of its records. -/
theorem write_eq (hopens : t.Opens o.files) (b : Bundle) :
    ∃ o', Work.on o (t.write b) = (.ok (), o') ∧ t.Added b.records o o' := by
  have hnone : ∀ i, ¬ t.StopsAt o.files b.records i := by
    rintro i ⟨r, -, hblocked | ⟨place, hplace, hlong⟩⟩
    · exact not_isBlocked_iff.2 (fun p hp => ⟨p.parts, (hopens _ p hp).leadsTo, (hopens _ p hp).free.write⟩) hblocked
    · obtain ⟨p, hp, hleads, -⟩ := place?_eq_some_iff.1 hplace
      have hopen := hopens _ p hp
      rw [hleads.unique hopen.leadsTo] at hlong
      exact hlong (hopen.free.holds _)
  obtain ⟨o', hwrite, hgrown⟩ := on_forM_of_forall_not hnone
  exact ⟨o', hwrite, hgrown.added hopens⟩

end ScriptGrader.TextReport
