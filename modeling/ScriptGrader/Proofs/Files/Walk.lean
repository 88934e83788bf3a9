import Mathlib.Data.List.Basic
import ScriptGrader.Files.Basic
import ScriptGrader.Proofs.Results

/-!
# Where paths lead

A path without double dots leads to the place that its components name,
through the directories above it. Whether it gets there depends on these
directories and on what the system allows alone, so it does not matter which
files come and go.
-/

namespace ScriptGrader.Files

/-- A path that can be walked to its last component. -/
structure Reaches (fs : Files) (p : Path) : Prop where
  noZero : p.hasZero = false
  short : p.text.utf8ByteSize ≤ pathLimit
  shortNames : ∀ name ∈ p.parts, name.utf8ByteSize ≤ nameLimit
  searchable : ∀ n, n < p.parts.length → fs.Grants .search (p.parts.take n)
  above : ∀ n, 0 < n → n < p.parts.length → fs.node? (p.parts.take n) = some .directory

/-- The same places are directories, and the system allows the same. -/
structure SameDirectories (fs fs' : Files) : Prop where
  directories : ∀ place, fs.node? place = some .directory ↔ fs'.node? place = some .directory
  rights : fs.rights = fs'.rights

variable {fs fs' : Files} {p : Path} {place q : List String} {e : Option FileNode} {bytes : List UInt8}
  {d : Deed}

namespace SameDirectories

theorem refl (fs : Files) : fs.SameDirectories fs := ⟨fun _ => Iff.rfl, rfl⟩

theorem trans {fs'' : Files} (h : fs.SameDirectories fs') (h' : fs'.SameDirectories fs'') :
    fs.SameDirectories fs'' :=
  ⟨fun place => (h.directories place).trans (h'.directories place), h.rights.trans h'.rights⟩

theorem symm (h : fs.SameDirectories fs') : fs'.SameDirectories fs :=
  ⟨fun place => (h.directories place).symm, h.rights.symm⟩

/-- The same is allowed. -/
theorem grants (h : fs.SameDirectories fs') (hgrants : fs.Grants d place) : fs'.Grants d place := by
  rw [Grants, ← h.rights]
  exact hgrants

/-- A path is walked in the same way. -/
theorem reaches (h : fs.SameDirectories fs') (hp : fs.Reaches p) : fs'.Reaches p :=
  ⟨hp.noZero, hp.short, hp.shortNames, fun n hn => h.grants (hp.searchable n hn),
    fun n hpos hn => (h.directories _).1 (hp.above n hpos hn)⟩

end SameDirectories

theorem ne_nil_of_not_directory (h : fs.node? place ≠ some .directory) : place ≠ [] := by
  rintro rfl
  exact h rfl

/-- A file that is written leaves the directories as they are. -/
theorem sameDirectories_put (h : fs.node? place ≠ some .directory) (bytes : List UInt8) :
    fs.SameDirectories (fs.put place (.file bytes)) := by
  refine ⟨fun q => ?_, rfl⟩
  by_cases hq : q = place
  · subst hq
    rw [node?_put_self _ _ _ (ne_nil_of_not_directory h)]
    simp [h]
  · rw [node?_put_of_ne _ _ hq]

/-! ## Walking -/

/-- The first step of a walk that comes to its end: up, or to the last
component, or into a directory from which the walk goes on. -/
inductive Steps (fs : Files) (place : List String) (name : String) (rest : List String)
    (x : List String × Option FileNode) : Prop
  | up (hname : name = Path.above) (hup : fs.walk place.dropLast rest = .ok x)
  | last (hname : name ≠ Path.above) (hshort : name.utf8ByteSize ≤ nameLimit) (hrest : rest = [])
      (hx : x = (place ++ [name], fs.node? (place ++ [name])))
  | into (hname : name ≠ Path.above) (hshort : name.utf8ByteSize ≤ nameLimit) (hrest : rest ≠ [])
      (hnode : fs.node? (place ++ [name]) = some .directory) (hinto : fs.walk (place ++ [name]) rest = .ok x)

variable {name : String} {names rest : List String}

/-- The step up. -/
theorem walk_above (hsearch : fs.Grants .search place) (rest : List String) :
    fs.walk place (Path.above :: rest) = fs.walk place.dropLast rest := by
  rw [Grants] at hsearch
  rw [walk.eq_def]
  simp only [hsearch, if_true]

/-- A component that is too long. -/
theorem walk_long (hsearch : fs.Grants .search place) (hname : name ≠ Path.above)
    (hlong : nameLimit < name.utf8ByteSize) (rest : List String) :
    fs.walk place (name :: rest) = .error .nameTooLong := by
  rw [Grants] at hsearch
  rw [walk.eq_def]
  simp only [hsearch, if_neg hname, if_pos hlong]

/-- The step to the last component. -/
theorem walk_last (hsearch : fs.Grants .search place) (hname : name ≠ Path.above)
    (hshort : name.utf8ByteSize ≤ nameLimit) :
    fs.walk place [name] = .ok (place ++ [name], fs.node? (place ++ [name])) := by
  rw [Grants] at hsearch
  rw [walk.eq_def]
  simp only [hsearch, if_neg hname, if_neg (Nat.not_lt.2 hshort)]

/-- The step into a directory. -/
theorem walk_directory (hsearch : fs.Grants .search place) (hname : name ≠ Path.above)
    (hshort : name.utf8ByteSize ≤ nameLimit) (hnode : fs.node? (place ++ [name]) = some .directory)
    (rest : List String) : fs.walk place (name :: rest) = fs.walk (place ++ [name]) rest := by
  cases rest with
  | nil => rw [walk_last hsearch hname hshort, walk]
  | cons r rs =>
    rw [Grants] at hsearch
    rw [walk.eq_def]
    simp only [hsearch, if_neg hname, if_neg (Nat.not_lt.2 hshort), hnode]

/-- A walk goes on from a directory alone. -/
theorem walk_blocked (hsearch : fs.Grants .search place) (hname : name ≠ Path.above)
    (hshort : name.utf8ByteSize ≤ nameLimit) (hrest : rest ≠ [])
    (hnode : fs.node? (place ++ [name]) ≠ some .directory) :
    fs.walk place (name :: rest) = .error .notFound ∨ fs.walk place (name :: rest) = .error .notDirectory := by
  obtain ⟨r, rs, rfl⟩ := List.exists_cons_of_ne_nil hrest
  rw [Grants] at hsearch
  rw [walk.eq_def]
  simp only [hsearch, if_neg hname, if_neg (Nat.not_lt.2 hshort)]
  rcases hfound : fs.node? (place ++ [name]) with _ | ⟨_ | _⟩
  · exact .inl rfl
  · exact .inr rfl
  · exact absurd hfound hnode

/-- **A walk comes to its end** by one of these steps, if the system lets it search. -/
theorem walk_cons_eq_ok_iff {x : List String × Option FileNode} :
    fs.walk place (name :: rest) = .ok x ↔ fs.Grants .search place ∧ fs.Steps place name rest x := by
  constructor
  · intro h
    rcases hsearch : fs.rights.refusal? .search place with _ | err
    swap
    · rw [walk_refused hsearch] at h
      cases h
    refine ⟨hsearch, ?_⟩
    by_cases hname : name = Path.above
    · rw [hname, walk_above hsearch] at h
      exact .up hname h
    by_cases hlong : nameLimit < name.utf8ByteSize
    · rw [walk_long hsearch hname hlong] at h
      cases h
    have hshort := Nat.le_of_not_lt hlong
    by_cases hrest : rest = []
    · rw [hrest, walk_last hsearch hname hshort] at h
      exact .last hname hshort hrest (Except.ok.inj h).symm
    by_cases hnode : fs.node? (place ++ [name]) = some .directory
    · rw [walk_directory hsearch hname hshort hnode] at h
      exact .into hname hshort hrest hnode h
    · rcases walk_blocked hsearch hname hshort hrest hnode with hblocked | hblocked
      · rw [hblocked] at h
        cases h
      · rw [hblocked] at h
        cases h
  · rintro ⟨hsearch, hstep⟩
    cases hstep with
    | up hname hup => rw [hname, walk_above hsearch, hup]
    | last hname hshort hrest hx => rw [hrest, hx, walk_last hsearch hname hshort]
    | into hname hshort _ hnode hinto => rw [walk_directory hsearch hname hshort hnode, hinto]

/-- **A walk without double dots** goes down from directory to directory. -/
theorem walk_eq_ok_iff (habove : Path.above ∉ names) :
    fs.walk place names = .ok (q, e) ↔
      (∀ name ∈ names, name.utf8ByteSize ≤ nameLimit) ∧
      (∀ n, n < names.length → fs.Grants .search (place ++ names.take n)) ∧
      (∀ n, 0 < n → n < names.length → fs.node? (place ++ names.take n) = some .directory) ∧
      q = place ++ names ∧ e = fs.node? (place ++ names) := by
  induction names generalizing place with
  | nil =>
    rw [walk, Except.ok.injEq, Prod.mk.injEq, List.append_nil]
    constructor
    · rintro ⟨rfl, rfl⟩
      exact ⟨by simp, by simp, by simp, rfl, rfl⟩
    · rintro ⟨-, -, -, rfl, rfl⟩
      exact ⟨rfl, rfl⟩
  | cons name rest ih =>
    rw [List.mem_cons, not_or] at habove
    obtain ⟨hname, hrest⟩ := habove
    rw [walk_cons_eq_ok_iff]
    constructor
    · rintro ⟨hsearch, hstep⟩
      cases hstep with
      | up habove _ => exact absurd habove.symm hname
      | last _ hshort hnil hx =>
        cases hx
        subst hnil
        refine ⟨by simpa using hshort, fun n hn => ?_, fun n hpos hn => ?_, rfl, rfl⟩
        · obtain rfl : n = 0 := by simpa using hn
          simpa using hsearch
        · rw [List.length_singleton] at hn
          omega
      | into _ hshort _ hnode hinto =>
        -- what is counted from here is counted one further from the first directory
        obtain ⟨hnames, hsearchable, hdirectories, rfl, rfl⟩ := (ih hrest).1 hinto
        refine ⟨List.forall_mem_cons.2 ⟨hshort, hnames⟩, fun n hn => ?_, fun n hpos hn => ?_, by simp, by simp⟩
        · rcases n with _ | n
          · simpa using hsearch
          · simpa using hsearchable n (by simpa using hn)
        · obtain ⟨n, rfl⟩ : ∃ m, n = m + 1 := ⟨n - 1, by omega⟩
          rcases Nat.eq_zero_or_pos n with rfl | hn'
          · simpa using hnode
          · simpa using hdirectories n hn' (by simpa using hn)
    · rintro ⟨hnames, hsearchable, hdirectories, rfl, rfl⟩
      obtain ⟨hshort, hnames⟩ := List.forall_mem_cons.1 hnames
      refine ⟨by simpa using hsearchable 0 (by simp), ?_⟩
      by_cases hnil : rest = []
      · subst hnil
        exact .last (Ne.symm hname) hshort rfl rfl
      · have hnode : fs.node? (place ++ [name]) = some .directory :=
          hdirectories 1 Nat.one_pos (by simpa using List.length_pos_iff.2 hnil)
        refine .into (Ne.symm hname) hshort hnil hnode ((ih hrest).2 ⟨hnames, fun n hn => ?_, fun n _ hn => ?_, ?_⟩)
        · simpa using hsearchable (n + 1) (by simpa using hn)
        · simpa using hdirectories (n + 1) (by omega) (by simpa using hn)
        · simp

/-- **Where a path without double dots leads.** -/
theorem locate_eq_ok_iff (habove : Path.above ∉ p.parts) :
    fs.locate p = .ok (q, e) ↔ fs.Reaches p ∧ q = p.parts ∧ e = fs.node? p.parts := by
  rw [locate]
  by_cases hzero : p.hasZero = true
  · rw [if_pos hzero]
    constructor
    · intro h
      cases h
    · rintro ⟨h, -⟩
      rw [h.noZero] at hzero
      cases hzero
  rw [if_neg hzero]
  by_cases hlong : pathLimit < p.text.utf8ByteSize
  · rw [if_pos hlong]
    constructor
    · intro h
      cases h
    · rintro ⟨h, -⟩
      have := h.short
      omega
  rw [if_neg hlong]
  rw [Except.mapError_eq_ok_iff, walk_eq_ok_iff habove]
  simp only [List.nil_append]
  constructor
  · rintro ⟨hnames, hsearchable, hdirectories, rfl, rfl⟩
    exact ⟨⟨by simpa using hzero, by omega, hnames, hsearchable, hdirectories⟩, rfl, rfl⟩
  · rintro ⟨h, rfl, rfl⟩
    exact ⟨h.shortNames, h.searchable, h.above, rfl, rfl⟩

/-- A path that can be walked leads to its place. -/
theorem Reaches.locate_eq (h : fs.Reaches p) (habove : Path.above ∉ p.parts) :
    fs.locate p = .ok (p.parts, fs.node? p.parts) :=
  (locate_eq_ok_iff habove).2 ⟨h, rfl, rfl⟩

/-! ## Places that paths lead to -/

/-- The same directories lead a walk to the same place. -/
theorem SameDirectories.walk_eq_ok (h : fs.SameDirectories fs') (hwalk : fs.walk place names = .ok (q, e)) :
    e = fs.node? q ∧ fs'.walk place names = .ok (q, fs'.node? q) := by
  induction names generalizing place with
  | nil =>
    rw [walk] at hwalk ⊢
    cases hwalk
    exact ⟨rfl, rfl⟩
  | cons name rest ih =>
    obtain ⟨hsearch, hstep⟩ := walk_cons_eq_ok_iff.1 hwalk
    rw [walk_cons_eq_ok_iff, and_iff_right (h.grants hsearch)]
    cases hstep with
    | up hname hup =>
      obtain ⟨he, hup'⟩ := ih hup
      exact ⟨he, .up hname hup'⟩
    | last hname hshort hrest hx =>
      cases hx
      exact ⟨rfl, .last hname hshort hrest rfl⟩
    | into hname hshort hrest hnode hinto =>
      obtain ⟨he, hinto'⟩ := ih hinto
      exact ⟨he, .into hname hshort hrest ((h.directories _).1 hnode) hinto'⟩

theorem SameDirectories.locate_eq_ok (h : fs.SameDirectories fs') (hlocate : fs.locate p = .ok (q, e)) :
    e = fs.node? q ∧ fs'.locate p = .ok (q, fs'.node? q) := by
  rw [locate] at hlocate ⊢
  split at hlocate
  · cases hlocate
  · next hzero =>
    split at hlocate
    · cases hlocate
    · next hlong =>
      obtain ⟨he, hwalk⟩ := h.walk_eq_ok (Except.mapError_eq_ok_iff.1 hlocate)
      exact ⟨he, by rw [if_neg hzero, if_neg hlong, hwalk]; rfl⟩

/-- A path that leads to a place where a file can be. -/
structure LeadsTo (fs : Files) (p : Path) (place : List String) : Prop where
  locate_eq : fs.locate p = .ok (place, fs.node? place)
  notDirectory : fs.node? place ≠ some .directory

/-- What stands in a file; nothing where there is none. -/
def bytesAt (fs : Files) (place : List String) : List UInt8 :=
  match fs.node? place with
  | some (.file bytes) => bytes
  | _ => []

theorem bytesAt_of_file (h : fs.node? place = some (.file bytes)) : fs.bytesAt place = bytes := by
  rw [bytesAt, h]

theorem bytesAt_of_none (h : fs.node? place = none) : fs.bytesAt place = [] := by
  rw [bytesAt, h]

/-- Nothing is refused at a place, and a file there can hold whatever is written. -/
structure IsFree (fs : Files) (place : List String) : Prop where
  read : fs.Grants .read place
  write : fs.Grants .write place
  room : fs.rights.room? place = none

instance (fs : Files) (place : List String) : Decidable (fs.IsFree place) :=
  decidable_of_iff (fs.Grants .read place ∧ fs.Grants .write place ∧ fs.rights.room? place = none)
    ⟨fun h => ⟨h.1, h.2.1, h.2.2⟩, fun h => ⟨h.read, h.write, h.room⟩⟩

theorem IsFree.of_sameDirectories (h : fs.IsFree place) (hfs : fs.SameDirectories fs') : fs'.IsFree place :=
  ⟨hfs.grants h.read, hfs.grants h.write, hfs.rights ▸ h.room⟩

@[simp] theorem check_eq_ok_iff : fs.check d place p = .ok () ↔ fs.Grants d place := by
  rw [check, Grants]
  cases fs.rights.refusal? d place <;> simp

theorem check_of_grants (h : fs.Grants d place) (p : Path) : fs.check d place p = .ok () :=
  check_eq_ok_iff.2 h

theorem check_of_refused {err : SystemError} (h : fs.rights.refusal? d place = some err) (p : Path) :
    fs.check d place p = .error (.fault (.refused err) p) := by
  rw [check, h]

/-- A file at a place can hold so many bytes. -/
def Holds (fs : Files) (place : List String) (n : Nat) : Prop :=
  ∀ size err, fs.rights.room? place = some (size, err) → n ≤ size

theorem holds_iff_all {n : Nat} : fs.Holds place n ↔ (fs.rights.room? place).all (fun x => n ≤ x.1) = true := by
  rw [Holds]
  rcases fs.rights.room? place with _ | ⟨size, err⟩ <;> simp

instance (fs : Files) (place : List String) (n : Nat) : Decidable (fs.Holds place n) :=
  decidable_of_iff _ holds_iff_all.symm

theorem SameDirectories.holds (h : fs.SameDirectories fs') {n : Nat} (hn : fs.Holds place n) : fs'.Holds place n :=
  fun size err hroom => hn size err (h.rights ▸ hroom)

theorem IsFree.holds (h : fs.IsFree place) (n : Nat) : fs.Holds place n := by
  intro size err hroom
  rw [h.room] at hroom
  cases hroom

/-- Everything gets into a file that can hold it. -/
theorem fill_of_holds {kept bytes : List UInt8} (h : fs.Holds place (kept ++ bytes).length) :
    fs.fill place kept bytes = (.ok (), fs.put place (.file (kept ++ bytes))) := by
  rw [fill]
  rcases hroom : fs.rights.room? place with _ | ⟨size, err⟩
  · rfl
  · have hle := h size err hroom
    rw [List.length_append] at hle
    simp only
    rw [if_pos hle, List.take_of_length_le (by omega)]

/-- What a file cannot hold is cut off. -/
theorem fill_of_room {kept bytes : List UInt8} {size : Nat} {err : SystemError}
    (hroom : fs.rights.room? place = some (size, err)) (hlong : size < (kept ++ bytes).length) :
    fs.fill place kept bytes =
      (.error (.cut err), fs.put place (.file (kept ++ bytes.take (size - kept.length)))) := by
  rw [List.length_append] at hlong
  rw [fill, hroom]
  simp only
  rw [if_neg (Nat.not_le_of_lt hlong)]

/-- What was written without an error is all there. -/
theorem eq_put_of_fill_eq_ok {kept bytes : List UInt8} (h : fs.fill place kept bytes = (.ok (), fs')) :
    fs' = fs.put place (.file (kept ++ bytes)) := by
  by_cases hholds : fs.Holds place (kept ++ bytes).length
  · rw [fill_of_holds hholds] at h
    exact (congrArg Prod.snd h).symm
  · simp only [Holds, not_forall, Nat.not_le] at hholds
    obtain ⟨size, err, hroom, hlong⟩ := hholds
    rw [fill_of_room hroom hlong] at h
    cases congrArg Prod.fst h

/-- Writing changes nothing but the file that is open. -/
theorem exists_fill_eq (fs : Files) (place : List String) (kept bytes : List UInt8) :
    ∃ n, (fs.fill place kept bytes).2 = fs.put place (.file (kept ++ bytes.take n)) := by
  rw [fill]
  rcases fs.rights.room? place with _ | ⟨size, f⟩
  · exact ⟨bytes.length, by rw [List.take_length]⟩
  · exact ⟨size - kept.length, rfl⟩

namespace LeadsTo

/-- Files that come and go do not matter. -/
theorem of_sameDirectories (h : fs.LeadsTo p place) (hfs : fs.SameDirectories fs') : fs'.LeadsTo p place :=
  ⟨(hfs.locate_eq_ok h.locate_eq).2, fun hnode => h.notDirectory ((hfs.directories _).2 hnode)⟩

/-- A path leads to one place. -/
theorem unique (h : fs.LeadsTo p place) (h' : fs.LeadsTo p q) : place = q := by
  have hlocate := h.locate_eq
  rw [h'.locate_eq] at hlocate
  cases hlocate
  rfl

theorem open?_eq (h : fs.LeadsTo p place) (hwrite : fs.Grants .write place) :
    fs.open? p = .ok (place, fs.bytesAt place) := by
  rw [open?, h.locate_eq]
  rcases hnode : fs.node? place with _ | ⟨bytes | _⟩
  · rw [bytesAt_of_none hnode]
    simp [bind, Except.bind, check_of_grants hwrite, pure, Except.pure]
  · rw [bytesAt_of_file hnode]
    simp [bind, Except.bind, check_of_grants hwrite, pure, Except.pure]
  · exact absurd hnode h.notDirectory

/-- A file that the system does not let be opened. -/
theorem open?_of_refused (h : fs.LeadsTo p place) {err : SystemError}
    (hrefused : fs.rights.refusal? .write place = some err) : fs.open? p = .error (.fault (.refused err) p) := by
  rw [open?, h.locate_eq]
  rcases hnode : fs.node? place with _ | ⟨bytes | _⟩
  · simp [bind, Except.bind, check_of_refused hrefused]
  · simp [bind, Except.bind, check_of_refused hrefused]
  · exact absurd hnode h.notDirectory

theorem write_of_refused (h : fs.LeadsTo p place) {err : SystemError}
    (hrefused : fs.rights.refusal? .write place = some err) (bytes : List UInt8) :
    fs.write p bytes = (.error (.unopened (.fault (.refused err) p)), fs) := by
  rw [write, h.open?_of_refused hrefused]

theorem write_of_holds (h : fs.LeadsTo p place) (hwrite : fs.Grants .write place)
    (hholds : fs.Holds place bytes.length) : fs.write p bytes = (.ok (), fs.put place (.file bytes)) := by
  rw [write, h.open?_eq hwrite]
  exact @fill_of_holds fs place [] bytes hholds

/-- A file that cannot hold what is written to it keeps the beginning of that alone. -/
theorem write_of_room (h : fs.LeadsTo p place) (hwrite : fs.Grants .write place) {size : Nat} {err : SystemError}
    (hroom : fs.rights.room? place = some (size, err)) (hlong : size < bytes.length) :
    fs.write p bytes = (.error (.cut err), fs.put place (.file (bytes.take size))) := by
  rw [write, h.open?_eq hwrite]
  exact @fill_of_room fs place [] bytes size err hroom hlong

theorem write_eq (h : fs.LeadsTo p place) (hfree : fs.IsFree place) (bytes : List UInt8) :
    fs.write p bytes = (.ok (), fs.put place (.file bytes)) :=
  h.write_of_holds hfree.write (hfree.holds _)

theorem isFile?_eq_true (h : fs.LeadsTo p place) (hnode : fs.node? place = some (.file bytes)) :
    fs.isFile? p = .ok true := by
  rw [isFile?, h.locate_eq, hnode]

theorem isFile?_eq_false (h : fs.LeadsTo p place) (hnode : fs.node? place = none) :
    fs.isFile? p = .ok false := by
  rw [isFile?, h.locate_eq, hnode]

theorem read?_eq (h : fs.LeadsTo p place) (hread : fs.Grants .read place)
    (hnode : fs.node? place = some (.file bytes)) : fs.read? p = .ok bytes := by
  rw [read?, h.locate_eq, hnode]
  simp [bind, Except.bind, check_of_grants hread, pure, Except.pure]

theorem read?_of_refused (h : fs.LeadsTo p place) {err : SystemError}
    (hrefused : fs.rights.refusal? .read place = some err) (hnode : fs.node? place = some (.file bytes)) :
    fs.read? p = .error (.fault (.refused err) p) := by
  rw [read?, h.locate_eq, hnode]
  simp [bind, Except.bind, check_of_refused hrefused]

/-- A path that leads anywhere has no zero in it. -/
theorem hasZero (h : fs.LeadsTo p place) : p.hasZero = false := by
  have hlocate := h.locate_eq
  rw [locate] at hlocate
  split at hlocate
  · cases hlocate
  · next hzero => simpa using hzero

end LeadsTo

/-- What can be opened leads to a place where a file can be written. -/
theorem leadsTo_of_open? {old : List UInt8} (h : fs.open? p = .ok (place, old)) :
    fs.LeadsTo p place ∧ fs.Grants .write place := by
  rcases hlocate : fs.locate p with f | ⟨q, found⟩
  · rw [open?, hlocate] at h
    cases h
  · obtain ⟨rfl, -⟩ := (SameDirectories.refl fs).locate_eq_ok hlocate
    by_cases hdirectory : fs.node? q = some .directory
    · rw [open?, hlocate, hdirectory] at h
      cases h
    have hleads : fs.LeadsTo p q := ⟨hlocate, hdirectory⟩
    rcases hrefused : fs.rights.refusal? .write q with _ | f
    · rw [hleads.open?_eq hrefused] at h
      cases h
      exact ⟨hleads, hrefused⟩
    · rw [hleads.open?_of_refused hrefused] at h
      cases h

/-- What can be read leads to where it stands. -/
theorem exists_leadsTo_of_read? (h : fs.read? p = .ok bytes) :
    ∃ place, fs.LeadsTo p place ∧ fs.Grants .read place ∧ fs.node? place = some (.file bytes) := by
  rcases hlocate : fs.locate p with f | ⟨place, found⟩
  · rw [read?, hlocate] at h
    cases h
  · obtain ⟨rfl, -⟩ := (SameDirectories.refl fs).locate_eq_ok hlocate
    rw [read?, hlocate] at h
    rcases hrefused : fs.rights.refusal? .read place with _ | f
    swap
    · rcases hnode : fs.node? place with _ | e
      · rw [hnode] at h
        cases h
      · rw [hnode] at h
        simp [bind, Except.bind, check_of_refused hrefused] at h
    rcases hnode : fs.node? place with _ | ⟨old | _⟩
    · rw [hnode] at h
      cases h
    · rw [hnode] at h
      simp only [bind, Except.bind, check_of_grants hrefused, pure, Except.pure, Except.ok.injEq] at h
      exact ⟨place, ⟨hlocate, by simp [hnode]⟩, hrefused, by rw [hnode, h]⟩
    · rw [hnode] at h
      simp [bind, Except.bind, check_of_grants hrefused] at h

/-- A file that was written leads to where its bytes stand. -/
theorem exists_put_of_write_eq_ok (h : fs.write p bytes = (.ok (), fs')) :
    ∃ place, fs.LeadsTo p place ∧ fs' = fs.put place (.file bytes) := by
  rw [write] at h
  rcases hopen : fs.open? p with e | ⟨place, old⟩
  · rw [hopen] at h
    cases congrArg Prod.fst h
  · rw [hopen] at h
    exact ⟨place, (leadsTo_of_open? hopen).1, eq_put_of_fill_eq_ok h⟩

/-! ## Opening files -/

/-- A path without double dots at which a file can be written. -/
structure Opens (fs : Files) (p : Path) : Prop where
  flat : Path.above ∉ p.parts
  reaches : fs.Reaches p
  notDirectory : fs.node? p.parts ≠ some .directory
  free : fs.IsFree p.parts

namespace Opens

/-- Such a path leads where its components say. -/
theorem leadsTo (h : fs.Opens p) : fs.LeadsTo p p.parts := ⟨h.reaches.locate_eq h.flat, h.notDirectory⟩

/-- Files that come and go do not matter. -/
theorem of_sameDirectories (h : fs.Opens p) (hfs : fs.SameDirectories fs') : fs'.Opens p :=
  ⟨h.flat, hfs.reaches h.reaches, fun hnode => h.notDirectory ((hfs.directories _).2 hnode),
    h.free.of_sameDirectories hfs⟩

theorem isFile?_eq_true (h : fs.Opens p) (hnode : fs.node? p.parts = some (.file bytes)) :
    fs.isFile? p = .ok true := h.leadsTo.isFile?_eq_true hnode

theorem isFile?_eq_false (h : fs.Opens p) (hnode : fs.node? p.parts = none) :
    fs.isFile? p = .ok false := h.leadsTo.isFile?_eq_false hnode

theorem read?_eq (h : fs.Opens p) (hnode : fs.node? p.parts = some (.file bytes)) :
    fs.read? p = .ok bytes := h.leadsTo.read?_eq h.free.read hnode

end Opens

/-! ## Directories -/

/-- A path that leads to a directory. -/
def HasDirectory (fs : Files) (p : Path) : Prop := ∃ place, fs.locate p = .ok (place, some .directory)

instance (fs : Files) (p : Path) : Decidable (fs.HasDirectory p) :=
  match h : fs.locate p with
  | .ok (place, some .directory) => isTrue ⟨place, h⟩
  | .ok (_, some (.file _)) => isFalse (by rintro ⟨place, h'⟩; rw [h] at h'; cases h')
  | .ok (_, none) => isFalse (by rintro ⟨place, h'⟩; rw [h] at h'; cases h')
  | .error _ => isFalse (by rintro ⟨place, h'⟩; rw [h] at h'; cases h')

/-! ## Files that are there -/

/-- What can be read stands where the path leads. -/
theorem read?_eq_ok_iff (habove : Path.above ∉ p.parts) :
    fs.read? p = .ok bytes ↔
      fs.Reaches p ∧ fs.Grants .read p.parts ∧ fs.node? p.parts = some (.file bytes) := by
  constructor
  · intro h
    obtain ⟨place, hleads, hgrants, hnode⟩ := exists_leadsTo_of_read? h
    obtain ⟨hreaches, rfl, -⟩ := (locate_eq_ok_iff habove).1 hleads.locate_eq
    exact ⟨hreaches, hgrants, hnode⟩
  · rintro ⟨hreaches, hgrants, hnode⟩
    have hleads : fs.LeadsTo p p.parts := ⟨hreaches.locate_eq habove, by simp [hnode]⟩
    exact hleads.read?_eq hgrants hnode

/-- A path without zeros is never refused for one. -/
theorem locate_ne_zero (h : p.hasZero = false) : fs.locate p ≠ .error .zero := by
  rw [locate, if_neg (by simp [h])]
  split
  · simp
  · rcases fs.walk [] p.parts with f | found <;> simp [Except.mapError]

theorem check_ne_zero (d : Deed) (place : List String) (p : Path) : fs.check d place p ≠ .error .zero := by
  rw [check]
  split <;> simp

theorem read?_ne_zero (h : p.hasZero = false) : fs.read? p ≠ .error .zero := by
  rw [read?]
  rcases hlocate : fs.locate p with e | ⟨q, _ | found⟩
  · intro hzero
    cases hzero
    exact locate_ne_zero h hlocate
  · simp [bind, Except.bind]
  · have hne := @check_ne_zero fs .read q p
    rcases hcheck : fs.check .read q p with e | _
    · rw [hcheck] at hne
      simpa [bind, Except.bind, hcheck] using hne
    · cases found <;> simp [bind, Except.bind, hcheck, pure, Except.pure]

theorem open?_ne_zero (h : p.hasZero = false) : fs.open? p ≠ .error .zero := by
  rw [open?]
  rcases hlocate : fs.locate p with e | ⟨q, found⟩
  · intro hzero
    cases hzero
    exact locate_ne_zero h hlocate
  · have hne := @check_ne_zero fs .write q p
    rcases hcheck : fs.check .write q p with e | _
    · rw [hcheck] at hne
      rcases found with _ | ⟨bytes | _⟩
      · simpa [bind, Except.bind, hcheck] using hne
      · simpa [bind, Except.bind, hcheck] using hne
      · simp [bind, Except.bind]
    · rcases found with _ | ⟨bytes | _⟩ <;> simp [bind, Except.bind, hcheck, pure, Except.pure]

theorem fill_ne_zero (fs : Files) (place : List String) (kept bytes : List UInt8) :
    (fs.fill place kept bytes).1 ≠ .error (.unopened .zero) := by
  rw [fill]
  rcases fs.rights.room? place with _ | ⟨size, err⟩
  · simp
  · simp only
    split <;> simp

theorem write_ne_zero (h : p.hasZero = false) : (fs.write p bytes).1 ≠ .error (.unopened .zero) := by
  rw [write]
  rcases hopen : fs.open? p with e | ⟨place, old⟩
  · have hne := @open?_ne_zero fs p h
    rw [hopen] at hne
    simpa using hne
  · exact fill_ne_zero fs place [] bytes

theorem append_ne_zero (h : p.hasZero = false) : (fs.append p bytes).1 ≠ .error (.unopened .zero) := by
  rw [append]
  rcases hopen : fs.open? p with e | ⟨place, old⟩
  · have hne := @open?_ne_zero fs p h
    rw [hopen] at hne
    simpa using hne
  · exact fill_ne_zero fs place old bytes

/-- There is a file at a path if the path leads to one. -/
theorem isFile?_eq_true_iff_locate :
    fs.isFile? p = .ok true ↔ ∃ place bytes, fs.locate p = .ok (place, some (.file bytes)) := by
  rw [isFile?]
  split
  · next place bytes hlocate => exact iff_of_true rfl ⟨place, bytes, hlocate⟩
  · next hlocate =>
    rw [hlocate]
    split <;> simp
  · next hno _ => simpa using hno

theorem isFile?_eq_true_iff (habove : Path.above ∉ p.parts) :
    fs.isFile? p = .ok true ↔ fs.Reaches p ∧ ∃ bytes, fs.node? p.parts = some (.file bytes) := by
  rw [isFile?_eq_true_iff_locate]
  constructor
  · rintro ⟨place, bytes, hlocate⟩
    obtain ⟨hreaches, -, hnode⟩ := (locate_eq_ok_iff habove).1 hlocate
    exact ⟨hreaches, bytes, hnode.symm⟩
  · rintro ⟨hreaches, bytes, hnode⟩
    exact ⟨p.parts, bytes, by rw [hreaches.locate_eq habove, hnode]⟩

/-- A walk goes on from the directory that it has come to. -/
theorem walk_append_of_directory (hwalk : fs.walk place names = .ok (q, some .directory)) (rest : List String) :
    fs.walk place (names ++ rest) = fs.walk q rest := by
  induction names generalizing place with
  | nil =>
    rw [walk, Except.ok.injEq, Prod.mk.injEq] at hwalk
    rw [hwalk.1, List.nil_append]
  | cons name names ih =>
    obtain ⟨hsearch, hstep⟩ := walk_cons_eq_ok_iff.1 hwalk
    rw [List.cons_append]
    cases hstep with
    | up hname hup => rw [hname, walk_above hsearch, ih hup]
    | last hname hshort hnil hx =>
      -- the walk that came to its end goes on from there
      obtain ⟨rfl, hnode⟩ := Prod.mk.inj hx
      rw [hnil, List.nil_append, walk_directory hsearch hname hshort hnode.symm]
    | into hname hshort _ hnode hinto => rw [walk_directory hsearch hname hshort hnode, ih hinto]

/-- So it does along components without double dots. -/
theorem walk_append (habove : Path.above ∉ names)
    (hshort : ∀ name ∈ names, name.utf8ByteSize ≤ nameLimit)
    (hsearchable : ∀ n, n < names.length → fs.Grants .search (place ++ names.take n))
    (hdirectories : ∀ n, 0 < n → n ≤ names.length → fs.node? (place ++ names.take n) = some .directory)
    (rest : List String) : fs.walk place (names ++ rest) = fs.walk (place ++ names) rest := by
  cases names with
  | nil => rw [List.nil_append, List.append_nil]
  | cons name names =>
    have hnode := hdirectories (name :: names).length (by simp) (Nat.le_refl _)
    rw [List.take_length] at hnode
    refine walk_append_of_directory ((walk_eq_ok_iff habove).2 ⟨hshort, hsearchable, ?_, rfl, hnode.symm⟩) rest
    exact fun n hpos hn => hdirectories n hpos (Nat.le_of_lt hn)

/-- A walk down to a component that is too long is told so. -/
theorem walk_eq_nameTooLong {last : String} (habove : Path.above ∉ names ++ [last])
    (hshort : ∀ name ∈ names, name.utf8ByteSize ≤ nameLimit)
    (hsearchable : ∀ n, n ≤ names.length → fs.Grants .search (place ++ names.take n))
    (hdirectories : ∀ n, 0 < n → n ≤ names.length → fs.node? (place ++ names.take n) = some .directory)
    (hlong : nameLimit < last.utf8ByteSize) : fs.walk place (names ++ [last]) = .error .nameTooLong := by
  rw [List.mem_append, List.mem_singleton, not_or] at habove
  have hsearch : fs.rights.refusal? .search (place ++ names) = none := by
    have := hsearchable names.length (Nat.le_refl _)
    rwa [List.take_length] at this
  rw [walk_append habove.1 hshort (fun n hn => hsearchable n (Nat.le_of_lt hn)) hdirectories,
    walk_long hsearch (Ne.symm habove.2) hlong]

/-- What is too long is not looked at. -/
theorem isFile?_of_nameTooLong (h : fs.locate p = .error (.fault .nameTooLong p)) (b : Bool) :
    fs.isFile? p ≠ .ok b := by
  rw [isFile?, h]
  simp [FileFault.error, SystemError.isAbsence]

/-- **A path in a directory** can be walked, unless it is too long to be looked at. -/
theorem reaches_of_parent (habove : Path.above ∉ p.parts) (hzero : p.hasZero = false)
    (hparent : fs.HasDirectory p.parent) (hsearch : fs.Grants .search p.parent.parts) {b : Bool}
    (hfile : fs.isFile? p = .ok b) : fs.Reaches p := by
  have habove' : Path.above ∉ p.parts.dropLast := fun h => habove (p.parts.dropLast_subset h)
  obtain ⟨q, hparent⟩ := hparent
  obtain ⟨hreaches, -, hnode⟩ := (locate_eq_ok_iff habove').1 hparent
  have hsearchable : ∀ n, n ≤ p.parts.dropLast.length → fs.Grants .search (p.parts.dropLast.take n) := by
    intro n hn
    rcases Nat.lt_or_eq_of_le hn with hlt | rfl
    · exact hreaches.searchable n hlt
    · rw [List.take_length]
      exact hsearch
  -- a path that is too long would not have been looked at
  have hshort : p.text.utf8ByteSize ≤ pathLimit := by
    by_contra hlong
    exact isFile?_of_nameTooLong (by rw [locate, if_neg (by simp [hzero]), if_pos (by omega)]) b hfile
  have hdirectories : ∀ n, 0 < n → n ≤ p.parts.dropLast.length →
      fs.node? (p.parts.dropLast.take n) = some .directory := by
    intro n hpos hn
    rcases Nat.lt_or_eq_of_le hn with hlt | rfl
    · exact hreaches.above n hpos hlt
    · rw [List.take_length]
      exact hnode.symm
  have hle : ∀ n, n < p.parts.length → n ≤ p.parts.dropLast.length := by
    intro n hn
    rw [List.length_dropLast]
    omega
  refine ⟨hzero, hshort, ?_, ?_, ?_⟩
  · intro name hname
    by_contra hlong
    rcases List.eq_nil_or_concat p.parts with hnil | ⟨names, last, hlast⟩
    · rw [hnil] at hname
      cases hname
    rw [List.concat_eq_append] at hlast
    have hnames : p.parts.dropLast = names := by simp [hlast]
    rw [hnames] at hdirectories hsearchable
    have hbefore : ∀ name ∈ names, name.utf8ByteSize ≤ nameLimit := by
      rw [← hnames]
      exact hreaches.shortNames
    rw [hlast, List.mem_append, List.mem_singleton] at hname
    rcases hname with hname | rfl
    · exact hlong (hbefore name hname)
    · -- all is well up to the last component, which would have been told to be too long
      have hwalk : fs.walk [] p.parts = .error .nameTooLong := by
        rw [hlast] at habove ⊢
        exact walk_eq_nameTooLong habove hbefore hsearchable hdirectories (Nat.lt_of_not_le hlong)
      refine isFile?_of_nameTooLong ?_ b hfile
      rw [locate, if_neg (by simp [hzero]), if_neg (by omega), hwalk]
      rfl
  · intro n hn
    have := hsearchable n (hle n hn)
    rwa [List.dropLast_eq_take, List.take_take, Nat.min_eq_left (by omega)] at this
  · intro n hpos hn
    have := hdirectories n hpos (hle n hn)
    rwa [List.dropLast_eq_take, List.take_take, Nat.min_eq_left (by omega)] at this

/-- The last component of a walk is not missed: it need not be there. -/
theorem walk_singleton_ne_notFound (fs : Files) (place : List String) (name : String) :
    fs.walk place [name] ≠ .error .notFound := by
  rcases hsearch : fs.rights.refusal? .search place with _ | err
  swap
  · simp [walk_refused hsearch]
  by_cases hname : name = Path.above
  · rw [hname, walk_above hsearch, walk]
    simp
  by_cases hlong : nameLimit < name.utf8ByteSize
  · simp [walk_long hsearch hname hlong]
  · simp [walk_last hsearch hname (Nat.le_of_not_lt hlong)]

/-- **A path at which nothing is found**, in a directory that is there, leads
to a place where a file can be. -/
theorem exists_leadsTo_of_absent (hparent : fs.HasDirectory p.parent)
    (habsent : fs.read? p = .error (.fault .notFound p)) :
    ∃ place, fs.LeadsTo p place ∧ fs.node? place = none := by
  rcases hlocate : fs.locate p with f | ⟨place, found⟩
  · -- the walk would have missed a directory above, but they are there
    exfalso
    rw [read?, hlocate] at habsent
    cases habsent
    rw [locate] at hlocate
    split at hlocate
    · cases hlocate
    split at hlocate
    · cases hlocate
    rcases hwalk : fs.walk [] p.parts with f | found
    · rw [hwalk] at hlocate
      cases hlocate
      obtain ⟨place, hplace⟩ := hparent
      rw [locate] at hplace
      split at hplace
      · cases hplace
      split at hplace
      · cases hplace
      have hdirectory := Except.mapError_eq_ok_iff.1 hplace
      rcases List.eq_nil_or_concat p.parts with hnil | ⟨names, last, hlast⟩
      · rw [hnil, walk] at hwalk
        cases hwalk
      · rw [List.concat_eq_append] at hlast
        have hnames : p.parent.parts = names := by simp [Path.parent, hlast]
        rw [hnames] at hdirectory
        rw [hlast, walk_append_of_directory hdirectory] at hwalk
        exact walk_singleton_ne_notFound fs place last hwalk
    · rw [hwalk] at hlocate
      cases hlocate
  · obtain ⟨rfl, -⟩ := (SameDirectories.refl fs).locate_eq_ok hlocate
    rw [read?, hlocate] at habsent
    rcases hnode : fs.node? place with _ | e
    · exact ⟨place, ⟨hlocate, by simp [hnode]⟩, hnode⟩
    · -- what stands there is read, or the system refuses it
      rw [hnode] at habsent
      rcases hrefused : fs.rights.refusal? .read place with _ | err
      · cases e <;> simp [bind, Except.bind, check_of_grants hrefused, pure, Except.pure] at habsent
      · simp [bind, Except.bind, check_of_refused hrefused] at habsent

end ScriptGrader.Files
