import Mathlib.Data.List.Forall2
import Mathlib.Data.List.Induction
import ScriptGrader.Program.Reading
import ScriptGrader.Proofs.Position

/-!
# Functions bound at the top level

`BindsAt` says which functions a tree binds at its top level, and where:
each has a place, which is an item and, for several variables of one
statement, the number of the variable. A program lists these functions in
the order of their places (`Listed`), and an item that binds none is kept as
its kind. What stands deeper in an item has no place and is not listed.
-/

namespace ScriptGrader

open Script (Node FunctionForm)

variable {n d : Node} {items : List Node} {f : Function}

/-! ## What a function keeps -/

/-- A parameter is kept as what it is, with its name if it is one. -/
inductive Parameter.Keeps : Node → Parameter → Prop
  | defaulted (left right : Node) : Keeps (.defaulted left right) (.defaulted left.name?)
  | rest (argument : Node) : Keeps (.rest argument) (.rest argument.name?)
  | plain {n : Node} (hdefault : ∀ left right, n ≠ .defaulted left right)
      (hrest : ∀ argument, n ≠ .rest argument) : Keeps n (.plain n.name?)

/-- A statement is kept as its kind, and a return as one. -/
inductive BodyStatement.Keeps : Node → BodyStatement → Prop
  | return (argument : Option Node) : Keeps (.returnStatement argument) .return
  | other {n : Node} (h : ∀ argument, n ≠ .returnStatement argument) : Keeps n (.other n.kind)

/-- Of a body the statements of its block are kept, and of an expression nothing. -/
inductive Function.KeepsBody : Node → List BodyStatement → Prop
  | block {statements : List Node} {body : List BodyStatement}
      (h : List.Forall₂ BodyStatement.Keeps statements body) : KeepsBody (.blockStatement statements) body
  | expression {n : Node} (h : ∀ statements, n ≠ .blockStatement statements) : KeepsBody n []

/-- **What a function keeps** of how it is written: its name, its parameters
and the statements of its body, one for one and in order. -/
structure Function.Keeps (f : Function) (name : Option String) (form : FunctionForm) (params : List Node)
    (body : Node) : Prop where
  name : f.name = name
  style : f.style = styleOf form
  params : List.Forall₂ Parameter.Keeps params f.params
  body : KeepsBody body f.body

theorem Parameter.keeps_iff (n : Node) (p : Parameter) : Keeps n p ↔ p = ofNode n := by
  constructor
  · rintro (_ | _ | ⟨hdefault, hrest⟩)
    · rfl
    · rfl
    · unfold ofNode
      split
      · exact absurd rfl (hdefault _ _)
      · exact absurd rfl (hrest _)
      · rfl
  · rintro rfl
    unfold ofNode
    split
    · exact .defaulted _ _
    · exact .rest _
    · next hdefault hrest => exact .plain hdefault hrest

theorem BodyStatement.keeps_iff (n : Node) (s : BodyStatement) : Keeps n s ↔ s = ofNode n := by
  constructor
  · rintro (_ | h)
    · rfl
    · unfold ofNode
      split
      · exact absurd rfl (h _)
      · rfl
  · rintro rfl
    unfold ofNode
    split
    · exact .return _
    · next h => exact .other h

/-- What is related one for one by a function is its image. -/
theorem forall₂_iff_eq_map {α β : Type} {R : α → β → Prop} {g : α → β} (hR : ∀ a b, R a b ↔ b = g a)
    {as : List α} {bs : List β} : List.Forall₂ R as bs ↔ bs = as.map g := by
  have hR' : R = fun a b => g a = b := by
    funext a b
    exact propext ((hR a b).trans eq_comm)
  rw [hR', ← List.forall₂_map_left_iff, List.forall₂_eq_eq_eq, eq_comm]

theorem Function.keepsBody_iff {body : List BodyStatement} : KeepsBody n body ↔ body = statements n := by
  constructor
  · rintro (h | h)
    · exact (forall₂_iff_eq_map BodyStatement.keeps_iff).1 h
    · unfold statements
      split
      · exact absurd rfl (h _)
      · rfl
  · rintro rfl
    unfold statements
    split
    · exact .block ((forall₂_iff_eq_map BodyStatement.keeps_iff).2 rfl)
    · next h => exact .expression h

/-- There is one function that keeps what is written. -/
theorem Function.keeps_iff {name : Option String} {form : FunctionForm} {params : List Node} {body : Node} :
    f.Keeps name form params body ↔ f = .ofParts name form params body := by
  constructor
  · rintro ⟨rfl, hstyle, hparams, hbody⟩
    rw [forall₂_iff_eq_map Parameter.keeps_iff] at hparams
    rw [keepsBody_iff] at hbody
    rw [ofParts, ← hstyle, ← hparams, ← hbody]
  · rintro rfl
    exact ⟨rfl, rfl, (forall₂_iff_eq_map Parameter.keeps_iff).2 rfl, keepsBody_iff.2 rfl⟩

/-! ## Where functions are bound -/

/-- An export carries a declaration, or an expression. -/
inductive Exports : Node → Node → Prop
  | named (declaration : Node) (specifiers : List Node) (source : Option Node) :
      Exports (.exportNamed (some declaration) specifiers source) declaration
  | default (declaration : Node) : Exports (.exportDefault declaration) declaration

/-- An export carries one thing. -/
theorem Exports.unique {d' : Node} (h : Exports n d) (h' : Exports n d') : d = d' := by
  cases h <;> cases h' <;> rfl

/-- **What an item binds** at one of its places: the function that it
declares; at the place of a variable, the function or arrow that is its
value, under the name of the variable; what a declaration binds that it
exports; and the function or arrow that it exports itself, under its own
name. -/
inductive Binds : Node → Nat → Function → Prop
  | declaration {isAsync isGenerator : Bool} {name : Option Node} {params : List Node} {body : Node} {f : Function}
      (h : f.Keeps (name.bind Node.name?) .declaration params body) :
      Binds (.function .declaration isAsync isGenerator name params body) 0 f
  | declarator {kind : String} {declarators : List Node} {i : Nat} {target : Node} {form : FunctionForm}
      {isAsync isGenerator : Bool} {name : Option Node} {params : List Node} {body : Node} {f : Function}
      (hvalue : declarators[i]? =
        some (.declarator target (some (.function form isAsync isGenerator name params body))))
      (hform : form ≠ .declaration) (h : f.Keeps target.name? form params body) :
      Binds (.variableDeclaration kind declarators) i f
  | exported {n declaration : Node} {i : Nat} {f : Function} (hexport : Exports n declaration)
      (h : Binds declaration i f) : Binds n i f
  | exportedValue {n : Node} {form : FunctionForm} {isAsync isGenerator : Bool} {name : Option Node}
      {params : List Node} {body : Node} {f : Function}
      (hexport : Exports n (.function form isAsync isGenerator name params body)) (hform : form ≠ .declaration)
      (h : f.Keeps (name.bind Node.name?) form params body) : Binds n 0 f

/-- A place at the top level: an item, and a place in it. -/
structure Place where
  item : Nat
  inside : Nat

/-- One place stands before another in the text. -/
def Place.Before (a b : Place) : Prop := a.item < b.item ∨ a.item = b.item ∧ a.inside < b.inside

/-- **What a tree binds at its top level**, at a place. -/
def BindsAt (items : List Node) (k : Place) (f : Function) : Prop :=
  HoldsAt (fun n => Binds n k.inside f) items k.item

/-! ## Lists in the order of places -/

/-- The functions that are bound at places, each once and in the order of the places. -/
def Listed {κ : Type} (before : κ → κ → Prop) (bound : κ → Function → Prop) (fs : List Function) : Prop :=
  ∃ l : List (κ × Function), l.Pairwise (fun a b => before a.1 b.1) ∧ (∀ k f, (k, f) ∈ l ↔ bound k f) ∧
    l.map Prod.snd = fs

namespace Listed

variable {κ κ' : Type} {before : κ → κ → Prop} {before' : κ' → κ' → Prop} {bound bound' : κ → Function → Prop}
variable {fs fs' : List Function}

theorem congr (h : Listed before bound fs) (heq : ∀ k f, bound k f ↔ bound' k f) : Listed before bound' fs := by
  obtain ⟨l, horder, hmem, hfs⟩ := h
  exact ⟨l, horder, fun k f => (hmem k f).trans (heq k f), hfs⟩

theorem nil (h : ∀ k f, ¬ bound k f) : Listed before bound [] :=
  ⟨[], .nil, by simpa using h, rfl⟩

/-- Where something is bound, something is listed. -/
theorem ne_nil {k : κ} {f : Function} (h : Listed before bound fs) (hbound : bound k f) : fs ≠ [] := by
  obtain ⟨l, -, hmem, rfl⟩ := h
  exact List.ne_nil_of_mem (List.mem_map_of_mem ((hmem k f).2 hbound))

theorem single {k : κ} {f : Function} (h : ∀ k' f', bound k' f' ↔ k' = k ∧ f' = f) : Listed before bound [f] := by
  refine ⟨[(k, f)], List.pairwise_singleton _ _, fun k' f' => ?_, rfl⟩
  rw [h, List.mem_singleton, Prod.mk.injEq]

/-- What is bound behind comes behind. -/
theorem append (h : Listed before bound fs) (h' : Listed before bound' fs')
    (hbefore : ∀ k f k' f', bound k f → bound' k' f' → before k k') :
    Listed before (fun k f => bound k f ∨ bound' k f) (fs ++ fs') := by
  obtain ⟨l, horder, hmem, rfl⟩ := h
  obtain ⟨l', horder', hmem', rfl⟩ := h'
  refine ⟨l ++ l', List.pairwise_append.2 ⟨horder, horder', ?_⟩, fun k f => ?_, List.map_append⟩
  · rintro ⟨k, f⟩ hl ⟨k', f'⟩ hl'
    exact hbefore k f k' f' ((hmem k f).1 hl) ((hmem' k' f').1 hl')
  · rw [List.mem_append, hmem, hmem']

/-- Places may be given other names, in the same order. -/
theorem map (h : Listed before bound fs) (g : κ → κ') (hg : ∀ k l, before k l → before' (g k) (g l)) :
    Listed before' (fun k' f => ∃ k, g k = k' ∧ bound k f) fs := by
  obtain ⟨l, horder, hmem, rfl⟩ := h
  refine ⟨l.map fun a => (g a.1, a.2), ?_, fun k' f => ?_, by rw [List.map_map]; rfl⟩
  · exact List.pairwise_map.2 (horder.imp fun hab => hg _ _ hab)
  · simp only [List.mem_map, Prod.exists, Prod.mk.injEq, hmem]
    constructor
    · rintro ⟨k, f', hbound, rfl, rfl⟩
      exact ⟨k, rfl, hbound⟩
    · rintro ⟨k, rfl, hbound⟩
      exact ⟨k, f, hbound, rfl, rfl⟩

end Listed

/-! ## What an item contributes -/

namespace Declaration

variable {form : FunctionForm} {isAsync isGenerator : Bool} {name : Option Node} {params : List Node} {body : Node}
variable {i : Nat}

/-- The function of a variable is listed at the variable's place. -/
theorem listed_filterMap (ds : List Node) :
    Listed (· < ·) (fun i f => HoldsAt (fun d => ofDeclarator? d = some f) ds i) (ds.filterMap ofDeclarator?) := by
  induction ds using List.reverseRecOn with
  | nil => exact .nil fun i f h => Nat.not_lt_zero i h.lt_length
  | append_singleton ds d ih =>
    have hlast : Listed (· < ·) (fun i f => i = ds.length ∧ ofDeclarator? d = some f)
        ([d].filterMap ofDeclarator?) := by
      cases h : ofDeclarator? d with
      | none =>
        rw [List.filterMap_cons_none h]
        exact .nil (by simp)
      | some f =>
        rw [List.filterMap_cons_some h]
        exact .single (k := ds.length) (by simp [eq_comm])
    rw [List.filterMap_append]
    refine (ih.append hlast ?_).congr fun i f => holdsAt_append_singleton_iff.symm
    rintro i f j f' h ⟨rfl, -⟩
    exact h.lt_length

theorem ofDeclarator?_eq_some_iff : ofDeclarator? d = some f ↔
    ∃ target form isAsync isGenerator name params body,
      d = .declarator target (some (.function form isAsync isGenerator name params body)) ∧ form ≠ .declaration ∧
        f.Keeps target.name? form params body := by
  constructor
  · intro h
    unfold ofDeclarator? at h
    split at h
    · split at h
      · cases h
      · next hform => exact ⟨_, _, _, _, _, _, _, rfl, hform, Function.keeps_iff.2 (Option.some.inj h).symm⟩
    · cases h
  · rintro ⟨target, form, isAsync, isGenerator, name, params, body, rfl, hform, h⟩
    rw [ofDeclarator?, if_neg hform, Function.keeps_iff.1 h]

theorem binds_declaration_iff : Binds (.function .declaration isAsync isGenerator name params body) i f ↔
    i = 0 ∧ f = .ofParts (name.bind Node.name?) .declaration params body := by
  constructor
  · intro h
    cases h with
    | declaration h => exact ⟨rfl, Function.keeps_iff.1 h⟩
    | exported hexport => cases hexport
    | exportedValue hexport => cases hexport
  · rintro ⟨rfl, hf⟩
    exact .declaration (Function.keeps_iff.2 hf)

theorem binds_variable_iff {kind : String} {ds : List Node} :
    Binds (.variableDeclaration kind ds) i f ↔ HoldsAt (fun d => ofDeclarator? d = some f) ds i := by
  constructor
  · intro h
    cases h with
    | declarator hvalue hform h =>
      exact ⟨_, hvalue, ofDeclarator?_eq_some_iff.2 ⟨_, _, _, _, _, _, _, rfl, hform, h⟩⟩
    | exported hexport => cases hexport
    | exportedValue hexport => cases hexport
  · rintro ⟨d, hd, hf⟩
    obtain ⟨_, _, _, _, _, _, _, rfl, hform, h⟩ := ofDeclarator?_eq_some_iff.1 hf
    exact .declarator hd hform h

/-- What an export binds: what it carries does, or it is what it carries. -/
theorem binds_of_exports (hexport : Exports n d) (h : Binds n i f) :
    Binds d i f ∨ ∃ form isAsync isGenerator name params body,
      d = .function form isAsync isGenerator name params body ∧ form ≠ .declaration ∧ i = 0 ∧
        f.Keeps (name.bind Node.name?) form params body := by
  cases h with
  | declaration => cases hexport
  | declarator => cases hexport
  | exported hexport' h =>
    obtain rfl := hexport.unique hexport'
    exact .inl h
  | exportedValue hexport' hform h =>
    obtain rfl := hexport.unique hexport'
    exact .inr ⟨_, _, _, _, _, _, rfl, hform, rfl, h⟩

/-- An exported function is bound, however it is written. -/
theorem binds_exported_function_iff (hexport : Exports n (.function form isAsync isGenerator name params body)) :
    Binds n i f ↔ i = 0 ∧ f = .ofParts (name.bind Node.name?) form params body := by
  constructor
  · intro h
    rcases binds_of_exports hexport h with h | ⟨_, _, _, _, _, _, heq, -, rfl, h⟩
    · cases h with
      | declaration h => exact ⟨rfl, Function.keeps_iff.1 h⟩
      | exported hexport => cases hexport
      | exportedValue hexport => cases hexport
    · cases heq
      exact ⟨rfl, Function.keeps_iff.1 h⟩
  · rintro ⟨rfl, hf⟩
    rw [← Function.keeps_iff] at hf
    by_cases hform : form = .declaration
    · subst hform
      exact .exported hexport (.declaration hf)
    · exact .exportedValue hexport hform hf

/-- Otherwise an export binds what its declaration binds. -/
theorem binds_exported_iff (hexport : Exports n d)
    (hd : ∀ form isAsync isGenerator name params body,
      d = .function form isAsync isGenerator name params body → False) :
    Binds n i f ↔ Binds d i f := by
  refine ⟨fun h => ?_, .exported hexport⟩
  rcases binds_of_exports hexport h with h | ⟨_, _, _, _, _, _, heq, -⟩
  · exact h
  · exact (hd _ _ _ _ _ _ heq).elim

/-- **An item lists what it binds.** -/
theorem listed_functionsOf (n : Node) : Listed (· < ·) (Binds n) (functionsOf n) := by
  induction n using functionsOf.induct with
  | case1 isAsync isGenerator name params body =>
    rw [functionsOf]
    exact .single fun _ _ => binds_declaration_iff
  | case2 kind ds =>
    rw [functionsOf]
    exact (listed_filterMap ds).congr fun _ _ => binds_variable_iff.symm
  | case3 form isAsync isGenerator name params body specifiers source =>
    rw [functionsOf]
    exact .single fun _ _ => binds_exported_function_iff (.named _ _ _)
  | case4 form isAsync isGenerator name params body =>
    rw [functionsOf]
    exact .single fun _ _ => binds_exported_function_iff (.default _)
  | case5 d specifiers source hd ih =>
    rw [functionsOf]
    · exact ih.congr fun _ _ => (binds_exported_iff (.named _ _ _) hd).symm
    · exact hd
  | case6 d hd ih =>
    rw [functionsOf]
    · exact ih.congr fun _ _ => (binds_exported_iff (.default _) hd).symm
    · exact hd
  | case7 n hfunction hvariable _ _ hnamed hdefault =>
    rw [functionsOf]
    · -- neither a function nor variables nor an export of something
      refine .nil fun i f h => ?_
      cases h with
      | declaration => exact hfunction _ _ _ _ _ rfl
      | declarator => exact hvariable _ _ rfl
      | exported hexport => cases hexport with
        | named => exact hnamed _ _ _ rfl
        | default => exact hdefault _ rfl
      | exportedValue hexport => cases hexport with
        | named => exact hnamed _ _ _ rfl
        | default => exact hdefault _ rfl
    all_goals assumption

/-- **What an item contributes**: the functions that it binds and nothing
else, or, where it binds none, its kind. -/
inductive Contributes : Node → List Declaration → Prop
  | functions {n : Node} {fs : List Function} (hsome : fs ≠ []) (h : Listed (· < ·) (Binds n) fs) :
      Contributes n (fs.map .function)
  | other {n : Node} (h : ∀ i f, ¬ Binds n i f) : Contributes n [.other n.kind]

theorem contributes_ofNode (n : Node) : Contributes n (ofNode n) := by
  have h := listed_functionsOf n
  unfold ofNode
  split
  · next hnone =>
    rw [hnone] at h
    exact .other fun i f hbinds => h.ne_nil hbinds rfl
  · next hsome => exact .functions (fun hnone => hsome hnone) h

end Declaration

/-! ## Programs -/

namespace Program

/-- The functions of a program are those of its items, in order. -/
theorem functions_ofNodes (items : List Node) :
    (ofNodes items).functions = items.flatMap Declaration.functionsOf := by
  simp only [functions, ofNodes, List.filterMap_flatMap]
  congr 1
  funext n
  unfold Declaration.ofNode
  split
  · next hnone => rw [hnone]; rfl
  · simp

/-- One more item at the end binds what it binds there. -/
theorem bindsAt_append_singleton_iff {k : Place} :
    BindsAt (items ++ [n]) k f ↔ BindsAt items k f ∨ ∃ i, ⟨items.length, i⟩ = k ∧ Binds n i f := by
  rw [BindsAt, holdsAt_append_singleton_iff]
  refine or_congr_right ⟨?_, ?_⟩
  · rintro ⟨hitem, h⟩
    exact ⟨k.inside, by rw [← hitem], h⟩
  · rintro ⟨i, rfl, h⟩
    exact ⟨rfl, h⟩

theorem listed_functions (items : List Node) :
    Listed Place.Before (BindsAt items) (ofNodes items).functions := by
  rw [functions_ofNodes]
  induction items using List.reverseRecOn with
  | nil => exact .nil fun k f h => Nat.not_lt_zero k.item h.lt_length
  | append_singleton items n ih =>
    rw [List.flatMap_append, List.flatMap_singleton]
    have hlast : Listed Place.Before (fun k f => ∃ i, ⟨items.length, i⟩ = k ∧ Binds n i f)
        (Declaration.functionsOf n) :=
      (Declaration.listed_functionsOf n).map _ fun i j hij => .inr ⟨rfl, hij⟩
    -- the last item stands behind the places of all others
    refine (ih.append hlast ?_).congr fun k f => bindsAt_append_singleton_iff.symm
    rintro k f _ f' h ⟨i, rfl, -⟩
    exact .inl h.lt_length

/-- **The functions of a program are those bound at the top level of its
script.** They are listed in the order of the text, each place of the text
once, and none that stands elsewhere. Of the declarations each item
contributes its part, in order: the functions that it binds and nothing
else, or its kind. -/
theorem functions_are_bound (items : List Node) :
    Listed Place.Before (BindsAt items) (ofNodes items).functions ∧
      ∃ parts, (ofNodes items).declarations = parts.flatten ∧
        List.Forall₂ Declaration.Contributes items parts := by
  refine ⟨listed_functions items, items.map Declaration.ofNode, List.flatMap_def, ?_⟩
  rw [List.forall₂_map_right_iff, List.forall₂_same]
  exact fun n _ => Declaration.contributes_ofNode n

example :
    (ofNodes
      [.exportNamed (some (.variableDeclaration "const"
        [.declarator (.identifier "one") (some (.literal "1")),
          .declarator (.identifier "id") (some (.function .arrow false false none [.identifier "x"] (.identifier "x"))),
          .declarator (.arrayPattern []) (some (.function .expression false false none [] (.blockStatement [])))]))
        [] none]).declarations =
      [.function ⟨"id", [.plain "x"], [], .arrow⟩, .function ⟨none, [], [], .expression⟩] := by
  rfl

end Program

end ScriptGrader
