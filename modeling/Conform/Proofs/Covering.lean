import Conform.Proofs.Nodes
import Conform.Proofs.Validation

namespace Conform

/-- Where the strict check accepts, the lax one does not refuse. It may give no answer. -/
def Covers (strict lax : Check Bool) : Prop :=
  strict.outcome = .ok true → lax.outcome ≠ .ok false

namespace Covers

variable {α β : Type}

theorem refl (x : Check Bool) : Covers x x := by
  intro accepted refused
  cases accepted.symm.trans refused

theorem of_accepting (x : Check Bool) : Covers x (pure true) :=
  fun _ => nofun

theorem all {f : α → Check Bool} {g : β → Check Bool} {xs : List α} {ys : List β}
    (h : ∀ y ∈ ys, ∃ x ∈ xs, Covers (f x) (g y)) : Covers (Traced.all f xs) (Traced.all g ys) := by
  intro accepted refused
  obtain ⟨y, hy, refused⟩ := Traced.exists_of_all_refuses refused
  obtain ⟨x, hx, covers⟩ := h y hy
  exact covers (Traced.all_accepts.1 accepted x hx) refused

theorem any {f : α → Check Bool} {g : β → Check Bool} {xs : List α} {ys : List β}
    (h : ∀ x ∈ xs, ∃ y ∈ ys, Covers (f x) (g y)) : Covers (Traced.any f xs) (Traced.any g ys) := by
  intro accepted refused
  obtain ⟨x, hx, accepted⟩ := Traced.exists_of_any_accepts accepted
  obtain ⟨y, hy, covers⟩ := h x hx
  exact covers accepted (Traced.any_refuses.1 refused y hy)

end Covers

/-- Each of the lax tests is covered by one of the strict ones. -/
def CoversEach (strict lax : List (Check Bool)) : Prop :=
  ∀ y ∈ lax, ∃ x ∈ strict, Covers x y

namespace CoversEach

variable {strict strict' lax lax' : List (Check Bool)}

theorem inOrder (h : CoversEach strict lax) :
    Covers (Traced.inOrder strict) (Traced.inOrder lax) :=
  .all h

theorem nil (strict : List (Check Bool)) : CoversEach strict [] :=
  fun _ hy => absurd hy List.not_mem_nil

theorem refl (tests : List (Check Bool)) : CoversEach tests tests :=
  fun y hy => ⟨y, hy, .refl y⟩

theorem append (h : CoversEach strict lax) (h' : CoversEach strict' lax') :
    CoversEach (strict ++ strict') (lax ++ lax') := by
  intro y hy
  rcases List.mem_append.1 hy with hy | hy
  · obtain ⟨x, hx, covers⟩ := h y hy
    exact ⟨x, List.mem_append_left _ hx, covers⟩
  · obtain ⟨x, hx, covers⟩ := h' y hy
    exact ⟨x, List.mem_append_right _ hx, covers⟩

theorem cons {x y : Check Bool} (first : Covers x y) (h : CoversEach strict lax) :
    CoversEach (x :: strict) (y :: lax) := by
  have single : CoversEach [x] [y] := by simpa [CoversEach] using first
  exact single.append h

theorem zipWith {strict lax : List Test}
    (each : List.Forall₂ (fun f g => ∀ v, Covers (f v) (g v)) strict lax) (given : List Value) :
    CoversEach (List.zipWith (fun test item => test item) strict given)
      (List.zipWith (fun test item => test item) lax given) := by
  induction each generalizing given with
  | nil => exact .nil _
  | cons first _ ih =>
    cases given with
    | nil => exact .nil _
    | cons v given => exact .cons (first v) (ih given)

end CoversEach

theorem Traced.any_filterMap {ω ε α β : Type} (read : α → Option β) (test : β → Traced ω ε Bool)
    (xs : List α) :
    any test (xs.filterMap read) = any (fun x => (read x).elim (pure false) test) xs := by
  induction xs with
  | nil => rfl
  | cons x xs ih =>
    cases found : read x with
    | none =>
      rw [List.filterMap_cons_none found, ih, any, found, Option.elim_none, pure_bind]
      rfl
    | some y => rw [List.filterMap_cons_some found, any, any, ih, found, Option.elim_some]

theorem Traced.any_singleton {ω ε α : Type} (test : α → Traced ω ε Bool) (x : α) :
    any test [x] = test x :=
  andThen_true (test x)

namespace Schema

variable {formats : Registry} {host : Host} {strict lax : List (String × Value)}

/-- However its type is written, a node demands what some kind of it does. -/
theorem validate_object (entries : List (String × Value)) (v : Value) :
    validate formats host (.object entries) v =
      if entries.lookup "type" = none then pure true
      else Traced.any (asKind entries formats host (parts formats host entries) v)
        (Node.kindsOf entries) := by
  have named_eq : named entries formats host (parts formats host entries) v = fun name =>
      (Kind.named? name).elim (pure false)
        (asKind entries formats host (parts formats host entries) v) := by
    funext name
    unfold named
    cases Kind.named? name <;> rfl
  show node entries formats host (parts formats host entries) v = _
  unfold node Node.kindsOf
  rw [named_eq]
  split
  · rename_i absent
    rw [if_pos absent]
  · rename_i names given
    rw [if_neg (by simp [given]), given, Traced.any_filterMap]
  · rename_i name single given
    rw [if_neg (by simp [given]), given]
    cases name with
    | list names => exact absurd rfl (single names)
    | text s =>
      show (Kind.named? (.text s)).elim _ _ = Traced.any _ (Kind.named? (.text s)).toList
      cases Kind.named? (.text s) with
      | none => rfl
      | some kind => rw [Option.elim_some, Option.toList_some, Traced.any_singleton]
    | _ => rfl

/-- The strict node keeps the kinds, and asks for more as each of them. -/
theorem covers_node {v : Value}
    (untyped : strict.lookup "type" = none ↔ lax.lookup "type" = none)
    (each : ∀ kind ∈ Node.kindsOf strict, kind ∈ Node.kindsOf lax ∧
      Covers (asKind strict formats host (parts formats host strict) v kind)
        (asKind lax formats host (parts formats host lax) v kind)) :
    Covers (validate formats host (.object strict) v) (validate formats host (.object lax) v) := by
  rw [validate_object, validate_object, if_congr untyped rfl rfl]
  split
  · exact .refl _
  · exact .any fun kind named => ⟨kind, each kind named⟩

theorem covers_property {given : List (String × Value)} {key : String} {s s' : Value}
    {test test' : Test}
    (mandatory : isMandatory lax key s = true → isMandatory strict key s' = true)
    (covers : ∀ v, Covers (test' v) (test v)) :
    Covers (property strict given (key, s', test')) (property lax given (key, s, test)) := by
  unfold property
  dsimp only
  cases given.lookup key with
  | none =>
    cases needed : isMandatory lax key s with
    | false => exact .of_accepting _
    | true =>
      rw [mandatory needed]
      exact .refl _
  | some v =>
    dsimp only
    cases needed : isMandatory lax key s with
    | true =>
      rw [mandatory needed]
      exact covers v
    | false =>
      cases null : v.isNull with
      | true => exact .of_accepting _
      | false => simpa [null] using covers v

/-- The properties of the strict node need not stand in the order of the others, nor be as few. -/
theorem covers_object
    (each : ∀ properties, lax.lookup "properties" = some (.object properties) →
      ∃ properties', strict.lookup "properties" = some (.object properties') ∧
        ∀ p ∈ properties, ∃ s', (p.1, s') ∈ properties' ∧
          (isMandatory lax p.1 p.2 = true → isMandatory strict p.1 s' = true) ∧
          ∀ v, Covers (validate formats host s' v) (validate formats host p.2 v)) (v : Value) :
    Covers (object strict (parts formats host strict) v)
      (object lax (parts formats host lax) v) := by
  cases v with
  | object given =>
    have tests := parts_properties formats host lax
    rw [object, object]
    split at tests
    · rename_i properties found
      obtain ⟨properties', found', each⟩ := each properties found
      simp only [tests, parts_properties, found', fieldTests_eq_map, Traced.all_map]
      refine .all fun p hp => ?_
      obtain ⟨s', hs', mandatory, covers⟩ := each p hp
      exact ⟨(p.1, s'), hs', covers_property mandatory covers⟩
    · rw [tests]
      exact .of_accepting _
  | _ => exact .refl _

theorem covers_items
    (single : ∀ item, lax.lookup "items" = some (.object item) →
      ∃ item', strict.lookup "items" = some (.object item') ∧
        ∀ v, Covers (validate formats host (.object item') v)
          (validate formats host (.object item) v))
    (several : ∀ schemas, lax.lookup "items" = some (.list schemas) →
      ∃ schemas', strict.lookup "items" = some (.list schemas') ∧
        List.Forall₂ (fun s' s => ∀ v, Covers (validate formats host s' v)
          (validate formats host s v)) schemas' schemas) (given : List Value) :
    Covers (items (parts formats host strict) given) (items (parts formats host lax) given) := by
  have tests := parts_items formats host lax
  rw [items, items]
  split at tests
  · rename_i item found
    obtain ⟨item', found', covers⟩ := single item found
    rw [tests, parts_items, found']
    exact .all fun v hv => ⟨v, hv, covers v⟩
  · rename_i schemas found
    obtain ⟨schemas', found', each⟩ := several schemas found
    have covered : List.Forall₂ (fun f g => ∀ v, Covers (f v) (g v))
        (schemas'.map (validate formats host)) (schemas.map (validate formats host)) := by
      rwa [List.forall₂_map_left_iff, List.forall₂_map_right_iff]
    rw [tests, parts_items, found']
    simp only [positionTests_eq_map, List.length_map, each.length_eq]
    split
    · exact (CoversEach.zipWith covered given).inOrder
    · exact .refl _
  · rw [tests]
    exact .of_accepting _

end Schema

end Conform
