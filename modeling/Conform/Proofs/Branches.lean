import Conform.Proofs.Agreement
import Conform.Proofs.Retyping

namespace Conform

namespace Traced

variable {ω ε α β : Type}

/-- The answer that goes with the first item that passes. -/
def search (test : α → Traced ω ε Bool) (answer : α → β) (otherwise : β) (xs : List α) :
    Traced ω ε β :=
  xs.foldr (fun x later => do if ← test x then pure (answer x) else later) (pure otherwise)

theorem any_eq_search (test : α → Traced ω ε Bool) (xs : List α) :
    any test xs = search test (fun _ => true) false xs := by
  induction xs with
  | nil => rfl
  | cons x xs ih =>
    rw [any, ih]
    rfl

/-- Two items do not compete if one of them fails at once, or if they are tested alike and stand for
the same answer. -/
def Apart (test : α → Traced ω ε Bool) (answer : α → β) (x y : α) : Prop :=
  test x = pure false ∨ test y = pure false ∨ test x = test y ∧ answer x = answer y

theorem search_perm {test : α → Traced ω ε Bool} {answer : α → β} {otherwise : β} {xs ys : List α}
    (apart : ∀ x ∈ xs, ∀ y ∈ xs, Apart test answer x y) (order : xs.Perm ys) :
    search test answer otherwise ys = search test answer otherwise xs := by
  refine (order.foldr_eq' (fun x hx y hy later => ?_) _).symm
  rcases apart x hx y hy with first | second | ⟨same, alike⟩
  · simp only [first, pure_bind, Bool.false_eq_true, if_false]
  · simp only [second, pure_bind, Bool.false_eq_true, if_false]
  · rw [same, alike]

end Traced

namespace Descriptor

variable {α : Type} (host : Host) (v : Value)

theorem check_union (branch : α → Descriptor) (xs : List α) :
    (Descriptor.union (xs.map branch)).check host v =
      Traced.search (fun x => (branch x).check host v) (fun _ => true) false xs := by
  rw [check, Schema.isSome_dispatch, ← Traced.any_eq_search]
  apply Traced.any_eq_of_forall₂
  rw [List.forall₂_map_left_iff, List.forall₂_same]
  exact fun _ _ => rfl

/-- The place that is dispatched to, told as what stands there. -/
theorem dispatch_map (branch : α → Descriptor) (xs : List α) :
    (fun place => place.bind (xs[·]?)) <$> dispatch host (xs.map branch) v =
      Traced.search (fun x => (branch x).check host v) some none xs := by
  induction xs with
  | nil => rfl
  | cons x xs ih =>
    rw [List.map_cons, dispatch, map_bind, Traced.search, List.foldr_cons, ← Traced.search, ← ih]
    congr 1
    funext accepted
    cases accepted with
    | true => rfl
    | false =>
      simp only [Bool.false_eq_true, if_false, map_bind, map_pure]
      rw [map_eq_pure_bind]
      congr 1
      funext place
      cases place <;> rfl

end Descriptor

/-- Only numbers and integers have values in common: the whole ones. -/
theorem Kind.accepts_both {kind kind' : Kind} {v : Value} (h : kind.accepts v = true)
    (h' : kind'.accepts v = true) : kind = kind' ∨ integer.accepts v = true ∧
      (kind = .number ∧ kind' = .integer ∨ kind = .integer ∧ kind' = .number) := by
  cases kind <;> cases v <;> cases kind' <;> simp_all [Kind.accepts]

namespace Node.KindYields

variable {r : Registry} {n : Node} {P : Value → Descriptor → Prop} {t u : Descriptor} {host : Host}
  {v : Value}

/-- What is not of the kind is refused by the base type, before any constraint and any part. -/
theorem refuses {kind : Kind} (plain : n.get? "enum" = none) (y : n.KindYields r P kind t)
    (unfit : kind.accepts v = false) : t.check host v = pure false := by
  have constrained : ∀ (base : Descriptor) ps, base.check host v = pure false →
      (base.constrained ps).check host v = pure false := by
    intro base ps refused
    rw [Descriptor.check_constrained, refused, Traced.false_andThen]
  have primitive : (Descriptor.primitive kind).check host v = pure false := by
    rw [Descriptor.check, unfit]
  cases y with
  | enumeration _ given => cases plain.symm.trans given
  | null | boolean | object => exact primitive
  | string | number | integer => exact constrained _ _ primitive
  | struct =>
    cases v with
    | object => cases unfit
    | _ => rfl
  | array items =>
    apply constrained
    have none : v.items? = none := by
      cases v with
      | list | tuple => cases unfit
      | _ => rfl
    cases items with
    | absent => exact primitive
    | each | positions => rw [Descriptor.check, none]

/-- A whole number is tested against the same bounds as a number and as an integer. -/
theorem whole_check (plain : n.get? "enum" = none) (y : n.KindYields r P .number t)
    (z : n.KindYields r P .integer u) (whole : Kind.integer.accepts v = true) (host : Host) :
    t.check host v = u.check host v := by
  cases y with
  | enumeration _ given => cases plain.symm.trans given
  | number =>
    cases z with
    | enumeration _ given => cases plain.symm.trans given
    | integer =>
      have flag : Traced.all (fun p => p.check host v) (n.flagged "integer" .whole) = pure true := by
        unfold Node.flagged
        split
        · rw [Traced.all_cons, Predicate.check, whole, Traced.true_andThen]
          rfl
        · rfl
      rw [Descriptor.check_constrained, Descriptor.check_constrained, Traced.all_append, flag,
        Traced.andThen_true, Descriptor.check, Descriptor.check, whole, Kind.number_of_integer whole]

end Node.KindYields

section

variable {r : Registry} {entries : List (String × Value)} {kinds kinds' : List Kind}

/-- The branch that these entries make as one kind, if they do. -/
def branchOf (r : Registry) (entries : List (String × Value)) (kind : Kind) : Descriptor :=
  (compile r (ofKind kind entries)).outcome.toOption.getD .any

theorem branchOf_eq {kind : Kind} {u : Descriptor} (h : Compiles r (ofKind kind entries) u) :
    branchOf r entries kind = u := by
  unfold Compiles at h
  rw [branchOf, h]
  rfl

theorem branches_eq {us : List Descriptor}
    (h : List.Forall₂ (fun kind u => Compiles r (ofKind kind entries) u) kinds us) :
    us = kinds.map (branchOf r entries) := by
  induction h with
  | nil => rfl
  | cons first _ ih => rw [List.map_cons, branchOf_eq first, ← ih]

/-- All branches are made of one node. -/
theorem kindYields_of_ofKind (kinds : List Kind) {kind : Kind} {u : Descriptor}
    (h : Compiles r (ofKind kind entries) u) :
    (Node.ofKinds r kinds entries).KindYields r (Compiles r) kind u :=
  Node.asKind_ok.1 ((moves_ofKind kinds kind).ok_iff.1 h)

theorem plain_ofKinds (plain : entries.lookup "enum" = none) :
    (Node.ofKinds r kinds entries).get? "enum" = none := by
  rw [Node.ofKinds, Node.ofEntries_get?, Node.lookup_withType, if_neg (by decide), plain]

theorem refuses_of_ofKind (plain : entries.lookup "enum" = none) {kind : Kind} {u : Descriptor}
    (h : Compiles r (ofKind kind entries) u) (host : Host) (v : Value)
    (unfit : kind.accepts v = false) : u.check host v = pure false :=
  (kindYields_of_ofKind [kind] h).refuses (plain_ofKinds plain) unfit

theorem branches_apart {β : Type} {answer : Kind → β} (plain : entries.lookup "enum" = none)
    (each : ∀ kind ∈ kinds, ∃ u, Compiles r (ofKind kind entries) u) (host : Host) (v : Value)
    (shared : .number ∈ kinds → .integer ∈ kinds → answer .number = answer .integer)
    {kind kind' : Kind} (mem : kind ∈ kinds) (mem' : kind' ∈ kinds) :
    Traced.Apart (fun kind => (branchOf r entries kind).check host v) answer kind kind' := by
  obtain ⟨u, compiled⟩ := each kind mem
  obtain ⟨u', compiled'⟩ := each kind' mem'
  simp only [Traced.Apart, branchOf_eq compiled, branchOf_eq compiled']
  by_cases fit : kind.accepts v = true
  · by_cases fit' : kind'.accepts v = true
    · have y := kindYields_of_ofKind kinds compiled
      have y' := kindYields_of_ofKind kinds compiled'
      rcases Kind.accepts_both fit fit' with rfl | ⟨whole, ⟨rfl, rfl⟩ | ⟨rfl, rfl⟩⟩
      · have same : u = u' := by rw [← branchOf_eq compiled, branchOf_eq compiled']
        exact .inr (.inr ⟨by rw [same], rfl⟩)
      · exact .inr (.inr ⟨y.whole_check (plain_ofKinds plain) y' whole host, shared mem mem'⟩)
      · have same := y'.whole_check (plain_ofKinds plain) y whole
        exact .inr (.inr ⟨(same host).symm, (shared mem' mem).symm⟩)
    · exact .inr (.inl (refuses_of_ofKind plain compiled' host v (by simpa using fit')))
  · exact .inl (refuses_of_ofKind plain compiled host v (by simpa using fit))

theorem inhabited_of_compiles {t : Descriptor}
    (given : entries.lookup "type" = some (.list (kinds.map fun kind => .text kind.name)))
    (compiled : Compiles r (.object entries) t) : kinds ≠ [] := by
  intro none
  subst none
  cases compiles_object.1 compiled with
  | untyped other => cases given.symm.trans other
  | single other => cases given.symm.trans other
  | several inhabited other =>
    have same := Value.list.inj (Option.some.inj (given.symm.trans other))
    exact inhabited (List.map_eq_nil_iff.1 same.symm)

/-- A branch is made of the node as one kind, and it refuses all other values at once. -/
def Branch (r : Registry) (entries : List (String × Value)) (kind : Kind) (u : Descriptor) : Prop :=
  Compiles r (ofKind kind entries) u ∧
    ∀ host v, kind.accepts v = false → u.check host v = pure false

/-- Without an enumeration, kinds may be listed in any order: the union checks alike, faults and
calls included, and a value is dispatched to the same kind unless both numbers and integers are
listed. -/
theorem union_reordered {t : Descriptor} (plain : entries.lookup "enum" = none)
    (given : entries.lookup "type" = some (.list (kinds.map fun kind => .text kind.name)))
    (compiled : (compile r (.object entries)).outcome = .ok t) (order : kinds.Perm kinds') :
    ∃ us us', t = .union us ∧ (compile r (ofKinds kinds' entries)).outcome = .ok (.union us') ∧
      List.Forall₂ (Branch r entries) kinds us ∧ List.Forall₂ (Branch r entries) kinds' us' ∧
      ∀ host v, (Descriptor.union us').check host v = (Descriptor.union us).check host v ∧
        (¬(.number ∈ kinds ∧ .integer ∈ kinds) →
          (fun place => place.bind (kinds'[·]?)) <$> Descriptor.dispatch host us' v =
            (fun place => place.bind (kinds[·]?)) <$> Descriptor.dispatch host us v) := by
  have inhabited := inhabited_of_compiles given compiled
  have inhabited' : kinds' ≠ [] := by
    intro none
    subst none
    exact inhabited order.eq_nil
  have itself : ofKinds kinds entries = .object entries := by
    rw [ofKinds, Node.withType, Entries.insert_of_lookup given]
  rw [← itself] at compiled
  obtain ⟨us, rfl, parts⟩ := (compiles_ofKinds inhabited).1 compiled
  have each := forall₂_exists.1 ⟨us, parts⟩
  have each' : ∀ kind ∈ kinds', ∃ u, Compiles r (ofKind kind entries) u := fun kind mem =>
    each kind (order.mem_iff.2 mem)
  obtain ⟨us', parts'⟩ := forall₂_exists.2 each'
  have branch : ∀ kind u, Compiles r (ofKind kind entries) u → Branch r entries kind u :=
    fun kind u made => ⟨made, refuses_of_ofKind plain made⟩
  refine ⟨us, us', rfl, (compiles_ofKinds inhabited').2 ⟨us', rfl, parts'⟩,
    parts.imp branch, parts'.imp branch, fun host v => ?_⟩
  rw [branches_eq parts, branches_eq parts', Descriptor.check_union, Descriptor.check_union,
    Descriptor.dispatch_map, Descriptor.dispatch_map]
  constructor
  · apply Traced.search_perm _ order
    intro kind mem kind' mem'
    exact branches_apart plain each host v (fun _ _ => rfl) mem mem'
  · intro unshared
    apply Traced.search_perm _ order
    intro kind mem kind' mem'
    exact branches_apart plain each host v (fun m m' => absurd ⟨m, m'⟩ unshared) mem mem'

/-- The number is compared with a limit that it cannot be compared with, whether or not a text could
have been put to its format first. -/
theorem union_reordered_odd_limit :
    let r : Registry := ⟨[(.text "code", "isCode")]⟩
    let entries : List (String × Value) := [("type", .list [.text "string", .text "number"]),
      ("format", .text "code"), ("minimum", .text "one")]
    let kinds : List Kind := [.string, .number]
    let text : Descriptor :=
      .refined (.primitive .string) (.format (.text "code") (.function "isCode"))
    let number : Descriptor := .refined (.primitive .number) (.bound .atLeast (.text "one"))
    let t : Descriptor := .union [text, number]
    let t' : Descriptor := .union [number, text]
    let host : Host := fun _ _ => .ok (.bool true)
    entries.lookup "enum" = none ∧
      entries.lookup "type" = some (.list (kinds.map fun kind => .text kind.name)) ∧
      (compile r (.object entries)).outcome = .ok t ∧ kinds.Perm [.number, .string] ∧
      (compile r (ofKinds [.number, .string] entries)).outcome = .ok t' ∧
      t'.check host (.int 1) = t.check host (.int 1) ∧
      (t.check host (.int 1)).outcome = .error (.unordered .atLeast .int .text) := by
  intro r entries kinds text number t t' host
  have plain : entries.lookup "enum" = none := rfl
  have given : entries.lookup "type" =
      some (.list (kinds.map fun kind => .text kind.name)) := rfl
  have compiled : (compile r (.object entries)).outcome = .ok t := rfl
  have order : kinds.Perm [.number, .string] := .swap _ _ _
  have compiled' : (compile r (ofKinds [.number, .string] entries)).outcome = .ok t' := rfl
  obtain ⟨us, us', made, made', _, _, alike⟩ := union_reordered plain given compiled order
  have same := (alike host (.int 1)).1
  rw [← made] at same
  rw [← Except.ok.inj (compiled'.symm.trans made')] at same
  exact ⟨plain, given, compiled, order, compiled', same, rfl⟩

end

end Conform
