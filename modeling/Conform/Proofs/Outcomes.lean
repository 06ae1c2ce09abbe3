import Conform.Entries
import Conform.Traced
import Mathlib.Data.List.Forall2

namespace Conform

section Except

variable {ε δ α β : Type}

theorem except_bind_ok {x : Except ε α} {f : α → Except ε β} {b : β} :
    (x >>= f) = .ok b ↔ ∃ a, x = .ok a ∧ f a = .ok b := by
  cases x with
  | error e => exact ⟨fun h => (by cases h), fun ⟨_, h, _⟩ => (by cases h)⟩
  | ok a => exact ⟨fun h => ⟨a, rfl, h⟩, fun ⟨_, h, k⟩ => by cases h; exact k⟩

theorem except_bind_error {x : Except ε α} {f : α → Except ε β} {e : ε} :
    (x >>= f) = .error e ↔ x = .error e ∨ ∃ a, x = .ok a ∧ f a = .error e := by
  cases x <;> simp [bind, Except.bind]

theorem except_map_ok {x : Except ε α} {f : α → β} {b : β} :
    x.map f = .ok b ↔ ∃ a, x = .ok a ∧ f a = b := by
  cases x <;> simp [Except.map]

theorem except_map_error {x : Except ε α} {f : α → β} {e : ε} :
    x.map f = .error e ↔ x = .error e := by
  cases x <;> simp [Except.map]

theorem except_mapError_ok {x : Except ε α} {f : ε → δ} {a : α} :
    x.mapError f = .ok a ↔ x = .ok a := by
  cases x <;> simp [Except.mapError]

theorem except_mapError_error {x : Except ε α} {f : ε → δ} {d : δ} :
    x.mapError f = .error d ↔ ∃ e, x = .error e ∧ f e = d := by
  cases x <;> simp [Except.mapError]

end Except

/-- What is done to the items in turn is done to all of them, or fails as it does for one. -/
theorem except_mapM_cases {ε α β : Type} (f : α → Except ε β) (xs : List α) :
    (∃ ys, xs.mapM f = .ok ys ∧ List.Forall₂ (fun x y => f x = .ok y) xs ys) ∨
      ∃ x ∈ xs, ∃ e, f x = .error e ∧ xs.mapM f = .error e := by
  induction xs with
  | nil => exact .inl ⟨[], rfl, .nil⟩
  | cons x xs ih =>
    simp only [List.mapM_cons]
    cases first : f x with
    | error e => exact .inr ⟨x, List.mem_cons_self, e, first, rfl⟩
    | ok y =>
      rcases ih with ⟨ys, later, each⟩ | ⟨x', hx, e, failed, later⟩
      · exact .inl ⟨y :: ys, by rw [later]; rfl, .cons first each⟩
      · exact .inr ⟨x', List.mem_cons_of_mem _ hx, e, failed, by rw [later]; rfl⟩

theorem exists_of_mem_forall₂ {α β : Type} {R : α → β → Prop} {xs : List α} {ys : List β}
    (h : List.Forall₂ R xs ys) {y : β} (hy : y ∈ ys) : ∃ x ∈ xs, R x y := by
  induction h with
  | nil => cases hy
  | cons first _ ih =>
    rcases List.mem_cons.1 hy with rfl | later
    · exact ⟨_, List.mem_cons_self, first⟩
    · obtain ⟨x, hx, part⟩ := ih later
      exact ⟨x, List.mem_cons_of_mem _ hx, part⟩

theorem exists_getElem?_of_forall₂ {α β : Type} {R : α → β → Prop} {xs : List α} {ys : List β}
    (h : List.Forall₂ R xs ys) {i : Nat} {y : β} (hy : ys[i]? = some y) :
    ∃ x, xs[i]? = some x ∧ R x y := by
  induction h generalizing i with
  | nil => cases hy
  | cons first _ ih =>
    cases i with
    | zero =>
      cases hy
      exact ⟨_, rfl, first⟩
    | succ i => exact ih hy

theorem forall₂_of_getElem? {α β : Type} {R S : α → β → Prop} {xs : List α} {ys : List β}
    (h : List.Forall₂ R xs ys)
    (imp : ∀ (i : Nat) x y, xs[i]? = some x → ys[i]? = some y → R x y → S x y) :
    List.Forall₂ S xs ys := by
  induction h with
  | nil => exact .nil
  | cons first _ ih =>
    exact .cons (imp 0 _ _ rfl rfl first) (ih fun i x y hx hy => imp (i + 1) x y hx hy)

theorem forall₂_of_mem {α β : Type} {R S : α → β → Prop} {xs : List α} {ys : List β}
    (h : List.Forall₂ R xs ys) (imp : ∀ x ∈ xs, ∀ y ∈ ys, R x y → S x y) : List.Forall₂ S xs ys :=
  forall₂_of_getElem? h fun _ x y hx hy =>
    imp x (List.mem_of_getElem? hx) y (List.mem_of_getElem? hy)

theorem forall₂_comp {α β γ : Type} {R : α → β → Prop} {S : β → γ → Prop} {T : α → γ → Prop}
    (comp : ∀ x y z, R x y → S y z → T x z) {xs : List α} {ys : List β} {zs : List γ}
    (h : List.Forall₂ R xs ys) (k : List.Forall₂ S ys zs) : List.Forall₂ T xs zs := by
  induction h generalizing zs with
  | nil => cases k; exact .nil
  | cons first _ ih =>
    cases k with
    | cons next later => exact .cons (comp _ _ _ first next) (ih later)

theorem forall₂_exists {α β : Type} {R : α → β → Prop} {xs : List α} :
    (∃ ys, List.Forall₂ R xs ys) ↔ ∀ x ∈ xs, ∃ y, R x y := by
  induction xs with
  | nil => simp
  | cons x xs ih =>
    rw [List.forall_mem_cons, ← ih]
    constructor
    · intro h
      obtain ⟨_, _ | ⟨hy, hys⟩⟩ := h
      exact ⟨⟨_, hy⟩, _, hys⟩
    · intro h
      obtain ⟨⟨y, hy⟩, ys, hys⟩ := h
      exact ⟨y :: ys, .cons hy hys⟩

/-- The same result, or errors of which the one stands for the other. -/
def Follows {ε α : Type} (R : ε → ε → Prop) (x x' : Except ε α) : Prop :=
  (∃ a, x = .ok a ∧ x' = .ok a) ∨ ∃ e e', x = .error e ∧ x' = .error e' ∧ R e e'

namespace Follows

variable {ε α β γ : Type} {R S : ε → ε → Prop}

theorem ok (a : α) : Follows R (.ok a) (.ok a) :=
  .inl ⟨a, rfl, rfl⟩

theorem error {e e' : ε} (h : R e e') : Follows (α := α) R (.error e) (.error e') :=
  .inr ⟨e, e', rfl, rfl, h⟩

theorem refl (same : ∀ e, R e e) (x : Except ε α) : Follows R x x := by
  cases x with
  | ok a => exact ok a
  | error e => exact error (same e)

theorem ok_iff {x x' : Except ε α} (h : Follows R x x') {a : α} : x = .ok a ↔ x' = .ok a := by
  rcases h with ⟨b, rfl, rfl⟩ | ⟨e, e', rfl, rfl, _⟩
  · exact Iff.rfl
  · simp only [reduceCtorEq]

theorem error_of {x x' : Except ε α} (h : Follows R x x') {e : ε} (failed : x = .error e) :
    ∃ e', x' = .error e' ∧ R e e' := by
  rcases h with ⟨b, rfl, rfl⟩ | ⟨d, d', rfl, rfl, related⟩
  · cases failed
  · cases failed
    exact ⟨d', rfl, related⟩

theorem mono {x x' : Except ε α} (h : Follows R x x') (imp : ∀ e e', R e e' → S e e') :
    Follows S x x' := by
  rcases h with ⟨a, rfl, rfl⟩ | ⟨e, e', rfl, rfl, related⟩
  · exact ok a
  · exact error (imp e e' related)

theorem bind {x x' : Except ε α} {f f' : α → Except ε β} (h : Follows R x x')
    (later : ∀ a, Follows R (f a) (f' a)) : Follows R (x >>= f) (x' >>= f') := by
  rcases h with ⟨a, rfl, rfl⟩ | ⟨e, e', rfl, rfl, related⟩
  · exact later a
  · exact error related

theorem map {x x' : Except ε α} (h : Follows R x x') (f : α → β) :
    Follows R (x.map f) (x'.map f) := by
  rcases h with ⟨a, rfl, rfl⟩ | ⟨e, e', rfl, rfl, related⟩
  · exact ok (f a)
  · exact error related

theorem mapM {f : α → Except ε γ} {f' : β → Except ε γ} {xs : List α} {ys : List β}
    (each : List.Forall₂ (fun x y => Follows R (f x) (f' y)) xs ys) :
    Follows R (xs.mapM f) (ys.mapM f') := by
  induction each with
  | nil => exact ok []
  | cons first _ ih =>
    rw [List.mapM_cons, List.mapM_cons]
    exact first.bind fun z => ih.bind fun zs => ok (z :: zs)

end Follows

namespace Entries

variable {α β : Type} {R : String × α → String × β → Prop} {xs : List (String × α)}
  {ys : List (String × β)}

theorem keys_eq_of_forall₂ (h : List.Forall₂ (fun x y => x.1 = y.1 ∧ R x y) xs ys) :
    keys xs = keys ys := by
  induction h with
  | nil => rfl
  | cons first _ ih => exact List.cons_eq_cons.2 ⟨first.1, ih⟩

theorem forall₂_of_keys_eq (same : keys xs = keys ys) (h : List.Forall₂ R xs ys) :
    List.Forall₂ (fun x y => x.1 = y.1 ∧ R x y) xs ys := by
  induction h with
  | nil => exact .nil
  | cons first _ ih =>
    obtain ⟨key, later⟩ := List.cons.inj same
    exact .cons ⟨key, first⟩ (ih later)

end Entries

namespace Traced

variable {ω ε α β : Type}

@[simp] theorem pure_outcome (a : α) : (pure a : Traced ω ε α).outcome = .ok a := rfl

@[simp] theorem lift_outcome (x : Except ε α) : (lift x : Traced ω ε α).outcome = x := rfl

@[simp] theorem fail_outcome (e : ε) : (fail e : Traced ω ε α).outcome = .error e := rfl

@[simp] theorem pure_trace (a : α) : (pure a : Traced ω ε α).trace = [] := rfl

@[simp] theorem lift_trace (x : Except ε α) : (lift x : Traced ω ε α).trace = [] := rfl

theorem lift_ok (a : α) : (lift (.ok a) : Traced ω ε α) = pure a := rfl

theorem bind_outcome (x : Traced ω ε α) (f : α → Traced ω ε β) :
    (x >>= f).outcome = x.outcome >>= fun a => (f a).outcome := by
  cases h : x.outcome with
  | error e => rw [bind_of_error h]; rfl
  | ok a => rw [bind_of_ok h]; rfl

theorem map_outcome (f : α → β) (x : Traced ω ε α) : (f <$> x).outcome = x.outcome.map f := by
  rw [map_eq_pure_bind, bind_outcome]
  cases x.outcome <;> rfl

theorem bind_outcome_ok {x : Traced ω ε α} {f : α → Traced ω ε β} {b : β} :
    (x >>= f).outcome = .ok b ↔ ∃ a, x.outcome = .ok a ∧ (f a).outcome = .ok b := by
  cases h : x.outcome with
  | error e => simp [bind_of_error h]
  | ok a => simp [bind_of_ok h]

theorem bind_outcome_error {x : Traced ω ε α} {f : α → Traced ω ε β} {e : ε} :
    (x >>= f).outcome = .error e ↔
      x.outcome = .error e ∨ ∃ a, x.outcome = .ok a ∧ (f a).outcome = .error e := by
  cases h : x.outcome with
  | error d => simp [bind_of_error h]
  | ok a => simp [bind_of_ok h]

theorem emit_bind_outcome (entry : ω) (f : Unit → Traced ω ε β) :
    (emit entry >>= f).outcome = (f ()).outcome := by
  rw [bind_of_ok (rfl : (emit entry : Traced ω ε Unit).outcome = .ok ())]

theorem map_outcome_ok {x : Traced ω ε α} {f : α → β} {b : β} :
    (f <$> x).outcome = .ok b ↔ ∃ a, x.outcome = .ok a ∧ f a = b := by
  rw [map_eq_pure_bind, bind_outcome_ok]
  simp

theorem map_outcome_error {x : Traced ω ε α} {f : α → β} {e : ε} :
    (f <$> x).outcome = .error e ↔ x.outcome = .error e := by
  rw [map_eq_pure_bind, bind_outcome_error]
  simp

theorem lift_bind_trace {x : Except ε α} {f : α → Traced ω ε β} : (lift x >>= f).trace =
    match x with
    | .ok a => (f a).trace
    | .error _ => [] := by
  cases x <;> rfl

theorem emit_bind_trace (entry : ω) (f : Unit → Traced ω ε β) :
    (emit entry >>= f).trace = entry :: (f ()).trace := by
  rw [bind_of_ok (rfl : (emit entry : Traced ω ε Unit).outcome = .ok ())]
  rfl

theorem map_trace (f : α → β) (x : Traced ω ε α) : (f <$> x).trace = x.trace := by
  rw [map_eq_pure_bind]
  cases h : x.outcome with
  | error e => rw [bind_of_error h]
  | ok a =>
    rw [bind_of_ok h]
    exact List.append_nil _

theorem mapM_outcome_ok {f : α → Traced ω ε β} {xs : List α} {ys : List β} :
    (xs.mapM f).outcome = .ok ys ↔ List.Forall₂ (fun x y => (f x).outcome = .ok y) xs ys := by
  induction xs generalizing ys with
  | nil =>
    rw [List.mapM_nil, pure_outcome, List.forall₂_nil_left_iff, Except.ok.injEq]
    exact eq_comm
  | cons x xs ih =>
    rw [List.mapM_cons, bind_outcome_ok]
    constructor
    · intro h
      obtain ⟨y, hy, h⟩ := h
      obtain ⟨rest, hr, eq⟩ := bind_outcome_ok.1 h
      cases eq
      exact .cons hy (ih.1 hr)
    · intro h
      rcases h with _ | ⟨hy, hr⟩
      exact ⟨_, hy, bind_outcome_ok.2 ⟨_, ih.2 hr, rfl⟩⟩

/-- What is done to the items in turn fails at the first of them that it fails for. -/
theorem mapM_outcome_error {f : α → Traced ω ε β} {xs : List α} {e : ε}
    (h : (xs.mapM f).outcome = .error e) : ∃ before x after, xs = before ++ x :: after ∧
      (∀ y ∈ before, ∃ b, (f y).outcome = .ok b) ∧ (f x).outcome = .error e := by
  induction xs with
  | nil => cases h
  | cons x xs ih =>
    rw [List.mapM_cons, bind_outcome_error] at h
    rcases h with here | ⟨b, passed, h⟩
    · exact ⟨[], x, xs, rfl, by simp, here⟩
    · rcases bind_outcome_error.1 h with later | ⟨bs, _, ⟨⟩⟩
      obtain ⟨before, y, after, rfl, earlier, failed⟩ := ih later
      exact ⟨x :: before, y, after, rfl, List.forall_mem_cons.2 ⟨⟨b, passed⟩, earlier⟩, failed⟩

theorem mapM_outcome_of_error {f : α → Traced ω ε β} {xs before after : List α} {x : α} {e : ε}
    (eq : xs = before ++ x :: after) (earlier : ∀ y ∈ before, ∃ b, (f y).outcome = .ok b)
    (failed : (f x).outcome = .error e) : (xs.mapM f).outcome = .error e := by
  obtain ⟨bs, passed⟩ := forall₂_exists.2 earlier
  have later : ((x :: after).mapM f).outcome = .error e := by
    rw [List.mapM_cons]
    exact bind_outcome_error.2 (.inl failed)
  rw [eq, List.mapM_append]
  exact bind_outcome_error.2
    (.inr ⟨bs, mapM_outcome_ok.2 passed, bind_outcome_error.2 (.inl later)⟩)

/-- The second test is made only if the first passes. -/
def andThen (x y : Traced ω ε Bool) : Traced ω ε Bool := do
  if ← x then y else pure false

/-- Whether some item passes, trying them in order up to the first that does. -/
def any (test : α → Traced ω ε Bool) : List α → Traced ω ε Bool
  | [] => pure false
  | x :: xs => do if ← test x then pure true else any test xs

/-- All tests in order, up to the first that fails. -/
def inOrder (tests : List (Traced ω ε Bool)) : Traced ω ε Bool :=
  all id tests

@[simp] theorem true_andThen (x : Traced ω ε Bool) :
    (pure true : Traced ω ε Bool).andThen x = x := by
  simp [andThen]

@[simp] theorem false_andThen (x : Traced ω ε Bool) :
    (pure false : Traced ω ε Bool).andThen x = pure false := by
  simp [andThen]

@[simp] theorem andThen_true (x : Traced ω ε Bool) : x.andThen (pure true) = x := by
  have eta : (fun passed : Bool => if passed = true then pure true else pure false) =
      (pure : Bool → Traced ω ε Bool) := by
    funext passed
    cases passed <;> rfl
  show x >>= _ = x
  rw [eta, bind_pure]

theorem andThen_assoc (x y z : Traced ω ε Bool) :
    (x.andThen y).andThen z = x.andThen (y.andThen z) := by
  simp only [andThen, bind_assoc]
  congr 1
  funext passed
  cases passed <;> simp

theorem all_cons (test : α → Traced ω ε Bool) (x : α) (xs : List α) :
    all test (x :: xs) = (test x).andThen (all test xs) := rfl

theorem all_append (test : α → Traced ω ε Bool) (xs ys : List α) :
    all test (xs ++ ys) = (all test xs).andThen (all test ys) := by
  induction xs with
  | nil => exact (true_andThen _).symm
  | cons x xs ih => rw [List.cons_append, all_cons, ih, all_cons, andThen_assoc]

theorem all_map {γ : Type} (test : β → Traced ω ε Bool) (f : γ → β) (xs : List γ) :
    all test (xs.map f) = all (fun x => test (f x)) xs := by
  induction xs with
  | nil => rfl
  | cons x xs ih => rw [List.map_cons, all_cons, ih, all_cons]

theorem inOrder_cons (x : Traced ω ε Bool) (xs : List (Traced ω ε Bool)) :
    inOrder (x :: xs) = x.andThen (inOrder xs) := rfl

theorem inOrder_append (xs ys : List (Traced ω ε Bool)) :
    inOrder (xs ++ ys) = (inOrder xs).andThen (inOrder ys) :=
  all_append id xs ys

theorem andThen_accepts {x y : Traced ω ε Bool} :
    (x.andThen y).outcome = .ok true ↔ x.outcome = .ok true ∧ y.outcome = .ok true := by
  rw [andThen, bind_outcome_ok]
  simp

theorem andThen_refuses {x y : Traced ω ε Bool} : (x.andThen y).outcome = .ok false ↔
    x.outcome = .ok false ∨ x.outcome = .ok true ∧ y.outcome = .ok false := by
  rw [andThen, bind_outcome_ok]
  simp

theorem all_accepts {test : α → Traced ω ε Bool} {xs : List α} :
    (all test xs).outcome = .ok true ↔ ∀ x ∈ xs, (test x).outcome = .ok true := by
  induction xs with
  | nil => simp [all]
  | cons x xs ih => rw [all_cons, andThen_accepts, ih, List.forall_mem_cons]

theorem exists_of_all_refuses {test : α → Traced ω ε Bool} {xs : List α}
    (h : (all test xs).outcome = .ok false) : ∃ x ∈ xs, (test x).outcome = .ok false := by
  induction xs with
  | nil => cases h
  | cons x xs ih =>
    rcases andThen_refuses.1 h with first | ⟨_, later⟩
    · exact ⟨x, List.mem_cons_self, first⟩
    · obtain ⟨y, hy, refused⟩ := ih later
      exact ⟨y, List.mem_cons_of_mem _ hy, refused⟩

theorem exists_of_any_accepts {test : α → Traced ω ε Bool} {xs : List α}
    (h : (any test xs).outcome = .ok true) : ∃ x ∈ xs, (test x).outcome = .ok true := by
  induction xs with
  | nil => cases h
  | cons x xs ih =>
    obtain ⟨passed, answer, h⟩ := bind_outcome_ok.1 h
    cases passed with
    | true => exact ⟨x, List.mem_cons_self, answer⟩
    | false =>
      obtain ⟨y, hy, accepted⟩ := ih h
      exact ⟨y, List.mem_cons_of_mem _ hy, accepted⟩

theorem any_refuses {test : α → Traced ω ε Bool} {xs : List α} :
    (any test xs).outcome = .ok false ↔ ∀ x ∈ xs, (test x).outcome = .ok false := by
  induction xs with
  | nil => simp [any]
  | cons x xs ih =>
    rw [any, bind_outcome_ok, List.forall_mem_cons, ← ih]
    simp

theorem all_eq_of_forall₂ {γ : Type} {f : α → Traced ω ε Bool} {g : γ → Traced ω ε Bool}
    {xs : List α} {ys : List γ} (h : List.Forall₂ (fun x y => f x = g y) xs ys) :
    all f xs = all g ys := by
  induction h with
  | nil => rfl
  | cons head _ ih => rw [all, all, head, ih]

theorem any_eq_of_forall₂ {γ : Type} {f : α → Traced ω ε Bool} {g : γ → Traced ω ε Bool}
    {xs : List α} {ys : List γ} (h : List.Forall₂ (fun x y => f x = g y) xs ys) :
    any f xs = any g ys := by
  induction h with
  | nil => rfl
  | cons head _ ih => rw [any, any, head, ih]

end Traced
end Conform
