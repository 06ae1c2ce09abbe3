import Conform.Descriptor.Check
import Conform.Proofs.Outcomes
import Conform.Proofs.Values

namespace Conform

/-- How a fault is caught: by its class, or by what the host says. -/
inductive FaultClass where
  | type
  | value
  | host (message : String)

def Fault.classOf : Fault → FaultClass
  | .tooFewItems _ _ => .value
  | .tooManyItems _ => .value
  | .numberTooLong => .value
  | .raised message => .host message
  | _ => .type

namespace Value

variable {v : Value} {f : Fault}

theorem classOf_of_length (h : v.length = .error f) : f.classOf = .type := by
  cases v <;> cases h <;> rfl

theorem classOf_of_elements (h : v.elements = .error f) : f.classOf = .type := by
  unfold elements at h
  split at h <;> cases h
  rfl

theorem classOf_of_hashable (h : v.hashable = .error f) : f.classOf = .type := by
  induction v with
  | null | bool | int | float | text => cases h
  | list | object =>
    cases h
    rfl
  | tuple xs ih =>
    change hashableItems xs = .error f at h
    induction xs with
    | nil => cases h
    | cons x xs later =>
      obtain ⟨first, rest⟩ := List.forall_mem_cons.1 ih
      rcases except_bind_error.1 h with h | ⟨_, _, h⟩
      · exact first h
      · exact later rest h

end Value

/-- The same calls, and the same answer or faults of one class. -/
def Alike {α : Type} (x y : Check α) : Prop :=
  x.mapError Fault.classOf = y.mapError Fault.classOf

namespace Alike

variable {α β : Type}

/-- What comes after an answer has to be alike for that answer only. -/
theorem bind {x y : Check α} {f g : α → Check β} (h : Alike x y)
    (later : ∀ a, x.outcome = .ok a → Alike (f a) (g a)) : Alike (x >>= f) (y >>= g) := by
  obtain ⟨xs, x⟩ := x
  obtain ⟨ys, y⟩ := y
  obtain ⟨rfl, outcome⟩ := Traced.mk.inj h
  cases x with
  | error e =>
    cases y with
    | ok b => cases outcome
    | error e' =>
      rw [Traced.bind_of_error (rfl : (Traced.mk xs (.error e)).outcome = _),
        Traced.bind_of_error (rfl : (Traced.mk xs (.error e')).outcome = _)]
      exact congrArg (Traced.mk xs) (congrArg Except.error (Except.error.inj outcome))
  | ok a =>
    cases y with
    | error e' => cases outcome
    | ok b =>
      cases outcome
      have same := later a rfl
      rw [Traced.bind_of_ok (rfl : (Traced.mk xs (.ok a)).outcome = _),
        Traced.bind_of_ok (rfl : (Traced.mk xs (.ok a)).outcome = _)]
      obtain ⟨trace, outcome⟩ := Traced.mk.inj same
      show Traced.mk (xs ++ (f a).trace) ((f a).outcome.mapError Fault.classOf) =
        Traced.mk (xs ++ (g a).trace) ((g a).outcome.mapError Fault.classOf)
      rw [trace, outcome]

theorem andThen {x y x' y' : Check Bool} (h : Alike x x')
    (later : x.outcome = .ok true → Alike y y') : Alike (x.andThen y) (x'.andThen y') := by
  apply h.bind
  intro passed answer
  cases passed with
  | true => exact later answer
  | false => rfl

theorem all {f : α → Check Bool} {g : β → Check Bool} {xs : List α} {ys : List β}
    (h : List.Forall₂ (fun x y => Alike (f x) (g y)) xs ys) :
    Alike (Traced.all f xs) (Traced.all g ys) := by
  induction h with
  | nil => rfl
  | cons first _ ih => exact first.andThen fun _ => ih

theorem all_of_mem {f g : α → Check Bool} {xs : List α} (h : ∀ x ∈ xs, Alike (f x) (g x)) :
    Alike (Traced.all f xs) (Traced.all g xs) :=
  all (List.forall₂_same.2 h)

end Alike

/-- The relation is inherited by whatever a type looks at inside a value. -/
structure Respectful (R : Value → Value → Prop) : Prop where
  null : ∀ {v w}, R v w → v.isNull = w.isNull
  items : ∀ {v w}, R v w → (v.items? = none ∧ w.items? = none) ∨
    ∃ xs ys, v.items? = some xs ∧ w.items? = some ys ∧ List.Forall₂ R xs ys
  object : ∀ {v w}, R v w → (Kind.object.accepts v = false ∧ Kind.object.accepts w = false) ∨
    ∃ xs ys, v = .object xs ∧ w = .object ys ∧
      ∀ key, (xs.lookup key = none ∧ ys.lookup key = none) ∨
        ∃ x y, xs.lookup key = some x ∧ ys.lookup key = some y ∧ R x y

/-- Two types, one for each of two related values. -/
def Descriptor.Answers (R : Value → Value → Prop) (t u : Descriptor) : Prop :=
  ∀ host v w, R v w → Alike (t.check host v) (u.check host w)

namespace Descriptor.Answers

variable {R : Value → Value → Prop} (respectful : Respectful R)

include respectful

theorem maybe {t u : Descriptor} (h : Answers R t u) : Answers R (.maybe t) (.maybe u) := by
  intro host v w related
  rw [check, check, respectful.null related]
  split
  · rfl
  · exact h host v w related

theorem list {t u : Descriptor} (h : Answers R t u) : Answers R (.list t) (.list u) := by
  intro host v w related
  rw [check, check]
  rcases respectful.items related with ⟨hx, hy⟩ | ⟨xs, ys, hx, hy, each⟩
  · rw [hx, hy]
    rfl
  · rw [hx, hy]
    exact Alike.all (each.imp fun x y part => h host x y part)

omit respectful in
theorem checkEach {ts us : List Descriptor} (h : List.Forall₂ (Answers R) ts us) (host : Host)
    {xs ys : List Value} (each : List.Forall₂ R xs ys) :
    Alike (Descriptor.checkEach host ts xs) (Descriptor.checkEach host us ys) := by
  induction h generalizing xs ys with
  | nil => rfl
  | cons first _ ih =>
    cases each with
    | nil => rfl
    | cons part later => exact (first host _ _ part).andThen fun _ => ih later

theorem tuple {ts us : List Descriptor} (h : List.Forall₂ (Answers R) ts us) :
    Answers R (.tuple ts) (.tuple us) := by
  intro host v w related
  rw [check, check]
  rcases respectful.items related with ⟨hx, hy⟩ | ⟨xs, ys, hx, hy, each⟩
  · rw [hx, hy]
    rfl
  · rw [hx, hy]
    dsimp only
    rw [each.length_eq, h.length_eq]
    split
    · exact checkEach h host each
    · rfl

omit respectful in
theorem union {ts us : List Descriptor} (h : List.Forall₂ (Answers R) ts us) :
    Answers R (.union ts) (.union us) := by
  intro host v w related
  have dispatched : Alike (dispatch host ts v) (dispatch host us w) := by
    induction h with
    | nil => rfl
    | cons first _ ih =>
      rw [dispatch, dispatch]
      apply (first host v w related).bind
      intro accepted _
      cases accepted with
      | true => rfl
      | false => exact ih.bind fun _ _ => rfl
  rw [check, check, map_eq_pure_bind, map_eq_pure_bind]
  exact dispatched.bind fun _ _ => rfl

omit respectful in
theorem checkFields {fs gs : List (String × Descriptor)}
    (h : List.Forall₂ (fun f g => f.1 = g.1 ∧ f.2.isMaybe = g.2.isMaybe ∧ Answers R f.2 g.2)
      fs gs)
    (host : Host) {xs ys : List (String × Value)}
    (lookup : ∀ key, (xs.lookup key = none ∧ ys.lookup key = none) ∨
      ∃ x y, xs.lookup key = some x ∧ ys.lookup key = some y ∧ R x y) :
    Alike (Descriptor.checkFields host fs xs) (Descriptor.checkFields host gs ys) := by
  induction h with
  | nil => rfl
  | @cons f g fs gs first _ ih =>
    obtain ⟨key, t⟩ := f
    obtain ⟨name, u⟩ := g
    obtain ⟨same, optional, answers⟩ := first
    dsimp only at same optional answers
    subst same
    rw [Descriptor.checkFields, Descriptor.checkFields]
    rcases lookup key with ⟨hx, hy⟩ | ⟨x, y, hx, hy, part⟩
    · rw [hx, hy]
      dsimp only
      rw [optional]
      split
      · exact ih
      · rfl
    · rw [hx, hy]
      exact (answers host x y part).andThen fun _ => ih

theorem struct {fs gs : List (String × Descriptor)} (n m : Value)
    (h : List.Forall₂ (fun f g => f.1 = g.1 ∧ f.2.isMaybe = g.2.isMaybe ∧ Answers R f.2 g.2)
      fs gs) : Answers R (.struct fs n) (.struct gs m) := by
  intro host v w related
  have other : ∀ fs n v, Kind.object.accepts v = false →
      (Descriptor.struct fs n).check host v = pure false := by
    intro fs n v refused
    cases v with
    | object => cases refused
    | _ => rfl
  rcases respectful.object related with ⟨hv, hw⟩ | ⟨xs, ys, rfl, rfl, lookup⟩
  · rw [other _ _ _ hv, other _ _ _ hw]
    rfl
  · exact checkFields h host lookup

end Descriptor.Answers
end Conform
