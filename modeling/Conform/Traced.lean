namespace Conform

/-- A computation that may stop with an error; its trace up to there is kept. -/
structure Traced (ω ε α : Type) where
  trace : List ω
  outcome : Except ε α

namespace Traced

variable {ω ε α β : Type}

protected def pure (a : α) : Traced ω ε α :=
  ⟨[], .ok a⟩

/-- What comes after an error leaves no trace. -/
protected def bind (x : Traced ω ε α) (f : α → Traced ω ε β) : Traced ω ε β :=
  match x.outcome with
  | .ok a =>
    let y := f a
    ⟨x.trace ++ y.trace, y.outcome⟩
  | .error e => ⟨x.trace, .error e⟩

instance : Monad (Traced ω ε) where
  pure := Traced.pure
  bind := Traced.bind

/-- An outcome reached without leaving a trace. -/
def lift (outcome : Except ε α) : Traced ω ε α :=
  ⟨[], outcome⟩

def fail (e : ε) : Traced ω ε α :=
  lift (.error e)

def emit (entry : ω) : Traced ω ε Unit :=
  ⟨[entry], .ok ()⟩

def mapError {δ : Type} (f : ε → δ) (x : Traced ω ε α) : Traced ω δ α :=
  ⟨x.trace, x.outcome.mapError f⟩

theorem bind_of_ok {x : Traced ω ε α} {a : α} (h : x.outcome = .ok a) (f : α → Traced ω ε β) :
    x >>= f = ⟨x.trace ++ (f a).trace, (f a).outcome⟩ := by
  show Traced.bind x f = _
  simp [Traced.bind, h]

theorem bind_of_error {x : Traced ω ε α} {e : ε} (h : x.outcome = .error e)
    (f : α → Traced ω ε β) : x >>= f = ⟨x.trace, .error e⟩ := by
  show Traced.bind x f = _
  simp [Traced.bind, h]

theorem map_id_eq (x : Traced ω ε α) : id <$> x = x := by
  obtain ⟨trace, outcome⟩ := x
  show Traced.bind _ _ = _
  cases outcome <;> simp [Traced.bind, Traced.pure]

theorem pure_bind_eq (a : α) (f : α → Traced ω ε β) : pure a >>= f = f a := by
  show Traced.bind (Traced.pure a) f = f a
  simp [Traced.bind, Traced.pure]

theorem bind_bind_eq {γ : Type} (x : Traced ω ε α) (f : α → Traced ω ε β) (g : β → Traced ω ε γ) :
    x >>= f >>= g = x >>= fun a => f a >>= g := by
  obtain ⟨trace, outcome⟩ := x
  show Traced.bind (Traced.bind _ f) g = Traced.bind _ fun a => Traced.bind (f a) g
  cases outcome with
  | error => simp [Traced.bind]
  | ok a =>
    simp only [Traced.bind]
    cases (f a).outcome <;> simp

instance : LawfulMonad (Traced ω ε) :=
  LawfulMonad.mk' _ map_id_eq pure_bind_eq bind_bind_eq

/-- Whether all items pass, trying them in order up to the first that does not. -/
def all (test : α → Traced ω ε Bool) : List α → Traced ω ε Bool
  | [] => pure true
  | x :: xs => do if ← test x then all test xs else pure false

end Traced
end Conform
