import Conform.Descriptor.Conform
import Conform.Proofs.Writing

namespace Conform

namespace Descriptor

theorem conform_eq (host : Host) (t : Descriptor) (v : Value) : t.conform host v =
    ⟨(t.check host v).trace, match (t.check host v).outcome with
      | .ok true => .ok v
      | .ok false => t.refuse v
      | .error f => .error (.fault f)⟩ := by
  unfold conform
  generalize t.check host v = x
  obtain ⟨trace, outcome⟩ := x
  cases outcome with
  | error f => rfl
  | ok accepted =>
    have answered : (Traced.mapError Error.fault
        (⟨trace, .ok accepted⟩ : Check Bool)).outcome = .ok accepted := rfl
    rw [Traced.bind_of_ok answered]
    cases accepted <;> exact congrArg (Traced.mk · _) (List.append_nil trace)

/-- What the assertion comes to, going by the check: the value itself, its refusal by the type, or
the same fault. -/
def Follows (host : Host) (t : Descriptor) (v : Value) : Prop :=
  match (t.check host v).outcome with
  | .ok true => (t.conform host v).outcome = .ok v
  | .ok false => (t.conform host v).outcome = .error (.invalidValue v t)
  | .error f => (t.conform host v).outcome = .error (.fault f)

theorem follows_iff {host : Host} {t : Descriptor} {v : Value} :
    t.Follows host v ↔ ((t.check host v).outcome = .ok false → t.Printable ∧ v.Writable) := by
  unfold Follows
  rw [conform_eq]
  split
  · rename_i accepted
    simp [accepted]
  · rename_i refused
    simp only [refused, true_implies]
    rcases t.refuse_cases Value v with ⟨told, eq⟩ | ⟨untold, f, eq, _⟩
    · exact iff_of_true eq told
    · exact iff_of_false (by simp [eq]) untold
  · rename_i failed
    simp [failed]

end Descriptor

/-- The node's description is a text, or as good as none. -/
def PlainlyDescribed (entries : List (String × Value)) : Prop :=
  ∀ v, entries.lookup "description" = some v → v.truthy = true → v.form = .text

/-- Descriptions are where the names of structs come from. -/
theorem printable_of_described {formats : Registry} {s : Value} {t : Descriptor}
    (h : Compiles formats s t)
    (described : ∀ entries, Contains s (.object entries) → .object ∈ Node.kindsOf entries →
      PlainlyDescribed entries) (short : s.Writable) : t.Printable := by
  refine Descriptor.printable_of_occurs (fun d occurs => ?_) fun _ =>
    not_overlong_of_compiles h short
  have shaped := whollyShaped_of_compiles h d occurs
  cases shaped with
  | @struct entries fields name _ node origin =>
    cases Node.asKind_ok.1 origin.made with
    | struct =>
      intro badly
      obtain ⟨truthy, other⟩ := badly
      rw [Node.ofEntries_get?] at truthy other
      cases given : entries.lookup "description" with
      | none =>
        rw [given] at truthy
        cases truthy
      | some v =>
        rw [given] at truthy other
        exact other (described entries node origin.object v given truthy)
  | _ => exact id

/-- The assertion follows the check, except where a value is refused and either the value or the
type cannot be shown. The types of schemas whose objects are described by texts can be shown, as
long as the schemas can be written. -/
theorem follows_iff_printable {formats : Registry} {s : Value} {t : Descriptor}
    (h : (compile formats s).outcome = .ok t) (host : Host) (v : Value) :
    (t.conform host v).trace = (t.check host v).trace ∧
      (t.Follows host v ↔
        ((t.check host v).outcome = .ok false → t.Printable ∧ v.Writable)) ∧
      ((t.check host v).outcome = .ok false → ¬(t.Printable ∧ v.Writable) →
        ∃ f, (t.conform host v).outcome = .error (.fault f) ∧
          (f.classOf = .type ∨ f = .numberTooLong)) ∧
      ((∀ entries, Contains s (.object entries) → .object ∈ Node.kindsOf entries →
        PlainlyDescribed entries) → s.Writable → t.Printable) := by
  refine ⟨by rw [Descriptor.conform_eq], Descriptor.follows_iff, fun refused untold => ?_,
    printable_of_described h⟩
  rcases t.refuse_cases Value v with ⟨told, _⟩ | ⟨_, f, eq, why⟩
  · exact absurd told untold
  · refine ⟨f, ?_, ?_⟩
    · rw [Descriptor.conform_eq]
      simp only [refused, eq]
    · rcases why with unshown | ⟨_, rfl⟩
      · exact unshown.classOf.imp_right And.left
      · exact .inr rfl

/-- A struct that goes by a number may still be a field of one that goes by its fields. -/
theorem follows_iff_printable_field :
    let part : Value := .object [("type", .text "object"), ("description", .int 5),
      ("properties", .object [("n", .object [("type", .text "null")])])]
    let s : Value := .object [("type", .text "object"), ("properties", .object [("a", part)])]
    let t : Descriptor := .struct
      [("a", .maybe (.struct [("n", .maybe (.primitive .null))] (.int 5)))] .null
    let host : Host := fun _ v => .ok v
    (compile .empty s).outcome = .ok t ∧ t.Printable ∧
      (t.check host (.int 1)).outcome = .ok false ∧ t.Follows host (.int 1) ∧
      t.text = .ok "\x7ba: ?5\x7d" := by
  intro part s t host
  have compiled : (compile .empty s).outcome = .ok t := rfl
  have shown : t.text = .ok "\x7ba: ?5\x7d" := by decide +kernel
  have printable : t.Printable := by
    rcases t.text_cases with ⟨printable, _⟩ | ⟨_, f, failed, _⟩
    · exact printable
    · cases failed.symm.trans shown
  have writable : (Value.int 1).Writable := .int (by decide +kernel)
  obtain ⟨_, iff, _⟩ := follows_iff_printable compiled host (.int 1)
  have follows := iff.2 fun _ => ⟨printable, writable⟩
  exact ⟨compiled, printable, rfl, follows, shown⟩

/-- A struct that goes by a number faults when it should refuse. -/
theorem refusal_faults :
    let s : Value := .object [("type", .text "object"), ("description", .int 5),
      ("properties", .object [("a", .object [("type", .text "null")])])]
    let t : Descriptor := .struct [("a", .maybe (.primitive .null))] (.int 5)
    let host : Host := fun _ v => .ok v
    (compile .empty s).outcome = .ok t ∧ (t.check host (.int 1)).outcome = .ok false ∧
      (t.conform host (.int 1)).outcome = .error (.fault (.nameNotText .int)) ∧
      ¬t.Follows host (.int 1) := by
  intro s t host
  have refused : (t.check host (.int 1)).outcome = .ok false := rfl
  have told : (Error.invalidValue (.int 1) t).detail = .error (.nameNotText .int) := by
    decide +kernel
  have failed : (t.conform host (.int 1)).outcome =
    .error (Error.raised (.invalidValue (.int 1) t)) := rfl
  rw [Error.raised_of_error told] at failed
  refine ⟨rfl, refused, failed, fun follows => ?_⟩
  exact (Descriptor.follows_iff.1 follows refused).1.2 ⟨rfl, nofun⟩

end Conform
