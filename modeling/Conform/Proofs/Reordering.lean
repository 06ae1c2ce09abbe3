import Conform.Proofs.Acceptance
import Conform.Proofs.Agreement
import Mathlib.Data.List.Perm.Basic

namespace Conform

namespace Schema

/-- Lists are put in another order, and required names may be repeated. -/
def reordering : Alteration where
  type := Relisted List.Perm
  enum := Relisted List.Perm
  required := Relisted SameNames
  properties := List.Perm

theorem reordering_mild : reordering.Mild where
  type := .inr
  enum := id
  required := id
  properties := id
  unmoved := .refl

theorem Relisted.symm {R : List Value → List Value → Prop} (symm : ∀ xs ys, R xs ys → R ys xs)
    {given given' : Option Value} (h : Relisted R given given') : Relisted R given' given := by
  rcases h with same | ⟨xs, ys, hx, hy, related⟩
  · exact .inl same.symm
  · exact .inr ⟨ys, xs, hy, hx, symm xs ys related⟩

/-- What has been reordered can be put back in order. -/
theorem Altered.unordered {s s' : Value} (h : Altered reordering s s') :
    Altered reordering s' s := by
  induction s using schema_induct generalizing s' with
  | other s other =>
    rw [h.eq_of_other other]
    exact .same s
  | node entries ih =>
    cases h with
    | same => exact .same _
    | @node _ entries' type enum required properties items rest =>
      have perm := fun (xs ys : List Value) (h : xs.Perm ys) => h.symm
      refine .node (Relisted.symm perm type) (Relisted.symm perm enum)
        (Relisted.symm (fun _ _ same => ⟨same.2, same.1⟩) required) ?_ ?_
        fun keyword kept => (rest keyword kept).symm
      · rcases properties.cases reordering_mild.unmoved with
          ⟨same, _⟩ | ⟨ps, arranged, ps', found, found', order, each⟩
        · rw [same]
          exact .same _
        · rw [found, found']
          obtain ⟨arranged', each', order'⟩ := List.perm_comp_forall₂ order each
          have back : List.Forall₂ (fun p p' => Altered reordering p'.2 p.2) ps arranged' :=
            forall₂_of_mem each' fun p hp _ _ part => ih p.2 (.property found hp) part.2
          exact .each order'.symm (Entries.keys_eq_of_forall₂ each').symm back.flip
      · rcases items.cases with
          ⟨same, _⟩ | ⟨item, item', found, found', part⟩ | ⟨schemas, schemas', found, found', each⟩
        · rw [same]
          exact .same _
        · rw [found, found']
          exact .single (ih _ (.item found) part)
        · rw [found, found']
          have back : List.Forall₂ (fun s s' => Altered reordering s' s) schemas schemas' :=
            forall₂_of_mem each fun s hs _ _ part => ih s (.position found hs) part
          exact .positions back.flip

end Schema

/-- A schema in another order is accepted just when it was before, and where the checks with both
types give an answer they give the same. -/
theorem answers_of_reordered {formats : Registry} {s s' : Value}
    (reordered : Schema.Altered Schema.reordering s s') :
    ((∃ t, (compile formats s).outcome = .ok t) ↔
        ∃ t', (compile formats s').outcome = .ok t') ∧
      ∀ t t', (compile formats s).outcome = .ok t → (compile formats s').outcome = .ok t' →
        ∀ host v answer answer', (t.check host v).outcome = .ok answer →
          (t'.check host v).outcome = .ok answer' → answer = answer' := by
  have mild := Schema.reordering_mild
  have ordered := reordered.unordered
  refine ⟨⟨Schema.compiles_altered mild reordered, Schema.compiles_altered mild ordered⟩, ?_⟩
  intro t t' h h' host v answer answer' given given'
  rw [(Schema.agrees_of_compiles h).2] at given
  rw [(Schema.agrees_of_compiles h').2] at given'
  cases answer with
  | true =>
    cases answer' with
    | true => rfl
    | false => exact absurd given' (Schema.covers_altered mild reordered v given)
  | false =>
    cases answer' with
    | true => exact absurd given (Schema.covers_altered mild ordered v given')
    | false => rfl

/-- Everything in another order at once, at the root and below. -/
theorem answers_of_reordered_all :
    let a := fun members : List Value =>
      Value.object [("type", .text "string"), ("enum", .list members)]
    let b := Value.object [("type", .text "number")]
    let node := fun (kinds names : List Value) (properties : List (String × Value)) =>
      Value.object [("type", .list kinds), ("required", .list names),
        ("properties", .object properties)]
    let s := node [.text "object", .text "null"] [.text "a"]
      [("a", a [.text "x", .text "y"]), ("b", b)]
    let s' := node [.text "null", .text "object"] [.text "a", .text "a"]
      [("b", b), ("a", a [.text "y", .text "x"])]
    let x : Value × Value := (.text "x", .text "x")
    let y : Value × Value := (.text "y", .text "y")
    let t : Descriptor := .union [.struct [("a", .enumeration [x, y]),
      ("b", .maybe (.primitive .number))] .null, .primitive .null]
    let host : Host := fun _ _ => .ok .null
    let v : Value := .object [("a", .text "y")]
    Schema.Altered Schema.reordering s s' ∧ (compile .empty s).outcome = .ok t ∧
      (t.check host v).outcome = .ok true ∧ ∃ t', (compile .empty s').outcome = .ok t' ∧
        ∀ answer, (t'.check host v).outcome = .ok answer → answer = true := by
  intro a b node s s' x y t host v
  have members : Schema.Altered Schema.reordering (a [.text "x", .text "y"])
      (a [.text "y", .text "x"]) := by
    refine .node (.inl rfl) (.inr ⟨_, _, rfl, rfl, .swap _ _ _⟩) (.inl rfl) (.same _) (.same _) ?_
    intro keyword kept
    simp only [Schema.alterable, List.mem_cons, not_or] at kept
    simp [List.lookup_cons, beq_false_of_ne kept.2.1]
  have reordered : Schema.Altered Schema.reordering s s' := by
    refine .node (.inr ⟨_, _, rfl, rfl, .swap _ _ _⟩) (.inl rfl)
      (.inr ⟨_, _, rfl, rfl, by simp, by simp⟩)
      (.each (.swap _ _ _) rfl (.cons (.same b) (.cons members .nil))) (.same _) ?_
    intro keyword kept
    simp only [Schema.alterable, List.mem_cons, not_or] at kept
    obtain ⟨type, _, required, properties, _⟩ := kept
    simp [List.lookup_cons, beq_false_of_ne type, beq_false_of_ne required,
      beq_false_of_ne properties]
  have compiled : (compile .empty s).outcome = .ok t := rfl
  have accepted : (t.check host v).outcome = .ok true := rfl
  obtain ⟨iff, same⟩ := answers_of_reordered reordered
  obtain ⟨t', compiled'⟩ := iff.1 ⟨t, compiled⟩
  refine ⟨reordered, compiled, accepted, t', compiled', fun answer given => ?_⟩
  exact (same t t' compiled compiled' host v true answer accepted given).symm

end Conform
