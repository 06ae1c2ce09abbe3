import Conform.Proofs.Retyping
import Conform.Proofs.Safety

namespace Conform

section

variable {host : Host} {v : Value}

/-- Tests that all have answers have one together. -/
theorem Traced.all_answers {α ω ε : Type} {test : α → Traced ω ε Bool} {xs : List α}
    (each : ∀ x ∈ xs, ∃ answer, test x = pure answer) :
    ∃ answer, Traced.all test xs = pure answer := by
  induction xs with
  | nil => exact ⟨true, rfl⟩
  | cons x xs ih =>
    obtain ⟨⟨passed, first⟩, later⟩ := List.forall_mem_cons.1 each
    obtain ⟨answer, rest⟩ := ih later
    rw [Traced.all_cons, first, rest]
    cases passed with
    | true => exact ⟨answer, Traced.true_andThen _⟩
    | false => exact ⟨false, Traced.false_andThen _⟩

/-- The bounds of a node are numbers, or booleans in their place. -/
def MeasuredBounds (entries : List (String × Value)) : Prop :=
  ∀ keyword ∈ ["minimum", "maximum"], ∀ limit, entries.lookup keyword = some limit →
    limit.quantity?.isSome = true

theorem Node.bounds_answer {r : Registry} {entries : List (String × Value)}
    (measured : MeasuredBounds entries) (number : Kind.number.accepts v = true) :
    ∃ answer, Traced.all (fun p => p.check host v) (ofEntries r entries).boundLeaves =
      pure answer := by
  have leaf : ∀ keyword ∈ ["minimum", "maximum"], ∀ relation,
      ∀ p ∈ (ofEntries r entries).leaf keyword (.bound relation),
        ∃ answer, p.check host v = pure answer := by
    intro keyword hk relation p hp
    obtain ⟨limit, given, rfl⟩ := List.mem_map.1 hp
    have measured := measured keyword hk limit (Option.mem_toList.1 given)
    obtain ⟨answer, compared⟩ := Value.compare_settles number measured relation
    exact ⟨answer, congrArg Traced.lift compared⟩
  refine Traced.all_answers (List.forall_mem_append.2 ⟨?_, ?_⟩)
  · exact leaf "minimum" (by simp) _
  · exact leaf "maximum" (by simp) _

/-- Whether a number is whole may be tested before its constraints or after them. -/
theorem Descriptor.check_whole {ps : List Predicate}
    (answers : Kind.number.accepts v = true →
      ∃ answer, Traced.all (fun p => p.check host v) ps = pure answer) :
    ∃ answer, ((primitive .number).constrained ps).check host v = pure answer ∧
      ((primitive .integer).constrained ps).check host v =
        pure (answer && Kind.integer.accepts v) ∧
      ((primitive .number).constrained (ps ++ [.whole])).check host v =
        pure (answer && Kind.integer.accepts v) := by
  simp only [check_constrained, check]
  cases number : Kind.number.accepts v with
  | false =>
    have other : Kind.integer.accepts v = false :=
      Bool.eq_false_iff.2 fun whole => by simp [Kind.number_of_integer whole] at number
    simp [other]
  | true =>
    obtain ⟨answer, eq⟩ := answers number
    have last : Traced.all (fun p : Predicate => p.check host v) [.whole] =
        pure (Kind.integer.accepts v) := by
      rw [Traced.all_cons, Predicate.check]
      exact Traced.andThen_true _
    refine ⟨answer, by rw [Traced.true_andThen, eq], ?_, ?_⟩
    · cases whole : Kind.integer.accepts v <;> simp [eq]
    · rw [Traced.true_andThen, Traced.all_append, eq, last]
      cases answer <;> simp

end

/-- The node as another kind: of the other keywords only the flag for whole numbers may differ. -/
structure Recast (kind : Kind) (entries entries' : List (String × Value)) : Prop where
  type : entries'.lookup "type" = some (.text kind.name)
  rest : ∀ keyword, keyword ≠ "type" → keyword ≠ "integer" →
    entries'.lookup keyword = entries.lookup keyword

namespace Recast

variable {r : Registry} {entries i n w : List (String × Value)}

theorem bounds {kind : Kind} (h : Recast kind entries n) :
    (Node.ofEntries r n).boundLeaves = (Node.ofEntries r entries).boundLeaves := by
  have others : ∀ keyword ∈ ["minimum", "maximum", "exclusiveMinimum", "exclusiveMaximum"],
      keyword ≠ "type" ∧ keyword ≠ "integer" := by decide
  exact Node.boundLeaves_congr fun keyword hk =>
    h.rest keyword (others keyword hk).1 (others keyword hk).2

theorem enum {kind : Kind} (h : Recast kind entries i) : i.lookup "enum" = entries.lookup "enum" :=
  h.rest "enum" (by decide) (by decide)

theorem integer_compiles (h : Recast .integer entries i) (plain : entries.lookup "enum" = none) :
    Compiles r (.object i)
      ((Descriptor.primitive .integer).constrained (Node.ofEntries r entries).boundLeaves) := by
  rw [← h.bounds]
  exact compiles_object.2 (.single h.type (.integer (h.enum.trans plain)))

theorem number_compiles (h : Recast .number entries n) (plain : entries.lookup "enum" = none) :
    Compiles r (.object n) ((Descriptor.primitive .number).constrained
      ((Node.ofEntries r entries).boundLeaves ++
        (Node.ofEntries r n).flagged "integer" .whole)) := by
  rw [← h.bounds]
  exact compiles_object.2 (.single h.type (.number (h.enum.trans plain)))

/-- Whatever kinds that members can stand for are asked for, the members are read alike. -/
theorem moves {kind kind' : Kind} (h : Recast kind entries i) (h' : Recast kind' entries n)
    (kinds : kind.enumerable = true) (kinds' : kind'.enumerable = true) {values : Value}
    (given : entries.lookup "enum" = some values) :
    Moves (.object i) (.object n) (compile r (.object i)).outcome (compile r (.object n)).outcome := by
  have enum : (Node.ofEntries r i).get? "enum" = some values := h.enum.trans given
  have enum' : (Node.ofEntries r n).get? "enum" = some values := h'.enum.trans given
  have labels := (h'.rest "enumNames" (by decide) (by decide)).trans
    (h.rest "enumNames" (by decide) (by decide)).symm
  rw [Node.compile_single h.type, Node.compile_single h'.type,
    Node.enumerable_outcome enum kinds, Node.enumerable_outcome enum' kinds']
  have mismatched : Moved (Node.ofEntries r i).value (Node.ofEntries r n).value _ _ :=
    moved_enumLengthMismatch (enum'.trans enum.symm) labels
  have other : ∀ e : Error, e.node? = none → Moved (.object i) (.object n) e e :=
    fun e unlaid => .other (by simp [unlaid])
  exact Node.follows_enumeration mismatched other labels values

theorem enumeration_of_compiles {kind : Kind} (h : Recast kind entries i)
    (kinds : kind.enumerable = true) {values : Value}
    (given : entries.lookup "enum" = some values) {t : Descriptor}
    (compiled : Compiles r (.object i) t) : ∃ members, t = .enumeration members := by
  have enum : (Node.ofEntries r i).get? "enum" = some values := h.enum.trans given
  rw [Compiles, Node.compile_single h.type, Node.enumerable_outcome enum kinds] at compiled
  obtain ⟨members, _, eq⟩ := Node.enumeration_ok.1 compiled
  exact ⟨members, eq⟩

end Recast

/-- A node as an integer, as a number, and as a number flagged whole. Without members all three
compile, and the first and the last accept the whole numbers among what the second one accepts. With
members all three are one enumeration, or they fail with one error, each laid to its own node. -/
theorem whole_numbers_agree {r : Registry} {entries i n w : List (String × Value)}
    (measured : MeasuredBounds entries) (integer : Recast .integer entries i)
    (number : Recast .number entries n) (whole : Recast .number entries w)
    (unset : Schema.isSet n "integer" = false) (set : Schema.isSet w "integer" = true) :
    (entries.lookup "enum" = none → ∃ t u u', Compiles r (.object i) t ∧
      Compiles r (.object n) u ∧ Compiles r (.object w) u' ∧
      ∀ host v, ∃ answer, u.check host v = pure answer ∧
        t.check host v = pure (answer && Kind.integer.accepts v) ∧
        u'.check host v = pure (answer && Kind.integer.accepts v)) ∧
    ∀ values, entries.lookup "enum" = some values →
      (∃ members, ∀ s ∈ [i, n, w], Compiles r (.object s) (.enumeration members)) ∨
      ∃ e f g, (compile r (.object i)).outcome = .error e ∧
        (compile r (.object n)).outcome = .error f ∧ (compile r (.object w)).outcome = .error g ∧
        Moved (.object i) (.object n) e f ∧ Moved (.object i) (.object w) e g := by
  constructor
  · intro plain
    have compiled := number.number_compiles (r := r) plain
    have flagged := whole.number_compiles (r := r) plain
    have unset : (Node.ofEntries r n).isSet "integer" = false := (Schema.isSet_eq _).trans unset
    have set : (Node.ofEntries r w).isSet "integer" = true := (Schema.isSet_eq _).trans set
    rw [Node.flagged, unset, if_neg (by simp), List.append_nil] at compiled
    rw [Node.flagged, set, if_pos rfl] at flagged
    refine ⟨_, _, _, integer.integer_compiles plain, compiled, flagged, fun host v => ?_⟩
    exact Descriptor.check_whole fun accepted => Node.bounds_answer measured accepted
  · intro values given
    have first := integer.moves (r := r) number rfl rfl given
    have second := integer.moves (r := r) whole rfl rfl given
    cases outcome : (compile r (.object i)).outcome with
    | ok t =>
      obtain ⟨members, rfl⟩ := integer.enumeration_of_compiles rfl given outcome
      refine .inl ⟨members, ?_⟩
      simp only [List.forall_mem_cons]
      exact ⟨outcome, first.ok_iff.1 outcome, second.ok_iff.1 outcome, List.forall_mem_nil _⟩
    | error e =>
      obtain ⟨f, failed, moved⟩ := first.error_of outcome
      obtain ⟨g, failed', moved'⟩ := second.error_of outcome
      exact .inr ⟨e, f, g, rfl, failed, failed', moved, moved'⟩

/-- Between an exclusive zero and infinity. One half is a number but not a whole one, whichever way
whole numbers are asked for. -/
theorem whole_numbers_agree_half :
    let bounds : List (String × Value) := [("minimum", .int 0), ("exclusiveMinimum", .bool true),
      ("maximum", .float (.infinite false))]
    let i : List (String × Value) := ("type", .text "integer") :: bounds
    let n : List (String × Value) := ("integer", .text "") :: ("type", .text "number") :: bounds
    let w : List (String × Value) := bounds ++ [("type", .text "number"), ("integer", .int 1)]
    let within : Predicate := .both (.bound .greater (.int 0)) (.bound .atMost (.float (.infinite false)))
    let t : Descriptor := .refined (.primitive .integer) within
    let u : Descriptor := .refined (.primitive .number) within
    let u' : Descriptor := .refined (.primitive .number) (.both within .whole)
    let host : Host := fun _ v => .ok v
    let half : Value := .float (.finite false 1 (-1))
    MeasuredBounds bounds ∧ Recast .integer bounds i ∧ Recast .number bounds n ∧
      Recast .number bounds w ∧ Schema.isSet n "integer" = false ∧
      Schema.isSet w "integer" = true ∧ (compile .empty (.object i)).outcome = .ok t ∧
      (compile .empty (.object n)).outcome = .ok u ∧
      (compile .empty (.object w)).outcome = .ok u' ∧ u.check host half = pure true ∧
      t.check host half = pure false ∧ u'.check host half = pure false := by
  intro bounds i n w within t u u' host half
  have measured : MeasuredBounds bounds := by
    simp [MeasuredBounds, bounds, List.lookup_cons, Value.quantity?]
  have integer : Recast .integer bounds i := by
    refine ⟨rfl, fun keyword type _ => ?_⟩
    rw [List.lookup_cons, beq_false_of_ne type]
  have number : Recast .number bounds n := by
    refine ⟨rfl, fun keyword type flag => ?_⟩
    rw [List.lookup_cons, beq_false_of_ne flag, List.lookup_cons, beq_false_of_ne type]
  have whole : Recast .number bounds w := by
    refine ⟨rfl, fun keyword type flag => ?_⟩
    simp only [w, List.lookup_append, List.lookup_cons, beq_false_of_ne type, beq_false_of_ne flag]
    simp
  obtain ⟨plain, _⟩ := whole_numbers_agree (r := .empty) measured integer number whole rfl rfl
  obtain ⟨t', v, v', ht, hv, hv', agree⟩ := plain rfl
  have compiled : (compile .empty (.object i)).outcome = .ok t := rfl
  have compiled' : (compile .empty (.object n)).outcome = .ok u := rfl
  have flagged : (compile .empty (.object w)).outcome = .ok u' := rfl
  cases ht.symm.trans compiled
  cases hv.symm.trans compiled'
  cases hv'.symm.trans flagged
  have accepted : u.check host half = pure true := by rfl
  obtain ⟨answer, first, second, third⟩ := agree host half
  cases first.symm.trans accepted
  exact ⟨measured, integer, number, whole, rfl, rfl, compiled, compiled', flagged, accepted,
    second, third⟩

end Conform
