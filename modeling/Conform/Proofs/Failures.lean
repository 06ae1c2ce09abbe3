import Conform.Proofs.Correspondence
import Conform.Proofs.Printing
import Conform.Proofs.Yields

namespace Conform

/-- The node that a refusal is about. -/
def Error.node? : Error → Option Value
  | .enumLengthMismatch node => some node
  | .unsupportedSchema node _ => some node
  | .invalidInput input => some input
  | _ => none

/-- The error names the value, or would do so if the value could be written. -/
inductive Blames (n : Value) : Error → Prop where
  | named {e : Error} (carried : e.node? = some n) : Blames n e
  | overlong (overlong : ¬n.Writable) : Blames n (.fault .numberTooLong)

theorem Error.writable_of_node {e : Error} {n : Value} (carried : e.node? = some n)
    (writable : n.Writable) : e.Writable := by
  cases e with
  | enumLengthMismatch =>
    cases carried
    intro keyword _ v given
    cases n with
    | object entries => exact writable.of_lookup given
    | _ => cases given
  | unsupportedSchema | invalidInput =>
    cases carried
    exact writable
  | _ => cases carried

theorem Error.raised_of_node {e : Error} {n : Value} (carried : e.node? = some n) :
    (e.Writable ∧ e.raised = e) ∨ ¬n.Writable ∧ e.raised = .fault .numberTooLong := by
  have untyped : e.type? = none := by
    cases e <;> first | rfl | cases carried
  by_cases writable : e.Writable
  · exact .inl ⟨writable, raised_of_writable untyped writable⟩
  · exact .inr ⟨mt (writable_of_node carried) writable, raised_of_overlong untyped writable⟩

theorem Error.blames_raised {e : Error} {n : Value} (carried : e.node? = some n) :
    Blames n e.raised := by
  rcases raised_of_node carried with ⟨_, eq⟩ | ⟨overlong, eq⟩
  · rw [eq]
    exact .named carried
  · rw [eq]
    exact .overlong overlong

namespace Node

/-- What a node can be faulted with itself while it is compiled as one kind. -/
inductive Flaw (formats : Registry) (entries : List (String × Value)) : Kind → Error → Prop where
  | refused {kind : Kind} {e : Error} (blames : Blames (.object entries) e) :
      Flaw formats entries kind e
  | unknownFormat {name : Value} (plain : entries.lookup "enum" = none)
      (given : entries.lookup "format" = some name) (unknown : formats.contains name = .ok false) :
      Flaw formats entries .string (.unknownFormat name)
  | fault {kind : Kind} {f : Fault} (type : f.classOf = .type) :
      Flaw formats entries kind (.fault f)
  | pattern {kind : Kind} (f : PatternFault) : Flaw formats entries kind (.pattern f)

/-- A node compiled as one kind goes on to this part, and what comes before the part compiles. -/
inductive Enters (formats : Registry) (entries : List (String × Value)) : Kind → Value → Prop where
  | property {before after : List (String × Value)} {key : String} {s : Value}
      (given : entries.lookup "properties" = some (.object (before ++ (key, s) :: after)))
      (earlier : ∀ p ∈ before, ∃ t, Compiles formats p.2 t) : Enters formats entries .object s
  | item {item : List (String × Value)} (given : entries.lookup "items" = some (.object item)) :
      Enters formats entries .array (.object item)
  | position {before after : List Value} {s : Value}
      (given : entries.lookup "items" = some (.list (before ++ s :: after)))
      (earlier : ∀ x ∈ before, ∃ t, Compiles formats x t) : Enters formats entries .array s

section

variable {formats : Registry} {entries : List (String × Value)} {e : Error}

theorem flaw_of_mapError {α : Type} {kind : Kind} {x : Except Fault α}
    (type : ∀ f, x = .error f → f.classOf = .type) (h : x.mapError Error.fault = .error e) :
    Flaw formats entries kind e := by
  obtain ⟨f, failed, rfl⟩ := except_mapError_error.1 h
  exact .fault (type f failed)

theorem flaw_of_enumeration {kind : Kind} {values : Value}
    (h : (ofEntries formats entries).enumeration values = .error e) :
    Flaw formats entries kind e := by
  unfold enumeration at h
  split at h
  · refine flaw_of_mapError (fun f failed => ?_) h
    rcases except_bind_error.1 failed with failed | ⟨_, _, ⟨⟩⟩
    exact Value.classOf_of_elements failed
  rcases except_bind_error.1 h with h | ⟨k, _, h⟩
  · exact flaw_of_mapError (fun f => Value.classOf_of_length) h
  rcases except_bind_error.1 h with h | ⟨l, _, h⟩
  · exact flaw_of_mapError (fun f => Value.classOf_of_length) h
  split at h
  · rcases except_bind_error.1 h with h | ⟨members, _, h⟩
    · exact flaw_of_mapError (fun f => Value.classOf_of_elements) h
    rcases except_bind_error.1 h with h | ⟨labels, _, ⟨⟩⟩
    exact flaw_of_mapError (fun f => Value.classOf_of_elements) h
  · cases h
    exact .refused (Error.blames_raised rfl)

theorem readLeaf_error {n : Node} {keyword : String} {make : Value → Except Error Predicate}
    (h : n.readLeaf keyword make = .error e) :
    ∃ v, n.get? keyword = some v ∧ make v = .error e := by
  unfold readLeaf at h
  cases given : n.get? keyword with
  | none =>
    rw [given, Option.toList_none, List.mapM_nil] at h
    cases h
  | some v =>
    rw [given, Option.toList_some, List.mapM_cons, List.mapM_nil] at h
    rcases except_bind_error.1 h with h | ⟨p, _, ⟨⟩⟩
    exact ⟨v, rfl, h⟩

theorem flaw_of_pattern {kind : Kind} {v : Value}
    (h : (ofEntries formats entries).pattern v = .error e) : Flaw formats entries kind e := by
  unfold pattern at h
  split at h
  · cases h
  · cases h
    exact .refused (Error.blames_raised rfl)
  · cases h
    exact .pattern _
  · cases h
    exact .refused (Error.blames_raised rfl)

theorem format_error {name : Value} (h : format formats name = .error e) :
    (∃ f, f.classOf = .type ∧ e = .fault f) ∨
      formats.contains name = .ok false ∧ e = .raised (.unknownFormat name) := by
  unfold format Registry.get at h
  cases hashed : name.hashable with
  | error f =>
    rw [hashed] at h
    cases h
    exact .inl ⟨f, Value.classOf_of_hashable hashed, rfl⟩
  | ok =>
    rw [hashed] at h
    cases found : formats.find? name with
    | none =>
      rw [found] at h
      cases h
      refine .inr ⟨?_, rfl⟩
      rw [Registry.contains, hashed, found]
      rfl
    | some handle =>
      rw [found] at h
      cases h

theorem flaw_of_format {name : Value} (plain : entries.lookup "enum" = none)
    (given : entries.lookup "format" = some name) (h : format formats name = .error e) :
    Flaw formats entries .string e := by
  rcases format_error h with ⟨f, type, rfl⟩ | ⟨unknown, rfl⟩
  · exact .fault type
  by_cases writable : name.Writable
  · rw [(Error.raised_of_name rfl).1 writable]
    exact .unknownFormat plain given unknown
  · rw [(Error.raised_of_name rfl).2 writable]
    exact .refused (.overlong fun node => writable (node.of_lookup given))

theorem flaw_of_textLeaves (plain : entries.lookup "enum" = none)
    (h : (ofEntries formats entries).textLeaves formats = .error e) :
    Flaw formats entries .string e := by
  unfold textLeaves at h
  rcases except_bind_error.1 h with h | ⟨patterns, _, h⟩
  · obtain ⟨v, _, failed⟩ := readLeaf_error h
    exact flaw_of_pattern failed
  · rcases except_bind_error.1 h with h | ⟨names, _, ⟨⟩⟩
    obtain ⟨name, given, failed⟩ := readLeaf_error h
    exact flaw_of_format plain given failed

theorem fault_of_required {n : Node} (h : n.required = .error e) :
    ∃ f, f.classOf = .type ∧ e = .fault f := by
  unfold required at h
  split at h
  · cases h
  split at h
  · rcases except_bind_error.1 h with h | ⟨names, _, h⟩
    · obtain ⟨f, failed, rfl⟩ := except_mapError_error.1 h
      exact ⟨f, Value.classOf_of_elements failed, rfl⟩
    rcases except_bind_error.1 h with h | ⟨_, _, ⟨⟩⟩
    obtain ⟨f, failed, rfl⟩ := except_mapError_error.1 h
    exact ⟨f, Value.classOf_of_hashable (v := .tuple names) failed, rfl⟩
  · cases h

theorem compileFields_error {properties : List (String × Value)}
    (h : (compileFields formats properties).outcome = .error e) :
    ∃ before key s after, properties = before ++ (key, s) :: after ∧
      (∀ p ∈ before, ∃ t, Compiles formats p.2 t) ∧
      (Conform.compile formats s).outcome = .error e := by
  rw [compileFields_eq_mapM] at h
  obtain ⟨before, ⟨key, s⟩, after, split, earlier, failed⟩ := Traced.mapM_outcome_error h
  refine ⟨before, key, s, after, split, fun p hp => ?_, Traced.map_outcome_error.1 failed⟩
  obtain ⟨_, compiled⟩ := earlier p hp
  obtain ⟨t, compiled, _⟩ := Traced.map_outcome_ok.1 compiled
  exact ⟨t, compiled⟩

/-- A node fails as an object by a flaw of its own or by a property that fails the same way. -/
theorem object_error (h : (ofEntries formats entries).object.outcome = .error e) :
    Flaw formats entries .object e ∨ ∃ s, Enters formats entries .object s ∧
      (Conform.compile formats s).outcome = .error e := by
  unfold object at h
  split at h
  · cases h
  · rename_i properties given
    split at h
    · cases h
    -- The required names are read before any property is compiled.
    rcases Traced.bind_outcome_error.1 h with h | ⟨names, _, h⟩
    · obtain ⟨f, type, rfl⟩ := fault_of_required h
      exact .inl (.fault type)
    rcases Traced.bind_outcome_error.1 h with h | ⟨types, _, ⟨⟩⟩
    rw [ofEntries_get?] at given
    rw [ofEntries_properties, given] at h
    obtain ⟨before, key, s, after, rfl, earlier, failed⟩ := compileFields_error h
    exact .inr ⟨s, .property given earlier, failed⟩
  · split at h
    · cases h
      exact .inl (.refused (Error.blames_raised rfl))
    · cases h

theorem array_error (h : (ofEntries formats entries).array.outcome = .error e) :
    Flaw formats entries .array e ∨ ∃ s, Enters formats entries .array s ∧
      (Conform.compile formats s).outcome = .error e := by
  rw [array_eq, Traced.map_outcome_error, itemsType, ofEntries_items, ofEntries_get?] at h
  split at h
  · cases h
  split at h
  · rename_i items found
    split at found
    · rename_i item given
      cases found
      exact .inr ⟨_, .item given, Traced.map_outcome_error.1 h⟩
    · rename_i schemas given
      cases found
      rw [Traced.map_outcome_error, compileAll_eq_mapM] at h
      obtain ⟨before, s, after, rfl, earlier, failed⟩ := Traced.mapM_outcome_error h
      exact .inr ⟨s, .position given earlier, failed⟩
    · cases found
  · cases h
    exact .inl (.refused (Error.blames_raised rfl))

/-- A kind that reads no parts is to blame for its errors itself. -/
theorem flaw_of_enumerable {kind : Kind} (enumerable : kind.enumerable = true)
    (h : ((ofEntries formats entries).asKind formats kind).outcome = .error e) :
    Flaw formats entries kind e := by
  cases given : (ofEntries formats entries).get? "enum" with
  | some values =>
    rw [enumerable_outcome given enumerable] at h
    exact flaw_of_enumeration h
  | none =>
    cases kind with
    | string =>
      rw [asKind, Traced.lift_outcome, string_eq formats given, except_map_error] at h
      exact flaw_of_textLeaves given h
    | number =>
      rw [asKind, Traced.lift_outcome, number_eq given] at h
      cases h
    | integer =>
      rw [asKind, Traced.lift_outcome, integer_eq given] at h
      cases h
    | _ => cases enumerable

theorem asKind_error {kind : Kind}
    (h : ((ofEntries formats entries).asKind formats kind).outcome = .error e) :
    Flaw formats entries kind e ∨ ∃ s, Enters formats entries kind s ∧
      (Conform.compile formats s).outcome = .error e := by
  cases kind with
  | null | boolean => cases h
  | string | number | integer => exact .inl (flaw_of_enumerable rfl h)
  | object => exact object_error h
  | array => exact array_error h

/-- A node fails as the first of its kinds that it cannot be compiled as. -/
theorem compile_error (h : (Conform.compile formats (.object entries)).outcome = .error e) :
    Blames (.object entries) e ∨ ∃ before kind after,
      kindsOf entries = before ++ kind :: after ∧
      (∀ k ∈ before, ∃ t, ((ofEntries formats entries).asKind formats k).outcome = .ok t) ∧
      ((ofEntries formats entries).asKind formats kind).outcome = .error e := by
  rw [Conform.compile] at h
  change (Node.compile formats (ofEntries formats entries)).outcome = .error e at h
  unfold Node.compile at h
  rw [ofEntries_get?] at h
  split at h
  · cases h
  · rename_i type given
    split at h
    · rename_i kind named
      rw [Kind.named?_eq_some] at named
      subst named
      rw [Traced.emit_bind_outcome] at h
      exact .inr ⟨[], kind, [], kindsOf_single given, by simp, h⟩
    · split at h
      · rename_i kinds listed
        rw [Traced.emit_bind_outcome] at h
        rcases Traced.bind_outcome_error.1 h with h | ⟨ts, _, ⟨⟩⟩
        obtain ⟨_, rfl⟩ := kinds?_eq_some.1 listed
        obtain ⟨before, kind, after, rfl, earlier, failed⟩ := Traced.mapM_outcome_error h
        exact .inr ⟨before, kind, after, kindsOf_several given, earlier, failed⟩
      · cases h
        exact .inl (Error.blames_raised rfl)
    · cases h
      exact .inl (Error.blames_raised rfl)

end

end Node

/-- One step on the way of compilation: into a part of a node, once the node has been compiled as
the kinds that it names earlier. -/
inductive Entered (formats : Registry) : Value → Value → Prop where
  | part {entries : List (String × Value)} {before after : List Kind} {kind : Kind} {s : Value}
      (kinds : Node.kindsOf entries = before ++ kind :: after)
      (earlier : ∀ k ∈ before,
        ∃ t, ((Node.ofEntries formats entries).asKind formats k).outcome = .ok t)
      (enters : Node.Enters formats entries kind s) : Entered formats (.object entries) s

/-- The way that compilation takes from a schema down to one of its nodes. -/
abbrev Reaches (formats : Registry) : Value → Value → Prop :=
  Relation.ReflTransGen (Entered formats)

/-- What an error lays to the value that it comes from. -/
inductive Faulted (formats : Registry) (e : Error) : Value → Prop where
  | refused {n : Value} (blames : Blames n e) : Faulted formats e n
  | flawed {entries : List (String × Value)} {kind : Kind} (kinds : kind ∈ Node.kindsOf entries)
      (flaw : Node.Flaw formats entries kind e) : Faulted formats e (.object entries)

theorem Node.Enters.toPart {formats : Registry} {entries : List (String × Value)} {kind : Kind}
    {s : Value} (h : Node.Enters formats entries kind s) : Part entries s := by
  cases h with
  | property given => exact .property given List.mem_append_cons_self
  | item given => exact .item given
  | position given => exact .position given List.mem_append_cons_self

theorem exists_faulted {formats : Registry} {s : Value} {e : Error}
    (h : (compile formats s).outcome = .error e) :
    ∃ n, Reaches formats s n ∧ (compile formats n).outcome = .error e ∧ Faulted formats e n := by
  induction s using schema_induct with
  | other v none =>
    have blames : Blames v e := by
      cases v with
      | object entries => exact absurd rfl (none entries)
      | _ =>
        simp only [compile, Traced.fail_outcome, Except.error.injEq] at h
        subst h
        exact Error.blames_raised rfl
    exact ⟨v, .refl, h, .refused blames⟩
  | node entries ih =>
    rcases Node.compile_error h with blames | ⟨before, kind, after, kinds, earlier, failed⟩
    · exact ⟨_, .refl, h, .refused blames⟩
    rcases Node.asKind_error failed with flaw | ⟨s, enters, failed⟩
    · exact ⟨_, .refl, h, .flawed (by simp [kinds]) flaw⟩
    -- Nothing is added to the error on its way up, so what is found below answers for it here.
    obtain ⟨n, reached, same, faulted⟩ := ih s enters.toPart failed
    exact ⟨n, .head (.part kinds earlier enters) reached, same, faulted⟩

theorem Reaches.sizeOf_le {r : Registry} {s n : Value} (h : Reaches r s n) :
    sizeOf n ≤ sizeOf s := by
  induction h with
  | refl => exact Nat.le_refl _
  | tail _ step ih =>
    cases step with
    | part _ _ enters => exact Nat.le_of_lt (Nat.lt_of_lt_of_le enters.toPart.sizeOf_lt ih)

theorem Part.writable {entries : List (String × Value)} {s : Value} (part : Part entries s)
    (h : (Value.object entries).Writable) : s.Writable := by
  cases part with
  | property given mem => exact Value.writable_object.1 (h.of_lookup given) _ mem
  | item given => exact h.of_lookup given
  | position given mem => exact Value.writable_list.1 (h.of_lookup given) _ mem

theorem Reaches.writable {r : Registry} {s n : Value} (h : Reaches r s n) (writable : s.Writable) :
    n.Writable := by
  induction h with
  | refl => exact writable
  | tail _ step ih =>
    cases step with
    | part _ _ enters => exact enters.toPart.writable ih

theorem Faulted.overlong {r : Registry} {n : Value}
    (h : Faulted r (.fault .numberTooLong) n) : ¬n.Writable := by
  have blamed : ∀ {n}, Blames n (.fault .numberTooLong) → ¬n.Writable := by
    intro n blames
    cases blames with
    | named carried => cases carried
    | overlong overlong => exact overlong
  cases h with
  | refused blames => exact blamed blames
  | flawed _ flaw =>
    cases flaw with
    | refused blames => exact blamed blames
    | fault type => cases type

theorem Blames.node {e : Error} {n m : Value} (h : Blames n e) (carried : e.node? = some m) :
    n = m := by
  cases h with
  | named here => exact Option.some.inj (here.symm.trans carried)
  | overlong => cases carried

theorem Faulted.node {r : Registry} {e : Error} {n m : Value} (h : Faulted r e n)
    (carried : e.node? = some m) : n = m := by
  cases h with
  | refused blames => exact blames.node carried
  | flawed _ flaw =>
    cases flaw with
    | refused blames => exact blames.node carried
    | _ => cases carried

/-- A refusal names a node on the way at which it comes up again; an unknown format is that of a
text on the way. -/
theorem error_origin {formats : Registry} {s : Value} {e : Error}
    (h : (compile formats s).outcome = .error e) :
    (∀ n, e.node? = some n → Reaches formats s n ∧ (compile formats n).outcome = .error e) ∧
      ∀ name, e = .unknownFormat name → ∃ entries, Reaches formats s (.object entries) ∧
        .string ∈ Node.kindsOf entries ∧ entries.lookup "enum" = none ∧
        entries.lookup "format" = some name ∧ formats.contains name = .ok false := by
  obtain ⟨m, reached, failed, faulted⟩ := exists_faulted h
  constructor
  · intro n carried
    obtain rfl := faulted.node carried
    exact ⟨reached, failed⟩
  · intro name eq
    subst eq
    cases faulted with
    | refused blames => cases blames with | named carried => cases carried
    | flawed kinds flaw =>
      cases flaw with
      | refused blames => cases blames with | named carried => cases carried
      | unknownFormat plain given unknown => exact ⟨_, reached, kinds, plain, given, unknown⟩

/-- Of two broken nodes the one compiled first is named: the second position of the items. -/
theorem error_origin_labels :
    let labelled : Value := .object [("type", .text "string"), ("enum", .list [.int 1]),
      ("enumNames", .list [])]
    let s : Value := .object [("type", .list [.text "array", .text "object"]),
      ("properties", .object [("size", .null)]),
      ("items", .list [.object [], labelled, .bool true])]
    let e : Error := .enumLengthMismatch labelled
    (compile .empty s).outcome = .error e ∧
      Reaches .empty s labelled ∧ (compile .empty labelled).outcome = .error e := by
  intro labelled s e
  have told : e.detail = .ok "enumNames [] and enum [1] of unequal length" := by decide +kernel
  have failed : (compile .empty s).outcome = .error e.raised := rfl
  rw [Error.raised_of_ok told] at failed
  exact ⟨failed, (error_origin failed).1 labelled rfl⟩

end Conform
