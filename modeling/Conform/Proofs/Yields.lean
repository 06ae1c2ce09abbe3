import Conform.Proofs.Nodes

namespace Conform

/-- The schema is accepted, and this is its type. -/
def Compiles (formats : Registry) (s : Value) (t : Descriptor) : Prop :=
  (compile formats s).outcome = .ok t

/-- The kinds that an enumeration can stand for. -/
def Kind.enumerable : Kind → Bool
  | .string | .number | .integer => true
  | _ => false

namespace Node

/-- Members come with labels by position; without labels of their own they label themselves. -/
def Pairs (n : Node) (values : Value) (members : List (Value × Value)) : Prop :=
  ∃ items labels, values.elements? = some items ∧ items.length = labels.length ∧
    members = items.zip labels ∧
    match n.get? "enumNames" with
    | none => labels = items
    | some names => names.elements? = some labels

/-- What the items of a node yield, given what its parts do. -/
inductive ItemsYield (n : Node) (P : Value → Descriptor → Prop) : Descriptor → Prop where
  | absent (given : n.get? "items" = none) : ItemsYield n P (.primitive .array)
  | each {item : List (String × Value)} {t : Descriptor}
      (given : n.get? "items" = some (.object item)) (part : P (.object item) t) :
      ItemsYield n P (.list t)
  | positions {items : List Value} {ts : List Descriptor}
      (given : n.get? "items" = some (.list items)) (parts : List.Forall₂ P items ts) :
      ItemsYield n P (.tuple ts)

/-- What a node yields as one kind, given what its parts do. -/
inductive KindYields (formats : Registry) (n : Node) (P : Value → Descriptor → Prop) :
    Kind → Descriptor → Prop where
  | null : KindYields formats n P .null (.primitive .null)
  | boolean : KindYields formats n P .boolean (.primitive .boolean)
  | enumeration {kind : Kind} {values : Value} {members : List (Value × Value)}
      (kinds : kind.enumerable = true) (given : n.get? "enum" = some values)
      (pairs : n.Pairs values members) : KindYields formats n P kind (.enumeration members)
  | string {ps : List Predicate} (plain : n.get? "enum" = none)
      (leaves : n.textLeaves formats = .ok ps) :
      KindYields formats n P .string ((Descriptor.primitive .string).constrained ps)
  | number (plain : n.get? "enum" = none) :
      KindYields formats n P .number ((Descriptor.primitive .number).constrained
        (n.boundLeaves ++ n.flagged "integer" .whole))
  | integer (plain : n.get? "enum" = none) :
      KindYields formats n P .integer ((Descriptor.primitive .integer).constrained n.boundLeaves)
  | object
      (bare : ∀ properties, n.get? "properties" = some properties → properties.truthy = false) :
      KindYields formats n P .object (.primitive .object)
  | struct {properties : List (String × Value)} {types : List (String × Descriptor)}
      {names : List Value} (given : n.get? "properties" = some (.object properties))
      (inhabited : properties ≠ []) (needed : n.required = .ok names)
      (parts : List.Forall₂ (fun p f => f.1 = p.1 ∧ P p.2 f.2) properties types) :
      KindYields formats n P .object
        (.struct (types.map fun f => field names f.1 f.2) ((n.get? "description").getD .null))
  | array {base : Descriptor} (items : n.ItemsYield P base) :
      KindYields formats n P .array (base.constrained n.countLeaves)

/-- What a node yields, given what its parts do. -/
inductive Yields (formats : Registry) (n : Node) (P : Value → Descriptor → Prop) :
    Descriptor → Prop where
  | untyped (given : n.get? "type" = none) : Yields formats n P .any
  | single {kind : Kind} {t : Descriptor} (given : n.get? "type" = some (.text kind.name))
      (part : n.KindYields formats P kind t) : Yields formats n P t
  | several {kinds : List Kind} {ts : List Descriptor} (inhabited : kinds ≠ [])
      (given : n.get? "type" = some (.list (kinds.map fun kind => .text kind.name)))
      (parts : List.Forall₂ (n.KindYields formats P) kinds ts) : Yields formats n P (.union ts)

section

variable {n : Node} {formats : Registry} {P : Value → Descriptor → Prop}

theorem enumeration_ok {values : Value} {t : Descriptor} :
    n.enumeration values = .ok t ↔
      ∃ members, n.Pairs values members ∧ t = .enumeration members := by
  unfold enumeration Pairs
  cases n.get? "enumNames" with
  | none =>
    have self : ∀ values : List Value, values.map (fun v => (v, v)) = values.zip values := by
      intro values
      rw [List.zip_eq_zipWith, List.zipWith_self]
    simp only [except_mapError_ok, Descriptor.enumerationOf, except_bind_ok, Value.elements_ok]
    constructor
    · intro h
      obtain ⟨values, hv, eq⟩ := h
      cases eq
      exact ⟨_, ⟨values, values, hv, rfl, rfl, rfl⟩, by rw [self]⟩
    · intro h
      obtain ⟨_, ⟨values, labels, hv, _, rfl, rfl⟩, rfl⟩ := h
      exact ⟨labels, hv, by rw [self]; rfl⟩
  | some names =>
    simp only [except_bind_ok, except_mapError_ok, Value.length_ok]
    constructor
    · intro h
      obtain ⟨_, ⟨values, hv, rfl⟩, _, ⟨labels, hl, rfl⟩, h⟩ := h
      split at h
      · rename_i same
        simp only [except_bind_ok, except_mapError_ok, Value.elements_ok, hv, hl] at h
        obtain ⟨_, ⟨⟩, _, ⟨⟩, eq⟩ := h
        cases eq
        exact ⟨_, ⟨values, labels, hv, same, rfl, hl⟩, rfl⟩
      · cases h
    · intro h
      obtain ⟨_, ⟨values, labels, hv, same, rfl, hl⟩, rfl⟩ := h
      refine ⟨_, ⟨values, hv, rfl⟩, _, ⟨labels, hl, rfl⟩, ?_⟩
      simp only [if_pos same, except_bind_ok, except_mapError_ok, Value.elements_ok]
      exact ⟨values, hv, labels, hl, rfl⟩

/-- With an enumeration, a text or a number looks at nothing else. -/
theorem enumerable_outcome {kind : Kind} {values : Value} (given : n.get? "enum" = some values)
    (kinds : kind.enumerable = true) :
    (n.asKind formats kind).outcome = n.enumeration values := by
  cases kind with
  | string => simp [asKind, string, given]
  | number => simp [asKind, number, given]
  | integer => simp [asKind, integer, given]
  | _ => cases kinds

theorem enumerable_ok {kind : Kind} {values : Value} {t : Descriptor}
    (given : n.get? "enum" = some values) (kinds : kind.enumerable = true) :
    (n.asKind formats kind).outcome = .ok t ↔ n.KindYields formats P kind t := by
  rw [enumerable_outcome given kinds, enumeration_ok]
  constructor
  · intro h
    obtain ⟨members, pairs, rfl⟩ := h
    exact .enumeration kinds given pairs
  · intro y
    cases y with
    | enumeration _ given' pairs =>
      cases given.symm.trans given'
      exact ⟨_, pairs, rfl⟩
    | string plain | number plain | integer plain => cases given.symm.trans plain
    | _ => cases kinds

end

theorem compileFields_ok {formats : Registry} {properties : List (String × Value)}
    {types : List (String × Descriptor)} :
    (compileFields formats properties).outcome = .ok types ↔
      List.Forall₂ (fun p f => f.1 = p.1 ∧ Compiles formats p.2 f.2) properties types := by
  induction properties generalizing types with
  | nil =>
    rw [compileFields, Traced.pure_outcome, List.forall₂_nil_left_iff, Except.ok.injEq]
    exact eq_comm
  | cons property rest ih =>
    obtain ⟨key, s⟩ := property
    simp only [compileFields, Traced.bind_outcome_ok]
    constructor
    · intro h
      obtain ⟨t, ht, ts, hts, eq⟩ := h
      cases eq
      exact .cons ⟨rfl, ht⟩ (ih.1 hts)
    · intro h
      rcases h with _ | @⟨_, ⟨_, t⟩, _, ts, ⟨rfl, ht⟩, hts⟩
      exact ⟨t, ht, ts, ih.2 hts, rfl⟩

theorem compileFields_eq_mapM (formats : Registry) (properties : List (String × Value)) :
    compileFields formats properties =
      properties.mapM fun p => (p.1, ·) <$> Conform.compile formats p.2 := by
  induction properties with
  | nil => rw [compileFields, List.mapM_nil]
  | cons p rest ih =>
    rw [compileFields, List.mapM_cons, ih]
    simp only [map_eq_pure_bind, bind_assoc, pure_bind]

theorem compileAll_eq_mapM (formats : Registry) (items : List Value) :
    compileAll formats items = items.mapM (Conform.compile formats) := by
  induction items with
  | nil => rw [compileAll, List.mapM_nil]
  | cons s rest ih => rw [compileAll, List.mapM_cons, ih]

theorem compileAll_ok {formats : Registry} {items : List Value} {ts : List Descriptor} :
    (compileAll formats items).outcome = .ok ts ↔
      List.Forall₂ (Compiles formats) items ts := by
  rw [compileAll_eq_mapM]
  exact Traced.mapM_outcome_ok

theorem itemsType_ok {formats : Registry} {entries : List (String × Value)} {t : Descriptor} :
    (ofEntries formats entries).itemsType.outcome = .ok t ↔
      (ofEntries formats entries).ItemsYield (Compiles formats) t := by
  unfold itemsType
  rw [ofEntries_items, ofEntries_get?]
  constructor
  · intro h
    split at h
    · rename_i absent
      cases h
      exact .absent absent
    · split at h
      · rename_i items found
        split at found
        · rename_i item given
          cases found
          obtain ⟨u, part, rfl⟩ := Traced.map_outcome_ok.1 h
          exact .each given part
        · rename_i ss given
          cases found
          obtain ⟨us, parts, rfl⟩ := Traced.map_outcome_ok.1 h
          exact .positions given (compileAll_ok.1 parts)
        · cases found
      · cases h
  · intro y
    cases y with
    | absent given => rw [ofEntries_get?] at given; rw [given]; rfl
    | each given part =>
      rw [ofEntries_get?] at given
      rw [given]
      exact Traced.map_outcome_ok.2 ⟨_, part, rfl⟩
    | positions given parts =>
      rw [ofEntries_get?] at given
      rw [given]
      exact Traced.map_outcome_ok.2 ⟨_, compileAll_ok.2 parts, rfl⟩

theorem object_ok {formats : Registry} {entries : List (String × Value)} {t : Descriptor} :
    (ofEntries formats entries).object.outcome = .ok t ↔
      (ofEntries formats entries).KindYields formats (Compiles formats) .object t := by
  unfold object
  constructor
  · intro h
    split at h
    · rename_i absent
      cases h
      exact .object fun properties given => by rw [absent] at given; cases given
    · rename_i properties given
      split at h
      · rename_i empty
        cases h
        refine .object fun _ given' => ?_
        cases given.symm.trans given'
        simp [Value.truthy, empty]
      · rename_i inhabited
        rw [ofEntries_get?] at given
        rw [ofEntries_properties, given] at h
        obtain ⟨names, needed, h⟩ := Traced.bind_outcome_ok.1 h
        obtain ⟨types, parts, eq⟩ := Traced.bind_outcome_ok.1 h
        cases eq
        exact .struct given (by simpa using inhabited) needed (compileFields_ok.1 parts)
    · rename_i v other given
      split at h
      · cases h
      · rename_i falsy
        cases h
        refine .object fun _ given' => ?_
        cases given.symm.trans given'
        simpa using falsy
  · intro y
    cases y with
    | enumeration kinds => cases kinds
    | object bare =>
      split
      · rfl
      · rename_i properties given
        have empty := bare _ given
        rw [if_pos (by simpa [Value.truthy] using empty)]
        rfl
      · rename_i given
        rw [if_neg (by simp [bare _ given])]
        rfl
    | struct given inhabited needed parts =>
      rw [given]
      simp only []
      rw [if_neg (by simpa using inhabited)]
      refine Traced.bind_outcome_ok.2 ⟨_, needed, Traced.bind_outcome_ok.2 ⟨_, ?_, rfl⟩⟩
      rw [ofEntries_get?] at given
      rw [ofEntries_properties, given]
      exact compileFields_ok.2 parts

theorem asKind_ok {formats : Registry} {entries : List (String × Value)} {kind : Kind}
    {t : Descriptor} : ((ofEntries formats entries).asKind formats kind).outcome = .ok t ↔
      (ofEntries formats entries).KindYields formats (Compiles formats) kind t := by
  cases kind with
  | null =>
    constructor
    · intro h
      cases h
      exact .null
    · intro y
      cases y with
      | null => rfl
      | enumeration kinds => cases kinds
  | boolean =>
    constructor
    · intro h
      cases h
      exact .boolean
    · intro y
      cases y with
      | boolean => rfl
      | enumeration kinds => cases kinds
  | object => exact object_ok
  | array =>
    rw [asKind, array_eq, Traced.map_outcome_ok]
    constructor
    · intro h
      obtain ⟨base, items, rfl⟩ := h
      exact .array (itemsType_ok.1 items)
    · intro y
      cases y with
      | enumeration kinds => cases kinds
      | array items => exact ⟨_, itemsType_ok.2 items, rfl⟩
  | string =>
    cases given : (ofEntries formats entries).get? "enum" with
    | some values => exact enumerable_ok given rfl
    | none =>
      rw [asKind, Traced.lift_outcome, string_eq formats given, except_map_ok]
      constructor
      · intro h
        obtain ⟨ps, leaves, rfl⟩ := h
        exact .string given leaves
      · intro y
        cases y with
        | enumeration _ given' => cases given.symm.trans given'
        | string _ leaves => exact ⟨_, leaves, rfl⟩
  | number =>
    cases given : (ofEntries formats entries).get? "enum" with
    | some values => exact enumerable_ok given rfl
    | none =>
      rw [asKind, Traced.lift_outcome, number_eq given]
      constructor
      · intro h
        cases h
        exact .number given
      · intro y
        cases y with
        | enumeration _ given' => cases given.symm.trans given'
        | number => rfl
  | integer =>
    cases given : (ofEntries formats entries).get? "enum" with
    | some values => exact enumerable_ok given rfl
    | none =>
      rw [asKind, Traced.lift_outcome, integer_eq given]
      constructor
      · intro h
        cases h
        exact .integer given
      · intro y
        cases y with
        | enumeration _ given' => cases given.symm.trans given'
        | integer => rfl

theorem compile_single {formats : Registry} {entries : List (String × Value)} {kind : Kind}
    (given : entries.lookup "type" = some (.text kind.name)) :
    (Conform.compile formats (.object entries)).outcome =
      ((ofEntries formats entries).asKind formats kind).outcome := by
  rw [Conform.compile]
  show (Node.compile formats (ofEntries formats entries)).outcome = _
  rw [Node.compile, ofEntries_get?, given]
  simp only [Kind.named?_eq_some.2 rfl]
  rw [Traced.emit_bind_outcome]

theorem compile_several {formats : Registry} {entries : List (String × Value)} {kinds : List Kind}
    (inhabited : kinds ≠ [])
    (given : entries.lookup "type" = some (.list (kinds.map fun kind => .text kind.name))) :
    (Conform.compile formats (.object entries)).outcome =
      (kinds.mapM ((ofEntries formats entries).asKind formats)).outcome.map .union := by
  rw [Conform.compile]
  show (Node.compile formats (ofEntries formats entries)).outcome = _
  rw [Node.compile, ofEntries_get?, given]
  simp only [Kind.named?, kinds?_eq_some.2 ⟨inhabited, rfl⟩]
  rw [Traced.emit_bind_outcome, ← map_eq_pure_bind, Traced.map_outcome]

section

variable {n : Node} {formats : Registry} {P Q : Value → Descriptor → Prop}

theorem ItemsYield.imp {t : Descriptor} (h : n.ItemsYield P t)
    (parts : ∀ s t, Part n.entries s → P s t → Q s t) : n.ItemsYield Q t := by
  cases h with
  | absent given => exact .absent given
  | each given part => exact .each given (parts _ _ (.item given) part)
  | positions given each =>
    refine .positions given (forall₂_of_mem each fun s hs t _ part => ?_)
    exact parts s t (.position given hs) part

theorem KindYields.imp {kind : Kind} {t : Descriptor} (h : n.KindYields formats P kind t)
    (parts : ∀ s t, Part n.entries s → P s t → Q s t) : n.KindYields formats Q kind t := by
  cases h with
  | null => exact .null
  | boolean => exact .boolean
  | enumeration kinds given pairs => exact .enumeration kinds given pairs
  | string plain leaves => exact .string plain leaves
  | number plain => exact .number plain
  | integer plain => exact .integer plain
  | object bare => exact .object bare
  | struct given inhabited needed each =>
    refine .struct given inhabited needed (forall₂_of_mem each fun p hp f _ ⟨key, part⟩ => ?_)
    exact ⟨key, parts p.2 f.2 (.property given hp) part⟩
  | array items => exact .array (items.imp parts)

theorem Yields.imp {t : Descriptor} (h : n.Yields formats P t)
    (parts : ∀ s t, Part n.entries s → P s t → Q s t) : n.Yields formats Q t := by
  cases h with
  | untyped given => exact .untyped given
  | single given part => exact .single given (part.imp parts)
  | several inhabited given each =>
    exact .several inhabited given (each.imp fun _ _ part => part.imp parts)

end

end Node

theorem compiles_object {formats : Registry} {entries : List (String × Value)} {t : Descriptor} :
    Compiles formats (.object entries) t ↔
      (Node.ofEntries formats entries).Yields formats (Compiles formats) t := by
  rw [Compiles, compile]
  show (Node.compile formats (Node.ofEntries formats entries)).outcome = .ok t ↔ _
  unfold Node.compile
  constructor
  · intro h
    split at h
    · rename_i absent
      cases h
      exact .untyped absent
    · rename_i type given
      split at h
      · rename_i kind named
        rw [Traced.emit_bind_outcome, Node.asKind_ok] at h
        exact .single (given.trans (congrArg some (Kind.named?_eq_some.1 named))) h
      · split at h
        · rename_i names _ kinds listed
          rw [Traced.emit_bind_outcome] at h
          obtain ⟨ts, parts, eq⟩ := Traced.bind_outcome_ok.1 h
          cases eq
          obtain ⟨inhabited, rfl⟩ := Node.kinds?_eq_some.1 listed
          exact .several inhabited given
            ((Traced.mapM_outcome_ok.1 parts).imp fun _ _ part => Node.asKind_ok.1 part)
        · cases h
      · cases h
  · intro y
    cases y with
    | untyped given =>
      rw [given]
      rfl
    | single given part =>
      rw [given]
      simp only [Kind.named?_eq_some.2 rfl]
      rw [Traced.emit_bind_outcome]
      exact Node.asKind_ok.2 part
    | several inhabited given parts =>
      rw [given]
      simp only [Kind.named?, Node.kinds?_eq_some.2 ⟨inhabited, rfl⟩]
      rw [Traced.emit_bind_outcome]
      refine Traced.bind_outcome_ok.2 ⟨_, Traced.mapM_outcome_ok.2 ?_, rfl⟩
      exact parts.imp fun _ _ part => Node.asKind_ok.2 part

theorem object_of_compiles {formats : Registry} {s : Value} {t : Descriptor}
    (h : Compiles formats s t) : ∃ entries, s = .object entries := by
  cases s with
  | object entries => exact ⟨entries, rfl⟩
  | _ => simp [Compiles, compile] at h

/-- What is shown of each node from what is known of its parts holds of all that compiles. -/
theorem compiles_induct {formats : Registry} {Q : Value → Descriptor → Prop}
    (step : ∀ entries t, (Node.ofEntries formats entries).Yields formats
      (fun s u => Compiles formats s u ∧ Q s u) t → Q (.object entries) t)
    {s : Value} {t : Descriptor} (h : Compiles formats s t) : Q s t := by
  induction s using schema_induct generalizing t with
  | other v none =>
    obtain ⟨entries, rfl⟩ := object_of_compiles h
    exact absurd rfl (none entries)
  | node entries ih =>
    exact step entries t ((compiles_object.1 h).imp fun s u part hu => ⟨hu, ih s part hu⟩)

end Conform
