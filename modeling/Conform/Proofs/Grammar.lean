import Conform.Proofs.Yields

namespace Conform

mutual

/-- A schema that describes a type. -/
inductive Grammatical (formats : Registry) : Value → Prop where
  | untyped {entries : List (String × Value)} (given : entries.lookup "type" = none) :
      Grammatical formats (.object entries)
  | single {entries : List (String × Value)} {kind : Kind}
      (given : entries.lookup "type" = some (.text kind.name))
      (node : GrammaticalAs formats entries kind) : Grammatical formats (.object entries)
  | several {entries : List (String × Value)} {kinds : List Kind} (inhabited : kinds ≠ [])
      (given : entries.lookup "type" = some (.list (kinds.map fun kind => .text kind.name)))
      (node : ∀ kind ∈ kinds, GrammaticalAs formats entries kind) :
      Grammatical formats (.object entries)

/-- A node that is in order as far as one kind is concerned. -/
inductive GrammaticalAs (formats : Registry) : List (String × Value) → Kind → Prop where
  | null {entries : List (String × Value)} : GrammaticalAs formats entries .null
  | boolean {entries : List (String × Value)} : GrammaticalAs formats entries .boolean
  | enumeration {entries : List (String × Value)} {kind : Kind} {values : Value}
      {items : List Value} (kinds : kind ∈ [Kind.string, .number, .integer])
      (given : entries.lookup "enum" = some values) (members : values.elements? = some items)
      (labelled : ∀ names, entries.lookup "enumNames" = some names →
        ∃ labels, names.elements? = some labels ∧ labels.length = items.length) :
      GrammaticalAs formats entries kind
  | string {entries : List (String × Value)} (plain : entries.lookup "enum" = none)
      (pattern : ∀ v, entries.lookup "pattern" = some v →
        ∃ source p, v = .text source ∧ Pattern.ofSource source = .ok p)
      (format : ∀ name, entries.lookup "format" = some name →
        name.hashable = .ok () ∧ ∃ f ∈ formats.formats, f.1.looseEq name = true) :
      GrammaticalAs formats entries .string
  | number {entries : List (String × Value)} (plain : entries.lookup "enum" = none) :
      GrammaticalAs formats entries .number
  | integer {entries : List (String × Value)} (plain : entries.lookup "enum" = none) :
      GrammaticalAs formats entries .integer
  | object {entries : List (String × Value)}
      (bare : ∀ v, entries.lookup "properties" = some v → v.truthy = false) :
      GrammaticalAs formats entries .object
  | struct {entries properties : List (String × Value)}
      (given : entries.lookup "properties" = some (.object properties))
      (parts : ∀ property ∈ properties, Grammatical formats property.2)
      (needed : ∀ v, entries.lookup "required" = some v → v.truthy = true →
        ∃ names, v.elements? = some names ∧ ∀ name ∈ names, name.hashable = .ok ()) :
      GrammaticalAs formats entries .object
  | array {entries : List (String × Value)} (bare : entries.lookup "items" = none) :
      GrammaticalAs formats entries .array
  | list {entries item : List (String × Value)}
      (given : entries.lookup "items" = some (.object item))
      (part : Grammatical formats (.object item)) : GrammaticalAs formats entries .array
  | tuple {entries : List (String × Value)} {items : List Value}
      (given : entries.lookup "items" = some (.list items))
      (parts : ∀ s ∈ items, Grammatical formats s) : GrammaticalAs formats entries .array

end

namespace Node

variable {formats : Registry} {n : Node}

theorem exists_readLeaf {keyword : String} {make : Value → Except Error Predicate} :
    (∃ ps, n.readLeaf keyword make = .ok ps) ↔
      ∀ v, n.get? keyword = some v → ∃ p, make v = .ok p := by
  simp only [readLeaf_ok]
  cases n.get? keyword with
  | none => simp
  | some v => simp

theorem find?_exists {name : Value} : (∃ handle, formats.find? name = some handle) ↔
    ∃ f ∈ formats.formats, f.1.looseEq name = true := by
  unfold Registry.find?
  rw [← Option.isSome_iff_exists, Option.isSome_map, List.find?_isSome]

theorem exists_textLeaves : (∃ ps, n.textLeaves formats = .ok ps) ↔
    (∀ v, n.get? "pattern" = some v → ∃ source p, v = .text source ∧
      Pattern.ofSource source = .ok p) ∧
    ∀ name, n.get? "format" = some name →
      name.hashable = .ok () ∧ ∃ f ∈ formats.formats, f.1.looseEq name = true := by
  have patterns : (∃ ps, n.readLeaf "pattern" n.pattern = .ok ps) ↔ ∀ v, n.get? "pattern" = some v →
      ∃ source p, v = .text source ∧ Pattern.ofSource source = .ok p := by
    simp only [exists_readLeaf, pattern_ok]
    constructor
    · intro h v hv
      obtain ⟨_, source, p, eq, read, _⟩ := h v hv
      exact ⟨source, p, eq, read⟩
    · intro h v hv
      obtain ⟨source, p, eq, read⟩ := h v hv
      exact ⟨.pattern p, source, p, eq, read, rfl⟩
  have names : (∃ ps, n.readLeaf "format" (format formats) = .ok ps) ↔
      ∀ name, n.get? "format" = some name →
        name.hashable = .ok () ∧ ∃ f ∈ formats.formats, f.1.looseEq name = true := by
    simp only [exists_readLeaf, format_ok, ← find?_exists]
    constructor
    · intro h name given
      obtain ⟨_, hashed, handle, found, _⟩ := h name given
      exact ⟨hashed, handle, found⟩
    · intro h name given
      obtain ⟨hashed, handle, found⟩ := h name given
      exact ⟨_, hashed, handle, found, rfl⟩
  rw [← patterns, ← names]
  simp only [textLeaves_ok]
  constructor
  · intro h
    obtain ⟨_, ps, qs, hp, hq, _⟩ := h
    exact ⟨⟨ps, hp⟩, qs, hq⟩
  · intro h
    obtain ⟨⟨ps, hp⟩, qs, hq⟩ := h
    exact ⟨_, ps, qs, hp, hq, rfl⟩

theorem exists_pairs {values : Value} : (∃ members, n.Pairs values members) ↔
    ∃ items, values.elements? = some items ∧ ∀ names, n.get? "enumNames" = some names →
      ∃ labels, names.elements? = some labels ∧ labels.length = items.length := by
  unfold Pairs
  constructor
  · intro h
    obtain ⟨_, items, labels, hi, same, _, hl⟩ := h
    refine ⟨items, hi, fun names given => ⟨labels, ?_, same.symm⟩⟩
    rw [given] at hl
    exact hl
  · intro h
    obtain ⟨items, hi, hl⟩ := h
    cases given : n.get? "enumNames" with
    | none => exact ⟨_, items, items, hi, rfl, rfl, rfl⟩
    | some names =>
      obtain ⟨labels, hn, same⟩ := hl names given
      exact ⟨_, items, labels, hi, same.symm, rfl, hn⟩

theorem exists_required : (∃ names, n.required = .ok names) ↔
    ∀ v, n.get? "required" = some v → v.truthy = true →
      ∃ names, v.elements? = some names ∧ ∀ name ∈ names, name.hashable = .ok () := by
  simp only [required_ok]
  constructor
  · intro h v given truth
    obtain ⟨names, ⟨falsy, _⟩ | ⟨_, given', _, hn, hh⟩⟩ := h
    · rw [falsy v given] at truth
      cases truth
    · cases given.symm.trans given'
      exact ⟨names, hn, hh⟩
  · intro h
    by_cases falsy : ∀ v, n.get? "required" = some v → v.truthy = false
    · exact ⟨[], .inl ⟨falsy, rfl⟩⟩
    · simp only [not_forall, Bool.not_eq_false] at falsy
      obtain ⟨v, given, truth⟩ := falsy
      obtain ⟨names, hn, hh⟩ := h v given truth
      exact ⟨names, .inr ⟨v, given, truth, hn, hh⟩⟩

theorem exists_kindYields {entries : List (String × Value)}
    (parts : ∀ s, Part entries s → ((∃ t, Compiles formats s t) ↔ Grammatical formats s))
    {kind : Kind} :
    (∃ t, (ofEntries formats entries).KindYields formats (Compiles formats) kind t) ↔
      GrammaticalAs formats entries kind := by
  constructor
  · intro h
    obtain ⟨t, y⟩ := h
    cases y with
    | null => exact .null
    | boolean => exact .boolean
    | enumeration kinds given pairs =>
      obtain ⟨items, members, labelled⟩ := exists_pairs.1 ⟨_, pairs⟩
      refine .enumeration ?_ given members labelled
      cases kind <;> simp [Kind.enumerable] at kinds ⊢
    | string plain leaves =>
      obtain ⟨pattern, format⟩ := exists_textLeaves.1 ⟨_, leaves⟩
      exact .string plain pattern format
    | number plain => exact .number plain
    | integer plain => exact .integer plain
    | object bare => exact .object bare
    | struct given _ needed each =>
      refine .struct given (fun property hp => ?_) (exists_required.1 ⟨_, needed⟩)
      obtain ⟨f, _, part⟩ := forall₂_exists.1 ⟨_, each⟩ property hp
      exact (parts _ (.property given hp)).1 ⟨f.2, part⟩
    | array items =>
      cases items with
      | absent bare => exact .array bare
      | each given part => exact .list given ((parts _ (.item given)).1 ⟨_, part⟩)
      | positions given each =>
        refine .tuple given fun s hs => (parts _ (.position given hs)).1 ?_
        exact forall₂_exists.1 ⟨_, each⟩ s hs
  · intro g
    cases g with
    | null => exact ⟨_, .null⟩
    | boolean => exact ⟨_, .boolean⟩
    | enumeration kinds given members labelled =>
      obtain ⟨_, pairs⟩ := (exists_pairs (n := ofEntries formats entries)).2 ⟨_, members, labelled⟩
      refine ⟨_, .enumeration ?_ given pairs⟩
      cases kind <;> first | rfl | simp at kinds
    | string plain pattern format =>
      obtain ⟨_, leaves⟩ := (exists_textLeaves (n := ofEntries formats entries)).2 ⟨pattern, format⟩
      exact ⟨_, .string plain leaves⟩
    | number plain => exact ⟨_, .number plain⟩
    | integer plain => exact ⟨_, .integer plain⟩
    | object bare => exact ⟨_, .object bare⟩
    | @struct _ properties given each needed =>
      -- An object of no properties is falsy: its `required` is not even read.
      by_cases inhabited : properties = []
      · refine ⟨_, .object fun v given' => ?_⟩
        cases given.symm.trans given'
        rw [inhabited]
        rfl
      · obtain ⟨names, needed⟩ := (exists_required (n := ofEntries formats entries)).2 needed
        have fields : ∀ p ∈ properties, ∃ f : String × Descriptor,
            f.1 = p.1 ∧ Compiles formats p.2 f.2 := by
          intro p hp
          obtain ⟨t, part⟩ := (parts _ (.property given hp)).2 (each p hp)
          exact ⟨(p.1, t), rfl, part⟩
        obtain ⟨types, fields⟩ := forall₂_exists.2 fields
        exact ⟨_, .struct given inhabited needed fields⟩
    | array bare => exact ⟨_, .array (.absent bare)⟩
    | list given part =>
      obtain ⟨t, part⟩ := (parts _ (.item given)).2 part
      exact ⟨_, .array (.each given part)⟩
    | tuple given each =>
      obtain ⟨ts, each⟩ := forall₂_exists.2 fun s hs => (parts _ (.position given hs)).2 (each s hs)
      exact ⟨_, .array (.positions given each)⟩

end Node

/-- Compilation accepts the schemas of the grammar and no others. -/
theorem compiles_iff_grammatical (formats : Registry) (s : Value) :
    (∃ t, (compile formats s).outcome = .ok t) ↔ Grammatical formats s := by
  induction s using schema_induct with
  | other v none =>
    constructor
    · intro h
      obtain ⟨t, ht⟩ := h
      obtain ⟨entries, eq⟩ := object_of_compiles ht
      exact absurd eq (none entries)
    · intro g
      cases g <;> exact absurd rfl (none _)
  | node entries parts =>
    have kinds : ∀ kind, _ ↔ GrammaticalAs formats entries kind := fun kind =>
      Node.exists_kindYields parts
    constructor
    · intro h
      obtain ⟨t, ht⟩ := h
      cases compiles_object.1 ht with
      | untyped given => exact .untyped given
      | single given part => exact .single given ((kinds _).1 ⟨t, part⟩)
      | several inhabited given each =>
        refine .several inhabited given fun kind hk => (kinds kind).1 ?_
        exact forall₂_exists.1 ⟨_, each⟩ kind hk
    · intro g
      cases g with
      | untyped given => exact ⟨_, compiles_object.2 (.untyped given)⟩
      | single given node =>
        obtain ⟨t, part⟩ := (kinds _).2 node
        exact ⟨t, compiles_object.2 (.single given part)⟩
      | several inhabited given node =>
        obtain ⟨ts, each⟩ := forall₂_exists.2 fun kind hk => (kinds kind).2 (node kind hk)
        exact ⟨_, compiles_object.2 (.several inhabited given each)⟩

end Conform
