import Conform.Proofs.Acceptance
import Conform.Proofs.Agreement

namespace Conform

namespace Schema

/-- Kinds are put in brackets, and nothing else happens. -/
def bracketing : Alteration where
  type := Bracketed
  enum given given' := given' = given
  required given given' := given' = given
  properties ps ps' := ps' = ps

theorem bracketing_mild : bracketing.Mild where
  type := .inl
  enum := .inl
  required := .inl
  properties := fun same => .of_eq same.symm
  unmoved := fun _ => rfl

theorem Altered.bracket (kind : Kind) : Altered bracketing (.object [("type", .text kind.name)])
    (.object [("type", .list [.text kind.name])]) := by
  refine .node (.inr ⟨kind, rfl, rfl⟩) rfl rfl (.same _) (.same _) fun keyword kept => ?_
  simp only [alterable, List.mem_cons, not_or] at kept
  simp [List.lookup_cons, beq_false_of_ne kept.1]

/-- Parts in the same place of two nodes, under their key if they are properties. Kinds of the first
node make use of them. -/
inductive Abreast (entries entries' : List (String × Value)) :
    Option String → Value → Value → Prop where
  | property {properties properties' : List (String × Value)} {key : String} {s s' : Value}
      (kind : .object ∈ Node.kindsOf entries)
      (given : entries.lookup "properties" = some (.object properties))
      (given' : entries'.lookup "properties" = some (.object properties'))
      (mem : (key, s) ∈ properties) (mem' : (key, s') ∈ properties') :
      Abreast entries entries' (some key) s s'
  | item {item item' : List (String × Value)} (kind : .array ∈ Node.kindsOf entries)
      (given : entries.lookup "items" = some (.object item))
      (given' : entries'.lookup "items" = some (.object item')) :
      Abreast entries entries' none (.object item) (.object item')
  | position {schemas schemas' : List Value} {s s' : Value} (i : Nat)
      (kind : .array ∈ Node.kindsOf entries)
      (given : entries.lookup "items" = some (.list schemas))
      (given' : entries'.lookup "items" = some (.list schemas'))
      (here : schemas[i]? = some s) (here' : schemas'[i]? = some s') :
      Abreast entries entries' none s s'

/-- Properties that are plain booleans stay so, unless their node names them as required. -/
inductive BooleansKept : Value → Value → Prop where
  | other {s s' : Value} (none : ∀ entries, s ≠ .object entries) : BooleansKept s s'
  | node {entries entries' : List (String × Value)}
      (booleans : ∀ key s s', Abreast entries entries' (some key) s s' →
        names entries key = false → s.get? "type" = some (.text Kind.boolean.name) →
        s'.get? "type" = s.get? "type")
      (parts : ∀ key s s', Abreast entries entries' key s s' → BooleansKept s s') :
      BooleansKept (.object entries) (.object entries')

theorem Abreast.part {entries entries' : List (String × Value)} {key : Option String} {s s' : Value}
    (h : Abreast entries entries' key s s') : Part entries s := by
  cases h with
  | property _ given _ mem => exact .property given mem
  | item _ given => exact .item given
  | position i _ given _ here => exact .position given (List.mem_of_getElem? here)

theorem Altered.bracketed {s s' : Value} (h : Altered bracketing s s') :
    Bracketed (s.get? "type") (s'.get? "type") := by
  cases h with
  | same => exact .inl rfl
  | node type => exact type

section

variable {formats : Registry} {host : Host} {entries entries' : List (String × Value)}

theorem isMandatory_eq (alike : Alike entries entries') {key : String} {s s' : Value}
    (type : Bracketed (s.get? "type") (s'.get? "type"))
    (kept : names entries key = false → s.get? "type" = some (.text Kind.boolean.name) →
      s'.get? "type" = s.get? "type") :
    isMandatory entries' key s' = isMandatory entries key s := by
  show (names entries' key || _) = (names entries key || _)
  rw [alike.names_eq]
  cases named : names entries key with
  | true => rfl
  | false =>
    rcases type with same | ⟨kind, given, given'⟩
    · rw [same]
    · by_cases boolean : kind = .boolean
      · subst boolean
        rw [kept named given]
      · have plain : Kind.named? (.text kind.name) = some kind := Kind.named?_eq_some.2 rfl
        have listed : Kind.named? (.list [.text kind.name]) = none := rfl
        simp [given, given', plain, listed, boolean]

variable (below : ∀ key s s', Abreast entries entries' key s s' → Altered bracketing s s' → ∀ v,
  validate formats host s' v = validate formats host s v)

include below

theorem bracketed_object (alike : Alike entries entries') (kind : .object ∈ Node.kindsOf entries)
    (properties : PropertiesAltered bracketing (entries.lookup "properties")
      (entries'.lookup "properties"))
    (booleans : ∀ key s s', Abreast entries entries' (some key) s s' →
      names entries key = false → s.get? "type" = some (.text Kind.boolean.name) →
      s'.get? "type" = s.get? "type") (v : Value) :
    object entries' (parts formats host entries') v =
      object entries (parts formats host entries) v := by
  cases v with
  | object given =>
    rw [object, object, parts_properties, parts_properties]
    rcases properties.cases bracketing_mild.unmoved with
      ⟨same, other⟩ | ⟨ps, _, ps', found, found', rfl, each⟩
    · rw [same]
      split
      · rename_i properties found
        exact absurd found (other properties)
      · rfl
    · simp only [found, found', fieldTests_eq_map, Traced.all_map]
      refine Traced.all_eq_of_forall₂ (List.Forall₂.flip ?_)
      refine forall₂_of_mem each fun p mem p' mem' h => ?_
      obtain ⟨key, s⟩ := p
      obtain ⟨key', s'⟩ := p'
      obtain ⟨same, altered⟩ := h
      obtain rfl : key = key' := same
      have abreast : Abreast entries entries' (some key) s s' :=
        .property kind found found' mem mem'
      have mandatory := isMandatory_eq alike altered.bracketed (booleans key s s' abreast)
      have test : validate formats host s' = validate formats host s :=
        funext (below _ s s' abreast altered)
      show property entries' given (key, s', _) = property entries given (key, s, _)
      simp only [property, mandatory, test]
  | _ => rfl

theorem bracketed_items (kind : .array ∈ Node.kindsOf entries)
    (altered : ItemsAltered bracketing (entries.lookup "items") (entries'.lookup "items"))
    (given : List Value) : items (parts formats host entries') given =
      items (parts formats host entries) given := by
  rw [items, items, parts_items, parts_items]
  rcases altered.cases with
    ⟨same, _⟩ | ⟨item, item', found, found', part⟩ | ⟨schemas, schemas', found, found', each⟩
  · simp only [same]
  · have test : validate formats host (.object item') = validate formats host (.object item) :=
      funext (below _ _ _ (.item kind found found') part)
    simp only [found, found', test]
  · have tests : schemas'.map (validate formats host) = schemas.map (validate formats host) := by
      rw [← List.forall₂_eq_eq_eq, List.forall₂_map_left_iff, List.forall₂_map_right_iff]
      refine List.Forall₂.flip (forall₂_of_getElem? each fun i s s' here here' part => ?_)
      exact funext (below _ _ _ (.position i kind found found' here here') part)
    simp only [found, found', positionTests_eq_map, tests]

end

/-- With plain booleans kept, a schema in brackets demands what it demanded without. -/
theorem validate_bracketed {formats : Registry} {host : Host} {s s' : Value}
    (altered : Altered bracketing s s') (kept : BooleansKept s s') (v : Value) :
    validate formats host s' v = validate formats host s v := by
  induction s using schema_induct generalizing s' v with
  | other s other => rw [altered.eq_of_other other]
  | node entries ih =>
    cases altered with
    | same => rfl
    | @node _ entries' type enum required properties items rest =>
      cases kept with
      | other none => exact absurd rfl (none entries)
      | node booleans kept =>
        have alike : Alike entries entries' := ⟨.inl type, .inl enum, .inl required, rest⟩
        have below : ∀ key s s', Abreast entries entries' key s s' → Altered bracketing s s' →
            ∀ v, validate formats host s' v = validate formats host s v :=
          fun key s s' abreast altered v => ih s abreast.part altered (kept key s s' abreast) v
        rw [validate_object, validate_object, kindsOf_bracketed type,
          if_congr alike.untyped_iff.symm rfl rfl]
        congr 1
        refine Traced.any_eq_of_forall₂ (List.forall₂_same.2 fun kind hk => ?_)
        cases kind with
        | object => exact bracketed_object below alike hk properties booleans v
        | array =>
          have each := bracketed_items below hk items
          show array entries' _ v = array entries _ v
          rw [alike.array_eq, array, array]
          simp only [each]
        | _ => exact alike.asKind_eq formats host _ _ v (by simp)

end Schema

/-- Brackets around kinds leave a schema acceptable and refuse nothing that was accepted; if plain
booleans that need a value are left alone, nothing changes at all. -/
theorem check_of_bracketed {formats : Registry} {s s' : Value} {t : Descriptor}
    (h : (compile formats s).outcome = .ok t) (altered : Schema.Altered Schema.bracketing s s') :
    ∃ t', (compile formats s').outcome = .ok t' ∧
      (∀ host v, (t.check host v).outcome = .ok true → (t'.check host v).outcome ≠ .ok false) ∧
      (Schema.BooleansKept s s' → ∀ host v, t'.check host v = t.check host v) := by
  have mild := Schema.bracketing_mild
  obtain ⟨t', h'⟩ := Schema.compiles_altered mild altered ⟨t, h⟩
  have before := (Schema.agrees_of_compiles h).2
  have after := (Schema.agrees_of_compiles h').2
  refine ⟨t', h', fun host v accepted => ?_, fun kept host v => ?_⟩
  · rw [before] at accepted
    rw [after]
    exact Schema.covers_altered mild altered v accepted
  · rw [before, after, Schema.validate_bracketed altered kept]

/-- A boolean that must be there and a number that need not be, both in brackets. -/
theorem check_of_bracketed_required :
    let node := fun (kind on n : Value) => Value.object [("type", kind),
      ("required", .list [.text "on"]),
      ("properties", .object [("on", .object [("type", on)]), ("n", .object [("type", n)])])]
    let s := node (.text "object") (.text "boolean") (.text "number")
    let s' := node (.list [.text "object"]) (.list [.text "boolean"]) (.list [.text "number"])
    let t : Descriptor :=
      .struct [("on", .primitive .boolean), ("n", .maybe (.primitive .number))] .null
    let host : Host := fun _ _ => .ok .null
    let v : Value := .object [("n", .int 1)]
    (compile .empty s).outcome = .ok t ∧ Schema.Altered Schema.bracketing s s' ∧
      Schema.BooleansKept s s' ∧
      ∃ t', (compile .empty s').outcome = .ok t' ∧ t'.check host v = t.check host v ∧
        t.check host v = pure false := by
  intro node s s' t host v
  have compiled : (compile .empty s).outcome = .ok t := rfl
  have altered : Schema.Altered Schema.bracketing s s' := by
    refine .node (.inr ⟨.object, rfl, rfl⟩) rfl rfl (.each rfl rfl (.cons
      (Schema.Altered.bracket .boolean) (.cons (Schema.Altered.bracket .number) .nil))) (.same _) ?_
    intro keyword kept
    simp only [Schema.alterable, List.mem_cons, not_or] at kept
    simp [List.lookup_cons, beq_false_of_ne kept.1, beq_false_of_ne kept.2.2.2.1]
  have leaf : ∀ k k', Schema.BooleansKept (.object [("type", k)]) (.object [("type", k')]) := by
    intro k k'
    have none : ∀ key s s', ¬Schema.Abreast [("type", k)] [("type", k')] key s s' := by
      intro key s s' abreast
      cases abreast with
      | property _ given | item _ given | position _ _ given => cases given
    exact .node (fun _ _ _ abreast => absurd abreast (none _ _ _))
      fun _ _ _ abreast => absurd abreast (none _ _ _)
  have kept : Schema.BooleansKept s s' := by
    refine .node (fun key p p' abreast named boolean => ?_) fun key p p' abreast => ?_
    · cases abreast with
      | property _ given _ mem =>
        cases given
        simp only [List.mem_cons, Prod.mk.injEq, List.not_mem_nil, or_false] at mem
        obtain ⟨rfl, rfl⟩ | ⟨rfl, rfl⟩ := mem
        · exact absurd named (by decide)
        · exact absurd boolean (by simp [Value.get?, Kind.name])
    · cases abreast with
      | property _ given given' mem mem' =>
        cases given
        cases given'
        simp only [List.mem_cons, Prod.mk.injEq, List.not_mem_nil, or_false] at mem mem'
        obtain ⟨_, rfl⟩ | ⟨_, rfl⟩ := mem <;> obtain ⟨_, rfl⟩ | ⟨_, rfl⟩ := mem' <;> exact leaf _ _
      | item _ given | position _ _ given => cases given
  obtain ⟨t', compiled', _, same⟩ := check_of_bracketed compiled altered
  exact ⟨compiled, altered, kept, t', compiled', same kept host v, rfl⟩

/-- A boolean that is not named needs a value all the same, until it is put in brackets. -/
theorem bracketed_boolean_optional :
    let node := fun on : Value => Value.object [("type", .text "object"),
      ("properties", .object [("on", .object [("type", on)])])]
    let s := node (.text "boolean")
    let s' := node (.list [.text "boolean"])
    let host : Host := fun _ _ => .ok .null
    let v : Value := .object []
    Schema.Altered Schema.bracketing s s' ∧
      ∃ t t', (compile .empty s).outcome = .ok t ∧ (compile .empty s').outcome = .ok t' ∧
        (t.check host v).outcome = .ok false ∧ (t'.check host v).outcome = .ok true := by
  intro node s s' host v
  refine ⟨?_, .struct [("on", .primitive .boolean)] .null,
    .struct [("on", .maybe (.union [.primitive .boolean]))] .null, rfl, rfl, rfl, rfl⟩
  refine .node (.inl rfl) rfl rfl
    (.each rfl rfl (.cons (Schema.Altered.bracket .boolean) .nil)) (.same _) ?_
  intro keyword kept
  simp only [Schema.alterable, List.mem_cons, not_or] at kept
  simp [List.lookup_cons, beq_false_of_ne kept.1, beq_false_of_ne kept.2.2.2.1]

end Conform
