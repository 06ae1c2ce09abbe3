import Conform.Proofs.Covering

namespace Conform

namespace Schema

/-- What may change at a node: the values of three keywords, and the order of the properties. -/
structure Alteration where
  type : Option Value → Option Value → Prop
  enum : Option Value → Option Value → Prop
  required : Option Value → Option Value → Prop
  properties : List (String × Value) → List (String × Value) → Prop

/-- The keywords that alterations bear on. -/
def alterable : List String :=
  ["type", "enum", "required", "properties", "items"]

mutual

/-- The one schema is the other, altered at some of its nodes. -/
inductive Altered (A : Alteration) : Value → Value → Prop where
  | same (s : Value) : Altered A s s
  | node {entries entries' : List (String × Value)}
      (type : A.type (entries.lookup "type") (entries'.lookup "type"))
      (enum : A.enum (entries.lookup "enum") (entries'.lookup "enum"))
      (required : A.required (entries.lookup "required") (entries'.lookup "required"))
      (properties : PropertiesAltered A (entries.lookup "properties")
        (entries'.lookup "properties"))
      (items : ItemsAltered A (entries.lookup "items") (entries'.lookup "items"))
      (rest : ∀ keyword, keyword ∉ alterable → entries'.lookup keyword = entries.lookup keyword) :
      Altered A (.object entries) (.object entries')

inductive PropertiesAltered (A : Alteration) : Option Value → Option Value → Prop where
  | same (given : Option Value) : PropertiesAltered A given given
  | each {properties arranged properties' : List (String × Value)}
      (order : A.properties properties arranged)
      (keys : Entries.keys arranged = Entries.keys properties')
      (below : List.Forall₂ (fun p p' => Altered A p.2 p'.2) arranged properties') :
      PropertiesAltered A (some (.object properties)) (some (.object properties'))

inductive ItemsAltered (A : Alteration) : Option Value → Option Value → Prop where
  | same (given : Option Value) : ItemsAltered A given given
  | single {item item' : List (String × Value)} (below : Altered A (.object item) (.object item')) :
      ItemsAltered A (some (.object item)) (some (.object item'))
  | positions {schemas schemas' : List Value}
      (below : List.Forall₂ (Altered A) schemas schemas') :
      ItemsAltered A (some (.list schemas)) (some (.list schemas'))

end

/-- Nothing has changed, unless a list has become one that stands in the relation to it. -/
def Relisted (R : List Value → List Value → Prop) (given given' : Option Value) : Prop :=
  given' = given ∨ ∃ xs ys, given = some (.list xs) ∧ given' = some (.list ys) ∧ R xs ys

/-- Nothing has changed, unless a kind has become a list of that kind. -/
def Bracketed (given given' : Option Value) : Prop :=
  given' = given ∨
    ∃ kind : Kind, given = some (.text kind.name) ∧ given' = some (.list [.text kind.name])

/-- The same kinds are named, be it in another order or in brackets. -/
def Retyped (given given' : Option Value) : Prop :=
  Bracketed given given' ∨ Relisted List.Perm given given'

/-- The same names, in any order and any number of times. -/
def SameNames (xs ys : List Value) : Prop :=
  xs ⊆ ys ∧ ys ⊆ xs

/-- Alterations that leave it at order, repetition and brackets. -/
structure Alteration.Mild (A : Alteration) : Prop where
  type {given given' : Option Value} : A.type given given' → Retyped given given'
  enum {given given' : Option Value} : A.enum given given' → Relisted List.Perm given given'
  required {given given' : Option Value} : A.required given given' →
    Relisted SameNames given given'
  properties {ps ps' : List (String × Value)} : A.properties ps ps' → ps.Perm ps'
  unmoved (ps : List (String × Value)) : A.properties ps ps

section

variable {A : Alteration} {given given' : Option Value}

theorem Altered.eq_of_other {s s' : Value} (h : Altered A s s')
    (other : ∀ entries, s ≠ .object entries) : s' = s := by
  cases h with
  | same => rfl
  | node => exact absurd rfl (other _)

theorem PropertiesAltered.cases (unmoved : ∀ ps, A.properties ps ps)
    (h : PropertiesAltered A given given') :
    (given' = given ∧ ∀ properties, given ≠ some (.object properties)) ∨
      ∃ properties arranged properties', given = some (.object properties) ∧
        given' = some (.object properties') ∧ A.properties properties arranged ∧
        List.Forall₂ (fun p p' => p.1 = p'.1 ∧ Altered A p.2 p'.2) arranged properties' := by
  cases h with
  | same =>
    by_cases object : ∃ properties, given = some (.object properties)
    · obtain ⟨properties, rfl⟩ := object
      refine .inr ⟨properties, properties, properties, rfl, rfl, unmoved _, ?_⟩
      exact List.forall₂_same.2 fun p _ => ⟨rfl, .same _⟩
    · exact .inl ⟨rfl, not_exists.1 object⟩
  | each order keys below =>
    exact .inr ⟨_, _, _, rfl, rfl, order, Entries.forall₂_of_keys_eq keys below⟩

theorem ItemsAltered.cases (h : ItemsAltered A given given') :
    (given' = given ∧ (∀ item, given ≠ some (.object item)) ∧
        ∀ schemas, given ≠ some (.list schemas)) ∨
      (∃ item item', given = some (.object item) ∧ given' = some (.object item') ∧
        Altered A (.object item) (.object item')) ∨
      ∃ schemas schemas', given = some (.list schemas) ∧ given' = some (.list schemas') ∧
        List.Forall₂ (Altered A) schemas schemas' := by
  cases h with
  | same =>
    rcases given with _ | _ | _ | _ | _ | _ | items | _ | item
    case some.list =>
      exact .inr (.inr ⟨items, items, rfl, rfl, List.forall₂_same.2 fun s _ => .same s⟩)
    case some.object => exact .inr (.inl ⟨item, item, rfl, rfl, .same _⟩)
    all_goals exact .inl ⟨rfl, nofun, nofun⟩
  | single below => exact .inr (.inl ⟨_, _, rfl, rfl, below⟩)
  | positions below => exact .inr (.inr ⟨_, _, rfl, rfl, below⟩)

end

theorem kindsOf_bracketed {entries entries' : List (String × Value)}
    (type : Bracketed (entries.lookup "type") (entries'.lookup "type")) :
    Node.kindsOf entries' = Node.kindsOf entries := by
  rcases type with same | ⟨kind, given, given'⟩
  · rw [Node.kindsOf, same, Node.kindsOf]
  · have several : entries'.lookup "type" = some (.list ([kind].map fun kind => .text kind.name)) :=
      given'
    rw [Node.kindsOf_single given, Node.kindsOf_several several]

/-- What mild alterations leave of a node, its parts aside. -/
structure Alike (entries entries' : List (String × Value)) : Prop where
  type : Retyped (entries.lookup "type") (entries'.lookup "type")
  enum : Relisted List.Perm (entries.lookup "enum") (entries'.lookup "enum")
  required : Relisted SameNames (entries.lookup "required") (entries'.lookup "required")
  rest : ∀ keyword, keyword ∉ alterable → entries'.lookup keyword = entries.lookup keyword

namespace Alike

variable {entries entries' : List (String × Value)}

theorem untyped_iff (h : Alike entries entries') :
    entries.lookup "type" = none ↔ entries'.lookup "type" = none := by
  rcases h.type with (same | ⟨_, given, given'⟩) | same | ⟨_, _, given, given', _⟩
  · rw [same]
  · simp [given, given']
  · rw [same]
  · simp [given, given']

theorem kindsOf_perm (h : Alike entries entries') :
    (Node.kindsOf entries).Perm (Node.kindsOf entries') := by
  rcases h.type with bracketed | same | ⟨_, _, given, given', order⟩
  · rw [kindsOf_bracketed bracketed]
  · rw [Node.kindsOf, ← same, Node.kindsOf]
  · simp only [Node.kindsOf, given, given']
    exact order.filterMap _

theorem mem_required (h : Alike entries entries') {name : Value} :
    name ∈ Schema.required entries' ↔ name ∈ Schema.required entries := by
  have listed : ∀ {entries : List (String × Value)} {names},
      entries.lookup "required" = some (.list names) → Schema.required entries = names := by
    intro entries names given
    rw [Schema.required, given]
    cases names <;> rfl
  rcases h.required with same | ⟨names, names', given, given', fewer, more⟩
  · rw [Schema.required, same, ← Schema.required]
  · rw [listed given, listed given']
    exact ⟨fun hm => more hm, fun hm => fewer hm⟩

theorem names_eq (h : Alike entries entries') (key : String) :
    names entries' key = names entries key := by
  rw [Bool.eq_iff_iff, names_iff, names_iff, h.mem_required]

theorem orMember_eq (h : Alike entries entries') (v : Value) (otherwise : Check Bool) :
    orMember entries' v otherwise = orMember entries v otherwise := by
  unfold orMember
  rcases h.enum with same | ⟨values, values', given, given', order⟩
  · rw [same]
  · have members : isMember (.list values') v = isMember (.list values) v := by
      rw [Bool.eq_iff_iff]
      simp only [isMember, Value.elements?, Option.getD_some, List.any_eq_true, order.mem_iff]
    simp only [given, given', members]

theorem whenGiven_eq (h : Alike entries entries') (keyword : String) (kept : keyword ∉ alterable)
    (test : Test) : whenGiven entries' keyword test = whenGiven entries keyword test := by
  rw [whenGiven, h.rest keyword kept, whenGiven]

theorem isSet_eq (h : Alike entries entries') (keyword : String) (kept : keyword ∉ alterable) :
    isSet entries' keyword = isSet entries keyword := by
  rw [isSet, h.rest keyword kept, isSet]

theorem whenSet_eq (h : Alike entries entries') (keyword : String) (kept : keyword ∉ alterable)
    (test : Check Bool) : whenSet entries' keyword test = whenSet entries keyword test := by
  rw [whenSet, h.isSet_eq keyword kept, whenSet]

theorem counts_eq (h : Alike entries entries') (least most : String) (kl : least ∉ alterable)
    (km : most ∉ alterable) (v : Value) :
    counts entries' least most v = counts entries least most v := by
  rw [counts, h.whenGiven_eq least kl, h.whenGiven_eq most km, counts]

theorem bounds_eq (h : Alike entries entries') (v : Value) :
    bounds entries' v = bounds entries v := by
  have kept : ∀ keyword, keyword ∈ ["minimum", "exclusiveMinimum", "maximum", "exclusiveMaximum"] →
      keyword ∉ alterable := by decide
  rw [bounds, h.whenGiven_eq _ (kept _ (by simp)), h.whenGiven_eq _ (kept _ (by simp)),
    h.isSet_eq _ (kept _ (by simp)), h.isSet_eq _ (kept _ (by simp)), bounds]

/-- A kind without parts asks for what it asked for. -/
theorem asKind_eq (h : Alike entries entries') (formats : Registry) (host : Host)
    (parts parts' : Parts) (v : Value) {kind : Kind} (simple : kind ≠ .object ∧ kind ≠ .array) :
    asKind entries' formats host parts' v kind = asKind entries formats host parts v kind := by
  cases kind with
  | null | boolean => rfl
  | string =>
    rw [asKind, h.orMember_eq, h.counts_eq _ _ (by decide) (by decide),
      h.whenGiven_eq _ (by decide), h.whenGiven_eq _ (by decide), asKind]
  | number => rw [asKind, h.orMember_eq, h.bounds_eq, h.whenSet_eq _ (by decide), asKind]
  | integer => rw [asKind, h.orMember_eq, h.bounds_eq, asKind]
  | object => exact absurd rfl simple.1
  | array => exact absurd rfl simple.2

theorem array_eq (h : Alike entries entries') (parts : Parts) (v : Value) :
    array entries' parts v = array entries parts v := by
  unfold array
  rw [h.counts_eq _ _ (by decide) (by decide)]
  simp only [h.whenSet_eq "uniqueItems" (by decide)]

/-- What needed no value needs none afterwards. A boolean may even stop to need one, when it is put
in brackets. -/
theorem isMandatory_of (h : Alike entries entries') {key : String} {s s' : Value}
    (type : Retyped (s.get? "type") (s'.get? "type"))
    (mandatory : isMandatory entries' key s' = true) : isMandatory entries key s = true := by
  rcases Bool.or_eq_true_iff.1 mandatory with named | boolean
  · exact Bool.or_eq_true_iff.2 (.inl ((h.names_eq key).symm.trans named))
  · refine Bool.or_eq_true_iff.2 (.inr ?_)
    rcases type with (same | ⟨_, _, given'⟩) | same | ⟨_, _, _, given', _⟩
    · rwa [← same]
    · simp [given', Kind.named?] at boolean
    · rwa [← same]
    · simp [given', Kind.named?] at boolean

end Alike

variable {A : Alteration} {formats : Registry}

theorem Altered.retyped (mild : A.Mild) {s s' : Value} (h : Altered A s s') :
    Retyped (s.get? "type") (s'.get? "type") := by
  cases h with
  | same => exact .inl (.inl rfl)
  | node type => exact mild.type type

section

variable {entries entries' : List (String × Value)} {host : Host}
  (below : ∀ s, Part entries s → ∀ s', Altered A s s' → ∀ v,
    Covers (validate formats host s v) (validate formats host s' v))

include below

theorem covers_alteredObject (mild : A.Mild) (alike : Alike entries entries')
    (properties : PropertiesAltered A (entries.lookup "properties") (entries'.lookup "properties"))
    (v : Value) :
    Covers (object entries (parts formats host entries) v)
      (object entries' (parts formats host entries') v) := by
  refine covers_object (fun properties' given' => ?_) v
  rcases properties.cases mild.unmoved with
    ⟨same, other⟩ | ⟨ps, arranged, ps', given, found, order, each⟩
  · exact absurd (same.symm.trans given') (other properties')
  · cases found.symm.trans given'
    refine ⟨ps, given, fun p' hp' => ?_⟩
    obtain ⟨⟨key, s⟩, hp, same, altered⟩ := exists_of_mem_forall₂ each hp'
    have mem : (key, s) ∈ ps := (mild.properties order).mem_iff.2 hp
    obtain rfl : key = p'.1 := same
    have type := altered.retyped mild
    exact ⟨s, mem, alike.isMandatory_of type, below s (.property given mem) p'.2 altered⟩

theorem covers_alteredItems
    (altered : ItemsAltered A (entries.lookup "items") (entries'.lookup "items"))
    (given : List Value) :
    Covers (items (parts formats host entries) given)
      (items (parts formats host entries') given) := by
  rcases altered.cases with ⟨same, item, list⟩ | ⟨item, item', found, found', part⟩ |
    ⟨schemas, schemas', found, found', each⟩
  · refine covers_items (fun _ found' => ?_) (fun _ found' => ?_) given
    · exact absurd (same.symm.trans found') (item _)
    · exact absurd (same.symm.trans found') (list _)
  · refine covers_items (fun _ given' => ?_) (fun _ given' => ?_) given
    · cases found'.symm.trans given'
      exact ⟨item, found, below _ (.item found) _ part⟩
    · cases found'.symm.trans given'
  · refine covers_items (fun _ given' => ?_) (fun _ given' => ?_) given
    · cases found'.symm.trans given'
    · cases found'.symm.trans given'
      refine ⟨schemas, found, forall₂_of_mem each fun s hs s' _ part => ?_⟩
      exact below s (.position found hs) s' part

theorem covers_alteredArray (alike : Alike entries entries')
    (altered : ItemsAltered A (entries.lookup "items") (entries'.lookup "items")) (v : Value) :
    Covers (array entries (parts formats host entries) v)
      (array entries' (parts formats host entries') v) := by
  rw [alike.array_eq]
  unfold array
  split
  · rename_i given _
    have rest := CoversEach.refl (counts entries "minItems" "maxItems" v ++
      whenSet entries "uniqueItems"
        (pure (decide (given.Pairwise fun x y => x.documentEq y = false))))
    exact (rest.cons (covers_alteredItems below altered given)).inOrder
  · exact .refl _

end

/-- A schema that accepts a value does not refuse it once it is altered. -/
theorem covers_altered (mild : A.Mild) {host : Host} {s s' : Value} (altered : Altered A s s')
    (v : Value) : Covers (validate formats host s v) (validate formats host s' v) := by
  induction s using schema_induct generalizing s' v with
  | other s other =>
    rw [altered.eq_of_other other]
    exact .refl _
  | node entries ih =>
    cases altered with
    | same => exact .refl _
    | @node _ entries' type enum required properties items rest =>
      have alike : Alike entries entries' :=
        ⟨mild.type type, mild.enum enum, mild.required required, rest⟩
      have below : ∀ s, Part entries s → ∀ s', Altered A s s' → ∀ v,
          Covers (validate formats host s v) (validate formats host s' v) :=
        fun s part s' altered v => ih s part altered v
      -- Only objects and arrays look into parts; to the other kinds both nodes say the same.
      refine covers_node alike.untyped_iff fun kind named => ⟨alike.kindsOf_perm.subset named, ?_⟩
      cases kind with
      | object => exact covers_alteredObject below mild alike properties v
      | array => exact covers_alteredArray below alike items v
      | _ =>
        rw [alike.asKind_eq formats host _ _ v (by simp)]
        exact .refl _

end Schema

end Conform
