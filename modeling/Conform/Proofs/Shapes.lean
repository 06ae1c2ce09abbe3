import Conform.Proofs.Agreement
import Conform.Proofs.Regular

namespace Conform

namespace Predicate

def isBoth : Predicate → Bool
  | .both _ _ => true
  | _ => false

/-- No right part of a conjunction is a conjunction itself. -/
def LeftNested : Predicate → Prop
  | .both left right => left.LeftNested ∧ right.isBoth = false
  | _ => True

/-- The words for the single constraints, in the order in which they are tested. -/
def words (p : Predicate) : List String :=
  p.leaves.map word

/-- Some of these constraints one after the other, in this order and none of them twice. -/
structure Chain (allowed : List String) (p : Predicate) : Prop where
  leftNested : p.LeftNested
  inhabited : p.words ≠ []
  distinct : p.words.Nodup
  ordered : p.words.Sublist allowed

/-- The same of constraints that have yet to be joined. -/
structure Listed (allowed : List String) (ps : List Predicate) : Prop where
  single : ∀ p ∈ ps, p.isBoth = false
  ordered : (ps.map word).Sublist allowed

theorem Listed.append {as bs : List String} {ps qs : List Predicate} (hp : Listed as ps)
    (hq : Listed bs qs) : Listed (as ++ bs) (ps ++ qs) where
  single := List.forall_mem_append.2 ⟨hp.single, hq.single⟩
  ordered := by
    rw [List.map_append]
    exact hp.ordered.append hq.ordered

theorem listed_singleton {p : Predicate} (single : p.isBoth = false) : Listed [p.word] [p] :=
  ⟨by simpa using single, .refl _⟩

theorem listed_nil (allowed : List String) : Listed allowed [] :=
  ⟨nofun, List.nil_sublist _⟩

theorem leaves_of_single {p : Predicate} (single : p.isBoth = false) : p.leaves = [p] := by
  cases p <;> first | rfl | cases single

theorem leftNested_of_single {p : Predicate} (single : p.isBoth = false) : p.LeftNested := by
  cases p <;> trivial

/-- Gathering nests to the left and keeps the order. -/
theorem leaves_gather {q : Predicate} {ps : List Predicate} (nested : q.LeftNested)
    (single : ∀ p ∈ ps, p.isBoth = false) :
    ∃ p, gather (some q) ps = some p ∧ p.LeftNested ∧ p.leaves = q.leaves ++ ps := by
  -- What has been gathered becomes the left part of each conjunction, so it changes on the way.
  induction ps generalizing q with
  | nil => exact ⟨q, rfl, nested, (List.append_nil _).symm⟩
  | cons first rest ih =>
    obtain ⟨here, later⟩ := List.forall_mem_cons.1 single
    obtain ⟨p, gathered, nested', eq⟩ := ih (q := .both q first) ⟨nested, here⟩ later
    refine ⟨p, gathered, nested', ?_⟩
    rw [eq, leaves, leaves_of_single here, List.append_assoc, List.singleton_append]

end Predicate

namespace Descriptor

/-- Without constraints the base stands alone; otherwise they are chained behind it. -/
theorem constrained_cases (base : Descriptor) {ps : List Predicate} {allowed : List String}
    (listed : Predicate.Listed allowed ps) (distinct : allowed.Nodup) :
    base.constrained ps = base ∨ ∃ p, base.constrained ps = .refined base p ∧ p.Chain allowed := by
  cases ps with
  | nil => exact .inl rfl
  | cons first rest =>
    right
    obtain ⟨here, later⟩ := List.forall_mem_cons.1 listed.single
    obtain ⟨p, gathered, nested, eq⟩ :=
      Predicate.leaves_gather (Predicate.leftNested_of_single here) later
    rw [Predicate.leaves_of_single here, List.singleton_append] at eq
    have words : p.words = (first :: rest).map Predicate.word := by rw [Predicate.words, eq]
    refine ⟨p, ?_, nested, ?_, ?_, ?_⟩
    · show base.refine (Predicate.gather (some first) rest) = _
      rw [gathered]
      rfl
    · rw [words]
      exact List.cons_ne_nil _ _
    · rw [words]
      exact distinct.sublist listed.ordered
    · rw [words]
      exact listed.ordered

/-- The types that a type is made of. -/
def parts : Descriptor → List Descriptor
  | .refined base _ => [base]
  | .maybe type => [type]
  | .struct fields _ => fields.map Prod.snd
  | .list element => [element]
  | .tuple elements => elements
  | .union branches => branches
  | _ => []

/-- A type occurs in itself and wherever its parts do. -/
inductive Occurs (d : Descriptor) : Descriptor → Prop where
  | here : Occurs d d
  | inside {t u : Descriptor} (part : u ∈ t.parts) (occurs : Occurs d u) : Occurs d t

/-- The constraints that each base is refined by. -/
inductive Refines : Descriptor → Predicate → Prop where
  | text {p : Predicate} (chain : p.Chain ["minLength", "maxLength", "pattern", "format"]) :
      Refines (.primitive .string) p
  | number {p : Predicate} {lower upper : String} (below : lower ∈ ["gt", "gte"])
      (above : upper ∈ ["lt", "lte"]) (chain : p.Chain [lower, upper, "integer"]) :
      Refines (.primitive .number) p
  | integer {p : Predicate} {lower upper : String} (below : lower ∈ ["gt", "gte"])
      (above : upper ∈ ["lt", "lte"]) (chain : p.Chain [lower, upper]) :
      Refines (.primitive .integer) p
  | array {base : Descriptor} {p : Predicate}
      (items : base = .primitive .array ∨ (∃ t, base = .list t) ∨ ∃ ts, base = .tuple ts)
      (chain : p.Chain ["minLength", "maxLength", "uniqueItems"]) : Refines base p

def isBoolean : Descriptor → Bool
  | .primitive .boolean => true
  | _ => false

/-- What a node of a union can be: a type of one kind. -/
def OfKind (t : Descriptor) : Prop :=
  t ≠ .any ∧ t.isMaybe = false ∧ ∀ ts, t ≠ .union ts

end Descriptor

/-- A struct made from a node: its fields are the properties, and the required ones among them are
those that the node lists and those that are plain booleans. -/
structure MadeFrom (formats : Registry) (entries : List (String × Value))
    (fields : List (String × Descriptor)) (name : Value) : Prop where
  object : .object ∈ Node.kindsOf entries
  made : ((Node.ofEntries formats entries).asKind formats .object).outcome =
    .ok (.struct fields name)
  keys : ∃ properties, entries.lookup "properties" = some (.object properties) ∧
    Entries.keys fields = Entries.keys properties
  required : Descriptor.required fields =
    Entries.keys (fields.filter fun f => Schema.names entries f.1 || f.2.isBoolean)
  optional : Descriptor.optional fields =
    Entries.keys (fields.filter fun f => !(Schema.names entries f.1 || f.2.isBoolean))

open Descriptor in
/-- The types that come up when a schema is compiled, by their outermost form. -/
inductive Shaped (formats : Registry) (s : Value) : Descriptor → Prop where
  | any : Shaped formats s .any
  | primitive (kind : Kind) : Shaped formats s (.primitive kind)
  | enumeration (members : List (Value × Value)) : Shaped formats s (.enumeration members)
  | refined {base : Descriptor} {p : Predicate} (constraints : Refines base p) :
      Shaped formats s (.refined base p)
  | maybe {t : Descriptor} (once : t.isMaybe = false) (open' : t ≠ .primitive .boolean) :
      Shaped formats s (.maybe t)
  | struct {entries : List (String × Value)} {fields : List (String × Descriptor)} {name : Value}
      (inhabited : fields ≠ []) (node : Contains s (.object entries))
      (origin : MadeFrom formats entries fields name) : Shaped formats s (.struct fields name)
  | list {t : Descriptor} (given : t.isMaybe = false) : Shaped formats s (.list t)
  | tuple {ts : List Descriptor} (given : ∀ t ∈ ts, t.isMaybe = false) :
      Shaped formats s (.tuple ts)
  | union {ts : List Descriptor} (inhabited : ts ≠ []) (branches : ∀ t ∈ ts, OfKind t) :
      Shaped formats s (.union ts)

namespace Shaped

variable {formats : Registry} {s s' : Value} {d : Descriptor}

/-- A struct from a node below is one from a node above. -/
theorem mono (h : Shaped formats s' d) (below : Contains s s') : Shaped formats s d := by
  cases h with
  | any => exact .any
  | primitive kind => exact .primitive kind
  | enumeration members => exact .enumeration members
  | refined constraints => exact .refined constraints
  | maybe once open' => exact .maybe once open'
  | struct inhabited node origin => exact .struct inhabited (below.trans node) origin
  | list given => exact .list given
  | tuple given => exact .tuple given
  | union inhabited branches => exact .union inhabited branches

/-- Optional types stand nowhere but in fields. -/
theorem struct_of_maybe (h : Shaped formats s d) {u : Descriptor} (part : u ∈ d.parts)
    (optional : u.isMaybe = true) : ∃ fields name, d = .struct fields name := by
  have absurd : u.isMaybe = false → ∃ fields name, d = .struct fields name := by
    intro given
    cases optional.symm.trans given
  cases h with
  | any | primitive | enumeration => cases part
  | struct => exact ⟨_, _, rfl⟩
  | refined constraints =>
    rw [List.mem_singleton.1 part] at optional
    cases constraints with
    | array items =>
      rcases items with rfl | ⟨t, rfl⟩ | ⟨ts, rfl⟩ <;> cases optional
    | _ => cases optional
  | maybe once => exact absurd (List.mem_singleton.1 part ▸ once)
  | list given => exact absurd (List.mem_singleton.1 part ▸ given)
  | tuple given => exact absurd (given u part)
  | union _ branches => exact absurd (branches u part).2.1

end Shaped

/-- Everything that occurs in a type has its shape. -/
def WhollyShaped (formats : Registry) (s : Value) (t : Descriptor) : Prop :=
  ∀ d : Descriptor, d.Occurs t → Shaped formats s d

namespace WhollyShaped

variable {formats : Registry} {s : Value} {t : Descriptor}

theorem of_parts (h : Shaped formats s t) (parts : ∀ u ∈ t.parts, WhollyShaped formats s u) :
    WhollyShaped formats s t := by
  intro d occurs
  cases occurs with
  | here => exact h
  | inside part occurs => exact parts _ part d occurs

/-- What a part of a node compiles to has its shapes within the node. -/
theorem of_used {entries : List (String × Value)} (h : WhollyShaped formats s t)
    (used : UsedPart entries s) : WhollyShaped formats (.object entries) t :=
  fun d occurs => (h d occurs).mono (.single (.part used))

theorem primitive (kind : Kind) : WhollyShaped formats s (.primitive kind) :=
  of_parts (.primitive kind) nofun

theorem constrained {ps : List Predicate} {allowed : List String} (h : WhollyShaped formats s t)
    (listed : Predicate.Listed allowed ps) (distinct : allowed.Nodup)
    (constraints : ∀ p : Predicate, p.Chain allowed → Descriptor.Refines t p) :
    WhollyShaped formats s (t.constrained ps) := by
  rcases t.constrained_cases listed distinct with eq | ⟨p, eq, chain⟩
  · rw [eq]
    exact h
  · rw [eq]
    exact of_parts (.refined (constraints p chain)) (List.forall_mem_singleton.2 h)

end WhollyShaped

namespace Node

open Predicate Descriptor

section

variable {n : Node} {formats : Registry}

theorem listed_leaf {keyword word : String} {make : Value → Predicate}
    (single : ∀ v, (make v).isBoth = false) (same : ∀ v, (make v).word = word) :
    Listed [word] (n.leaf keyword make) := by
  unfold leaf
  cases n.get? keyword with
  | none => exact listed_nil _
  | some v =>
    rw [← same v]
    exact listed_singleton (single v)

theorem listed_readLeaf {keyword word : String} {make : Value → Except Error Predicate}
    {ps : List Predicate} (read : n.readLeaf keyword make = .ok ps)
    (made : ∀ v p, make v = .ok p → p.isBoth = false ∧ p.word = word) : Listed [word] ps := by
  rcases readLeaf_ok.1 read with ⟨_, rfl⟩ | ⟨v, p, _, eq, rfl⟩
  · exact listed_nil _
  · obtain ⟨single, same⟩ := made v p eq
    rw [← same]
    exact listed_singleton single

theorem listed_flagged {keyword : String} {p : Predicate} (single : p.isBoth = false) :
    Listed [p.word] (n.flagged keyword p) := by
  unfold flagged
  split
  · exact listed_singleton single
  · exact listed_nil _

theorem listed_textLeaves {ps : List Predicate} (leaves : n.textLeaves formats = .ok ps) :
    Listed ["minLength", "maxLength", "pattern", "format"] ps := by
  obtain ⟨patterns, names, hp, hn, rfl⟩ := textLeaves_ok.1 leaves
  have least : Listed ["minLength"] (n.leaf "minLength" .minLength) :=
    listed_leaf (fun _ => rfl) fun _ => rfl
  have most : Listed ["maxLength"] (n.leaf "maxLength" .maxLength) :=
    listed_leaf (fun _ => rfl) fun _ => rfl
  have searched : Listed ["pattern"] patterns := by
    refine listed_readLeaf hp fun v p made => ?_
    obtain ⟨_, q, _, _, rfl⟩ := pattern_ok.1 made
    exact ⟨rfl, rfl⟩
  have named : Listed ["format"] names := by
    refine listed_readLeaf hn fun v p made => ?_
    obtain ⟨_, handle, _, rfl⟩ := format_ok.1 made
    exact ⟨rfl, rfl⟩
  exact ((least.append most).append searched).append named

theorem listed_boundLeaves (n : Node) : ∃ lower ∈ ["gt", "gte"], ∃ upper ∈ ["lt", "lte"],
    Listed [lower, upper] n.boundLeaves := by
  let below : Relation := if n.isSet "exclusiveMinimum" then .greater else .atLeast
  let above : Relation := if n.isSet "exclusiveMaximum" then .less else .atMost
  have lower : below.word ∈ ["gt", "gte"] := by
    dsimp only [below]
    split <;> simp [Relation.word]
  have upper : above.word ∈ ["lt", "lte"] := by
    dsimp only [above]
    split <;> simp [Relation.word]
  have least : Listed [below.word] (n.leaf "minimum" (.bound below)) :=
    listed_leaf (fun _ => rfl) fun _ => rfl
  have most : Listed [above.word] (n.leaf "maximum" (.bound above)) :=
    listed_leaf (fun _ => rfl) fun _ => rfl
  exact ⟨below.word, lower, above.word, upper, least.append most⟩

theorem listed_countLeaves (n : Node) :
    Listed ["minLength", "maxLength", "uniqueItems"] n.countLeaves := by
  have least : Listed ["minLength"] (n.leaf "minItems" .minLength) :=
    listed_leaf (fun _ => rfl) fun _ => rfl
  have most : Listed ["maxLength"] (n.leaf "maxItems" .maxLength) :=
    listed_leaf (fun _ => rfl) fun _ => rfl
  exact (least.append most).append (listed_flagged (p := .distinct) rfl)

theorem ofKind_of_yields {P : Value → Descriptor → Prop} {kind : Kind} {t : Descriptor}
    (yields : n.KindYields formats P kind t) : t.OfKind := by
  have refined : ∀ {base : Descriptor} {ps : List Predicate},
      base.OfKind → (base.constrained ps).OfKind := fun plain =>
    constrained_elim plain fun p => ⟨nofun, rfl, nofun⟩
  cases yields with
  | string | number | integer => exact refined ⟨nofun, rfl, nofun⟩
  | array items =>
    apply refined
    cases items <;> exact ⟨nofun, rfl, nofun⟩
  | _ => exact ⟨nofun, rfl, nofun⟩

/-- A field is optional unless its key is listed or its type is the plain boolean. -/
theorem isMaybe_field (names : List Value) (key : String) {t : Descriptor}
    (whole : t.isMaybe = false) : (field names key t).2.isMaybe =
      !(names.any (·.looseEq (.text key)) || (field names key t).2.isBoolean) := by
  unfold field
  split
  · simp [isMaybe, isBoolean]
  · dsimp only
    split
    · rename_i listed
      rw [whole, listed]
      rfl
    · rename_i unlisted
      rw [Bool.eq_false_iff.2 unlisted]
      rfl

end

section

variable {formats : Registry} {entries : List (String × Value)}

/-- The fields that are made of the properties, where the listed ones are `names`. -/
theorem madeFrom_of_yields {properties : List (String × Value)}
    {types : List (String × Descriptor)} {names : List Value}
    (named : .object ∈ kindsOf entries)
    (given : entries.lookup "properties" = some (.object properties)) (inhabited : properties ≠ [])
    (needed : (ofEntries formats entries).required = .ok names)
    (each : List.Forall₂ (fun p f => f.1 = p.1 ∧ Compiles formats p.2 f.2) properties types) :
    MadeFrom formats entries (types.map fun f => field names f.1 f.2)
      ((entries.lookup "description").getD .null) := by
  have optional : ∀ f ∈ types.map fun f => field names f.1 f.2,
      f.2.isMaybe = !(Schema.names entries f.1 || f.2.isBoolean) := by
    intro f hf
    obtain ⟨g, hg, rfl⟩ := List.mem_map.1 hf
    obtain ⟨p, _, _, compiled⟩ := exists_of_mem_forall₂ each hg
    rw [isMaybe_field names g.1 (Schema.isMaybe_of_compiles compiled), key_field, Schema.names,
      Schema.required_eq needed]
    rfl
  refine ⟨named, ?_, ⟨properties, given, keys_fields _ each⟩, ?_, ?_⟩
  · exact asKind_ok.2 (.struct given inhabited needed each)
  · refine congrArg Entries.keys (List.filter_congr fun f hf => ?_)
    show (!f.2.isMaybe) = _
    rw [optional f hf, Bool.not_not]
  · exact congrArg Entries.keys (List.filter_congr fun f hf => optional f hf)

/-- A field holds what its property compiles to, or that as an optional type. -/
theorem whollyShaped_field {s : Value} {t : Descriptor} (names : List Value) (key : String)
    (whole : t.isMaybe = false) (h : WhollyShaped formats s t) :
    WhollyShaped formats s (field names key t).2 := by
  unfold field
  split
  · exact h
  · rename_i open'
    dsimp only
    split
    · exact h
    · exact .of_parts (.maybe whole open') (List.forall_mem_singleton.2 h)

theorem whollyShaped_itemsType {base : Descriptor} (named : .array ∈ kindsOf entries)
    (yields : (ofEntries formats entries).ItemsYield
      (fun s u => Compiles formats s u ∧ WhollyShaped formats s u) base) :
    WhollyShaped formats (.object entries) base ∧
      (base = .primitive .array ∨ (∃ t, base = .list t) ∨ ∃ ts, base = .tuple ts) := by
  cases yields with
  | absent => exact ⟨.primitive _, .inl rfl⟩
  | each given part =>
    have shaped := part.2.of_used (.item named given)
    exact ⟨.of_parts (.list (Schema.isMaybe_of_compiles part.1))
      (List.forall_mem_singleton.2 shaped), .inr (.inl ⟨_, rfl⟩)⟩
  | @positions _ ts given parts =>
    have each : ∀ t ∈ ts, t.isMaybe = false ∧ WhollyShaped formats (.object entries) t := by
      intro t ht
      obtain ⟨s, hs, compiled, shaped⟩ := exists_of_mem_forall₂ parts ht
      exact ⟨Schema.isMaybe_of_compiles compiled, shaped.of_used (.position named given hs)⟩
    exact ⟨.of_parts (.tuple fun t ht => (each t ht).1) fun t ht => (each t ht).2,
      .inr (.inr ⟨_, rfl⟩)⟩

theorem whollyShaped_asKind {kind : Kind} {t : Descriptor} (named : kind ∈ kindsOf entries)
    (yields : (ofEntries formats entries).KindYields formats
      (fun s u => Compiles formats s u ∧ WhollyShaped formats s u) kind t) :
    WhollyShaped formats (.object entries) t := by
  cases yields with
  | null | boolean | object => exact .primitive _
  | enumeration => exact .of_parts (.enumeration _) nofun
  | string _ leaves =>
    exact (WhollyShaped.primitive _).constrained (listed_textLeaves leaves) (by decide) fun _ => .text
  | number =>
    obtain ⟨lower, below, upper, above, listed⟩ := listed_boundLeaves (ofEntries formats entries)
    have whole : Listed ["integer"] ((ofEntries formats entries).flagged "integer" .whole) :=
      listed_flagged (p := .whole) rfl
    refine (WhollyShaped.primitive _).constrained (listed.append whole) ?_ fun _ =>
      .number below above
    -- Flags choose the words for the bounds, and no choice has a word twice.
    simp only [List.mem_cons, List.not_mem_nil, or_false] at below above
    rcases below with rfl | rfl <;> rcases above with rfl | rfl <;> decide
  | integer =>
    obtain ⟨lower, below, upper, above, listed⟩ := listed_boundLeaves (ofEntries formats entries)
    refine (WhollyShaped.primitive _).constrained listed ?_ fun _ => .integer below above
    simp only [List.mem_cons, List.not_mem_nil, or_false] at below above
    rcases below with rfl | rfl <;> rcases above with rfl | rfl <;> decide
  | @struct properties types names given inhabited needed each =>
    have origin : MadeFrom formats entries (types.map fun f => field names f.1 f.2) _ :=
      madeFrom_of_yields named given inhabited needed
        (each.imp fun _ _ part => ⟨part.1, part.2.1⟩)
    have inhabited : types.map (fun f => field names f.1 f.2) ≠ [] := by
      intro none
      rw [List.map_eq_nil_iff.1 none, List.forall₂_nil_right_iff] at each
      exact inhabited each
    refine .of_parts (.struct inhabited .refl origin) fun u hu => ?_
    obtain ⟨f, hf, rfl⟩ := List.mem_map.1 hu
    obtain ⟨g, hg, rfl⟩ := List.mem_map.1 hf
    obtain ⟨p, hp, _, compiled, shaped⟩ := exists_of_mem_forall₂ each hg
    exact whollyShaped_field names g.1 (Schema.isMaybe_of_compiles compiled)
      (shaped.of_used (.property named given hp))
  | array items =>
    obtain ⟨shaped, ofItems⟩ := whollyShaped_itemsType named items
    exact shaped.constrained (listed_countLeaves _) (by decide) fun _ => .array ofItems

theorem whollyShaped_node {t : Descriptor} (yields : (ofEntries formats entries).Yields formats
      (fun s u => Compiles formats s u ∧ WhollyShaped formats s u) t) :
    WhollyShaped formats (.object entries) t := by
  cases yields with
  | untyped => exact .of_parts .any nofun
  | single given part =>
    rw [ofEntries_get?] at given
    exact whollyShaped_asKind (by simp [kindsOf_single given]) part
  | several inhabited given each =>
    rw [ofEntries_get?] at given
    refine .of_parts (.union ?_ fun t ht => ?_) fun t ht => ?_
    · rintro rfl
      exact inhabited (List.forall₂_nil_right_iff.1 each)
    · obtain ⟨kind, _, part⟩ := exists_of_mem_forall₂ each ht
      exact ofKind_of_yields part
    · obtain ⟨kind, listed, part⟩ := exists_of_mem_forall₂ each ht
      exact whollyShaped_asKind (by rwa [kindsOf_several given]) part

end

end Node

theorem whollyShaped_of_compiles {formats : Registry} {s : Value} {t : Descriptor}
    (h : Compiles formats s t) : WhollyShaped formats s t :=
  compiles_induct (fun _ _ => Node.whollyShaped_node) h

/-- What occurs in the type of a schema has one of the shapes, and an optional type is the type of a
field and nothing else. -/
theorem shaped_of_compiles {formats : Registry} {s : Value} {t : Descriptor}
    (h : (compile formats s).outcome = .ok t) : t.isMaybe = false ∧
      ∀ d : Descriptor, d.Occurs t → Shaped formats s d ∧
        ∀ u ∈ d.parts, u.isMaybe = true → ∃ fields name, d = .struct fields name := by
  refine ⟨Schema.isMaybe_of_compiles h, fun d occurs => ?_⟩
  have shaped := whollyShaped_of_compiles h d occurs
  exact ⟨shaped, fun u part optional => shaped.struct_of_maybe part optional⟩

/-- The items of a list, with a field that is named, one that is not, and a boolean. -/
theorem shaped_of_compiles_listed_struct :
    let item : Value := .object [("type", .text "object"), ("required", .list [.text "id"]),
      ("properties", .object [("note", .object [("type", .text "string")]),
        ("done", .object [("type", .text "boolean")]),
        ("id", .object [("type", .text "integer"), ("minimum", .int 1)])])]
    let s : Value := .object [("type", .list [.text "null", .text "array"]), ("items", item),
      ("minItems", .int 1), ("uniqueItems", .bool true)]
    let d : Descriptor := .struct [("note", .maybe (.primitive .string)),
      ("done", .primitive .boolean),
      ("id", .refined (.primitive .integer) (.bound .atLeast (.int 1)))] .null
    let t : Descriptor := .union [.primitive .null,
      .refined (.list d) (.both (.minLength (.int 1)) .distinct)]
    (compile .empty s).outcome = .ok t ∧ d.Occurs t ∧ Shaped .empty s d := by
  intro item s d t
  have compiled : (compile .empty s).outcome = .ok t := rfl
  have occurs : d.Occurs t :=
    .inside (List.mem_cons_of_mem _ (List.mem_singleton_self _))
      (.inside (List.mem_singleton_self _) (.inside (List.mem_singleton_self _) .here))
  exact ⟨compiled, occurs, ((shaped_of_compiles compiled).2 d occurs).1⟩

end Conform
