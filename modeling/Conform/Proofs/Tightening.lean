import Conform.Proofs.Agreement
import Conform.Proofs.Covering

namespace Conform

namespace Schema

/-- What a keyword is to a schema that asks for more. -/
inductive Role where
  | limit
  | flag
  | required
  | properties
  | items
  | other

def role : String → Role
  | "minLength" | "maxLength" | "pattern" | "format" => .limit
  | "minimum" | "maximum" | "minItems" | "maxItems" => .limit
  | "exclusiveMinimum" | "exclusiveMaximum" | "integer" | "uniqueItems" => .flag
  | "required" => .required
  | "properties" => .properties
  | "items" => .items
  | _ => .other

mutual

/-- A single change to a schema: at one keyword of one node, everything else being kept. -/
inductive Tightens : Value → Value → Prop where
  | node {entries entries' : List (String × Value)} (keyword : String)
      (change : Change (role keyword) (entries.lookup keyword) (entries'.lookup keyword))
      (rest : ∀ other, other ≠ keyword → entries'.lookup other = entries.lookup other) :
      Tightens (.object entries) (.object entries')

/-- A change to what is found under a keyword. -/
inductive Change : Role → Option Value → Option Value → Prop where
  | limit (v : Value) : Change .limit none (some v)
  | flag {given : Option Value} {v : Value} (unset : given.any Value.truthy = false)
      (set : v.truthy = true) : Change .flag given (some v)
  | required {names names' : List Value} (more : names ⊆ names') :
      Change .required (some (.list names)) (some (.list names'))
  | firstProperty {given : Option Value} {key : String} {s : Value}
      (vacant : given.any Value.truthy = false) :
      Change .properties given (some (.object [(key, s)]))
  | newProperty (before after : List (String × Value)) {key : String} {s : Value}
      (fresh : key ∉ Entries.keys (before ++ after)) :
      Change .properties (some (.object (before ++ after)))
        (some (.object (before ++ (key, s) :: after)))
  | property (before after : List (String × Value)) {key : String} {s s' : Value}
      (below : Tightens s s') :
      Change .properties (some (.object (before ++ (key, s) :: after)))
        (some (.object (before ++ (key, s') :: after)))
  | newItems (v : Value) : Change .items none (some v)
  | item {s s' : Value} (below : Tightens s s') : Change .items (some s) (some s')
  | position (before after : List Value) {s s' : Value} (below : Tightens s s') :
      Change .items (some (.list (before ++ s :: after))) (some (.list (before ++ s' :: after)))

end

/-- Any number of changes, one after the other. -/
abbrev Tightened : Value → Value → Prop :=
  Relation.ReflTransGen Tightens

/-- The names that the value of `required` comes to. -/
def listed : Option Value → List Value
  | some names => if names.truthy then names.elements?.getD [] else []
  | none => []

/-- What any number of changes come to under a keyword. -/
def Admits : Role → Option Value → Option Value → Prop
  | .limit, given, given' => ∀ v, given = some v → given' = some v
  | .flag, given, given' => given.any Value.truthy = true → given'.any Value.truthy = true
  | .required, given, given' => listed given ⊆ listed given'
  | .properties, given, given' => ∀ properties, given = some (.object properties) →
      ∃ properties', given' = some (.object properties') ∧
        ∀ p ∈ properties, ∃ s', (p.1, s') ∈ properties' ∧ Tightened p.2 s'
  | .items, given, given' =>
      (∀ item, given = some (.object item) →
        ∃ item', given' = some (.object item') ∧ Tightened (.object item) (.object item')) ∧
      ∀ items, given = some (.list items) →
        ∃ items', given' = some (.list items') ∧ List.Forall₂ Tightened items items'
  | .other, given, given' => given' = given

theorem listed_list (names : List Value) : listed (some (.list names)) = names := by
  cases names <;> rfl

namespace Admits

variable {role : Role} {given given' given'' : Option Value}

theorem refl (role : Role) (given : Option Value) : Admits role given given := by
  cases role with
  | limit => exact fun _ h => h
  | flag => exact id
  | required => exact List.Subset.refl _
  | properties => exact fun properties h => ⟨properties, h, fun p hp => ⟨p.2, hp, .refl⟩⟩
  | items =>
    refine ⟨fun item h => ⟨item, h, .refl⟩, fun items h => ⟨items, h, ?_⟩⟩
    exact List.forall₂_same.2 fun _ _ => .refl
  | other => rfl

theorem trans (h : Admits role given given') (h' : Admits role given' given'') :
    Admits role given given'' := by
  cases role with
  | limit => exact fun v found => h' v (h v found)
  | flag => exact fun set => h' (h set)
  | required => exact List.Subset.trans h h'
  | properties =>
    intro properties found
    obtain ⟨properties', found', each⟩ := h properties found
    obtain ⟨properties'', found'', each'⟩ := h' properties' found'
    refine ⟨properties'', found'', fun p hp => ?_⟩
    obtain ⟨s', hs', below⟩ := each p hp
    obtain ⟨s'', hs'', below'⟩ := each' _ hs'
    exact ⟨s'', hs'', below.trans below'⟩
  | items =>
    refine ⟨fun item found => ?_, fun items found => ?_⟩
    · obtain ⟨item', found', below⟩ := h.1 item found
      obtain ⟨item'', found'', below'⟩ := h'.1 item' found'
      exact ⟨item'', found'', below.trans below'⟩
    · obtain ⟨items', found', each⟩ := h.2 items found
      obtain ⟨items'', found'', each'⟩ := h'.2 items' found'
      exact ⟨items'', found'', forall₂_comp (fun _ _ _ => .trans) each each'⟩
  | other => exact Eq.trans h' h

theorem of_change (h : Change role given given') : Admits role given given' := by
  cases h with
  | limit =>
    intro v found
    cases found
  | flag _ set => exact fun _ => set
  | required more =>
    show listed _ ⊆ listed _
    rwa [listed_list, listed_list]
  | firstProperty vacant =>
    rintro properties rfl
    refine ⟨_, rfl, fun p hp => ?_⟩
    have empty : properties = [] := by simpa [Value.truthy] using vacant
    rw [empty] at hp
    cases hp
  | newProperty =>
    rintro _ ⟨⟩
    refine ⟨_, rfl, fun p hp => ⟨p.2, ?_, .refl⟩⟩
    rw [List.mem_append] at hp ⊢
    exact hp.imp_right (List.mem_cons_of_mem _)
  | property _ _ below =>
    rintro _ ⟨⟩
    refine ⟨_, rfl, fun p hp => ?_⟩
    rcases List.mem_append.1 hp with earlier | hp
    · exact ⟨p.2, List.mem_append_left _ earlier, .refl⟩
    · rcases List.mem_cons.1 hp with rfl | later
      · exact ⟨_, List.mem_append_right _ List.mem_cons_self, .single below⟩
      · exact ⟨p.2, List.mem_append_right _ (List.mem_cons_of_mem _ later), .refl⟩
  | newItems =>
    constructor <;> intro _ found <;> cases found
  | item below =>
    cases below with
    | node keyword change rest =>
      constructor <;> intro _ found <;> cases found
      exact ⟨_, rfl, .single (.node keyword change rest)⟩
  | position _ _ below =>
    have same : ∀ items, List.Forall₂ Tightened items items :=
      fun _ => List.forall₂_same.2 fun _ _ => .refl
    constructor <;> intro _ found <;> cases found
    exact ⟨_, rfl, List.rel_append (same _) (.cons (.single below) (same _))⟩

end Admits

/-- The one node asks for at least what the other does, under every keyword. -/
def Stricter (entries entries' : List (String × Value)) : Prop :=
  ∀ keyword, Admits (role keyword) (entries.lookup keyword) (entries'.lookup keyword)

theorem stricter_of_change {entries entries' : List (String × Value)} {keyword : String}
    (change : Change (role keyword) (entries.lookup keyword) (entries'.lookup keyword))
    (rest : ∀ other, other ≠ keyword → entries'.lookup other = entries.lookup other) :
    Stricter entries entries' := by
  intro other
  by_cases here : other = keyword
  · subst here
    exact .of_change change
  · rw [rest other here]
    exact .refl _ _

/-- Changes lead from a node to a stricter one, and change nothing else. -/
theorem tightened_cases {s s' : Value} (changes : Tightened s s') :
    s' = s ∨ ∃ entries entries', s = .object entries ∧ s' = .object entries' ∧
      Stricter entries entries' := by
  induction changes with
  | refl => exact .inl rfl
  | tail _ last ih =>
    cases last with
    | @node entries entries' keyword change rest =>
      have step := stricter_of_change change rest
      rcases ih with rfl | ⟨first, middle, rfl, ⟨⟩, before⟩
      · exact .inr ⟨entries, entries', rfl, rfl, step⟩
      · exact .inr ⟨first, entries', rfl, rfl, fun keyword => (before keyword).trans (step keyword)⟩

end Schema

namespace Relation

/-- The relation that holds of equals as well. -/
def orEqual : Relation → Relation
  | .less => .atMost
  | .greater => .atLeast
  | relation => relation

end Relation

theorem Value.compare_orEqual {v limit : Value} {relation : Relation}
    (number : Kind.number.accepts v = true) (h : v.compare relation limit = .ok true) :
    v.compare relation.orEqual limit = .ok true := by
  rw [compare_number _ number] at h ⊢
  split at h
  · rw [Except.ok.injEq] at h ⊢
    cases relation with
    | less | greater => exact Bool.or_eq_true_iff.2 (.inl h)
    | atMost | atLeast => exact h
  · cases h

namespace Schema

section

variable {entries entries' : List (String × Value)} {formats : Registry} {host : Host} {v : Value}

theorem covers_whenGiven (keyword : String) (kind : role keyword = .limit)
    (stricter : Stricter entries entries') {test test' : Test}
    (covers : ∀ limit, Covers (test' limit) (test limit)) :
    CoversEach (whenGiven entries' keyword test') (whenGiven entries keyword test) := by
  intro y hy
  obtain ⟨limit, given, rfl⟩ := List.mem_map.1 hy
  have kept := stricter keyword
  rw [kind] at kept
  have given' := kept limit (Option.mem_toList.1 given)
  exact ⟨test' limit, List.mem_map.2 ⟨limit, Option.mem_toList.2 given', rfl⟩, covers limit⟩

theorem covers_whenSet (keyword : String) (kind : role keyword = .flag)
    (stricter : Stricter entries entries') (test : Check Bool) :
    CoversEach (whenSet entries' keyword test) (whenSet entries keyword test) := by
  have kept := stricter keyword
  rw [kind] at kept
  unfold whenSet
  cases set : isSet entries keyword with
  | false => exact .nil _
  | true =>
    rw [isSet, kept set]
    exact .refl _

theorem covers_counts (least most : String) (hl : role least = .limit) (hm : role most = .limit)
    (stricter : Stricter entries entries') (v : Value) :
    CoversEach (counts entries' least most v) (counts entries least most v) :=
  (covers_whenGiven least hl stricter fun _ => .refl _).append
    (covers_whenGiven most hm stricter fun _ => .refl _)

/-- A bound that comes to exclude its limit is met by nothing new. -/
theorem covers_limit (keyword exclusive : String) (relation : Relation)
    (kind : role keyword = .limit) (flag : role exclusive = .flag)
    (number : Kind.number.accepts v = true) (stricter : Stricter entries entries') :
    CoversEach
      (whenGiven entries' keyword fun limit => .lift (v.compare
        (if isSet entries' exclusive then relation else relation.orEqual) limit))
      (whenGiven entries keyword fun limit => .lift (v.compare
        (if isSet entries exclusive then relation else relation.orEqual) limit)) := by
  have kept := stricter exclusive
  rw [flag] at kept
  refine covers_whenGiven keyword kind stricter fun limit => ?_
  cases set : isSet entries exclusive with
  | true =>
    rw [isSet, kept set]
    exact .refl _
  | false =>
    -- If the flag has been set since, the limit itself is no longer met.
    cases isSet entries' exclusive with
    | false => exact .refl _
    | true =>
      intro accepted refused
      cases (Value.compare_orEqual number accepted).symm.trans refused

theorem covers_bounds (number : Kind.number.accepts v = true)
    (stricter : Stricter entries entries') : CoversEach (bounds entries' v) (bounds entries v) :=
  (covers_limit "minimum" "exclusiveMinimum" .greater rfl rfl number stricter).append
    (covers_limit "maximum" "exclusiveMaximum" .less rfl rfl number stricter)

theorem covers_ofKind {kind : Kind} {strict lax : List (Check Bool)}
    (covers : kind.accepts v = true → CoversEach strict lax) :
    Covers (ofKind kind v strict) (ofKind kind v lax) := by
  unfold ofKind
  split
  · rename_i accepted
    exact (covers accepted).inOrder
  · exact .refl _

theorem covers_orMember (stricter : Stricter entries entries') {strict lax : Check Bool}
    (covers : Covers strict lax) :
    Covers (orMember entries' v strict) (orMember entries v lax) := by
  have same : entries'.lookup "enum" = entries.lookup "enum" := stricter "enum"
  unfold orMember
  rw [same]
  split
  · exact .refl _
  · exact covers

/-- A property that needs a value goes on to need one. -/
theorem isMandatory_mono (key : String) {s s' : Value} (stricter : Stricter entries entries')
    (changes : Tightened s s') (mandatory : isMandatory entries key s = true) :
    isMandatory entries' key s' = true := by
  have more : required entries ⊆ required entries' := stricter "required"
  have same : s'.get? "type" = s.get? "type" := by
    rcases tightened_cases changes with rfl | ⟨e, e', rfl, rfl, below⟩
    · rfl
    · exact below "type"
  rcases Bool.or_eq_true_iff.1 mandatory with named | boolean
  · exact Bool.or_eq_true_iff.2 (.inl (names_iff.2 (more (names_iff.1 named))))
  · exact Bool.or_eq_true_iff.2 (.inr (by rw [same]; exact boolean))

/-- What is known of the parts of a node: changes to them leave them covered. -/
def PartsCovered (formats : Registry) (host : Host) (entries : List (String × Value)) : Prop :=
  ∀ s, Part entries s → ∀ s', Tightened s s' → ∀ v,
    Covers (validate formats host s' v) (validate formats host s v)

theorem covers_properties (stricter : Stricter entries entries')
    (below : PartsCovered formats host entries) (v : Value) :
    Covers (object entries' (parts formats host entries') v)
      (object entries (parts formats host entries) v) := by
  refine covers_object (fun properties found => ?_) v
  obtain ⟨properties', found', each⟩ := stricter "properties" properties found
  refine ⟨properties', found', fun p hp => ?_⟩
  obtain ⟨s', hs', changes⟩ := each p hp
  have mandatory := isMandatory_mono p.1 stricter changes
  exact ⟨s', hs', mandatory, below p.2 (.property found hp) s' changes⟩

theorem covers_eachItem (stricter : Stricter entries entries')
    (below : PartsCovered formats host entries) (given : List Value) :
    Covers (items (parts formats host entries') given)
      (items (parts formats host entries) given) := by
  obtain ⟨single, several⟩ := stricter "items"
  refine covers_items (fun item found => ?_) (fun schemas found => ?_) given
  · obtain ⟨item', found', changes⟩ := single item found
    exact ⟨item', found', below _ (.item found) _ changes⟩
  · obtain ⟨schemas', found', each⟩ := several schemas found
    have covered := forall₂_of_mem each fun s hs s' _ changes =>
      below s (.position found hs) s' changes
    exact ⟨schemas', found', covered.flip⟩

theorem covers_array (stricter : Stricter entries entries')
    (below : PartsCovered formats host entries) (v : Value) :
    Covers (array entries' (parts formats host entries') v)
      (array entries (parts formats host entries) v) := by
  unfold array
  split
  · rename_i given _
    have counted := covers_counts "minItems" "maxItems" rfl rfl stricter v
    have distinct := covers_whenSet "uniqueItems" rfl stricter
      (pure (decide (given.Pairwise fun x y => x.documentEq y = false)))
    exact ((counted.cons (covers_eachItem stricter below given)).append distinct).inOrder
  · exact .refl _

theorem covers_asKind (stricter : Stricter entries entries')
    (below : PartsCovered formats host entries) (v : Value) (kind : Kind) :
    Covers (asKind entries' formats host (parts formats host entries') v kind)
      (asKind entries formats host (parts formats host entries) v kind) := by
  cases kind with
  | null | boolean => exact .refl _
  | string =>
    refine covers_orMember stricter (covers_ofKind fun _ => ?_)
    have searched := covers_whenGiven "pattern" rfl stricter
      fun source => .refl (search source v)
    have called := covers_whenGiven "format" rfl stricter
      fun name => .refl (inFormat formats host v name)
    have counted := covers_counts "minLength" "maxLength" rfl rfl stricter v
    exact (counted.append searched).append called
  | number =>
    refine covers_orMember stricter (covers_ofKind fun number => ?_)
    exact (covers_bounds number stricter).append (covers_whenSet "integer" rfl stricter _)
  | integer =>
    refine covers_orMember stricter (covers_ofKind fun integer => ?_)
    exact covers_bounds (Kind.number_of_integer integer) stricter
  | object => exact covers_properties stricter below v
  | array => exact covers_array stricter below v

end

theorem covers_validate {formats : Registry} {host : Host} {s s' : Value}
    (changes : Tightened s s') (v : Value) :
    Covers (validate formats host s' v) (validate formats host s v) := by
  induction s using schema_induct generalizing s' v with
  | other s none =>
    rcases tightened_cases changes with rfl | ⟨entries, _, rfl, _⟩
    · exact .refl _
    · exact absurd rfl (none entries)
  | node entries ih =>
    rcases tightened_cases changes with rfl | ⟨_, entries', ⟨⟩, rfl, stricter⟩
    · exact .refl _
    · have below : PartsCovered formats host entries := fun s part s' changes => ih s part changes
      have same : entries'.lookup "type" = entries.lookup "type" := stricter "type"
      have kinds : Node.kindsOf entries' = Node.kindsOf entries := by
        rw [Node.kindsOf, same, Node.kindsOf]
      refine covers_node (by rw [same]) fun kind named => ⟨kinds ▸ named, ?_⟩
      exact covers_asKind stricter below v kind

end Schema

/-- What a schema accepts once it asks for more, it accepted before if its check gave an answer. -/
theorem accepts_of_tightened {formats : Registry} {s s' : Value} {t t' : Descriptor}
    (h : (compile formats s).outcome = .ok t) (h' : (compile formats s').outcome = .ok t')
    (changes : Schema.Tightened s s') {host : Host} {v : Value} {answer : Bool}
    (answered : (t.check host v).outcome = .ok answer)
    (accepted : (t'.check host v).outcome = .ok true) :
    (t.check host v).outcome = .ok true := by
  rw [(Schema.agrees_of_compiles h').2] at accepted
  cases answer with
  | true => exact answered
  | false =>
    rw [(Schema.agrees_of_compiles h).2] at answered
    exact absurd answered (Schema.covers_validate changes v accepted)

/-- A bound comes to exclude its limit, another property comes in, and the first one is listed. -/
theorem accepts_of_tightened_listed_bound :
    let number : List (String × Value) := [("type", .text "number"), ("minimum", .int 0)]
    let positive : List (String × Value) := number ++ [("exclusiveMinimum", .bool true)]
    let note : Value := .object [("type", .text "string")]
    let node := fun (names : List Value) (properties : List (String × Value)) =>
      Value.object [("type", .text "object"), ("required", .list names),
        ("properties", .object properties)]
    let s := node [] [("n", .object number)]
    let s' := node [.text "n"] [("n", .object positive), ("note", note)]
    let t : Descriptor := .struct
      [("n", .maybe (.refined (.primitive .number) (.bound .atLeast (.int 0))))] .null
    let t' : Descriptor := .struct [("n", .refined (.primitive .number) (.bound .greater (.int 0))),
      ("note", .maybe (.primitive .string))] .null
    let host : Host := fun _ _ => .ok .null
    let v : Value := .object [("n", .int 1)]
    (compile .empty s).outcome = .ok t ∧ (compile .empty s').outcome = .ok t' ∧
      Schema.Tightened s s' ∧ (t'.check host v).outcome = .ok true ∧
      (t.check host v).outcome = .ok true := by
  intro number positive note node s s' t t' host v
  have compiled : (compile .empty s).outcome = .ok t := rfl
  have compiled' : (compile .empty s').outcome = .ok t' := rfl
  have excluded : Schema.Tightens (.object number) (.object positive) := by
    refine .node "exclusiveMinimum" (.flag rfl rfl) fun other ne => ?_
    simp [positive, number, List.lookup_cons, beq_false_of_ne ne]
  have first : Schema.Tightens s (node [] [("n", .object positive)]) := by
    refine .node "properties" (.property [] [] excluded) fun other ne => ?_
    simp [List.lookup_cons, beq_false_of_ne ne]
  have second : Schema.Tightens (node [] [("n", .object positive)])
      (node [] [("n", .object positive), ("note", note)]) := by
    refine .node "properties" (.newProperty [("n", .object positive)] [] (by decide)) ?_
    intro other ne
    simp [List.lookup_cons, beq_false_of_ne ne]
  have third : Schema.Tightens (node [] [("n", .object positive), ("note", note)]) s' := by
    refine .node "required" (.required (List.nil_subset _)) fun other ne => ?_
    simp [List.lookup_cons, beq_false_of_ne ne]
  have changes : Schema.Tightened s s' :=
    ((Relation.ReflTransGen.single first).tail second).tail third
  have accepted : (t'.check host v).outcome = .ok true := rfl
  have answered : (t.check host v).outcome = .ok true := rfl
  exact ⟨compiled, compiled', changes, accepted,
    accepts_of_tightened compiled compiled' changes answered accepted⟩

end Conform
