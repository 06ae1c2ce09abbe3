import Conform.Proofs.Agreement

namespace Conform

/-- The check reaches an answer. -/
def Settled (x : Check Bool) : Prop :=
  ∃ answer, x.outcome = .ok answer

namespace Settled

variable {α : Type}

theorem answer (b : Bool) : Settled (pure b) :=
  ⟨b, rfl⟩

theorem andThen {x y : Check Bool} (hx : Settled x) (hy : Settled y) : Settled (x.andThen y) := by
  obtain ⟨passed, hx⟩ := hx
  cases passed with
  | true =>
    obtain ⟨answer, hy⟩ := hy
    exact ⟨answer, Traced.bind_outcome_ok.2 ⟨true, hx, hy⟩⟩
  | false => exact ⟨false, Traced.bind_outcome_ok.2 ⟨false, hx, rfl⟩⟩

theorem all {test : α → Check Bool} {xs : List α} (h : ∀ x ∈ xs, Settled (test x)) :
    Settled (Traced.all test xs) := by
  induction xs with
  | nil => exact answer true
  | cons x xs ih =>
    obtain ⟨first, later⟩ := List.forall_mem_cons.1 h
    exact first.andThen (ih later)

theorem any {test : α → Check Bool} {xs : List α} (h : ∀ x ∈ xs, Settled (test x)) :
    Settled (Traced.any test xs) := by
  induction xs with
  | nil => exact answer false
  | cons x xs ih =>
    obtain ⟨⟨passed, first⟩, later⟩ := List.forall_mem_cons.1 h
    cases passed with
    | true => exact ⟨true, Traced.bind_outcome_ok.2 ⟨true, first, rfl⟩⟩
    | false =>
      obtain ⟨answer, rest⟩ := ih later
      exact ⟨answer, Traced.bind_outcome_ok.2 ⟨false, first, rest⟩⟩

end Settled

namespace Value

/-- A number compares with everything that has a quantity. -/
theorem compare_settles {v limit : Value} (number : Kind.number.accepts v = true)
    (measured : limit.quantity?.isSome = true) (relation : Relation) :
    ∃ answer, v.compare relation limit = .ok answer := by
  obtain ⟨q, hq⟩ := Option.isSome_iff_exists.1 measured
  rw [compare_number relation number, hq]
  cases v with
  | int | float => exact ⟨_, rfl⟩
  | _ => cases number

theorem compareLength_settles {v limit : Value} {n : Nat} (sized : v.length = .ok n)
    (measured : limit.quantity?.isSome = true) (relation : Relation) :
    ∃ answer, Predicate.compareLength relation v limit = .ok answer := by
  obtain ⟨answer, compared⟩ := compare_settles (v := .int n) rfl measured relation
  exact ⟨answer, except_bind_ok.2 ⟨n, sized, compared⟩⟩

end Value

namespace Schema

/-- The limits that a node sets are numbers, or booleans in their place. -/
def Measured (entries : List (String × Value)) : Prop :=
  ∀ keyword ∈ ["minLength", "maxLength", "minItems", "maxItems", "minimum", "maximum"],
    ∀ limit, entries.lookup keyword = some limit → limit.quantity?.isSome = true

/-- Every format function of a registry answers for every text. -/
def Answering (formats : Registry) (host : Host) : Prop :=
  ∀ format ∈ formats.formats, ∀ s, ∃ answer, host format.2 (.text s) = .ok answer

section

variable {entries : List (String × Value)} {formats : Registry} {host : Host} {v : Value}

theorem settled_whenGiven {keyword : String} {test : Test}
    (h : ∀ limit, entries.lookup keyword = some limit → Settled (test limit)) :
    ∀ x ∈ whenGiven entries keyword test, Settled x := by
  intro x hx
  obtain ⟨limit, given, rfl⟩ := List.mem_map.1 hx
  exact h limit (Option.mem_toList.1 given)

theorem settled_whenSet {keyword : String} {test : Check Bool} (h : Settled test) :
    ∀ x ∈ whenSet entries keyword test, Settled x := by
  intro x hx
  unfold whenSet at hx
  split at hx
  · rw [List.mem_singleton.1 hx]
    exact h
  · cases hx

theorem settled_bounds (measured : Measured entries) (number : Kind.number.accepts v = true) :
    ∀ x ∈ bounds entries v, Settled x := by
  refine List.forall_mem_append.2 ⟨settled_whenGiven ?_, settled_whenGiven ?_⟩
  · intro limit given
    exact Value.compare_settles number (measured "minimum" (by simp) limit given) _
  · intro limit given
    exact Value.compare_settles number (measured "maximum" (by simp) limit given) _

theorem settled_counts {least most : String} {n : Nat} (sized : v.length = .ok n)
    (lower : ∀ limit, entries.lookup least = some limit → limit.quantity?.isSome = true)
    (upper : ∀ limit, entries.lookup most = some limit → limit.quantity?.isSome = true) :
    ∀ x ∈ counts entries least most v, Settled x := by
  refine List.forall_mem_append.2 ⟨settled_whenGiven ?_, settled_whenGiven ?_⟩
  · intro limit given
    exact Value.compareLength_settles sized (lower limit given) _
  · intro limit given
    exact Value.compareLength_settles sized (upper limit given) _

theorem settled_search (source : Value) (s : String) : Settled (search source (.text s)) := by
  unfold search
  split
  · split
    · exact .answer _
    · exact .answer _
  · exact .answer _

theorem settled_inFormat (answering : Answering formats host) (name : Value) (s : String) :
    Settled (inFormat formats host (.text s) name) := by
  unfold inFormat
  split
  · rename_i handle found
    obtain ⟨format, given, rfl⟩ := Option.map_eq_some_iff.1 found
    obtain ⟨answer, called⟩ := answering format (List.mem_of_find?_eq_some given) s
    exact ⟨answer.truthy, Traced.map_outcome_ok.2 ⟨answer, called, rfl⟩⟩
  · exact .answer _

theorem settled_orMember {otherwise : Check Bool} (h : Settled otherwise) :
    Settled (orMember entries v otherwise) := by
  unfold orMember
  split
  · exact .answer _
  · exact h

/-- The kind of the value is looked at first, so the tests may rely on it. -/
theorem settled_ofKind {kind : Kind} {tests : List (Check Bool)}
    (h : kind.accepts v = true → ∀ x ∈ tests, Settled x) : Settled (ofKind kind v tests) := by
  unfold ofKind
  split
  · rename_i accepted
    exact .all (h accepted)
  · exact .answer _

end

/-- Whatever part of a node is in use reaches an answer for every value. -/
def PartsSettled (formats : Registry) (host : Host) (entries : List (String × Value)) : Prop :=
  ∀ s, UsedPart entries s → ∀ v, Settled (validate formats host s v)

section

variable {entries : List (String × Value)} {formats : Registry} {host : Host}

theorem settled_object (kind : .object ∈ Node.kindsOf entries)
    (settled : PartsSettled formats host entries) (v : Value) :
    Settled (object entries (parts formats host entries) v) := by
  cases v with
  | object given =>
    rw [object, parts_properties]
    split
    · rename_i properties found
      rw [fieldTests_eq_map, Traced.all_map]
      refine .all fun p hp => ?_
      rw [property]
      split
      · exact .answer _
      · split
        · exact .answer _
        · exact settled p.2 (.property kind found hp) _
    · exact .answer true
  | _ => exact .answer false

theorem settled_items (kind : .array ∈ Node.kindsOf entries)
    (settled : PartsSettled formats host entries) (given : List Value) :
    Settled (items (parts formats host entries) given) := by
  have tests := parts_items formats host entries
  rw [items]
  split at tests
  · rename_i item found
    rw [tests]
    exact .all fun x _ => settled _ (.item kind found) x
  · rename_i schemas found
    rw [tests, positionTests_eq_map]
    dsimp only
    split
    · rw [← List.map_uncurry_zip_eq_zipWith]
      refine .all fun x hx => ?_
      obtain ⟨⟨test, item⟩, hm, rfl⟩ := List.mem_map.1 hx
      obtain ⟨s, hs, rfl⟩ := List.mem_map.1 (List.of_mem_zip hm).1
      exact settled s (.position kind found hs) item
    · exact .answer false
  · rw [tests]
    exact .answer true

theorem settled_array (kind : .array ∈ Node.kindsOf entries) (measured : Measured entries)
    (settled : PartsSettled formats host entries) (v : Value) :
    Settled (array entries (parts formats host entries) v) := by
  unfold array
  split
  · rename_i given found
    have sized : v.length = .ok given.length := by
      cases v <;> cases found <;> rfl
    have counted := settled_counts sized (measured "minItems" (by simp))
      (measured "maxItems" (by simp))
    refine .all (List.forall_mem_append.2 ⟨?_, settled_whenSet (.answer _)⟩)
    exact List.forall_mem_cons.2 ⟨settled_items kind settled given, counted⟩
  · exact .answer _

theorem settled_asKind {kind : Kind} (named : kind ∈ Node.kindsOf entries)
    (measured : Measured entries) (answering : Answering formats host)
    (settled : PartsSettled formats host entries) (v : Value) :
    Settled (asKind entries formats host (parts formats host entries) v kind) := by
  cases kind with
  | null | boolean => exact .answer _
  | string =>
    refine settled_orMember (settled_ofKind fun accepted => ?_)
    cases v with
    | text s =>
      have counted := settled_counts (v := .text s) rfl (measured "minLength" (by simp))
        (measured "maxLength" (by simp))
      refine List.forall_mem_append.2 ⟨List.forall_mem_append.2 ⟨counted, ?_⟩, ?_⟩
      · exact settled_whenGiven fun source _ => settled_search source s
      · exact settled_whenGiven fun name _ => settled_inFormat answering name s
    | _ => cases accepted
  | number =>
    refine settled_orMember (settled_ofKind fun accepted => ?_)
    exact List.forall_mem_append.2 ⟨settled_bounds measured accepted, settled_whenSet (.answer _)⟩
  | integer =>
    refine settled_orMember (settled_ofKind fun accepted => ?_)
    exact settled_bounds measured (Kind.number_of_integer accepted)
  | object => exact settled_object named settled v
  | array => exact settled_array named measured settled v

theorem settled_node (measured : Measured entries) (answering : Answering formats host)
    (settled : PartsSettled formats host entries) (v : Value) :
    Settled (validate formats host (.object entries) v) := by
  have tested : ∀ name, (∀ kind, Kind.named? name = some kind → kind ∈ Node.kindsOf entries) →
      Settled (named entries formats host (parts formats host entries) v name) := by
    intro name mem
    unfold named
    split
    · rename_i kind found
      exact settled_asKind (mem kind found) measured answering settled v
    · exact .answer _
  show Settled (node entries formats host (parts formats host entries) v)
  unfold node
  split
  · exact .answer _
  · rename_i names given
    refine .any fun name hn => tested name fun kind found => ?_
    simp only [Node.kindsOf, given]
    exact List.mem_filterMap.2 ⟨name, hn, found⟩
  · rename_i name other given
    refine tested name fun kind found => ?_
    rw [Kind.named?_eq_some] at found
    subst found
    rw [Node.kindsOf_single given]
    exact List.mem_singleton_self kind

/-- Validation reaches an answer if all nodes in use set their limits by numbers. -/
theorem validate_settles (answering : Answering formats host) {s : Value}
    (measured : ∀ entries, Contains s (.object entries) → Measured entries) (v : Value) :
    Settled (validate formats host s v) := by
  induction s using schema_induct generalizing v with
  | other s none =>
    cases s with
    | object entries => exact absurd rfl (none entries)
    | _ => exact .answer false
  | node entries ih =>
    refine settled_node (measured entries .refl) answering (fun s used => ?_) v
    -- Only parts in use are nodes of the schema; the others may set what limits they like.
    exact ih s used.toPart fun below reached => measured below (.head (.part used) reached)

end

end Schema

/-- Types that limit by numbers answer for every value, as long as the format functions do. -/
theorem check_settles {formats : Registry} {s : Value} {t : Descriptor}
    (h : (compile formats s).outcome = .ok t)
    (measured : ∀ entries, Contains s (.object entries) → Schema.Measured entries) {host : Host}
    (answering : Schema.Answering formats host) (v : Value) :
    ∃ answer, (t.check host v).outcome = .ok answer := by
  rw [(Schema.agrees_of_compiles h).2]
  exact Schema.validate_settles answering measured v

/-- An undefined minimum, an infinite count and a boolean for a length. -/
theorem check_settles_odd_limits :
    let item : Value := .object [("type", .text "integer"), ("minimum", .float .nan)]
    let s : Value := .object [("type", .list [.text "string", .text "array"]),
      ("minLength", .bool true), ("format", .text "code"),
      ("maxItems", .float (.infinite false)), ("items", item)]
    let formats : Registry := ⟨[(.text "code", "isCode")]⟩
    let host : Host := fun _ v => .ok (.bool v.truthy)
    let t : Descriptor := .union
      [.refined (.primitive .string)
        (.both (.minLength (.bool true)) (.format (.text "code") (.function "isCode"))),
      .refined (.list (.refined (.primitive .integer) (.bound .atLeast (.float .nan))))
        (.maxLength (.float (.infinite false)))]
    (compile formats s).outcome = .ok t ∧
      (∀ entries, Contains s (.object entries) → Schema.Measured entries) ∧
      Schema.Answering formats host ∧
      ∃ answer, (t.check host (.list [.int 1, .text "a"])).outcome = .ok answer := by
  intro item s formats host t
  have compiled : (compile formats s).outcome = .ok t := rfl
  have whole : Schema.Measured [("type", .list [.text "string", .text "array"]),
      ("minLength", .bool true), ("format", .text "code"),
      ("maxItems", .float (.infinite false)), ("items", item)] := by
    simp [Schema.Measured, List.lookup_cons, Value.quantity?]
  have part : Schema.Measured [("type", .text "integer"), ("minimum", .float .nan)] := by
    simp [Schema.Measured, List.lookup_cons, Value.quantity?]
  have measured : ∀ entries, Contains s (.object entries) → Schema.Measured entries := by
    intro entries reached
    rcases contains_object.1 reached with ⟨⟨⟩⟩ | ⟨below, step, reached⟩
    · exact whole
    cases step with
    | property _ given => simp [List.lookup_cons] at given
    | position _ given => simp [List.lookup_cons, item] at given
    | item _ given =>
      simp only [List.lookup_cons, item] at given
      cases given
      rcases contains_object.1 reached with ⟨⟨⟩⟩ | ⟨_, step, _⟩
      · exact part
      cases step <;> simp_all [List.lookup_cons]
  have answering : Schema.Answering formats host := fun _ _ s => ⟨_, rfl⟩
  exact ⟨compiled, measured, answering, check_settles compiled measured answering _⟩

end Conform
