import Conform.Compile
import Conform.Descriptor.Check
import Conform.Proofs.Outcomes

namespace Conform

theorem Kind.number_of_integer {v : Value} (h : integer.accepts v = true) :
    number.accepts v = true := by
  cases v with
  | int | float => rfl
  | _ => cases h

namespace Value

theorem elements_ok {v : Value} {items : List Value} :
    v.elements = .ok items ↔ v.elements? = some items := by
  unfold elements
  cases v.elements? <;> simp

/-- What can be gone through has a length, and the other way round. -/
theorem length_ok {v : Value} {k : Nat} :
    v.length = .ok k ↔ ∃ items, v.elements? = some items ∧ items.length = k := by
  cases v <;> simp [length, elements?, String.length_toList]

/-- A number is compared by its quantity, whatever the limit is. -/
theorem compare_number {v limit : Value} (relation : Relation)
    (number : Kind.number.accepts v = true) :
    v.compare relation limit = match v.quantity?, limit.quantity? with
      | some x, some y => .ok (relation.holds Quantity.less Quantity.atMost x y)
      | _, _ => .error (.unordered relation v.form limit.form) := by
  cases v with
  | int | float => cases limit <;> rfl
  | _ => cases number

end Value

namespace Predicate

def gather (gathered : Option Predicate) (ps : List Predicate) : Option Predicate :=
  ps.foldl (fun q p => some (conjoin q p)) gathered

theorem gather_append (gathered : Option Predicate) (ps qs : List Predicate) :
    gather gathered (ps ++ qs) = gather (gather gathered ps) qs :=
  List.foldl_append

def checkGathered (host : Host) : Option Predicate → Value → Check Bool
  | none, _ => pure true
  | some p, v => p.check host v

theorem checkGathered_conjoin (host : Host) (gathered : Option Predicate) (p : Predicate)
    (v : Value) : (conjoin gathered p).check host v =
      (checkGathered host gathered v).andThen (p.check host v) := by
  cases gathered with
  | none => exact (Traced.true_andThen _).symm
  | some q => rfl

theorem checkGathered_gather (host : Host) (gathered : Option Predicate) (ps : List Predicate)
    (v : Value) : checkGathered host (gather gathered ps) v =
      (checkGathered host gathered v).andThen (Traced.all (fun p => p.check host v) ps) := by
  induction ps generalizing gathered with
  | nil => exact (Traced.andThen_true _).symm
  | cons p ps ih =>
    rw [Traced.all_cons, ← Traced.andThen_assoc, ← checkGathered_conjoin]
    exact ih (some (conjoin gathered p))

end Predicate

namespace Descriptor

theorem isSome_memberLabel? (members : List (Value × Value)) (v : Value) :
    (memberLabel? members v).isSome = members.any fun m => v.documentEq m.1 := by
  rw [memberLabel?, Option.isSome_map, List.isSome_find?]

/-- The base alone if there are no constraints. -/
def constrained (base : Descriptor) (ps : List Predicate) : Descriptor :=
  base.refine (Predicate.gather none ps)

theorem check_constrained (host : Host) (base : Descriptor) (ps : List Predicate) (v : Value) :
    (base.constrained ps).check host v =
      (base.check host v).andThen (Traced.all (fun p => p.check host v) ps) := by
  have refined : ∀ gathered, (base.refine gathered).check host v =
      (base.check host v).andThen (Predicate.checkGathered host gathered v) := by
    intro gathered
    cases gathered with
    | none => exact (Traced.andThen_true _).symm
    | some p => exact check.eq_4 host v base p
  rw [constrained, refined, Predicate.checkGathered_gather, ← Traced.andThen_assoc]
  exact congrArg (Traced.andThen · _) (Traced.andThen_true _)

/-- Constraints leave the base as it is or hide it in a refinement. -/
theorem constrained_elim {P : Descriptor → Prop} {base : Descriptor} {ps : List Predicate}
    (plain : P base) (refined : ∀ p, P (.refined base p)) : P (base.constrained ps) := by
  unfold constrained
  cases Predicate.gather none ps with
  | none => exact plain
  | some p => exact refined p

end Descriptor

namespace Node

/-- The constraint that a keyword stands for, if it is there. -/
def leaf (n : Node) (keyword : String) (make : Value → Predicate) : List Predicate :=
  (n.get? keyword).toList.map make

/-- The same where the keyword's value may be refused. -/
def readLeaf (n : Node) (keyword : String) (make : Value → Except Error Predicate) :
    Except Error (List Predicate) :=
  (n.get? keyword).toList.mapM make

def flagged (n : Node) (keyword : String) (p : Predicate) : List Predicate :=
  if n.isSet keyword then [p] else []

theorem mem_leaf {n : Node} {keyword : String} {make : Value → Predicate} {p : Predicate}
    (hp : p ∈ n.leaf keyword make) : ∃ v, p = make v := by
  obtain ⟨v, _, rfl⟩ := List.mem_map.1 hp
  exact ⟨v, rfl⟩

theorem mem_flagged {n : Node} {keyword : String} {p q : Predicate}
    (hp : p ∈ n.flagged keyword q) : p = q := by
  unfold flagged at hp
  split at hp
  · exact List.mem_singleton.1 hp
  · cases hp

theorem adding_eq_leaf (n : Node) (keyword : String) (make : Value → Predicate)
    (gathered : Option Predicate) :
    n.adding keyword (fun v => pure (make v)) gathered =
      .ok (Predicate.gather gathered (n.leaf keyword make)) := by
  unfold adding leaf
  cases n.get? keyword <;> rfl

theorem adding_eq_readLeaf (n : Node) (keyword : String) (make : Value → Except Error Predicate)
    (gathered : Option Predicate) :
    n.adding keyword make gathered =
      (n.readLeaf keyword make).map (Predicate.gather gathered) := by
  unfold adding readLeaf
  cases n.get? keyword with
  | none => rfl
  | some v =>
    simp only [Option.toList_some, List.mapM_cons, List.mapM_nil]
    cases make v <;> rfl

theorem addingFlag_eq (n : Node) (keyword : String) (p : Predicate)
    (gathered : Option Predicate) :
    n.addingFlag keyword p gathered = Predicate.gather gathered (n.flagged keyword p) := by
  unfold addingFlag flagged
  split <;> rfl

def textLeaves (formats : Registry) (n : Node) : Except Error (List Predicate) := do
  let patterns ← n.readLeaf "pattern" n.pattern
  let names ← n.readLeaf "format" (format formats)
  pure (n.leaf "minLength" .minLength ++ n.leaf "maxLength" .maxLength ++ patterns ++ names)

def boundLeaves (n : Node) : List Predicate :=
  n.leaf "minimum" (.bound (if n.isSet "exclusiveMinimum" then .greater else .atLeast)) ++
    n.leaf "maximum" (.bound (if n.isSet "exclusiveMaximum" then .less else .atMost))

def countLeaves (n : Node) : List Predicate :=
  n.leaf "minItems" .minLength ++ n.leaf "maxItems" .maxLength ++
    n.flagged "uniqueItems" .distinct

section

variable {n n' : Node} {keyword : String}

theorem isSet_congr (same : n'.get? keyword = n.get? keyword) :
    n'.isSet keyword = n.isSet keyword := by
  rw [isSet, same, isSet]

theorem leaf_congr (same : n'.get? keyword = n.get? keyword) (make : Value → Predicate) :
    n'.leaf keyword make = n.leaf keyword make := by
  rw [leaf, same, leaf]

theorem flagged_congr (same : n'.get? keyword = n.get? keyword) (p : Predicate) :
    n'.flagged keyword p = n.flagged keyword p := by
  rw [flagged, isSet_congr same, flagged]

theorem boundLeaves_congr
    (same : ∀ keyword ∈ ["minimum", "maximum", "exclusiveMinimum", "exclusiveMaximum"],
      n'.get? keyword = n.get? keyword) : n'.boundLeaves = n.boundLeaves := by
  simp only [List.forall_mem_cons] at same
  obtain ⟨minimum, maximum, above, below, _⟩ := same
  rw [boundLeaves, leaf_congr minimum, leaf_congr maximum, isSet_congr above, isSet_congr below,
    boundLeaves]

theorem countLeaves_congr
    (same : ∀ keyword ∈ ["minItems", "maxItems", "uniqueItems"],
      n'.get? keyword = n.get? keyword) : n'.countLeaves = n.countLeaves := by
  simp only [List.forall_mem_cons] at same
  obtain ⟨least, most, distinct, _⟩ := same
  rw [countLeaves, leaf_congr least, leaf_congr most, flagged_congr distinct, countLeaves]

theorem required_congr (same : n'.get? "required" = n.get? "required") :
    n'.required = n.required := by
  rw [required, same, required]

end

theorem string_eq (formats : Registry) {n : Node} (h : n.get? "enum" = none) :
    n.string formats = (n.textLeaves formats).map (Descriptor.primitive .string).constrained := by
  unfold string textLeaves Descriptor.constrained
  simp only [h, adding_eq_leaf]
  simp only [adding_eq_readLeaf]
  cases n.readLeaf "pattern" n.pattern with
  | error e => rfl
  | ok patterns =>
    cases n.readLeaf "format" (format formats) with
    | error e => rfl
    | ok names => simp [Except.map, bind, Except.bind, pure, Except.pure, Predicate.gather_append]

theorem bounds_eq (n : Node) : n.bounds = .ok (Predicate.gather none n.boundLeaves) := by
  unfold bounds boundLeaves
  simp only [adding_eq_leaf, Predicate.gather_append]
  rfl

theorem number_eq {n : Node} (h : n.get? "enum" = none) :
    n.number = .ok ((Descriptor.primitive .number).constrained
      (n.boundLeaves ++ n.flagged "integer" .whole)) := by
  unfold number Descriptor.constrained
  rw [h, bounds_eq, Predicate.gather_append, ← addingFlag_eq]
  rfl

theorem integer_eq {n : Node} (h : n.get? "enum" = none) :
    n.integer = .ok ((Descriptor.primitive .integer).constrained n.boundLeaves) := by
  unfold integer Descriptor.constrained
  rw [h, bounds_eq]
  rfl

/-- The type of a node's items, before they are counted. -/
def itemsType (n : Node) : Compile Descriptor :=
  match n.get? "items" with
  | none => pure (.primitive .array)
  | some _ =>
    match n.items with
    | some items => items
    | none => .lift (n.unsupported .items)

theorem array_eq (n : Node) :
    n.array = (fun base => base.constrained n.countLeaves) <$> n.itemsType := by
  unfold array itemsType Descriptor.constrained countLeaves
  simp only [adding_eq_leaf, addingFlag_eq, Predicate.gather_append, Traced.lift_ok, pure_bind,
    map_eq_pure_bind]
  cases n.get? "items" with
  | none => simp
  | some items => cases n.items <;> rfl

theorem key_field (names : List Value) (key : String) (t : Descriptor) :
    (field names key t).1 = key := by
  unfold field
  split <;> rfl

/-- A field has its type as it is, or makes it optional. -/
theorem field_elim {P : Descriptor → Prop} {names : List Value} {key : String} {t : Descriptor}
    (plain : P t) (optional : P (.maybe t)) : P (field names key t).2 := by
  unfold field
  split
  · exact plain
  · dsimp only
    split
    · exact plain
    · exact optional

theorem readLeaf_ok {n : Node} {keyword : String} {make : Value → Except Error Predicate}
    {ps : List Predicate} : n.readLeaf keyword make = .ok ps ↔
      (n.get? keyword = none ∧ ps = []) ∨
        ∃ v p, n.get? keyword = some v ∧ make v = .ok p ∧ ps = [p] := by
  unfold readLeaf
  cases n.get? keyword with
  | none =>
    rw [Option.toList_none, List.mapM_nil]
    constructor
    · intro h
      cases h
      exact .inl ⟨rfl, rfl⟩
    · intro h
      rcases h with ⟨_, rfl⟩ | ⟨_, _, ⟨⟩, _⟩
      rfl
  | some v =>
    simp only [Option.toList_some, List.mapM_cons, List.mapM_nil, except_bind_ok]
    constructor
    · intro h
      obtain ⟨p, hp, _, ⟨⟩, ⟨⟩⟩ := h
      exact .inr ⟨v, p, rfl, hp, rfl⟩
    · intro h
      rcases h with ⟨⟨⟩, _⟩ | ⟨_, p, ⟨⟩, hp, rfl⟩
      exact ⟨p, hp, [], rfl, rfl⟩

theorem pattern_ok {n : Node} {v : Value} {p : Predicate} : n.pattern v = .ok p ↔
    ∃ source q, v = .text source ∧ Pattern.ofSource source = .ok q ∧ p = .pattern q := by
  have read : ∀ q, Pattern.ofValue v = .ok q ↔
      ∃ source, v = .text source ∧ Pattern.ofSource source = .ok q := by
    intro q
    cases v with
    | text source => simp [Pattern.ofValue, except_mapError_ok]
    | _ =>
      simp only [Pattern.ofValue, reduceCtorEq, false_and, exists_false, iff_false]
      split <;> simp
  unfold pattern
  constructor
  · intro h
    split at h
    · rename_i q found
      cases h
      obtain ⟨source, hv, hq⟩ := (read q).1 found
      exact ⟨source, q, hv, hq, rfl⟩
    all_goals cases h
  · intro h
    obtain ⟨source, q, hv, hq, rfl⟩ := h
    rw [(read q).2 ⟨source, hv, hq⟩]

theorem format_ok {formats : Registry} {name : Value} {p : Predicate} :
    format formats name = .ok p ↔ name.hashable = .ok () ∧
      ∃ handle, formats.find? name = some handle ∧ p = .format name (.function handle) := by
  have get : ∀ handle, formats.get name = .ok handle ↔
      name.hashable = .ok () ∧ formats.find? name = some handle := by
    intro handle
    unfold Registry.get
    cases name.hashable with
    | error f =>
      constructor
      · intro h
        cases h
      · intro h
        obtain ⟨⟨⟩, _⟩ := h
    | ok _ =>
      cases formats.find? name with
      | none => exact ⟨nofun, nofun⟩
      | some found =>
        constructor
        · intro h
          cases h
          exact ⟨rfl, rfl⟩
        · intro h
          obtain ⟨_, ⟨⟩⟩ := h
          rfl
  unfold format
  rw [except_bind_ok]
  constructor
  · intro h
    obtain ⟨handle, hg, ⟨⟩⟩ := h
    obtain ⟨hashed, found⟩ := (get handle).1 hg
    exact ⟨hashed, handle, found, rfl⟩
  · intro h
    obtain ⟨hashed, handle, found, rfl⟩ := h
    exact ⟨handle, (get handle).2 ⟨hashed, found⟩, rfl⟩

theorem textLeaves_ok {n : Node} {formats : Registry} {ps : List Predicate} :
    n.textLeaves formats = .ok ps ↔ ∃ patterns names,
      n.readLeaf "pattern" n.pattern = .ok patterns ∧
      n.readLeaf "format" (format formats) = .ok names ∧
      ps = n.leaf "minLength" .minLength ++ n.leaf "maxLength" .maxLength ++ patterns ++ names := by
  unfold textLeaves
  simp only [except_bind_ok]
  constructor
  · intro h
    obtain ⟨patterns, hp, names, hn, ⟨⟩⟩ := h
    exact ⟨patterns, names, hp, hn, rfl⟩
  · intro h
    obtain ⟨patterns, names, hp, hn, rfl⟩ := h
    exact ⟨patterns, hp, names, hn, rfl⟩

theorem hashableItems_ok {items : List Value} :
    Value.hashableItems items = .ok () ↔ ∀ x ∈ items, x.hashable = .ok () := by
  induction items with
  | nil => simp [Value.hashableItems]
  | cons x rest ih =>
    rw [Value.hashableItems, except_bind_ok, List.forall_mem_cons, ← ih]
    exact ⟨fun ⟨_, hx, hr⟩ => ⟨hx, hr⟩, fun ⟨hx, hr⟩ => ⟨(), hx, hr⟩⟩

/-- A falsy list of required names is as good as none. -/
theorem required_ok {n : Node} {names : List Value} : n.required = .ok names ↔
    ((∀ v, n.get? "required" = some v → v.truthy = false) ∧ names = []) ∨
      ∃ v, n.get? "required" = some v ∧ v.truthy = true ∧ v.elements? = some names ∧
        ∀ x ∈ names, x.hashable = .ok () := by
  unfold required
  cases n.get? "required" with
  | none =>
    constructor
    · intro h
      cases h
      exact .inl ⟨by simp, rfl⟩
    · intro h
      rcases h with ⟨_, rfl⟩ | ⟨_, ⟨⟩, _⟩
      rfl
  | some v =>
    cases truth : v.truthy with
    | false =>
      simp only [truth, Bool.false_eq_true, if_false]
      constructor
      · intro h
        cases h
        exact .inl ⟨by simpa using truth, rfl⟩
      · intro h
        rcases h with ⟨_, rfl⟩ | ⟨_, ⟨⟩, absurd, _⟩
        · rfl
        · cases truth.symm.trans absurd
    | true =>
      simp only [truth, if_true, except_bind_ok, except_mapError_ok, Value.elements_ok]
      constructor
      · intro h
        obtain ⟨names, hn, _, hh, ⟨⟩⟩ := h
        exact .inr ⟨v, rfl, truth, hn, hashableItems_ok.1 hh⟩
      · intro h
        rcases h with ⟨falsy, _⟩ | ⟨_, ⟨⟩, _, hn, hh⟩
        · cases truth.symm.trans (falsy v rfl)
        · exact ⟨names, hn, (), hashableItems_ok.2 hh, rfl⟩

end Node
end Conform
