import Conform.Proofs.Failures

namespace Conform

section

variable {α β : Type} {p : α → Bool}

/-- The items up to the first that does not pass, with that one. -/
def through (p : α → Bool) : List α → List α
  | [] => []
  | x :: xs => x :: if p x then through p xs else []

theorem through_all {xs : List α} (h : ∀ x ∈ xs, p x = true) : through p xs = xs := by
  induction xs with
  | nil => rfl
  | cons x xs ih =>
    obtain ⟨first, later⟩ := List.forall_mem_cons.1 h
    rw [through, if_pos first, ih later]

theorem mem_of_mem_through {xs : List α} {x : α} (h : x ∈ through p xs) : x ∈ xs := by
  induction xs with
  | nil => exact h
  | cons y ys ih =>
    rw [through] at h
    split at h
    · exact (List.mem_cons.1 h).elim (fun eq => eq ▸ List.mem_cons_self)
        fun later => List.mem_cons_of_mem y (ih later)
    · rw [List.mem_singleton.1 h]
      exact List.mem_cons_self

/-- An item is gone through if all before it pass. -/
theorem mem_through {before after : List α} {x : α} (earlier : ∀ y ∈ before, p y = true) :
    x ∈ through p (before ++ x :: after) := by
  induction before with
  | nil => exact List.mem_cons_self
  | cons y ys ih =>
    obtain ⟨first, later⟩ := List.forall_mem_cons.1 earlier
    rw [List.cons_append, through, if_pos first]
    exact List.mem_cons_of_mem y (ih later)

theorem through_map (f : β → α) (xs : List β) :
    through p (xs.map f) = (through (fun x => p (f x)) xs).map f := by
  induction xs with
  | nil => rfl
  | cons x xs ih =>
    rw [List.map_cons, through, through, ih]
    split <;> rfl

/-- What the items gone through yield is a beginning of what all items do, if only the last of them
can fall short. -/
theorem flatMap_through_isPrefix {f g : α → List β} {xs : List α} (short : ∀ x ∈ xs, f x <+: g x)
    (full : ∀ x ∈ xs, p x = true → f x = g x) : (through p xs).flatMap f <+: xs.flatMap g := by
  induction xs with
  | nil => exact List.prefix_refl _
  | cons x xs ih =>
    obtain ⟨first, later⟩ := List.forall_mem_cons.1 short
    obtain ⟨whole, later'⟩ := List.forall_mem_cons.1 full
    rw [through, List.flatMap_cons, List.flatMap_cons]
    split
    · rename_i passed
      rw [whole passed]
      exact (List.prefix_append_right_inj _).2 (ih later later')
    · rw [List.flatMap_nil, List.append_nil]
      exact first.trans (List.prefix_append _ _)

end

/-- The schemas that a node has for parts as one kind, in order. -/
def Node.partsAs (entries : List (String × Value)) : Kind → List Value
  | .object =>
    match entries.lookup "properties" with
    | some (.object properties) => properties.map Prod.snd
    | _ => []
  | .array =>
    match entries.lookup "items" with
    | some (.object item) => [.object item]
    | some (.list items) => items
    | _ => []
  | _ => []

/-- What it takes to be a part of a node as one kind. -/
inductive Node.PartAs (entries : List (String × Value)) : Kind → Value → Prop where
  | property {properties : List (String × Value)} {key : String} {s : Value}
      (given : entries.lookup "properties" = some (.object properties))
      (mem : (key, s) ∈ properties) : PartAs entries .object s
  | item {item : List (String × Value)} (given : entries.lookup "items" = some (.object item)) :
      PartAs entries .array (.object item)
  | position {items : List Value} {s : Value}
      (given : entries.lookup "items" = some (.list items)) (mem : s ∈ items) :
      PartAs entries .array s

theorem Node.partAs_of_mem {entries : List (String × Value)} {kind : Kind} {s : Value}
    (h : s ∈ partsAs entries kind) : PartAs entries kind s := by
  unfold partsAs at h
  split at h
  · split at h
    · rename_i properties given
      obtain ⟨⟨key, s⟩, hp, rfl⟩ := List.mem_map.1 h
      exact .property given hp
    · cases h
  · split at h
    · rename_i item given
      rw [List.mem_singleton.1 h]
      exact .item given
    · rename_i items given
      exact .position given h
    · cases h
  · cases h

theorem Node.PartAs.toPart {entries : List (String × Value)} {kind : Kind} {s : Value}
    (h : PartAs entries kind s) : Part entries s := by
  cases h with
  | property given mem => exact .property given mem
  | item given => exact .item given
  | position given mem => exact .position given mem

/-- Which parts of a node are gone into, and in what order. -/
structure Route where
  into : List (String × Value) → List Value
  part : ∀ entries, ∀ s ∈ into entries, Part entries s

/-- All that is met on the way, every node before its parts. -/
def Route.walk (route : Route) : Value → List Value
  | .object entries =>
    .object entries :: (route.into entries).attach.flatMap fun s => route.walk s.1
  | v => [v]
termination_by s => sizeOf s
decreasing_by exact (route.part entries s.1 s.2).sizeOf_lt

theorem Route.walk_object (route : Route) (entries : List (String × Value)) :
    route.walk (.object entries) =
      .object entries :: (route.into entries).flatMap route.walk := by
  rw [walk]
  simp only [List.flatMap_subtype, List.unattach_attach]

theorem Route.walk_other (route : Route) {v : Value} (other : ∀ entries, v ≠ .object entries) :
    route.walk v = [v] := by
  cases v with
  | object entries => exact absurd rfl (other entries)
  | _ =>
    rw [walk]
    exact other

/-- For each kind of a node in order, all parts that the node has as this kind. -/
def wholeRoute : Route where
  into entries := (Node.compiledAs entries).flatMap (Node.partsAs entries)
  part entries s h := by
    obtain ⟨kind, _, hs⟩ := List.mem_flatMap.1 h
    exact (Node.partAs_of_mem hs).toPart

/-- The schema from the root down, every node before its parts. -/
def preorder (s : Value) : List Value :=
  wholeRoute.walk s

/-- The parts that are entered as one kind: no further ones after one that fails, and none at all if
the names of required properties cannot be read. -/
def Node.opened (r : Registry) (entries : List (String × Value)) (kind : Kind) : List Value :=
  if kind = .object ∧ (ofEntries r entries).required.isOk = false then []
  else through (fun s => (Conform.compile r s).outcome.isOk) (partsAs entries kind)

/-- No further kinds after one that fails. -/
def enteredRoute (r : Registry) : Route where
  into entries := (through (fun kind => ((Node.ofEntries r entries).asKind r kind).outcome.isOk)
    (Node.compiledAs entries)).flatMap (Node.opened r entries)
  part entries s h := by
    obtain ⟨kind, _, hs⟩ := List.mem_flatMap.1 h
    unfold Node.opened at hs
    split at hs
    · cases hs
    · exact (Node.partAs_of_mem (mem_of_mem_through hs)).toPart

/-- The schemas that compilation enters before it ends, in order. -/
def entered (r : Registry) (s : Value) : List Value :=
  (enteredRoute r).walk s

section

variable {r : Registry} {entries : List (String × Value)}

theorem isOk_iff {ε α : Type} {x : Except ε α} : x.isOk = true ↔ ∃ a, x = .ok a := by
  cases x <;> simp [Except.isOk, Except.toBool]

/-- If a node compiles as a kind that it has parts for, they compile and none is left out. -/
theorem Node.PartAs.compiles {kind : Kind} {t : Descriptor} {s : Value}
    (part : PartAs entries kind s) (h : ((ofEntries r entries).asKind r kind).outcome = .ok t) :
    (∃ u, Compiles r s u) ∧ (kind = .object → (ofEntries r entries).required.isOk = true) := by
  have y := asKind_ok.1 h
  cases part with
  | property given mem =>
    cases y with
    | enumeration kinds => cases kinds
    | object bare =>
      have empty := bare _ given
      simp only [Value.truthy, Bool.not_eq_false', List.isEmpty_iff] at empty
      rw [empty] at mem
      cases mem
    | struct given' _ needed each =>
      cases given.symm.trans given'
      obtain ⟨f, _, part⟩ := forall₂_exists.1 ⟨_, each⟩ _ mem
      exact ⟨⟨f.2, part⟩, fun _ => isOk_iff.2 ⟨_, needed⟩⟩
  | item given =>
    cases y with
    | enumeration kinds => cases kinds
    | array items =>
      refine ⟨?_, Kind.noConfusion⟩
      cases items with
      | absent given' | positions given' => cases given.symm.trans given'
      | each given' part =>
        cases given.symm.trans given'
        exact ⟨_, part⟩
  | position given mem =>
    cases y with
    | enumeration kinds => cases kinds
    | array items =>
      refine ⟨?_, Kind.noConfusion⟩
      cases items with
      | absent given' | each given' => cases given.symm.trans given'
      | positions given' each =>
        cases given.symm.trans given'
        exact forall₂_exists.1 ⟨_, each⟩ _ mem

/-- A kind that a node compiles as has been gone through with all its parts. -/
theorem Node.opened_of_ok {kind : Kind} {t : Descriptor}
    (h : ((ofEntries r entries).asKind r kind).outcome = .ok t) :
    opened r entries kind = partsAs entries kind := by
  have each : ∀ s ∈ partsAs entries kind, _ := fun s hs => (partAs_of_mem hs).compiles h
  unfold opened
  split
  · rename_i unread
    obtain ⟨object, unread⟩ := unread
    refine (List.eq_nil_iff_forall_not_mem.2 fun s hs => ?_).symm
    simp [(each s hs).2 object] at unread
  · exact through_all fun s hs => isOk_iff.2 (each s hs).1

/-- An object compiles just if it does as each of its kinds, provided they are well listed. -/
theorem Node.asKind_of_compiles {t : Descriptor} (h : Compiles r (.object entries) t) :
    ∀ kind ∈ compiledAs entries, ∃ u, ((ofEntries r entries).asKind r kind).outcome = .ok u := by
  intro kind hk
  cases compiles_object.1 h with
  | untyped given =>
    rw [ofEntries_get?] at given
    simp [compiledAs, given] at hk
  | single given part =>
    rw [ofEntries_get?] at given
    simp only [compiledAs, given, Kind.named?_eq_some.2 rfl, Option.toList_some,
      List.mem_singleton] at hk
    exact ⟨t, asKind_ok.2 (hk ▸ part)⟩
  | several inhabited given parts =>
    rw [ofEntries_get?] at given
    simp only [compiledAs, given, kinds?_eq_some.2 ⟨inhabited, rfl⟩, Option.getD_some] at hk
    obtain ⟨u, part⟩ := forall₂_exists.1 ⟨_, parts⟩ kind hk
    exact ⟨u, asKind_ok.2 part⟩

/-- What is entered is a beginning of the walk, and all of it if there is no error. -/
theorem entered_preorder (r : Registry) (s : Value) : entered r s <+: preorder s ∧
    ∀ t, Compiles r s t → entered r s = preorder s := by
  unfold entered preorder
  induction s using schema_induct with
  | other v none =>
    rw [Route.walk_other _ none, Route.walk_other _ none]
    exact ⟨List.prefix_refl _, fun _ _ => rfl⟩
  | node entries ih =>
    have parts : ∀ kind, ∀ s ∈ Node.partsAs entries kind, _ := fun kind s hs =>
      ih s (Node.partAs_of_mem hs).toPart
    have kinds : ∀ kind, (Node.opened r entries kind).flatMap (enteredRoute r).walk <+:
        (Node.partsAs entries kind).flatMap wholeRoute.walk := by
      intro kind
      unfold Node.opened
      split
      · exact List.nil_prefix
      · refine flatMap_through_isPrefix (fun s hs => (parts kind s hs).1) fun s hs passed => ?_
        obtain ⟨t, compiled⟩ := isOk_iff.1 passed
        exact (parts kind s hs).2 t compiled
    have full : ∀ kind t, ((Node.ofEntries r entries).asKind r kind).outcome = .ok t →
        (Node.opened r entries kind).flatMap (enteredRoute r).walk =
          (Node.partsAs entries kind).flatMap wholeRoute.walk := by
      intro kind t compiled
      rw [Node.opened_of_ok compiled]
      refine List.flatMap_congr fun s hs => ?_
      obtain ⟨⟨u, part⟩, _⟩ := (Node.partAs_of_mem hs).compiles compiled
      exact (parts kind s hs).2 u part
    rw [Route.walk_object, Route.walk_object, enteredRoute, wholeRoute, List.flatMap_assoc,
      List.flatMap_assoc]
    constructor
    · rw [List.prefix_cons_inj]
      refine flatMap_through_isPrefix (fun kind _ => kinds kind) fun kind _ passed => ?_
      obtain ⟨t, compiled⟩ := isOk_iff.1 passed
      exact full kind t compiled
    · intro t compiled
      have each := Node.asKind_of_compiles compiled
      rw [through_all fun kind hk => isOk_iff.2 (each kind hk)]
      congr 1
      refine List.flatMap_congr fun kind hk => ?_
      obtain ⟨u, compiled⟩ := each kind hk
      exact full kind u compiled

theorem Node.compiledAs_of_error {e : Error}
    (h : (Conform.compile r (.object entries)).outcome = .error e) :
    Blames (.object entries) e ∨ compiledAs entries = kindsOf entries := by
  cases given : entries.lookup "type" with
  | none => simp [compiledAs, kindsOf, given]
  | some type =>
    cases type with
    | list names =>
      cases listed : kinds? names with
      | none =>
        rw [Conform.compile] at h
        change (Node.compile r (ofEntries r entries)).outcome = .error e at h
        simp only [Node.compile, ofEntries_get?, given, Kind.named?, listed, Traced.lift_outcome] at h
        cases h
        exact .inl (Error.blames_raised rfl)
      | some kinds =>
        obtain ⟨inhabited, rfl⟩ := kinds?_eq_some.1 listed
        rw [kindsOf_several given]
        simp [compiledAs, given, listed]
    | _ => simp [compiledAs, kindsOf, given]

theorem Node.Enters.mem_opened {kind : Kind} {s : Value} (enters : Enters r entries kind s)
    (read : kind = .object → (ofEntries r entries).required.isOk = true) :
    s ∈ opened r entries kind := by
  have passed : ∀ {x : Value}, (∃ t, Compiles r x t) → (Conform.compile r x).outcome.isOk = true :=
    isOk_iff.2
  rw [opened, if_neg fun unread => by simp [read unread.1] at unread]
  cases enters with
  | @property before after key s given earlier =>
    rw [partsAs, given]
    simp only [List.map_append, List.map_cons]
    refine mem_through fun x hx => ?_
    obtain ⟨p, hp, rfl⟩ := List.mem_map.1 hx
    exact passed (earlier p hp)
  | item given =>
    rw [partsAs, given]
    exact List.mem_cons_self
  | position given earlier =>
    rw [partsAs, given]
    exact mem_through fun x hx => passed (earlier x hx)

/-- Names that cannot be read are the fault of the object, before any property is looked at. -/
theorem Node.Enters.fault_of_unread {s : Value} {e : Error} (enters : Enters r entries .object s)
    (unread : ¬(ofEntries r entries).required.isOk = true)
    (h : ((ofEntries r entries).asKind r .object).outcome = .error e) :
    ∃ f, f.classOf = .type ∧ e = .fault f := by
  cases enters with
  | property given =>
    rw [asKind, object, ofEntries_get?, given] at h
    simp only [List.isEmpty_iff, List.append_eq_nil_iff, reduceCtorEq, and_false, if_false] at h
    rcases Traced.bind_outcome_error.1 h with h | ⟨names, needed, _⟩
    · exact fault_of_required h
    · exact absurd (isOk_iff.2 ⟨names, needed⟩) unread

theorem exists_entered_faulted {s : Value} {e : Error} (h : (compile r s).outcome = .error e) :
    ∃ n ∈ entered r s, (compile r n).outcome = .error e ∧ Faulted r e n := by
  unfold entered
  induction s using schema_induct with
  | other v none =>
    rw [Route.walk_other _ none]
    obtain ⟨n, reached, failed, faulted⟩ := exists_faulted h
    rcases Relation.ReflTransGen.cases_head reached with rfl | ⟨_, step, _⟩
    · exact ⟨v, List.mem_singleton_self v, failed, faulted⟩
    · cases step
      exact absurd rfl (none _)
  | node entries ih =>
    rw [Route.walk_object]
    rcases Node.compile_error h with blames | ⟨before, kind, after, kinds, earlier, failed⟩
    · exact ⟨_, List.mem_cons_self, h, .refused blames⟩
    rcases Node.compiledAs_of_error h with blames | same
    · exact ⟨_, List.mem_cons_self, h, .refused blames⟩
    have flawed : Node.Flaw r entries kind e → Faulted r e (.object entries) :=
      .flawed (by simp [kinds])
    rcases Node.asKind_error failed with flaw | ⟨s, enters, below⟩
    · exact ⟨_, List.mem_cons_self, h, flawed flaw⟩
    by_cases read : kind = .object → (Node.ofEntries r entries).required.isOk = true
    · obtain ⟨n, hn, found⟩ := ih s enters.toPart below
      refine ⟨n, List.mem_cons_of_mem _ (List.mem_flatMap.2 ⟨s, ?_, hn⟩), found⟩
      refine List.mem_flatMap.2 ⟨kind, ?_, enters.mem_opened read⟩
      rw [same, kinds]
      exact mem_through fun k hk => isOk_iff.2 (earlier k hk)
    · push Not at read
      obtain ⟨rfl, unread⟩ := read
      obtain ⟨f, type, rfl⟩ := enters.fault_of_unread unread failed
      exact ⟨_, List.mem_cons_self, h, flawed (.fault type)⟩

end

end Conform
