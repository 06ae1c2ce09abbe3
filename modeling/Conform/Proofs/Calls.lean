import Conform.Proofs.Yields

namespace Conform

namespace Traced

variable {ω ε α β : Type} {c : ω}

theorem mem_trace_bind {x : Traced ω ε α} {f : α → Traced ω ε β} :
    c ∈ (x >>= f).trace ↔ c ∈ x.trace ∨ ∃ a, x.outcome = .ok a ∧ c ∈ (f a).trace := by
  cases h : x.outcome with
  | error e => simp [bind_of_error h]
  | ok a => simp [bind_of_ok h]

theorem mem_trace_andThen {x y : Traced ω ε Bool} :
    c ∈ (x.andThen y).trace ↔ c ∈ x.trace ∨ x.outcome = .ok true ∧ c ∈ y.trace := by
  unfold andThen
  rw [mem_trace_bind]
  simp

theorem exists_of_mem_trace_all {test : α → Traced ω ε Bool} {xs : List α}
    (h : c ∈ (all test xs).trace) : ∃ x ∈ xs, c ∈ (test x).trace := by
  induction xs with
  | nil => cases h
  | cons x xs ih =>
    rcases mem_trace_andThen.1 h with here | ⟨_, later⟩
    · exact ⟨x, List.mem_cons_self, here⟩
    · obtain ⟨y, hy, called⟩ := ih later
      exact ⟨y, List.mem_cons_of_mem _ hy, called⟩

theorem not_mem_trace_all {test : α → Traced ω ε Bool} {xs : List α}
    (silent : ∀ x ∈ xs, (test x).trace = []) : c ∉ (all test xs).trace := by
  intro h
  obtain ⟨x, hx, called⟩ := exists_of_mem_trace_all h
  rw [silent x hx] at called
  cases called

/-- Tests that leave no trace decide whether the others are made. -/
theorem mem_trace_all_append {test : α → Traced ω ε Bool} {xs ys : List α}
    (silent : ∀ x ∈ xs, (test x).trace = []) : c ∈ (all test (xs ++ ys)).trace ↔
      (∀ x ∈ xs, (test x).outcome = .ok true) ∧ c ∈ (all test ys).trace := by
  rw [all_append, mem_trace_andThen, all_accepts, or_iff_right (not_mem_trace_all silent)]

end Traced

namespace Descriptor

variable {host : Host} {c : Call}

theorem exists_of_mem_calls_fields {fields : List (String × Descriptor)}
    {given : List (String × Value)} (h : c ∈ (checkFields host fields given).trace) :
    ∃ f ∈ fields, ∃ x, given.lookup f.1 = some x ∧ c ∈ (f.2.check host x).trace := by
  induction fields with
  | nil => cases h
  | cons field fields ih =>
    obtain ⟨key, t⟩ := field
    have called : (∃ x, given.lookup key = some x ∧ c ∈ (t.check host x).trace) ∨
        c ∈ (checkFields host fields given).trace := by
      rw [checkFields] at h
      split at h
      · split at h
        · exact .inr h
        · cases h
      · rename_i x found
        exact (Traced.mem_trace_andThen.1 h).imp (fun here => ⟨x, found, here⟩) And.right
    rcases called with here | later
    · exact ⟨(key, t), List.mem_cons_self, here⟩
    · obtain ⟨f, hf, part⟩ := ih later
      exact ⟨f, List.mem_cons_of_mem _ hf, part⟩

theorem exists_of_mem_calls_each {ts : List Descriptor} {xs : List Value}
    (h : c ∈ (checkEach host ts xs).trace) :
    ∃ (i : Nat) (t : Descriptor) (x : Value),
      ts[i]? = some t ∧ xs[i]? = some x ∧ c ∈ (t.check host x).trace := by
  induction ts generalizing xs with
  | nil => cases h
  | cons t ts ih =>
    cases xs with
    | nil => cases h
    | cons x xs =>
      rw [checkEach] at h
      rcases Traced.mem_trace_andThen.1 h with here | ⟨_, later⟩
      · exact ⟨0, t, x, rfl, rfl, here⟩
      · obtain ⟨i, u, y, hu, hy, called⟩ := ih later
        exact ⟨i + 1, u, y, hu, hy, called⟩

theorem exists_of_mem_calls_dispatch {ts : List Descriptor} {v : Value}
    (h : c ∈ (dispatch host ts v).trace) : ∃ t ∈ ts, c ∈ (t.check host v).trace := by
  induction ts with
  | nil => cases h
  | cons t ts ih =>
    rw [dispatch, Traced.mem_trace_bind] at h
    rcases h with here | ⟨passed, _, h⟩
    · exact ⟨t, List.mem_cons_self, here⟩
    · cases passed with
      | true => cases h
      | false =>
        rcases Traced.mem_trace_bind.1 h with later | ⟨place, _, ⟨⟩⟩
        obtain ⟨u, hu, called⟩ := ih later
        exact ⟨u, List.mem_cons_of_mem _ hu, called⟩

end Descriptor

/-- A text is as its node wants it, as far as can be told without the format. -/
structure Ready (entries : List (String × Value)) (s : String) : Prop where
  least : ∀ limit, entries.lookup "minLength" = some limit →
    (Value.int s.length).compare .atLeast limit = .ok true
  most : ∀ limit, entries.lookup "maxLength" = some limit →
    (Value.int s.length).compare .atMost limit = .ok true
  pattern : ∀ given, entries.lookup "pattern" = some given →
    ∃ source p, given = .text source ∧ Pattern.ofSource source = .ok p ∧ p.occursIn s = true

/-- The call that a node makes for a value: of the function that the registry holds for its format,
with the value, once this is known to be a text that is ready. -/
structure Due (formats : Registry) (entries : List (String × Value)) (v : Value) (c : Call) :
    Prop where
  plain : entries.lookup "enum" = none
  ready : ∃ s, v = .text s ∧ Ready entries s
  asked : ∃ name, entries.lookup "format" = some name ∧ formats.get name = .ok c.handle
  argument : c.argument = v

/-- A schema and a value come down to a node of the schema and what the value has in its place. -/
inductive Faces : Value → Value → Value → Value → Prop where
  | here (s v : Value) : Faces s v s v
  | property {entries properties given : List (String × Value)} {key : String} {s x n w : Value}
      (kind : .object ∈ Node.kindsOf entries)
      (schemas : entries.lookup "properties" = some (.object properties))
      (mem : (key, s) ∈ properties) (held : given.lookup key = some x) (below : Faces s x n w) :
      Faces (.object entries) (.object given) n w
  | item {entries item : List (String × Value)} {v x n w : Value} {held : List Value}
      (kind : .array ∈ Node.kindsOf entries)
      (schema : entries.lookup "items" = some (.object item)) (items : v.items? = some held)
      (mem : x ∈ held) (below : Faces (.object item) x n w) : Faces (.object entries) v n w
  | position {entries : List (String × Value)} {v s x n w : Value} {schemas held : List Value}
      {i : Nat} (kind : .array ∈ Node.kindsOf entries)
      (given : entries.lookup "items" = some (.list schemas)) (items : v.items? = some held)
      (schema : schemas[i]? = some s) (item : held[i]? = some x) (below : Faces s x n w) :
      Faces (.object entries) v n w

namespace Node

variable {formats : Registry} {host : Host} {n : Node} {entries : List (String × Value)} {v : Value}
  {c : Call} {P : Value → Descriptor → Prop}

theorem forall_leaf {keyword : String} {make : Value → Predicate} {P : Predicate → Prop} :
    (∀ p ∈ n.leaf keyword make, P p) ↔ ∀ v, n.get? keyword = some v → P (make v) := by
  simp [leaf, Option.mem_toList]

theorem forall_readLeaf {keyword : String} {make : Value → Except Error Predicate}
    {ps : List Predicate} {P : Predicate → Prop} (read : n.readLeaf keyword make = .ok ps) :
    (∀ p ∈ ps, P p) ↔ ∀ v, n.get? keyword = some v → ∃ p, make v = .ok p ∧ P p := by
  rcases readLeaf_ok.1 read with ⟨absent, rfl⟩ | ⟨v, p, given, made, rfl⟩
  · simp [absent]
  · simp [given, made]

/-- The constraints of a text other than its format. -/
def readyLeaves (n : Node) (patterns : List Predicate) : List Predicate :=
  n.leaf "minLength" .minLength ++ n.leaf "maxLength" .maxLength ++ patterns

theorem silent_readyLeaves {patterns : List Predicate} {s : String}
    (read : n.readLeaf "pattern" n.pattern = .ok patterns) :
    ∀ p ∈ n.readyLeaves patterns, (p.check host (.text s)).trace = [] := by
  intro p hp
  rcases List.mem_append.1 hp with hp | hp
  · rcases List.mem_append.1 hp with hp | hp
    all_goals
      obtain ⟨limit, rfl⟩ := mem_leaf hp
      rfl
  · rcases readLeaf_ok.1 read with ⟨_, rfl⟩ | ⟨given, q, _, made, rfl⟩
    · cases hp
    · obtain rfl := List.mem_singleton.1 hp
      obtain ⟨source, q, _, _, rfl⟩ := pattern_ok.1 made
      rfl

theorem ready_iff {patterns : List Predicate} {s : String}
    (read : (ofEntries formats entries).readLeaf "pattern" (ofEntries formats entries).pattern =
      .ok patterns) :
    (∀ p ∈ (ofEntries formats entries).readyLeaves patterns,
      (p.check host (.text s)).outcome = .ok true) ↔ Ready entries s := by
  have searched : ∀ given, (∃ p, (ofEntries formats entries).pattern given = .ok p ∧
      (p.check host (.text s)).outcome = .ok true) ↔
      ∃ source q, given = .text source ∧ Pattern.ofSource source = .ok q ∧ q.occursIn s = true := by
    intro given
    constructor
    · intro h
      obtain ⟨p, made, passed⟩ := h
      obtain ⟨source, q, rfl, read, rfl⟩ := pattern_ok.1 made
      exact ⟨source, q, rfl, read, Except.ok.inj passed⟩
    · intro h
      obtain ⟨source, q, rfl, read, found⟩ := h
      exact ⟨.pattern q, pattern_ok.2 ⟨source, q, rfl, read, rfl⟩, congrArg Except.ok found⟩
  rw [readyLeaves, List.forall_mem_append, List.forall_mem_append, forall_leaf, forall_leaf,
    forall_readLeaf read]
  simp only [searched]
  constructor
  · intro h
    obtain ⟨⟨least, most⟩, pattern⟩ := h
    exact ⟨least, most, pattern⟩
  · intro ready
    exact ⟨⟨ready.least, ready.most⟩, ready.pattern⟩

theorem mem_calls_format {names : List Predicate}
    (read : n.readLeaf "format" (format formats) = .ok names) :
    c ∈ (Traced.all (fun p => p.check host v) names).trace ↔
      (∃ name, n.get? "format" = some name ∧ formats.get name = .ok c.handle) ∧ c.argument = v := by
  rcases readLeaf_ok.1 read with ⟨absent, rfl⟩ | ⟨name, p, given, made, rfl⟩
  · rw [absent]
    constructor
    · nofun
    · nofun
  · obtain ⟨handle, found, ⟨⟩⟩ := except_bind_ok.1 made
    have called : c ∈ (Traced.all (fun p => p.check host v)
        [Predicate.format name (.function handle)]).trace ↔ c = ⟨handle, v⟩ := by
      rw [Traced.all_cons]
      show c ∈ (Traced.andThen _ (pure true)).trace ↔ _
      rw [Traced.andThen_true, Predicate.check, Traced.map_trace]
      exact List.mem_singleton
    rw [called, given]
    obtain ⟨other, argument⟩ := c
    constructor
    · intro eq
      cases eq
      exact ⟨⟨name, rfl, found⟩, rfl⟩
    · intro h
      obtain ⟨⟨_, ⟨⟩, found'⟩, rfl⟩ := h
      cases found.symm.trans found'
      rfl

theorem mem_calls_constrained {kind : Kind} {ps : List Predicate} :
    c ∈ (((Descriptor.primitive kind).constrained ps).check host v).trace ↔
      kind.accepts v = true ∧ c ∈ (Traced.all (fun p => p.check host v) ps).trace := by
  rw [Descriptor.check_constrained, Descriptor.check, Traced.mem_trace_andThen,
    Traced.pure_trace, or_iff_right List.not_mem_nil, Traced.pure_outcome, Except.ok.injEq]

theorem mem_calls_text {ps : List Predicate} (plain : entries.lookup "enum" = none)
    (leaves : (ofEntries formats entries).textLeaves formats = .ok ps) :
    c ∈ (((Descriptor.primitive .string).constrained ps).check host v).trace ↔
      Due formats entries v c := by
  obtain ⟨patterns, names, readPatterns, readNames, rfl⟩ := textLeaves_ok.1 leaves
  rw [mem_calls_constrained, ← readyLeaves]
  cases v with
  | text s =>
    rw [Traced.mem_trace_all_append (silent_readyLeaves readPatterns), ready_iff readPatterns,
      mem_calls_format readNames]
    constructor
    · intro h
      obtain ⟨_, ready, asked, argument⟩ := h
      exact ⟨plain, ⟨s, rfl, ready⟩, asked, argument⟩
    · intro due
      obtain ⟨_, ⟨_, ⟨⟩, ready⟩, asked, argument⟩ := due
      exact ⟨rfl, ready, asked, argument⟩
  | _ =>
    constructor
    · nofun
    · intro due
      obtain ⟨_, ⟨_, ⟨⟩, _⟩, _⟩ := due

theorem mem_calls_asText {t : Descriptor}
    (yields : (ofEntries formats entries).KindYields formats P .string t) :
    c ∈ (t.check host v).trace ↔ Due formats entries v c := by
  cases yields with
  | enumeration _ given =>
    constructor
    · nofun
    · intro due
      cases given.symm.trans due.plain
  | string plain leaves => exact mem_calls_text plain leaves

/-- An optional field lets null pass, and checks the rest as what it is if there. -/
theorem mem_calls_field {names : List Value} {key : String} {t : Descriptor} :
    c ∈ ((field names key t).2.check host v).trace → c ∈ (t.check host v).trace := by
  refine field_elim (P := fun u => c ∈ (u.check host v).trace → _) id fun called => ?_
  rw [Descriptor.check] at called
  split at called
  · cases called
  · exact called

theorem silent_numberLeaves {p : Predicate}
    (hp : p ∈ n.boundLeaves ++ n.flagged "integer" .whole) : (p.check host v).trace = [] := by
  simp only [boundLeaves, List.mem_append] at hp
  rcases hp with (hp | hp) | hp
  · obtain ⟨limit, rfl⟩ := mem_leaf hp
    rfl
  · obtain ⟨limit, rfl⟩ := mem_leaf hp
    rfl
  · rw [mem_flagged hp]
    rfl

theorem silent_countLeaves {p : Predicate} (hp : p ∈ n.countLeaves) :
    (p.check host v).trace = [] := by
  simp only [countLeaves, List.mem_append] at hp
  rcases hp with (hp | hp) | hp
  · obtain ⟨limit, rfl⟩ := mem_leaf hp
    rfl
  · obtain ⟨limit, rfl⟩ := mem_leaf hp
    rfl
  · rw [mem_flagged hp]
    rfl

end Node

/-- The call is due to a node that has the argument in its place. -/
inductive Placed (formats : Registry) (s v : Value) (c : Call) : Prop where
  | node {entries : List (String × Value)} {w : Value} (faces : Faces s v (.object entries) w)
      (kind : .string ∈ Node.kindsOf entries) (due : Due formats entries w c) :
      Placed formats s v c

/-- All calls of the type are due to nodes of the schema. -/
def CallsPlaced (formats : Registry) (s : Value) (t : Descriptor) : Prop :=
  ∀ host v, ∀ c ∈ (t.check host v).trace, Placed formats s v c

section

variable {formats : Registry} {host : Host} {entries : List (String × Value)} {v : Value} {c : Call}

theorem placed_object {properties : List (String × Value)} {types : List (String × Descriptor)}
    {names : List Value} {name : Value} (kind : .object ∈ Node.kindsOf entries)
    (given : entries.lookup "properties" = some (.object properties))
    (parts : List.Forall₂ (fun p f => f.1 = p.1 ∧ CallsPlaced formats p.2 f.2) properties types)
    (called : c ∈ ((Descriptor.struct (types.map fun f => Node.field names f.1 f.2) name).check
      host v).trace) : Placed formats (.object entries) v c := by
  cases v with
  | object held =>
    rw [Descriptor.check] at called
    obtain ⟨_, mapped, x, found, called⟩ := Descriptor.exists_of_mem_calls_fields called
    obtain ⟨f, hf, rfl⟩ := List.mem_map.1 mapped
    obtain ⟨⟨key, s⟩, hp, same, placed⟩ := exists_of_mem_forall₂ parts hf
    rw [Node.key_field, same] at found
    obtain ⟨faces, text, due⟩ := placed host x c (Node.mem_calls_field called)
    exact .node (.property kind given hp found faces) text due
  | _ => cases called

theorem placed_array {base : Descriptor} (kind : .array ∈ Node.kindsOf entries)
    (yields : (Node.ofEntries formats entries).ItemsYield (CallsPlaced formats) base)
    (called : c ∈ (base.check host v).trace) : Placed formats (.object entries) v c := by
  cases yields with
  | absent => cases called
  | each given part =>
    rw [Descriptor.check] at called
    split at called
    · rename_i held items
      obtain ⟨x, hx, called⟩ := Traced.exists_of_mem_trace_all called
      obtain ⟨faces, text, due⟩ := part host x c called
      exact .node (.item kind given items hx faces) text due
    · cases called
  | positions given parts =>
    rw [Descriptor.check] at called
    split at called
    · rename_i held items
      split at called
      · obtain ⟨i, t, x, ht, hx, called⟩ := Descriptor.exists_of_mem_calls_each called
        obtain ⟨s, hs, placed⟩ := exists_getElem?_of_forall₂ parts ht
        obtain ⟨faces, text, due⟩ := placed host x c called
        exact .node (.position kind given items hs hx faces) text due
      · cases called
    · cases called

theorem placed_asKind {kind : Kind} {t : Descriptor} (named : kind ∈ Node.kindsOf entries)
    (yields : (Node.ofEntries formats entries).KindYields formats (CallsPlaced formats) kind t)
    (called : c ∈ (t.check host v).trace) : Placed formats (.object entries) v c := by
  cases yields with
  | null | boolean | enumeration | object => cases called
  | string plain leaves =>
    have due := (Node.mem_calls_text plain leaves).1 called
    exact .node (.here _ v) named due
  | number =>
    obtain ⟨_, called⟩ := Node.mem_calls_constrained.1 called
    exact absurd called (Traced.not_mem_trace_all fun p hp => Node.silent_numberLeaves hp)
  | integer =>
    obtain ⟨_, called⟩ := Node.mem_calls_constrained.1 called
    refine absurd called (Traced.not_mem_trace_all fun p hp => ?_)
    exact Node.silent_numberLeaves (List.mem_append_left _ hp)
  | struct given _ _ parts => exact placed_object named given parts called
  | array yields =>
    rw [Descriptor.check_constrained, Traced.mem_trace_andThen] at called
    rcases called with called | ⟨_, called⟩
    · exact placed_array named yields called
    · exact absurd called (Traced.not_mem_trace_all fun p hp => Node.silent_countLeaves hp)

theorem placed_node {t : Descriptor}
    (yields : (Node.ofEntries formats entries).Yields formats (CallsPlaced formats) t) :
    CallsPlaced formats (.object entries) t := by
  intro host v c called
  cases yields with
  | untyped => cases called
  | single given part =>
    rw [Node.ofEntries_get?] at given
    exact placed_asKind (by simp [Node.kindsOf_single given]) part called
  | several _ given parts =>
    rw [Node.ofEntries_get?] at given
    rw [Descriptor.check, Traced.map_trace] at called
    obtain ⟨u, hu, called⟩ := Descriptor.exists_of_mem_calls_dispatch called
    obtain ⟨kind, hk, part⟩ := exists_of_mem_forall₂ parts hu
    refine placed_asKind ?_ part called
    rwa [Node.kindsOf_several given]

end

/-- Each call that a check makes is due to a node of the schema, and stands in the value where the
node stands in the schema. As a text, a node makes the calls that are due to it, and no others. -/
theorem calls_are_due {formats : Registry} {s : Value} {t : Descriptor}
    (h : (compile formats s).outcome = .ok t) :
    (∀ (host : Host) (v : Value), ∀ c ∈ (t.check host v).trace, ∃ entries w,
      Faces s v (.object entries) w ∧ .string ∈ Node.kindsOf entries ∧ Due formats entries w c) ∧
    ∀ entries u, ((Node.ofEntries formats entries).asKind formats .string).outcome = .ok u →
      ∀ (host : Host) (w : Value) (c : Call),
        c ∈ (u.check host w).trace ↔ Due formats entries w c := by
  have placed : CallsPlaced formats s t := by
    refine compiles_induct (fun entries t yields => placed_node ?_) h
    exact yields.imp fun s u _ part => part.2
  constructor
  · intro host v c called
    obtain ⟨faces, kind, due⟩ := placed host v c called
    exact ⟨_, _, faces, kind, due⟩
  · intro entries u yielded host w c
    exact Node.mem_calls_asText (Node.asKind_ok.1 yielded)

/-- Of the items only the first is a text that is long enough. The call for it is due to the node of
the items, and no call is due to that node for the last item. -/
theorem calls_are_due_tags :
    let formats : Registry := ⟨[(.text "code", "isCode")]⟩
    let tag : List (String × Value) := [("type", .list [.text "string", .text "integer"]),
      ("minLength", .int 2), ("format", .text "code")]
    let s : Value := .object [("type", .text "array"), ("items", .object tag)]
    let text : Descriptor := .refined (.primitive .string)
      (.both (.minLength (.int 2)) (.format (.text "code") (.function "isCode")))
    let t : Descriptor := .list (.union [text, .primitive .integer])
    let host : Host := fun _ _ => .ok (.bool true)
    let v : Value := .list [.text "ab", .int 7, .text "a"]
    (compile formats s).outcome = .ok t ∧
      t.check host v = ⟨[⟨"isCode", .text "ab"⟩], .ok false⟩ ∧
      (∃ entries w, Faces s v (.object entries) w ∧ .string ∈ Node.kindsOf entries ∧
        Due formats entries w ⟨"isCode", .text "ab"⟩) ∧
      ¬Due formats tag (.text "a") ⟨"isCode", .text "a"⟩ := by
  intro formats tag s text t host v
  have compiled : (compile formats s).outcome = .ok t := rfl
  have checked : t.check host v = ⟨[⟨"isCode", .text "ab"⟩], .ok false⟩ := rfl
  obtain ⟨placed, complete⟩ := calls_are_due compiled
  refine ⟨compiled, checked, placed host v _ ?_, fun due => ?_⟩
  · rw [checked]
    exact List.mem_singleton_self _
  · have called := (complete tag text rfl host (.text "a") _).2 due
    cases called

end Conform
