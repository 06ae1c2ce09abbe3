import Conform.Proofs.Registries
import Conform.Proofs.Yields

namespace Conform

/-- The value is given under this key by some object inside the other value, or by that value. -/
inductive GivenIn (key : String) (x : Value) : Value → Prop where
  | here {entries : List (String × Value)} (given : entries.lookup key = some x) :
      GivenIn key x (.object entries)
  | entry {entries : List (String × Value)} {entry : String × Value} (mem : entry ∈ entries)
      (below : GivenIn key x entry.2) : GivenIn key x (.object entries)
  | list {items : List Value} {v : Value} (mem : v ∈ items) (below : GivenIn key x v) :
      GivenIn key x (.list items)
  | tuple {items : List Value} {v : Value} (mem : v ∈ items) (below : GivenIn key x v) :
      GivenIn key x (.tuple items)

theorem GivenIn.of_part {key : String} {x : Value} {entries : List (String × Value)} {s : Value}
    (part : Part entries s) (h : GivenIn key x s) : GivenIn key x (.object entries) := by
  cases part with
  | property given mem => exact .entry (Entries.mem_of_lookup given) (.entry mem h)
  | item given => exact .entry (Entries.mem_of_lookup given) h
  | position given mem => exact .entry (Entries.mem_of_lookup given) (.list mem h)

section

variable {r r' : Registry}

theorem Registry.get_congr {name : Value}
    (same : name.hashable = .ok () → r.find? name = r'.find? name) : r.get name = r'.get name := by
  unfold get
  cases hashed : name.hashable with
  | error f => rfl
  | ok _ => rw [same hashed]

namespace Node

variable {n : Node}

theorem string_congr (same : ∀ name, n.get? "format" = some name → r.get name = r'.get name) :
    n.string r = n.string r' := by
  have added : n.adding "format" (format r) = n.adding "format" (format r') := by
    funext gathered
    unfold adding
    cases given : n.get? "format" with
    | none => rfl
    | some name =>
      simp only [format, same name given]
  unfold string
  rw [added]

/-- Only the formats of texts are looked up. -/
theorem compile_congr (same : ∀ name, n.get? "format" = some name → r.get name = r'.get name) :
    Node.compile r n = Node.compile r' n := by
  have each : n.asKind r = n.asKind r' := by
    funext kind
    cases kind with
    | string => rw [asKind, asKind, string_congr same]
    | _ => rfl
  unfold Node.compile
  rw [each]

end Node

theorem compileFields_congr {properties : List (String × Value)}
    (each : ∀ p ∈ properties, compile r p.2 = compile r' p.2) :
    compileFields r properties = compileFields r' properties := by
  induction properties with
  | nil => rfl
  | cons p rest ih =>
    obtain ⟨first, later⟩ := List.forall_mem_cons.1 each
    rw [compileFields, compileFields, first, ih later]

theorem compileAll_congr {schemas : List Value}
    (each : ∀ s ∈ schemas, compile r s = compile r' s) :
    compileAll r schemas = compileAll r' schemas := by
  induction schemas with
  | nil => rfl
  | cons s rest ih =>
    obtain ⟨first, later⟩ := List.forall_mem_cons.1 each
    rw [compileAll, compileAll, first, ih later]

theorem Node.ofEntries_congr {entries : List (String × Value)}
    (parts : ∀ s, Part entries s → Conform.compile r s = Conform.compile r' s) :
    ofEntries r entries = ofEntries r' entries := by
  have properties : (ofEntries r entries).properties = (ofEntries r' entries).properties := by
    rw [ofEntries_properties, ofEntries_properties]
    split
    · rename_i given
      exact compileFields_congr fun p hp => parts p.2 (.property given hp)
    · rfl
  have items : (ofEntries r entries).items = (ofEntries r' entries).items := by
    rw [ofEntries_items, ofEntries_items]
    split
    · rename_i given
      rw [parts _ (.item given)]
    · rename_i given
      rw [compileAll_congr fun s hs => parts s (.position given hs)]
    · rfl
  exact congrArg₂ (Node.mk entries) properties items

/-- The names that the schema gives as formats are all that it looks up. -/
theorem compile_congr {s : Value} (same : ∀ name, GivenIn "format" name s →
    name.hashable = .ok () → r.find? name = r'.find? name) : compile r s = compile r' s := by
  induction s using schema_induct with
  | other v none =>
    cases v with
    | object entries => exact absurd rfl (none entries)
    | _ => rfl
  | node entries ih =>
    have parts : ∀ s, Part entries s → compile r s = compile r' s := fun s part =>
      ih s part fun name below => same name (below.of_part part)
    show Node.compile r (Node.ofEntries r entries) = Node.compile r' (Node.ofEntries r' entries)
    rw [Node.ofEntries_congr parts]
    exact Node.compile_congr fun name given => Registry.get_congr (same name (.here given))

/-- Whatever is found in the first registry is found in the second. -/
def Registry.Extends (r r' : Registry) : Prop :=
  ∀ name handle, r.find? name = some handle → r'.find? name = some handle

theorem Node.textLeaves_mono {n : Node} {ps : List Predicate} (more : r.Extends r')
    (h : n.textLeaves r = .ok ps) : n.textLeaves r' = .ok ps := by
  obtain ⟨patterns, names, hp, hn, rfl⟩ := textLeaves_ok.1 h
  have found : n.readLeaf "format" (format r') = .ok names := by
    rcases readLeaf_ok.1 hn with absent | ⟨v, p, given, made, rfl⟩
    · exact readLeaf_ok.2 (.inl absent)
    · obtain ⟨hashed, handle, found, rfl⟩ := format_ok.1 made
      have made' := format_ok.2 ⟨hashed, handle, more v handle found, rfl⟩
      exact readLeaf_ok.2 (.inr ⟨v, _, given, made', rfl⟩)
  exact textLeaves_ok.2 ⟨patterns, names, hp, found, rfl⟩

/-- What the parts of a node yield is told apart from the node, so its keywords are all that counts.
-/
theorem Node.kindYields_mono {n n' : Node} {P : Value → Descriptor → Prop} {kind : Kind}
    {t : Descriptor} (more : r.Extends r') (same : n'.entries = n.entries)
    (y : n.KindYields r P kind t) : n'.KindYields r' P kind t := by
  obtain ⟨entries, properties, items⟩ := n
  obtain ⟨entries', properties', items'⟩ := n'
  obtain rfl : entries' = entries := same
  cases y with
  | null => exact .null
  | boolean => exact .boolean
  | enumeration kinds given pairs => exact .enumeration kinds given pairs
  | string plain leaves => exact .string plain (textLeaves_mono more leaves)
  | number plain => exact .number plain
  | integer plain => exact .integer plain
  | object bare => exact .object bare
  | struct given inhabited needed parts => exact .struct given inhabited needed parts
  | array items =>
    cases items with
    | absent given => exact .array (.absent given)
    | each given part => exact .array (.each given part)
    | positions given parts => exact .array (.positions given parts)

theorem Node.yields_mono {n n' : Node} {P : Value → Descriptor → Prop} {t : Descriptor}
    (more : r.Extends r') (same : n'.entries = n.entries) (y : n.Yields r P t) :
    n'.Yields r' P t := by
  have given_eq : n'.get? "type" = n.get? "type" := by rw [get?, get?, same]
  cases y with
  | untyped given => exact .untyped (given_eq.trans given)
  | single given part => exact .single (given_eq.trans given) (kindYields_mono more same part)
  | several inhabited given parts =>
    have parts' := parts.imp fun _ _ part => kindYields_mono more same part
    exact .several inhabited (given_eq.trans given) parts'

theorem compiles_mono (more : r.Extends r') {s : Value} {t : Descriptor} (h : Compiles r s t) :
    Compiles r' s t := by
  refine compiles_induct (Q := fun s t => Compiles r' s t) (fun entries t yields => ?_) h
  have parts := yields.imp fun _ _ _ part => part.2
  have same : (Node.ofEntries r' entries).entries = (Node.ofEntries r entries).entries := rfl
  exact compiles_object.2 (Node.yields_mono more same parts)

end

namespace Workspace

variable {w : Workspace}

theorem extends_step {operation : Operation} {i : Nat} (unreset : operation ≠ .reset i) :
    (w.registry i).Extends ((w.step operation).1.registry i) := by
  intro name handle found
  by_cases opened : i < w.registries.length
  · have change := turn w operation (Nat.lt_of_lt_of_le opened (length_le_step w operation))
    generalize (w.step operation).1.registry i = r at change ⊢
    cases change with
    | kept => exact found
    | opened _ new => omega
    | reset _ asked => exact absurd asked unreset
    | added =>
      simp only [Registry.find?, Option.map_eq_some_iff] at found ⊢
      obtain ⟨f, found, rfl⟩ := found
      exact ⟨f, by simp [List.find?_append, found], rfl⟩
  · rw [registry_of_le (Nat.le_of_not_lt opened)] at found
    cases found

/-- Unless a registry is reset, what is found in it stays there in any run. -/
theorem extends_run {operations : List Operation} {i : Nat}
    (unreset : ∀ operation ∈ operations, operation ≠ .reset i) :
    (w.registry i).Extends ((w.run operations).1.registry i) := by
  induction operations generalizing w with
  | nil => exact fun _ _ found => found
  | cons operation later ih =>
    obtain ⟨first, rest⟩ := List.forall_mem_cons.1 unreset
    intro name handle found
    exact ih rest name handle (extends_step first name handle found)

end Workspace

/-- Registries that agree on the formats given in a schema compile it alike; and once it compiles,
it keeps its type whatever is registered besides, and whatever is done to other registries. -/
theorem compile_by_given_formats (s : Value) :
    (∀ r r' : Registry, (∀ name, GivenIn "format" name s → name.hashable = .ok () →
      r.find? name = r'.find? name) → compile r s = compile r' s) ∧
    ∀ (w : Workspace) (i : Nat) (t : Descriptor) (operations : List Operation),
      (w.transform i s).outcome = .ok t → (∀ operation ∈ operations, operation ≠ .reset i) →
        ((w.run operations).1.transform i s).outcome = .ok t := by
  constructor
  · intro r r' same
    exact compile_congr same
  · intro w i t operations compiled unreset
    exact compiles_mono (Workspace.extends_run unreset) compiled

/-- Another name beside the one that is given, and the shared registry reset. -/
theorem compile_by_given_formats_code :
    let s : Value := .object [("type", .text "string"), ("format", .text "code")]
    let r : Registry := ⟨[(.text "code", "isCode")]⟩
    let r' : Registry := ⟨[(.text "date", "isDate"), (.text "code", "isCode")]⟩
    let t : Descriptor :=
      .refined (.primitive .string) (.format (.text "code") (.function "isCode"))
    let w : Workspace := ⟨[r', r], false⟩
    let operations : List Operation :=
      [.register 1 (.text "date") (.function "isDate"), .reset 0]
    (∀ name, GivenIn "format" name s → name.hashable = .ok () → r.find? name = r'.find? name) ∧
      compile r s = compile r' s ∧ (w.transform 1 s).outcome = .ok t ∧
      ((w.run operations).1.transform 1 s).outcome = .ok t := by
  intro s r r' t w operations
  obtain ⟨alike, kept⟩ := compile_by_given_formats s
  have same : ∀ name, GivenIn "format" name s → name.hashable = .ok () →
      r.find? name = r'.find? name := by
    intro name given _
    simp only [s] at given
    cases given with
    | here found =>
      cases found
      rfl
    | entry mem below =>
      simp only [List.mem_cons, List.not_mem_nil, or_false] at mem
      rcases mem with rfl | rfl <;> cases below
  have compiled : (w.transform 1 s).outcome = .ok t := rfl
  have unreset : ∀ operation ∈ operations, operation ≠ .reset 1 := by simp [operations]
  exact ⟨same, alike r r' same, compiled, kept w 1 t operations compiled unreset⟩

end Conform
