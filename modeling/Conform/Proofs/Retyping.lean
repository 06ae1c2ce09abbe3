import Conform.Proofs.Failures
import Conform.Proofs.Grammar

namespace Conform

/-- The same error, but what was laid to the first value is laid to the second. -/
inductive Moved (n n' : Value) : Error → Error → Prop where
  | enumLengthMismatch : Moved n n' (.enumLengthMismatch n) (.enumLengthMismatch n')
  | unsupportedSchema (reason : Option Reason) :
      Moved n n' (.unsupportedSchema n reason) (.unsupportedSchema n' reason)
  | other {e : Error} (elsewhere : e.node? ≠ some n) : Moved n n' e e

/-- Only an unsupported schema is written out in full. -/
theorem Moved.message {n n' : Value} {e e' : Error} (moved : Moved n n' e e')
    (values : Error.under n' "enum" = Error.under n "enum")
    (labels : Error.under n' "enumNames" = Error.under n "enumNames")
    (told : ∀ reason, e ≠ .unsupportedSchema n reason) : e'.message = e.message := by
  cases moved with
  | enumLengthMismatch => simp only [Error.message, Error.detail, Error.code?, labels, values]
  | unsupportedSchema reason => exact absurd rfl (told reason)
  | other => rfl

/-- The same result, or an error that is moved. -/
abbrev Moves {α : Type} (n n' : Value) : Except Error α → Except Error α → Prop :=
  Follows (Moved n n')

namespace Moves

variable {α : Type} {n n' : Value}

theorem same {x : Except Error α} (elsewhere : ∀ e, x = .error e → e.node? ≠ some n) :
    Moves n n' x x := by
  cases x with
  | ok a => exact .ok a
  | error e => exact .error (.other (elsewhere e rfl))

end Moves

/-- Nodes that can be written alike are refused alike. -/
theorem moved_unsupportedSchema {n n' : Value} (alike : n'.Writable ↔ n.Writable)
    (reason : Option Reason) : Moved n n' (.raised (.unsupportedSchema n reason))
      (.raised (.unsupportedSchema n' reason)) := by
  by_cases writable : n.Writable
  · rw [(Error.raised_unsupportedSchema _ _).1 writable,
      (Error.raised_unsupportedSchema _ _).1 (alike.2 writable)]
    exact .unsupportedSchema reason
  · rw [(Error.raised_unsupportedSchema _ _).2 writable,
      (Error.raised_unsupportedSchema _ _).2 (mt alike.1 writable)]
    exact .other (by rintro ⟨⟩)

/-- Only members and labels are written where their numbers differ. -/
theorem raised_enumLengthMismatch {n n' : Value} (members : n'.get? "enum" = n.get? "enum")
    (labels : n'.get? "enumNames" = n.get? "enumNames") :
    (Error.raised (.enumLengthMismatch n) = .enumLengthMismatch n ∧
        Error.raised (.enumLengthMismatch n') = .enumLengthMismatch n') ∨
      Error.raised (.enumLengthMismatch n) = .fault .numberTooLong ∧
        Error.raised (.enumLengthMismatch n') = .fault .numberTooLong := by
  have same : (Error.enumLengthMismatch n').Writable ↔ (Error.enumLengthMismatch n).Writable := by
    simp [Error.Writable, members, labels]
  by_cases writable : (Error.enumLengthMismatch n).Writable
  · exact .inl ⟨Error.raised_of_writable rfl writable,
      Error.raised_of_writable rfl (same.2 writable)⟩
  · exact .inr ⟨Error.raised_of_overlong rfl writable,
      Error.raised_of_overlong rfl (mt same.1 writable)⟩

theorem moved_enumLengthMismatch {n n' : Value} (members : n'.get? "enum" = n.get? "enum")
    (labels : n'.get? "enumNames" = n.get? "enumNames") :
    Moved n n' (.raised (.enumLengthMismatch n)) (.raised (.enumLengthMismatch n')) := by
  rcases raised_enumLengthMismatch members labels with ⟨eq, eq'⟩ | ⟨eq, eq'⟩
  · rw [eq, eq']
    exact .enumLengthMismatch
  · rw [eq, eq']
    exact .other (by rintro ⟨⟩)

/-- What two nodes are refused for is related, and so is any error to itself that is laid to no
node. -/
structure Refuses (R : Error → Error → Prop) (n n' : Value) : Prop where
  unsupported : ∀ reason,
    R (.raised (.unsupportedSchema n reason)) (.raised (.unsupportedSchema n' reason))
  mismatched : n'.get? "enum" = n.get? "enum" → n'.get? "enumNames" = n.get? "enumNames" →
    R (.raised (.enumLengthMismatch n)) (.raised (.enumLengthMismatch n'))
  other : ∀ e : Error, e.node? = none → R e e

theorem refuses_moved {n n' : Value} (alike : n'.Writable ↔ n.Writable) :
    Refuses (Moved n n') n n' where
  unsupported := moved_unsupportedSchema alike
  mismatched := moved_enumLengthMismatch
  other e unlaid := .other (by simp [unlaid])

/-- A part is too small to hold the node that it is a part of, so its errors are not the node's. -/
theorem Part.elsewhere {r : Registry} {entries : List (String × Value)} {s : Value} {e : Error}
    (part : Part entries s) (h : (compile r s).outcome = .error e) :
    e.node? ≠ some (.object entries) := by
  intro carried
  obtain ⟨n, reached, _, faulted⟩ := exists_faulted h
  have small := reached.sizeOf_le
  rw [faulted.node carried] at small
  have large := part.sizeOf_lt
  omega

/-- The keywords of a kind. The bounds come first for a number, as they are those of an integer. -/
def Kind.keywords : Kind → List String
  | .null | .boolean => []
  | .string => ["minLength", "maxLength", "pattern", "format"]
  | .number => ["minimum", "maximum", "exclusiveMinimum", "exclusiveMaximum"] ++ ["integer"]
  | .integer => ["minimum", "maximum", "exclusiveMinimum", "exclusiveMaximum"]
  | .object => ["properties", "required", "description"]
  | .array => ["items", "minItems", "maxItems", "uniqueItems"]

/-- What a kind reads of a node with these members, or with none. If a text or a number has members,
they and their labels are all that is read. -/
def Kind.reads (members : Option Value) (kind : Kind) : List String :=
  if kind.enumerable then
    "enum" :: if members.isSome then ["enumNames"] else kind.keywords
  else kind.keywords

theorem Kind.type_unread {members : Option Value} {kind : Kind} : "type" ∉ kind.reads members := by
  unfold reads
  cases members.isSome <;> cases kind <;> decide

namespace Node

variable {r : Registry} {entries : List (String × Value)} {e : Error}

theorem properties_elsewhere (h : (ofEntries r entries).properties.outcome = .error e) :
    e.node? ≠ some (.object entries) := by
  rw [ofEntries_properties] at h
  split at h
  · rename_i properties given
    obtain ⟨before, key, s, after, rfl, _, failed⟩ := compileFields_error h
    have part : Part entries s := .property given List.mem_append_cons_self
    exact part.elsewhere failed
  · cases h

theorem items_elsewhere {items : Compile Descriptor} (found : (ofEntries r entries).items = some items)
    (h : items.outcome = .error e) : e.node? ≠ some (.object entries) := by
  rw [ofEntries_items] at found
  split at found
  · rename_i item given
    cases found
    have part : Part entries (.object item) := .item given
    exact part.elsewhere (Traced.map_outcome_error.1 h)
  · rename_i schemas given
    cases found
    rw [Traced.map_outcome_error, compileAll_eq_mapM] at h
    obtain ⟨before, s, after, rfl, _, failed⟩ := Traced.mapM_outcome_error h
    have part : Part entries s := .position given List.mem_append_cons_self
    exact part.elsewhere failed
  · cases found

section

variable {R : Error → Error → Prop} {n n' : Node}

theorem follows_mapError {α : Type} (other : ∀ e : Error, e.node? = none → R e e)
    (x : Except Fault α) : Follows R (x.mapError .fault) (x.mapError .fault) := by
  cases x with
  | ok a => exact .ok a
  | error f => exact .error (other _ rfl)

theorem follows_pattern (refuses : Refuses R n.value n'.value) (source : Value) :
    Follows R (n.pattern source) (n'.pattern source) := by
  unfold pattern
  cases Pattern.ofValue source with
  | ok p => exact .ok _
  | error f =>
    cases f with
    | unread s e =>
      cases e with
      | malformed issue position => exact .error (refuses.unsupported _)
      | _ => exact .error (refuses.other _ rfl)
    | notText | fault => exact .error (refuses.unsupported _)

theorem follows_format (refuses : Refuses R n.value n'.value) (name : Value) :
    Follows R (format r name) (format r name) := by
  cases found : format r name with
  | ok p => exact .ok p
  | error e =>
    refine .error (refuses.other e ?_)
    rcases format_error found with ⟨f, _, rfl⟩ | ⟨_, rfl⟩
    · rfl
    by_cases writable : name.Writable
    · rw [(Error.raised_of_name rfl).1 writable]
      rfl
    · rw [(Error.raised_of_name rfl).2 writable]
      rfl

theorem follows_readLeaf {keyword : String} {make make' : Value → Except Error Predicate}
    (same : n'.get? keyword = n.get? keyword) (each : ∀ v, Follows R (make v) (make' v)) :
    Follows R (n.readLeaf keyword make) (n'.readLeaf keyword make') := by
  rw [readLeaf, readLeaf, same]
  exact .mapM (List.forall₂_same.2 fun v _ => each v)

theorem follows_enumeration
    (mismatched :
      R (.raised (.enumLengthMismatch n.value)) (.raised (.enumLengthMismatch n'.value)))
    (other : ∀ e : Error, e.node? = none → R e e)
    (same : n'.get? "enumNames" = n.get? "enumNames") (values : Value) :
    Follows R (n.enumeration values) (n'.enumeration values) := by
  have faults := fun {α : Type} (x : Except Fault α) => follows_mapError other x
  unfold enumeration
  rw [same]
  cases n.get? "enumNames" with
  | none => exact faults _
  | some names =>
    refine (faults _).bind fun k => (faults _).bind fun l => ?_
    by_cases same : k = l
    · simp only [if_pos same]
      exact (faults _).bind fun members => (faults _).bind fun labels => .ok _
    · simp only [if_neg same]
      exact .error mismatched

theorem follows_textLeaves (refuses : Refuses R n.value n'.value)
    (same : ∀ keyword ∈ Kind.string.keywords, n'.get? keyword = n.get? keyword) :
    Follows R (n.textLeaves r) (n'.textLeaves r) := by
  simp only [Kind.keywords, List.forall_mem_cons] at same
  obtain ⟨least, most, pattern, format, _⟩ := same
  rw [textLeaves, textLeaves, leaf_congr least, leaf_congr most]
  exact (follows_readLeaf pattern (follows_pattern refuses)).bind fun ps =>
    (follows_readLeaf format (follows_format refuses)).bind fun qs => .ok _

theorem follows_enumerable (refuses : Refuses R n.value n'.value) {kind : Kind}
    (enumerable : kind.enumerable = true)
    (same : ∀ keyword ∈ kind.reads (n.get? "enum"), n'.get? keyword = n.get? keyword) :
    Follows R (n.asKind r kind).outcome (n'.asKind r kind).outcome := by
  rw [Kind.reads, if_pos enumerable, List.forall_mem_cons] at same
  obtain ⟨enum, same⟩ := same
  cases given : n.get? "enum" with
  | some values =>
    rw [given] at same
    have labels := same "enumNames" (List.mem_singleton_self _)
    rw [enumerable_outcome given enumerable, enumerable_outcome (enum.trans given) enumerable]
    exact follows_enumeration (refuses.mismatched enum labels) refuses.other labels values
  | none =>
    rw [given] at same
    have given' := enum.trans given
    cases kind with
    | string =>
      simp only [asKind, Traced.lift_outcome, string_eq r given, string_eq r given']
      exact (follows_textLeaves refuses same).map _
    | number =>
      have bounds := boundLeaves_congr fun keyword hk => same keyword (List.mem_append_left _ hk)
      have whole := same "integer" (by simp [Kind.keywords])
      simp only [asKind, Traced.lift_outcome, number_eq given, number_eq given', bounds,
        flagged_congr whole]
      exact .ok _
    | integer =>
      simp only [asKind, Traced.lift_outcome, integer_eq given, integer_eq given',
        boundLeaves_congr same]
      exact .ok _
    | _ => cases enumerable

theorem follows_object (refuses : Refuses R n.value n'.value)
    (required : n'.get? "required" = n.get? "required")
    (description : n'.get? "description" = n.get? "description")
    (given : n'.get? "properties" = n.get? "properties" ∨ ∃ ps ps',
      n.get? "properties" = some (.object ps) ∧ n'.get? "properties" = some (.object ps') ∧
        ps.isEmpty = ps'.isEmpty)
    (parts : Follows R n.properties.outcome n'.properties.outcome) :
    Follows R n.object.outcome n'.object.outcome := by
  have needed : Follows R n.required n'.required := by
    rw [required_congr required]
    cases read : n.required with
    | ok names => exact .ok names
    | error e =>
      obtain ⟨f, _, rfl⟩ := fault_of_required read
      exact .error (refuses.other _ rfl)
  have objects : ∀ ps ps', n.get? "properties" = some (.object ps) →
      n'.get? "properties" = some (.object ps') → ps.isEmpty = ps'.isEmpty →
      Follows R n.object.outcome n'.object.outcome := by
    intro ps ps' given given' sizes
    rw [object, object, given, given', description]
    cases none : ps'.isEmpty with
    | true =>
      simp only [sizes.trans none, none, if_true]
      exact .ok _
    | false =>
      simp only [sizes.trans none, none, Bool.false_eq_true, if_false, Traced.bind_outcome]
      exact needed.bind fun names => parts.bind fun types => .ok _
  rcases given with same | ⟨ps, ps', given, given', sizes⟩
  · cases given : n.get? "properties" with
    | none =>
      rw [object, object, same, given]
      exact .ok _
    | some v =>
      cases v with
      | object ps => exact objects ps ps given (same.trans given) rfl
      | _ =>
        rw [object, object, same, given]
        simp only
        split
        · exact .error (refuses.unsupported _)
        · exact .ok _
  · exact objects ps ps' given given' sizes

theorem follows_array
    (counts : ∀ keyword ∈ ["minItems", "maxItems", "uniqueItems"],
      n'.get? keyword = n.get? keyword)
    (items : Follows R n.itemsType.outcome n'.itemsType.outcome) :
    Follows R n.array.outcome n'.array.outcome := by
  rw [array_eq, array_eq, Traced.map_outcome, Traced.map_outcome, countLeaves_congr counts]
  exact items.map _

end

/-- Two nodes with the same parts, and with the same keywords but for the type. -/
structure Twins (n n' : Node) : Prop where
  get? : ∀ keyword, keyword ≠ "type" → n'.get? keyword = n.get? keyword
  properties : n'.properties = n.properties
  items : n'.items = n.items
  writable : n'.value.Writable ↔ n.value.Writable

theorem Twins.enumerable {n n' : Node} (twins : Twins n n') {kind : Kind}
    (enumerable : kind.enumerable = true) :
    Moves n.value n'.value (n.asKind r kind).outcome (n'.asKind r kind).outcome := by
  refine follows_enumerable (refuses_moved twins.writable) enumerable fun keyword hk =>
    twins.get? keyword ?_
  rintro rfl
  exact Kind.type_unread hk

section

variable {n' : Node} (twins : Twins (ofEntries r entries) n')

include twins

theorem Twins.object : Moves (.object entries) n'.value (ofEntries r entries).object.outcome
    n'.object.outcome := by
  refine follows_object (refuses_moved twins.writable) (twins.get? _ (by decide))
    (twins.get? _ (by decide)) (.inl (twins.get? _ (by decide))) ?_
  rw [twins.properties]
  exact Moves.same fun e failed => properties_elsewhere failed

theorem Twins.array : Moves (.object entries) n'.value (ofEntries r entries).array.outcome
    n'.array.outcome := by
  have other : ∀ keyword ∈ ["minItems", "maxItems", "uniqueItems"], keyword ≠ "type" := by decide
  refine follows_array (fun keyword hk => twins.get? keyword (other keyword hk)) ?_
  unfold itemsType
  rw [twins.get? "items" (by decide), twins.items]
  cases (ofEntries r entries).get? "items" with
  | none => exact .ok _
  | some v =>
    cases found : (ofEntries r entries).items with
    | none => exact .error (moved_unsupportedSchema twins.writable _)
    | some items => exact Moves.same fun e failed => items_elsewhere found failed

theorem Twins.asKind (kind : Kind) : Moves (.object entries) n'.value
    ((ofEntries r entries).asKind r kind).outcome (n'.asKind r kind).outcome := by
  cases kind with
  | null | boolean => exact .ok _
  | string | number | integer => exact twins.enumerable rfl
  | object => exact twins.object
  | array => exact twins.array

end

/-- The same entries with this for a type. -/
def withType (type : Value) (entries : List (String × Value)) : List (String × Value) :=
  Entries.insert "type" type entries

theorem lookup_withType {type : Value} {keyword : String} : (withType type entries).lookup keyword =
    if keyword = "type" then some type else entries.lookup keyword :=
  Entries.lookup_insert

theorem writable_withType {type type' : Value} (h : (Value.object (withType type entries)).Writable)
    (writable : type'.Writable) : (Value.object (withType type' entries)).Writable := by
  rw [Value.writable_object] at h ⊢
  unfold withType at h ⊢
  induction entries with
  | nil => simpa [Entries.insert] using writable
  | cons entry entries ih =>
    obtain ⟨key, v⟩ := entry
    by_cases same : key = "type"
    · simp only [Entries.insert, if_pos same, List.forall_mem_cons] at h ⊢
      exact ⟨writable, h.2⟩
    · simp only [Entries.insert, if_neg same, List.forall_mem_cons] at h ⊢
      exact ⟨h.1, ih h.2⟩

theorem twins_withType {type type' : Value} (short : type.Writable) (short' : type'.Writable) :
    Twins (ofEntries r (withType type entries)) (ofEntries r (withType type' entries)) where
  get? keyword other := by
    rw [ofEntries_get?, ofEntries_get?, lookup_withType, lookup_withType, if_neg other, if_neg other]
  properties := by
    rw [ofEntries_properties, ofEntries_properties, lookup_withType, lookup_withType]
    rfl
  items := by
    rw [ofEntries_items, ofEntries_items, lookup_withType, lookup_withType]
    rfl
  writable := ⟨fun h => writable_withType h short, fun h => writable_withType h short'⟩

end Node

/-- The schema of one kind that these entries make. -/
def ofKind (kind : Kind) (entries : List (String × Value)) : Value :=
  .object (Node.withType (.text kind.name) entries)

/-- The schema of several kinds that these entries make. -/
def ofKinds (kinds : List Kind) (entries : List (String × Value)) : Value :=
  .object (Node.withType (.list (kinds.map fun kind => .text kind.name)) entries)

/-- The node that this schema is. All of its kinds are compiled from it. -/
def Node.ofKinds (r : Registry) (kinds : List Kind) (entries : List (String × Value)) : Node :=
  ofEntries r (withType (.list (kinds.map fun kind => .text kind.name)) entries)

section

variable {r : Registry} {entries : List (String × Value)} {kinds : List Kind}

theorem moves_ofKind (kinds : List Kind) (kind : Kind) :
    Moves (ofKind kind entries) (ofKinds kinds entries) (compile r (ofKind kind entries)).outcome
      ((Node.ofKinds r kinds entries).asKind r kind).outcome := by
  have given : (Node.withType (.text kind.name) entries).lookup "type" = some (.text kind.name) := by
    rw [Node.lookup_withType, if_pos rfl]
  rw [ofKind, Node.compile_single given]
  exact (Node.twins_withType (.text _) (by simp)).asKind kind

theorem compile_ofKinds (inhabited : kinds ≠ []) : (compile r (ofKinds kinds entries)).outcome =
    (kinds.mapM ((Node.ofKinds r kinds entries).asKind r)).outcome.map .union := by
  apply Node.compile_several inhabited
  rw [Node.lookup_withType, if_pos rfl]

theorem compiles_ofKinds (inhabited : kinds ≠ []) {t : Descriptor} :
    Compiles r (ofKinds kinds entries) t ↔ ∃ us, t = .union us ∧
      List.Forall₂ (fun kind u => Compiles r (ofKind kind entries) u) kinds us := by
  have each : ∀ kind u, Compiles r (ofKind kind entries) u ↔ _ := fun kind u =>
    (moves_ofKind kinds kind).ok_iff
  rw [Compiles, compile_ofKinds inhabited, except_map_ok]
  simp only [each, Traced.mapM_outcome_ok]
  constructor
  · intro h
    obtain ⟨us, parts, rfl⟩ := h
    exact ⟨us, rfl, parts⟩
  · intro h
    obtain ⟨us, rfl, parts⟩ := h
    exact ⟨us, parts, rfl⟩

theorem under_ofKinds {kind : Kind} {keyword : String} (other : keyword ≠ "type") :
    Error.under (ofKinds kinds entries) keyword = Error.under (ofKind kind entries) keyword := by
  simp only [Error.under, Value.get?, ofKinds, ofKind, Node.lookup_withType, if_neg other]

/-- Several kinds make the union of what each of them makes by itself, and they fail as the first of
them that fails: with the same error, unless it is laid to the node, which is then another one. -/
theorem union_of_kinds (r : Registry) (entries : List (String × Value)) {kinds : List Kind}
    (inhabited : kinds ≠ []) :
    ((∃ t, Compiles r (ofKinds kinds entries) t) ↔
      ∀ kind ∈ kinds, ∃ u, Compiles r (ofKind kind entries) u) ∧
    (∀ t, Compiles r (ofKinds kinds entries) t → ∃ us, t = .union us ∧
      List.Forall₂ (fun kind u => Compiles r (ofKind kind entries) u) kinds us) ∧
    ∀ before kind after e, kinds = before ++ kind :: after →
      (∀ k ∈ before, ∃ u, Compiles r (ofKind k entries) u) →
      (compile r (ofKind kind entries)).outcome = .error e →
      ∃ e', (compile r (ofKinds kinds entries)).outcome = .error e' ∧
        Moved (ofKind kind entries) (ofKinds kinds entries) e e' ∧
        ((∀ reason, e ≠ .unsupportedSchema (ofKind kind entries) reason) →
          e'.message = e.message) := by
  refine ⟨?_, fun t => (compiles_ofKinds inhabited).1, ?_⟩
  · rw [← forall₂_exists]
    constructor
    · intro h
      obtain ⟨t, compiled⟩ := h
      obtain ⟨us, _, parts⟩ := (compiles_ofKinds inhabited).1 compiled
      exact ⟨us, parts⟩
    · intro h
      obtain ⟨us, parts⟩ := h
      exact ⟨_, (compiles_ofKinds inhabited).2 ⟨us, rfl, parts⟩⟩
  · intro before kind after e split earlier failed
    obtain ⟨e', failed', moved⟩ := (moves_ofKind kinds kind).error_of failed
    have message := moved.message (under_ofKinds (by decide)) (under_ofKinds (by decide))
    refine ⟨e', ?_, moved, message⟩
    rw [compile_ofKinds inhabited, except_map_error]
    refine Traced.mapM_outcome_of_error split (fun k hk => ?_) failed'
    obtain ⟨u, compiled⟩ := earlier k hk
    exact ⟨u, (moves_ofKind kinds k).ok_iff.1 compiled⟩

/-- Too few labels are no matter to a boolean; the text after it fails, and it names the whole node.
-/
theorem union_of_kinds_labels :
    let entries : List (String × Value) :=
      [("enum", .list [.int 1, .int 2]), ("enumNames", .list [.text "one"])]
    let kinds : List Kind := [.boolean, .string, .number]
    let e : Error := .enumLengthMismatch (ofKind .string entries)
    kinds ≠ [] ∧ ∃ e', (compile .empty (ofKinds kinds entries)).outcome = .error e' ∧
      Moved (ofKind .string entries) (ofKinds kinds entries) e e' ∧ e'.message = e.message := by
  intro entries kinds e
  have inhabited : kinds ≠ [] := by simp [kinds]
  obtain ⟨_, _, fails⟩ := union_of_kinds .empty entries inhabited
  have earlier : ∀ k ∈ [Kind.boolean], ∃ u, Compiles .empty (ofKind k entries) u := by
    intro k hk
    obtain rfl := List.mem_singleton.1 hk
    exact ⟨.primitive .boolean, rfl⟩
  have told : e.detail = .ok "enumNames ['one'] and enum [1, 2] of unequal length" := by
    decide +kernel
  have mismatched : (compile .empty (ofKind .string entries)).outcome = .error e.raised := rfl
  rw [Error.raised_of_ok told] at mismatched
  obtain ⟨e', failed, moved, message⟩ := fails [.boolean] .string [.number] e rfl earlier mismatched
  exact ⟨inhabited, e', failed, moved, message nofun⟩

end
end Conform
