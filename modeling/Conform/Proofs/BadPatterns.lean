import Conform.Proofs.Failures

namespace Conform

/-- What is laid to the node. The rest are limits met while reading. -/
def PatternFault.isMistake : PatternFault → Bool
  | .unread _ (.malformed _ _) => true
  | .unread _ _ => false
  | _ => true

/-- Compilation comes to a part of a node, and all is in order before it: the type of the node, the
kinds that it names earlier, the required names, and the parts that stand before this one. -/
inductive Awaits (formats : Registry) : Value → Value → Prop where
  | part {entries : List (String × Value)} {before after : List Kind} {kind : Kind} {s : Value}
      (kinds : Node.compiledAs entries = before ++ kind :: after)
      (earlier : ∀ k ∈ before,
        ∃ t, ((Node.ofEntries formats entries).asKind formats k).outcome = .ok t)
      (needed : kind = .object → ∃ names, (Node.ofEntries formats entries).required = .ok names)
      (enters : Node.Enters formats entries kind s) : Awaits formats (.object entries) s

/-- The way to a node at which nothing has failed yet. -/
abbrev Leads (formats : Registry) : Value → Value → Prop :=
  Relation.ReflTransGen (Awaits formats)

namespace Node

variable {formats : Registry} {entries : List (String × Value)} {e : Error}

/-- A node fails as the first of its kinds that it fails as. -/
theorem error_of_kind {before after : List Kind} {kind : Kind}
    (kinds : compiledAs entries = before ++ kind :: after)
    (earlier : ∀ k ∈ before, ∃ t, ((ofEntries formats entries).asKind formats k).outcome = .ok t)
    (failed : ((ofEntries formats entries).asKind formats kind).outcome = .error e) :
    (Conform.compile formats (.object entries)).outcome = .error e := by
  have mem : kind ∈ before ++ kind :: after := List.mem_append_cons_self
  have inhabited := List.ne_nil_of_mem mem
  rcases compiledAs_cases kinds inhabited with ⟨named, given, single⟩ | given
  · rw [single, List.mem_singleton] at mem
    rw [compile_single given, ← mem, failed]
  · rw [compile_several inhabited given, except_map_error]
    exact Traced.mapM_outcome_of_error rfl earlier failed

/-- A node fails as its part does, once compilation has come to that part. -/
theorem Enters.error {kind : Kind} {s : Value} (enters : Enters formats entries kind s)
    (needed : kind = .object → ∃ names, (ofEntries formats entries).required = .ok names)
    (failed : (Conform.compile formats s).outcome = .error e) :
    ((ofEntries formats entries).asKind formats kind).outcome = .error e := by
  cases enters with
  | @property before after key s given earlier =>
    obtain ⟨names, needed⟩ := needed rfl
    have inhabited : (before ++ (key, s) :: after).isEmpty = false := by simp
    rw [asKind, object, ofEntries_get?, given]
    simp only [inhabited, needed, Traced.lift_ok, pure_bind]
    rw [if_neg Bool.false_ne_true, ofEntries_properties, given, Traced.bind_outcome_error]
    refine .inl ?_
    simp only [compileFields_eq_mapM]
    refine Traced.mapM_outcome_of_error rfl (fun p hp => ?_) (Traced.map_outcome_error.2 failed)
    obtain ⟨t, compiled⟩ := earlier p hp
    exact ⟨_, Traced.map_outcome_ok.2 ⟨t, compiled, rfl⟩⟩
  | item given =>
    rw [asKind, array_eq, Traced.map_outcome_error, itemsType, ofEntries_get?, ofEntries_items,
      given]
    exact Traced.map_outcome_error.2 failed
  | position given earlier =>
    rw [asKind, array_eq, Traced.map_outcome_error, itemsType, ofEntries_get?, ofEntries_items,
      given]
    refine Traced.map_outcome_error.2 ?_
    rw [compileAll_eq_mapM]
    exact Traced.mapM_outcome_of_error rfl earlier failed

/-- Nothing that is read before the pattern can fail. -/
theorem string_error {n : Node} {v : Value} (plain : n.get? "enum" = none)
    (given : n.get? "pattern" = some v) (failed : n.pattern v = .error e) :
    n.string formats = .error e := by
  have read : n.readLeaf "pattern" n.pattern = .error e := by
    rw [readLeaf, given, Option.toList_some, List.mapM_cons, failed]
    rfl
  rw [string_eq formats plain, textLeaves, read]
  rfl

end Node

theorem Awaits.error {formats : Registry} {s n : Value} {e : Error} (awaits : Awaits formats s n)
    (failed : (compile formats n).outcome = .error e) : (compile formats s).outcome = .error e := by
  cases awaits with
  | part kinds earlier needed enters =>
    exact Node.error_of_kind kinds earlier (enters.error needed failed)

/-- The first failure on the way is the failure of the whole. -/
theorem Leads.error {formats : Registry} {s n : Value} {e : Error} (leads : Leads formats s n)
    (failed : (compile formats n).outcome = .error e) : (compile formats s).outcome = .error e := by
  induction leads using Relation.ReflTransGen.head_induction_on with
  | refl => exact failed
  | head awaits _ ih => exact awaits.error ih

/-- How a node reports that its pattern is none. -/
def Error.ofPattern (n : Value) (f : PatternFault) : Error :=
  if f.isMistake then .raised (.unsupportedSchema n (some (.pattern f))) else .pattern f

theorem Node.pattern_error {n : Node} {v : Value} {f : PatternFault}
    (bad : Pattern.ofValue v = .error f) : n.pattern v = .error (.ofPattern n.value f) := by
  unfold Node.pattern
  rw [bad]
  cases f with
  | unread source e => cases e <;> rfl
  | notText | fault => rfl

section

variable {formats : Registry} {entries : List (String × Value)} {v : Value} {f : PatternFault}

theorem compile_bad_pattern (typed : entries.lookup "type" = some (.text "string"))
    (plain : entries.lookup "enum" = none) (given : entries.lookup "pattern" = some v)
    (bad : Pattern.ofValue v = .error f) :
    (compile formats (.object entries)).outcome = .error (.ofPattern (.object entries) f) := by
  have single : entries.lookup "type" = some (.text Kind.string.name) := typed
  rw [Node.compile_single single]
  exact Node.string_error plain given (Node.pattern_error bad)

/-- If a text has a pattern that is none, and all before it is in order, then the whole fails for
it: as an unsupported schema that names the node if the pattern is mistaken, provided that the node
can be written, and otherwise with the limit that was met. -/
theorem bad_pattern_reported (typed : entries.lookup "type" = some (.text "string"))
    (plain : entries.lookup "enum" = none) (given : entries.lookup "pattern" = some v)
    (bad : Pattern.ofValue v = .error f) {s : Value} (leads : Leads formats s (.object entries)) :
    (f.isMistake = true → (Value.object entries).Writable → (compile formats s).outcome =
      .error (.unsupportedSchema (.object entries) (some (.pattern f)))) ∧
    (f.isMistake = true → ¬(Value.object entries).Writable →
      (compile formats s).outcome = .error (.fault .numberTooLong)) ∧
    (f.isMistake = false → (compile formats s).outcome = .error (.pattern f)) := by
  have failed := leads.error (compile_bad_pattern typed plain given bad)
  refine ⟨fun mistake writable => ?_, fun mistake overlong => ?_, fun limit => ?_⟩
  · rw [failed, Error.ofPattern, if_pos mistake, (Error.raised_unsupportedSchema _ _).1 writable]
  · rw [failed, Error.ofPattern, if_pos mistake, (Error.raised_unsupportedSchema _ _).2 overlong]
  · rw [failed, Error.ofPattern, if_neg (by simp [limit])]

/-- The pattern of the second property is not closed. The kind before, the required names and the
first property are in order. -/
theorem bad_pattern_reported_property :
    let word : List (String × Value) := [("type", .text "string"), ("pattern", .text "(")]
    let line : List (String × Value) := [("type", .list [.text "null", .text "object"]),
      ("required", .list [.text "word"]),
      ("properties", .object [("any", .object []), ("word", .object word)])]
    let f : PatternFault := .unread "(" (.malformed .unterminatedGroup (some 0))
    Pattern.ofValue (.text "(") = .error f ∧ Leads .empty (.object line) (.object word) ∧
      (compile .empty (.object line)).outcome =
        .error (.unsupportedSchema (.object word) (some (.pattern f))) := by
  intro word line f
  have bad : Pattern.ofValue (.text "(") = .error f := rfl
  have kinds : Node.compiledAs line = [.null] ++ .object :: [] := rfl
  have null : ∀ k ∈ [Kind.null],
      ∃ t, ((Node.ofEntries .empty line).asKind .empty k).outcome = .ok t := by
    intro k hk
    obtain rfl := List.mem_singleton.1 hk
    exact ⟨_, rfl⟩
  have any : ∀ p ∈ [("any", Value.object [])], ∃ t, Compiles .empty p.2 t := by
    intro p hp
    obtain rfl := List.mem_singleton.1 hp
    exact ⟨_, rfl⟩
  have given : line.lookup "properties" =
    some (.object ([("any", .object [])] ++ ("word", .object word) :: [])) := rfl
  have leads : Leads .empty (.object line) (.object word) :=
    .single (.part kinds null (fun _ => ⟨_, rfl⟩) (.property given any))
  have writable : (Value.object word).Writable := by simp [word]
  exact ⟨bad, leads, (bad_pattern_reported rfl rfl rfl bad leads).1 rfl writable⟩

end

theorem Pattern.ofSource_error {source : String} {e : Pattern.Error} :
    ofSource source = .error e ↔ read source = .error e := by
  unfold ofSource
  split
  all_goals
    rename_i found
    simp [found]

/-- A pattern that asks for too many repetitions is not laid to its node. -/
theorem bad_pattern_unreported :
    let source := "a\x7b99999999999\x7d"
    let entries : List (String × Value) := [("type", .text "string"), ("pattern", .text source)]
    entries.lookup "type" = some (.text "string") ∧ entries.lookup "enum" = none ∧
      entries.lookup "pattern" = some (.text source) ∧
      Pattern.ofValue (.text source) = .error (.unread source .repeatTooLarge) ∧
      (compile .empty (.object entries)).outcome =
        .error (.pattern (.unread source .repeatTooLarge)) ∧
      ∀ reason, (compile .empty (.object entries)).outcome ≠
        .error (.unsupportedSchema (.object entries) reason) := by
  intro source entries
  have told : (match Pattern.read "a\x7b99999999999\x7d" with
      | .error e => decide (e = .repeatTooLarge)
      | .ok _ => false) = true := by decide +kernel
  have unread : Pattern.read source = .error .repeatTooLarge := by
    split at told
    · rename_i e found
      exact found.trans (congrArg Except.error (of_decide_eq_true told))
    · cases told
  have bad : Pattern.ofValue (.text source) = .error (.unread source .repeatTooLarge) := by
    rw [Pattern.ofValue, Pattern.ofSource_error.2 unread]
    rfl
  have failed : (compile .empty (.object entries)).outcome =
      .error (.pattern (.unread source .repeatTooLarge)) :=
    compile_bad_pattern rfl rfl rfl bad
  refine ⟨rfl, rfl, rfl, bad, failed, fun reason refused => ?_⟩
  cases failed.symm.trans refused

end Conform
