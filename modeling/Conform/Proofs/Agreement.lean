import Conform.Proofs.Validation
import Conform.Proofs.Yields

namespace Conform

namespace Schema

section

variable {host : Host} {v : Value} {n : Node}

theorem isSet_eq (keyword : String) : n.isSet keyword = isSet n.entries keyword := by
  unfold Node.isSet Node.get? isSet
  cases n.entries.lookup keyword <;> rfl

theorem all_leaf (keyword : String) (make : Value → Predicate) :
    Traced.all (fun p => p.check host v) (n.leaf keyword make) =
      Traced.inOrder (whenGiven n.entries keyword fun given => (make given).check host v) := by
  rw [Node.leaf, whenGiven, Traced.inOrder, Traced.all_map, Traced.all_map]
  rfl

theorem all_readLeaf {keyword : String} {make : Value → Except Error Predicate} {test : Test}
    {ps : List Predicate} (h : n.readLeaf keyword make = .ok ps)
    (agree : ∀ given p, make given = .ok p → p.check host v = test given) :
    Traced.all (fun p => p.check host v) ps =
      Traced.inOrder (whenGiven n.entries keyword test) := by
  rcases Node.readLeaf_ok.1 h with ⟨absent, rfl⟩ | ⟨given, p, found, made, rfl⟩
  · rw [Node.get?] at absent
    rw [whenGiven, absent]
    rfl
  · rw [Node.get?] at found
    rw [whenGiven, found, Traced.all_cons, agree given p made]
    rfl

theorem all_flagged (keyword : String) (p : Predicate) :
    Traced.all (fun p => p.check host v) (n.flagged keyword p) =
      Traced.inOrder (whenSet n.entries keyword (p.check host v)) := by
  rw [Node.flagged, whenSet, isSet_eq]
  split <;> rfl

theorem all_boundLeaves : Traced.all (fun p => p.check host v) n.boundLeaves =
    Traced.inOrder (bounds n.entries v) := by
  rw [Node.boundLeaves, Traced.all_append, all_leaf, all_leaf, isSet_eq, isSet_eq, bounds,
    Traced.inOrder_append]
  rfl

theorem all_counts (least most : String) :
    Traced.all (fun p => p.check host v) (n.leaf least .minLength ++ n.leaf most .maxLength) =
      Traced.inOrder (counts n.entries least most v) := by
  rw [Traced.all_append, all_leaf, all_leaf, counts, Traced.inOrder_append]
  rfl

/-- A pattern is only ever tried on a text. -/
theorem all_textLeaves {formats : Registry} {ps : List Predicate} {s : String}
    (leaves : n.textLeaves formats = .ok ps) :
    Traced.all (fun p => p.check host (.text s)) ps = Traced.inOrder
      (counts n.entries "minLength" "maxLength" (.text s) ++
        whenGiven n.entries "pattern" (search · (.text s)) ++
        whenGiven n.entries "format" (inFormat formats host (.text s))) := by
  obtain ⟨patterns, names, hp, hn, rfl⟩ := Node.textLeaves_ok.1 leaves
  have searched : ∀ given p, n.pattern given = .ok p →
      p.check host (.text s) = search given (.text s) := by
    intro given p made
    obtain ⟨source, q, rfl, read, rfl⟩ := Node.pattern_ok.1 made
    simp only [search, read]
    rfl
  have called : ∀ name p, Node.format formats name = .ok p →
      p.check host (.text s) = inFormat formats host (.text s) name := by
    intro name p made
    obtain ⟨_, handle, found, rfl⟩ := Node.format_ok.1 made
    simp only [inFormat, found]
    rfl
  rw [Traced.all_append, Traced.all_append, all_counts, all_readLeaf hp searched,
    all_readLeaf hn called, Traced.inOrder_append, Traced.inOrder_append]

end

section

variable {host : Host} {v : Value} {formats : Registry}

theorem check_ofKind {kind : Kind} {ps : List Predicate} {tests : List (Check Bool)}
    (agree : kind.accepts v = true →
      Traced.all (fun p => p.check host v) ps = Traced.inOrder tests) :
    ((Descriptor.primitive kind).constrained ps).check host v = ofKind kind v tests := by
  rw [Descriptor.check_constrained, Descriptor.check, ofKind]
  cases accepted : kind.accepts v with
  | true => rw [Traced.true_andThen, agree accepted, if_pos rfl]
  | false => rw [Traced.false_andThen, if_neg (by simp)]

theorem check_enumeration {n : Node} {values : Value} {members : List (Value × Value)}
    (pairs : n.Pairs values members) :
    (Descriptor.enumeration members).check host v = pure (isMember values v) := by
  obtain ⟨items, labels, hv, same, rfl, _⟩ := pairs
  have firsts : (items.zip labels).map Prod.fst = items := List.map_fst_zip (Nat.le_of_eq same)
  have found : ((items.zip labels).any fun m => v.documentEq m.1) = items.any v.documentEq := by
    conv_rhs => rw [← firsts, List.any_map]
    rfl
  rw [Descriptor.check, Descriptor.isSome_memberLabel?, found, isMember, hv]
  rfl

theorem allDistinct_eq (items : List Value) :
    allDistinct items = decide (items.Pairwise fun x y => x.documentEq y = false) := by
  rw [Bool.eq_iff_iff, decide_eq_true_iff]
  induction items with
  | nil => simp [allDistinct]
  | cons x xs ih => simp [allDistinct, ih]

theorem isSome_dispatch (ts : List Descriptor) :
    Option.isSome <$> Descriptor.dispatch host ts v = Traced.any (fun t => t.check host v) ts := by
  induction ts with
  | nil => rfl
  | cons t ts ih =>
    rw [Descriptor.dispatch, Traced.any, ← ih, map_bind]
    congr 1
    funext accepted
    cases accepted with
    | true => rfl
    | false => simp

end

section

variable {formats : Registry} {s : Value} {t : Descriptor}

/-- A type is the plain boolean only if the schema asks for nothing else. -/
theorem eq_boolean_iff (h : Compiles formats s t) :
    t = .primitive .boolean ↔ (s.get? "type").bind Kind.named? = some .boolean := by
  obtain ⟨entries, rfl⟩ := object_of_compiles h
  have refined : ∀ (base : Descriptor) ps, base ≠ .primitive .boolean →
      base.constrained ps ≠ .primitive .boolean := fun base ps plain =>
    Descriptor.constrained_elim (P := fun t => t ≠ .primitive .boolean) plain (by simp)
  cases compiles_object.1 h with
  | untyped given =>
    rw [Node.ofEntries_get?] at given
    simp [Value.get?, given]
  | @single kind _ given part =>
    rw [Node.ofEntries_get?] at given
    rw [Value.get?, given, Option.bind_some, Kind.named?_eq_some.2 rfl]
    cases part with
    | boolean => simp
    | enumeration kinds =>
      cases kind <;> simp [Kind.enumerable] at kinds ⊢
    | string | number | integer => simp [refined]
    | array items => cases items <;> simp [refined]
    | _ => simp
  | several _ given =>
    rw [Node.ofEntries_get?] at given
    simp [Value.get?, given, Kind.named?]

theorem isMaybe_of_compiles (h : Compiles formats s t) : t.isMaybe = false := by
  obtain ⟨entries, rfl⟩ := object_of_compiles h
  have refined : ∀ (base : Descriptor) ps, base.isMaybe = false →
      (base.constrained ps).isMaybe = false := fun base ps plain =>
    Descriptor.constrained_elim (P := fun t => t.isMaybe = false) plain fun _ => rfl
  cases compiles_object.1 h with
  | untyped => rfl
  | single _ part =>
    cases part with
    | string | number | integer => exact refined _ _ rfl
    | array items =>
      apply refined
      cases items <;> rfl
    | _ => rfl
  | several => rfl

theorem field_eq (h : Compiles formats s t) (entries : List (String × Value)) (key : String) :
    Node.field (required entries) key t =
      (key, if isMandatory entries key s then t else .maybe t) := by
  have boolean := eq_boolean_iff h
  unfold isMandatory Node.field
  split
  · simp [boolean.1 rfl]
  · rename_i other
    have differs : ¬(s.get? "type").bind Kind.named? = some .boolean := fun eq =>
      other (boolean.2 eq)
    simp [differs]

end

/-- The type answers as the schema does. -/
def Agrees (formats : Registry) (s : Value) (t : Descriptor) : Prop :=
  Compiles formats s t ∧ ∀ host v, t.check host v = validate formats host s v

section

variable {formats : Registry} {entries : List (String × Value)} (host : Host)

theorem required_eq {n : Node} {names : List Value} (h : n.required = .ok names) :
    names = required n.entries := by
  rcases Node.required_ok.1 h with ⟨falsy, rfl⟩ | ⟨v, given, truth, found, _⟩
  · unfold required
    split
    · rename_i given
      rw [if_neg (by simp [falsy _ given])]
    · rfl
  · rw [Node.get?] at given
    simp [required, given, truth, found]

theorem checkFields_eq {properties : List (String × Value)} {types : List (String × Descriptor)}
    (parts : List.Forall₂ (fun p f => f.1 = p.1 ∧ Agrees formats p.2 f.2) properties types)
    (given : List (String × Value)) :
    Descriptor.checkFields host (types.map fun f => Node.field (required entries) f.1 f.2) given =
      Traced.all (property entries given) (fieldTests formats host properties) := by
  induction parts with
  | nil => rfl
  | @cons p f properties types head _ ih =>
    obtain ⟨key, s⟩ := p
    obtain ⟨name, t⟩ := f
    obtain ⟨same, compiled, agree⟩ := head
    have whole := isMaybe_of_compiles compiled
    dsimp only at same whole agree
    subst same
    rw [List.map_cons, field_eq compiled, fieldTests, Traced.all_cons, ← ih,
      Descriptor.checkFields, property]
    -- A field is a `maybe` just if it is not mandatory, since no schema yields a `maybe` itself.
    cases isMandatory entries name s with
    | true =>
      cases given.lookup name with
      | none => simp [whole]
      | some v => simp [Traced.andThen, agree]
    | false =>
      cases given.lookup name with
      | none => simp [Descriptor.isMaybe]
      | some v => simp [Descriptor.check, Traced.andThen, agree]

theorem checkEach_eq {schemas : List Value} {ts : List Descriptor}
    (parts : List.Forall₂ (Agrees formats) schemas ts) (given : List Value) :
    Descriptor.checkEach host ts given = Traced.inOrder
      (List.zipWith (fun test item => test item) (positionTests formats host schemas) given) := by
  induction parts generalizing given with
  | nil =>
    cases given <;> rfl
  | cons head _ ih =>
    cases given with
    | nil => rfl
    | cons v rest =>
      rw [positionTests, List.zipWith_cons_cons, Traced.inOrder_cons, ← ih, Descriptor.checkEach,
        head.2]
      rfl

theorem check_items {base : Descriptor} {v : Value}
    (yields : (Node.ofEntries formats entries).ItemsYield (Agrees formats) base) :
    base.check host v =
      match v.items? with
      | some given => items (parts formats host entries) given
      | none => pure false := by
  unfold items
  rw [parts_items]
  cases yields with
  | absent given =>
    rw [Node.ofEntries_get?] at given
    rw [given]
    cases v <;> rfl
  | each given part =>
    rw [Node.ofEntries_get?] at given
    rw [given, Descriptor.check]
    cases v.items? with
    | none => rfl
    | some items => simp only [part.2]
  | positions given each =>
    rw [Node.ofEntries_get?] at given
    rw [given, Descriptor.check]
    cases v.items? with
    | none => rfl
    | some items =>
      have same := each.length_eq
      simp only [checkEach_eq host each, positionTests_eq_map, List.length_map, same]

theorem check_asKind {kind : Kind} {t : Descriptor} {v : Value}
    (yields : (Node.ofEntries formats entries).KindYields formats (Agrees formats) kind t) :
    t.check host v = asKind entries formats host (parts formats host entries) v kind := by
  have plainly : ∀ otherwise, entries.lookup "enum" = none →
      orMember entries v otherwise = otherwise := by
    intro otherwise plain
    rw [orMember, plain]
  cases yields with
  | null => rfl
  | boolean => rfl
  | enumeration kinds given pairs =>
    rw [Node.ofEntries_get?] at given
    rw [check_enumeration pairs]
    cases kind with
    | string | number | integer => rw [asKind, orMember, given]
    | _ => cases kinds
  | string plain leaves =>
    rw [asKind, plainly _ plain]
    apply check_ofKind
    intro accepted
    cases v with
    | text s => exact all_textLeaves leaves
    | _ => cases accepted
  | number plain =>
    rw [asKind, plainly _ plain]
    apply check_ofKind
    intro _
    rw [Traced.all_append, all_boundLeaves, all_flagged, Traced.inOrder_append]
    rfl
  | integer plain =>
    rw [asKind, plainly _ plain]
    apply check_ofKind
    intro _
    exact all_boundLeaves
  | object bare =>
    rw [asKind]
    replace bare : (parts formats host entries).properties = [] := by
      rw [parts_properties]
      split
      · rename_i properties given
        have empty : properties.isEmpty = true := by simpa [Value.truthy] using bare _ given
        rw [List.isEmpty_iff.1 empty]
        rfl
      · rfl
    cases v with
    | object given =>
      rw [object, bare]
      rfl
    | _ => rfl
  | struct given _ needed each =>
    rw [Node.ofEntries_get?] at given
    rw [asKind]
    cases v with
    | object =>
      rw [object, parts_properties, given, Descriptor.check, required_eq needed,
        ← checkFields_eq host each]
      rfl
    | _ => rfl
  | array yields =>
    rw [asKind, Descriptor.check_constrained, check_items host yields, array]
    cases found : v.items? with
    | none => exact Traced.false_andThen _
    | some given =>
      have distinct : Predicate.distinct.check host v =
          pure (decide (given.Pairwise fun x y => x.documentEq y = false)) := by
        rw [← allDistinct_eq]
        cases v with
        | list items | tuple items =>
          cases found
          rfl
        | _ => cases found
      rw [Node.countLeaves, Traced.all_append, all_counts, all_flagged, distinct,
        ← Traced.inOrder_append]
      rfl

theorem check_node {t : Descriptor}
    (yields : (Node.ofEntries formats entries).Yields formats (Agrees formats) t) (v : Value) :
    t.check host v = validate formats host (.object entries) v := by
  show _ = node entries formats host (parts formats host entries) v
  unfold node
  cases yields with
  | untyped given =>
    rw [Node.ofEntries_get?] at given
    rw [given, Descriptor.check]
  | single given part =>
    rw [Node.ofEntries_get?] at given
    simp only [given]
    rw [check_asKind host part, named, Kind.named?_eq_some.2 rfl]
  | @several kinds ts _ given parts =>
    rw [Node.ofEntries_get?] at given
    rw [given, Descriptor.check, isSome_dispatch]
    apply Traced.any_eq_of_forall₂
    rw [List.forall₂_map_right_iff]
    refine parts.flip.imp fun t kind part => ?_
    rw [check_asKind host part, named, Kind.named?_eq_some.2 rfl]

end

theorem agrees_of_compiles {formats : Registry} {s : Value} {t : Descriptor}
    (h : Compiles formats s t) : Agrees formats s t :=
  ⟨h, compiles_induct (fun _ _ yields host v => check_node host yields v) h⟩

end Schema

/-- Checking with the type of a schema is validating against the schema. -/
theorem check_eq_validate {formats : Registry} {s : Value} {t : Descriptor}
    (h : (compile formats s).outcome = .ok t) (host : Host) (v : Value) :
    t.check host v = validate formats host s v :=
  compiles_induct (Q := fun s t => ∀ host v, t.check host v = validate formats host s v)
    (fun _ _ yields host v => Schema.check_node host yields v) h host v

/-- An optional text of two characters or more, in a format of its own. -/
theorem check_eq_validate_optional_text :
    let formats : Registry := ⟨[(.text "code", "isCode")]⟩
    let code : Value := .object [("type", .text "string"), ("minLength", .int 2),
      ("format", .text "code")]
    let s : Value := .object [("type", .text "object"), ("properties", .object [("code", code)])]
    let t : Descriptor := .struct [("code", .maybe (.refined (.primitive .string)
      (.both (.minLength (.int 2)) (.format (.text "code") (.function "isCode")))))] .null
    let host : Host := fun _ v => .ok (.bool (v.truthy))
    let v : Value := .object [("code", .text "ab")]
    (compile formats s).outcome = .ok t ∧ t.check host v = validate formats host s v ∧
      validate formats host s v = ⟨[⟨"isCode", .text "ab"⟩], .ok true⟩ :=
  ⟨rfl, check_eq_validate rfl _ _, rfl⟩

end Conform
