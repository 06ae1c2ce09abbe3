import Conform.Proofs.Alterations
import Conform.Proofs.Grammar

namespace Conform

namespace Node

variable {n : Node} {formats : Registry} {P : Value → Descriptor → Prop}

/-- What is given as a type names kinds: a single one or a list of them. -/
def NamesKinds (given : Option Value) : Prop :=
  (∃ kind : Kind, given = some (.text kind.name)) ∨
    ∃ names, names ≠ [] ∧ given = some (.list names) ∧
      ∀ name ∈ names, ∃ kind : Kind, name = .text kind.name

/-- Whether a node yields a type is settled for each of its kinds apart. -/
theorem exists_yields : (∃ t, n.Yields formats P t) ↔ n.get? "type" = none ∨
    NamesKinds (n.get? "type") ∧
      ∀ kind ∈ kindsOf n.entries, ∃ t, n.KindYields formats P kind t := by
  constructor
  · intro h
    obtain ⟨t, y⟩ := h
    cases y with
    | untyped given => exact .inl given
    | single given part =>
      refine .inr ⟨.inl ⟨_, given⟩, fun kind named => ?_⟩
      rw [kindsOf_single given, List.mem_singleton] at named
      exact ⟨t, named ▸ part⟩
    | several inhabited given parts =>
      refine .inr ⟨.inr ⟨_, by simpa using inhabited, given, by simp⟩, fun kind named => ?_⟩
      rw [kindsOf_several given] at named
      exact forall₂_exists.1 ⟨_, parts⟩ kind named
  · intro h
    rcases h with given | ⟨⟨kind, given⟩ | ⟨names, inhabited, given, each⟩, yields⟩
    · exact ⟨_, .untyped given⟩
    · rw [kindsOf_single given] at yields
      obtain ⟨t, part⟩ := yields kind List.mem_cons_self
      exact ⟨t, .single given part⟩
    · obtain ⟨kinds, read⟩ := forall₂_exists.2 each
      obtain rfl : names = kinds.map fun kind => .text kind.name := by
        rwa [← List.forall₂_eq_eq_eq, List.forall₂_map_right_iff]
      rw [kindsOf_several given] at yields
      obtain ⟨ts, parts⟩ := forall₂_exists.2 yields
      exact ⟨_, .several (by simpa using inhabited) given parts⟩

end Node

namespace Schema

theorem Retyped.namesKinds {given given' : Option Value} (type : Retyped given given')
    (h : Node.NamesKinds given) : Node.NamesKinds given' := by
  rcases type with (same | ⟨kind, _, given'⟩) | same | ⟨names, names', given, given', order⟩
  · rwa [same]
  · exact .inr ⟨_, by simp, given', by simp⟩
  · rwa [same]
  · rcases h with ⟨_, single⟩ | ⟨_, inhabited, several, each⟩
    · cases given.symm.trans single
    · cases given.symm.trans several
      refine .inr ⟨names', fun none => ?_, given', fun name hn => each name (order.mem_iff.2 hn)⟩
      exact inhabited (List.perm_nil.1 (none ▸ order))

section

variable {A : Alteration} {formats : Registry} {entries entries' : List (String × Value)}

theorem Alike.no_members (h : Alike entries entries') (plain : entries.lookup "enum" = none) :
    entries'.lookup "enum" = none := by
  rcases h.enum with same | ⟨_, _, given, _⟩
  · rwa [same]
  · cases plain.symm.trans given

theorem Alike.exists_pairs (h : Alike entries entries') {values : Value}
    {members : List (Value × Value)} (given : entries.lookup "enum" = some values)
    (pairs : (Node.ofEntries formats entries).Pairs values members) :
    ∃ values' members', entries'.lookup "enum" = some values' ∧
      (Node.ofEntries formats entries').Pairs values' members' := by
  obtain ⟨items, found, labelled⟩ := Node.exists_pairs.1 ⟨_, pairs⟩
  simp only [Node.ofEntries_get?, ← h.rest "enumNames" (by decide)] at labelled
  rcases h.enum with same | ⟨xs, ys, before, after, order⟩
  · have paired : ∃ members', (Node.ofEntries formats entries').Pairs values members' :=
      Node.exists_pairs.2 ⟨items, found, labelled⟩
    obtain ⟨members', pairs'⟩ := paired
    exact ⟨values, members', same.trans given, pairs'⟩
  · cases given.symm.trans before
    cases found
    rw [order.length_eq] at labelled
    have paired : ∃ members', (Node.ofEntries formats entries').Pairs (.list ys) members' :=
      Node.exists_pairs.2 ⟨ys, rfl, labelled⟩
    obtain ⟨members', pairs'⟩ := paired
    exact ⟨.list ys, members', after, pairs'⟩

theorem Alike.exists_textLeaves (h : Alike entries entries')
    (leaves : ∃ ps, (Node.ofEntries formats entries).textLeaves formats = .ok ps) :
    ∃ ps, (Node.ofEntries formats entries').textLeaves formats = .ok ps := by
  rw [Node.exists_textLeaves] at leaves ⊢
  simpa only [Node.ofEntries_get?, h.rest "pattern" (by decide),
    h.rest "format" (by decide)] using leaves

theorem Alike.exists_required (h : Alike entries entries')
    (needed : ∃ names, (Node.ofEntries formats entries).required = .ok names) :
    ∃ names, (Node.ofEntries formats entries').required = .ok names := by
  rw [Node.exists_required] at needed ⊢
  simp only [Node.ofEntries_get?] at needed ⊢
  rcases h.required with same | ⟨names, names', given, given', fewer, more⟩
  · rwa [same]
  · rintro v found truth
    cases found.symm.trans given'
    -- Names are asked for only of a list that has some, and altering leaves it some.
    have inhabited : names ≠ [] := by
      rintro rfl
      rw [List.subset_nil.1 more] at truth
      cases truth
    obtain ⟨_, ⟨⟩, hashed⟩ := needed _ given (by simpa [Value.truthy] using inhabited)
    exact ⟨names', rfl, fun name hn => hashed name (more hn)⟩

variable (below : ∀ s, Part entries s → ∀ s', Altered A s s' → (∃ t, Compiles formats s t) →
  ∃ t', Compiles formats s' t')

include below

theorem itemsYield_altered
    (items : ItemsAltered A (entries.lookup "items") (entries'.lookup "items")) {t : Descriptor}
    (y : (Node.ofEntries formats entries).ItemsYield (Compiles formats) t) :
    ∃ t', (Node.ofEntries formats entries').ItemsYield (Compiles formats) t' := by
  rcases items.cases with ⟨same, item, list⟩ | ⟨item, item', found, found', part⟩ |
    ⟨schemas, schemas', found, found', each⟩
  · cases y with
    | absent given => exact ⟨_, .absent (same.trans given)⟩
    | each given => exact absurd given (item _)
    | positions given => exact absurd given (list _)
  · cases y with
    | absent given => cases found.symm.trans given
    | each given compiled =>
      cases found.symm.trans given
      obtain ⟨t', ht'⟩ := below _ (.item found) _ part ⟨_, compiled⟩
      exact ⟨_, .each found' ht'⟩
    | positions given => cases found.symm.trans given
  · cases y with
    | absent given => cases found.symm.trans given
    | each given => cases found.symm.trans given
    | positions given compiled =>
      cases found.symm.trans given
      have parts : ∀ s' ∈ schemas', ∃ t', Compiles formats s' t' := by
        intro s' hs'
        obtain ⟨s, hs, part⟩ := exists_of_mem_forall₂ each hs'
        exact below s (.position found hs) s' part (forall₂_exists.1 ⟨_, compiled⟩ s hs)
      obtain ⟨ts, parts⟩ := forall₂_exists.2 parts
      exact ⟨_, .positions found' parts⟩

/-- What a node yields as one kind it goes on to yield, if its parts do. -/
theorem kindYields_altered (mild : A.Mild) (alike : Alike entries entries')
    (properties : PropertiesAltered A (entries.lookup "properties") (entries'.lookup "properties"))
    (items : ItemsAltered A (entries.lookup "items") (entries'.lookup "items"))
    {kind : Kind} {t : Descriptor}
    (y : (Node.ofEntries formats entries).KindYields formats (Compiles formats) kind t) :
    ∃ t', (Node.ofEntries formats entries').KindYields formats (Compiles formats) kind t' := by
  cases y with
  | null => exact ⟨_, .null⟩
  | boolean => exact ⟨_, .boolean⟩
  | enumeration kinds given pairs =>
    obtain ⟨_, _, given', pairs'⟩ := alike.exists_pairs given pairs
    exact ⟨_, .enumeration kinds given' pairs'⟩
  | string plain leaves =>
    obtain ⟨_, leaves'⟩ := alike.exists_textLeaves ⟨_, leaves⟩
    exact ⟨_, .string (alike.no_members plain) leaves'⟩
  | number plain => exact ⟨_, .number (alike.no_members plain)⟩
  | integer plain => exact ⟨_, .integer (alike.no_members plain)⟩
  | object bare =>
    refine ⟨_, .object fun v given' => ?_⟩
    rcases properties.cases mild.unmoved with
      ⟨same, _⟩ | ⟨ps, arranged, ps', given, found, order, each⟩
    · exact bare v (same.symm.trans given')
    · cases found.symm.trans given'
      have same : ps'.length = ps.length :=
        each.length_eq.symm.trans (mild.properties order).length_eq.symm
      have empty : ps = [] := by simpa [Value.truthy] using bare _ given
      rw [empty, List.length_nil, List.length_eq_zero_iff] at same
      rw [same]
      rfl
  | @struct ps _ _ given inhabited needed each =>
    obtain ⟨_, needed'⟩ := alike.exists_required ⟨_, needed⟩
    rcases properties.cases mild.unmoved with
      ⟨_, other⟩ | ⟨_, arranged, ps', given', found, order, altered⟩
    · exact absurd given (other ps)
    · cases given.symm.trans given'
      -- The fields are listed anew, from the types that the properties yield now.
      have same : ps'.length = ps.length :=
        altered.length_eq.symm.trans (mild.properties order).length_eq.symm
      have inhabited' : ps' ≠ [] := fun none => inhabited (by simpa [none, eq_comm] using same)
      have fields : ∀ p' ∈ ps', ∃ f : String × Descriptor,
          f.1 = p'.1 ∧ Compiles formats p'.2 f.2 := by
        intro p' hp'
        obtain ⟨p, hp, _, part⟩ := exists_of_mem_forall₂ altered hp'
        have mem : p ∈ ps := (mild.properties order).mem_iff.2 hp
        obtain ⟨f, _, compiled⟩ := forall₂_exists.1 ⟨_, each⟩ p mem
        obtain ⟨t', ht'⟩ := below p.2 (.property given mem) p'.2 part ⟨f.2, compiled⟩
        exact ⟨(p'.1, t'), rfl, ht'⟩
      obtain ⟨types, fields⟩ := forall₂_exists.2 fields
      exact ⟨_, .struct found inhabited' needed' fields⟩
  | array yields =>
    obtain ⟨_, yields'⟩ := itemsYield_altered below items yields
    exact ⟨_, .array yields'⟩

end

/-- A schema that compiles goes on to compile when it is altered. -/
theorem compiles_altered {A : Alteration} (mild : A.Mild) {formats : Registry} {s s' : Value}
    (altered : Altered A s s') (h : ∃ t, Compiles formats s t) : ∃ t', Compiles formats s' t' := by
  induction s using schema_induct generalizing s' with
  | other s other => rwa [altered.eq_of_other other]
  | node entries ih =>
    cases altered with
    | same => exact h
    | @node _ entries' type enum required properties items rest =>
      have alike : Alike entries entries' :=
        ⟨mild.type type, mild.enum enum, mild.required required, rest⟩
      simp only [compiles_object, Node.exists_yields] at h ⊢
      rcases h with untyped | ⟨named, each⟩
      · exact .inl (alike.untyped_iff.1 untyped)
      · refine .inr ⟨alike.type.namesKinds named, fun kind hk => ?_⟩
        obtain ⟨t, y⟩ := each kind (alike.kindsOf_perm.mem_iff.2 hk)
        exact kindYields_altered (fun s part _ => ih s part) mild alike properties items y

end Schema

end Conform
