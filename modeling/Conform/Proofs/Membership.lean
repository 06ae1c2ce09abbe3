import Conform.Proofs.Invariance
import Conform.Proofs.Naming
import Conform.Proofs.Positions
import Mathlib.Logic.Relation

namespace Conform

namespace Descriptor

variable {members : List (Value × Value)} {v w : Value}

/-- What labelling comes to: the label of the first member that is the same document, or a refusal
of the value by the enumeration, unless the value or a member is too long to be written. -/
inductive Labelled (members : List (Value × Value)) (v : Value) : Except Error Value → Prop where
  | found {before after : List (Value × Value)} {m : Value × Value}
      (row : members = before ++ m :: after) (same : v.documentEq m.1 = true)
      (earlier : ∀ n ∈ before, v.documentEq n.1 = false) : Labelled members v (.ok m.2)
  | refused (none : ∀ m ∈ members, v.documentEq m.1 = false) (writable : v.Writable)
      (each : ∀ m ∈ members, m.1.Writable) :
      Labelled members v (.error (.invalidValue v (.enumeration members)))
  | overlong (none : ∀ m ∈ members, v.documentEq m.1 = false)
      (long : ¬v.Writable ∨ ∃ m ∈ members, ¬m.1.Writable) :
      Labelled members v (.error (.fault .numberTooLong))

theorem printable_enumeration :
    (enumeration members).Printable ↔ ∀ m ∈ members, m.1.Writable := by
  rw [Printable, nameable_iff]
  simp [Unjoinable, Overlong, BadlyNamed, spelled, parts]

/-- Nothing but length can keep an enumeration from being shown. -/
theorem overlong_of_unshown {f : Fault} (h : (enumeration members).Unshown f) :
    f = .numberTooLong := by
  rcases h with unnamed | ⟨badly, _⟩
  · cases unnamed with
    | overlong => rfl
    | joined displayed row =>
      cases displayed with
      | here => cases row
      | inside part => cases part
  · cases badly

theorem label_of_some {l : Value} (h : memberLabel? members v = some l) :
    label members v = .ok l := by
  rw [label, h]

theorem label_of_none (h : memberLabel? members v = none) :
    label members v = (enumeration members).refuse v := by
  rw [label, h]

theorem label_ok {l : Value} : label members v = .ok l ↔ memberLabel? members v = some l := by
  refine ⟨fun h => ?_, label_of_some⟩
  cases found : memberLabel? members v with
  | some k =>
    rw [label_of_some found] at h
    cases h
    rfl
  | none =>
    rw [label_of_none found] at h
    cases h

theorem labelled (members : List (Value × Value)) (v : Value) :
    Labelled members v (label members v) := by
  cases found : members.find? fun m => v.documentEq m.1 with
  | some m =>
    have labels : memberLabel? members v = some m.2 := by rw [memberLabel?, found, Option.map_some]
    obtain ⟨same, before, after, row, earlier⟩ := List.find?_eq_some_iff_append.1 found
    rw [label_of_some labels]
    exact .found row same fun n hn => by simpa using earlier n hn
  | none =>
    have labels : memberLabel? members v = none := by rw [memberLabel?, found, Option.map_none]
    rw [List.find?_eq_none] at found
    have none : ∀ m ∈ members, v.documentEq m.1 = false := fun m hm => by simpa using found m hm
    rw [label_of_none labels]
    rcases (enumeration members).refuse_cases Value v with ⟨told, eq⟩ | ⟨untold, f, eq, why⟩
    · rw [eq]
      exact .refused none told.2 (printable_enumeration.1 told.1)
    · rw [eq]
      have fault : f = .numberTooLong := why.elim overlong_of_unshown And.right
      rw [fault]
      refine .overlong none ?_
      rw [printable_enumeration, not_and_or, or_comm] at untold
      simpa using untold

/-- Belonging is settled without any calls. -/
theorem check_enumeration_eq (host : Host) (members : List (Value × Value)) (v : Value) :
    (enumeration members).check host v = pure (members.any fun m => v.documentEq m.1) := by
  rw [check, isSome_memberLabel?]

theorem memberLabel?_congr (h : Value.Twins v w) (members : List (Value × Value)) :
    memberLabel? members v = memberLabel? members w := by
  unfold memberLabel?
  simp only [h.documentEq_left]

/-- Each member is among the others, or the same document as one of them. -/
def Served (ms ns : List (Value × Value)) : Prop :=
  ∀ m ∈ ms, ∃ n ∈ ns, m.1 = n.1 ∨ Value.Same m.1 n.1

theorem Served.of_subset {ms ns : List (Value × Value)} (h : ms ⊆ ns) : Served ms ns :=
  fun m hm => ⟨m, h hm, .inl rfl⟩

/-- Wherever it stands, one member is served apart from the others. -/
theorem served_insert {before after ns : List (Value × Value)} {m : Value × Value} :
    Served (before ++ m :: after) ns ↔
      (∃ n ∈ ns, m.1 = n.1 ∨ Value.Same m.1 n.1) ∧ Served (before ++ after) ns := by
  unfold Served
  simp only [List.perm_middle.mem_iff, List.forall_mem_cons]

theorem Served.belongs {ms ns : List (Value × Value)} (h : Served ms ns) (keyed : v.WellKeyed)
    (belongs : (ms.any fun m => v.documentEq m.1) = true) :
    (ns.any fun n => v.documentEq n.1) = true := by
  rw [List.any_eq_true] at belongs ⊢
  obtain ⟨m, hm, eq⟩ := belongs
  obtain ⟨n, hn, is | same⟩ := h m hm
  · exact ⟨n, hn, is ▸ eq⟩
  · exact ⟨n, hn, Value.documentEq_of_same ((Value.same_of_documentEq eq).trans same) keyed⟩

theorem any_eq_of_served {ms ns : List (Value × Value)} (forth : Served ms ns)
    (back : Served ns ms) (keyed : v.WellKeyed) :
    (ms.any fun m => v.documentEq m.1) = ns.any fun n => v.documentEq n.1 :=
  Bool.eq_iff_iff.2 ⟨forth.belongs keyed, back.belongs keyed⟩

/-- One change of the pairs that leaves the same documents. -/
inductive Rewritten : List (Value × Value) → List (Value × Value) → Prop where
  | permuted {ms ns : List (Value × Value)} (order : ms.Perm ns) : Rewritten ms ns
  | repeated {before after : List (Value × Value)} {m : Value × Value}
      (there : m ∈ before ++ after) : Rewritten (before ++ after) (before ++ m :: after)
  | dropped {before after : List (Value × Value)} {m n : Value × Value}
      (remaining : n ∈ before ++ after) (same : m.1.documentEq n.1 = true) :
      Rewritten (before ++ m :: after) (before ++ after)
  | replaced {before after : List (Value × Value)} {x y l : Value}
      (same : x.documentEq y = true) :
      Rewritten (before ++ (x, l) :: after) (before ++ (y, l) :: after)

theorem Rewritten.served {ms ns : List (Value × Value)} (h : Rewritten ms ns) :
    Served ms ns ∧ Served ns ms := by
  have others : ∀ before after (m : Value × Value),
      Served (before ++ after) (before ++ m :: after) := fun before after m =>
    .of_subset (List.Subset.trans (List.subset_cons_self m _) List.perm_middle.symm.subset)
  cases h with
  | permuted order => exact ⟨.of_subset order.subset, .of_subset order.symm.subset⟩
  | @repeated before after m there =>
    have served : Served (before ++ after) (before ++ after) := .of_subset (List.Subset.refl _)
    exact ⟨others before after m, served_insert.2 ⟨⟨m, there, .inl rfl⟩, served⟩⟩
  | @dropped before after m n remaining same =>
    have served : Served (before ++ after) (before ++ after) := .of_subset (List.Subset.refl _)
    exact ⟨served_insert.2 ⟨⟨n, remaining, .inr (Value.same_of_documentEq same)⟩, served⟩,
      others before after m⟩
  | @replaced before after x y l same =>
    have same := Value.same_of_documentEq same
    refine ⟨served_insert.2 ⟨⟨(y, l), by simp, .inr same⟩, others before after _⟩,
      served_insert.2 ⟨⟨(x, l), by simp, .inr same.symm⟩, others before after _⟩⟩

end Descriptor

open Descriptor in
/-- All members belong, and they keep their own labels just if members that are the same document
have one label. -/
theorem labels_kept_iff {members : List (Value × Value)} (keyed : ∀ m ∈ members, m.1.WellKeyed)
    (defined : ∀ m ∈ members, m.1.Defined) :
    (∀ host, ∀ m ∈ members, (enumeration members).check host m.1 = pure true) ∧
    ((∀ m ∈ members, label members m.1 = .ok m.2) ↔
      ∀ m ∈ members, ∀ n ∈ members, m.1.documentEq n.1 = true → m.2 = n.2) := by
  have self : ∀ m ∈ members, m.1.documentEq m.1 = true := fun m hm =>
    (Value.documentEq_self_iff (keyed m hm)).2 (defined m hm)
  refine ⟨fun host m hm => ?_, fun kept m hm n hn same => ?_, fun one m hm => ?_⟩
  · rw [check_enumeration_eq, List.any_eq_true.2 ⟨m, hm, self m hm⟩]
  · have labels := memberLabel?_congr
      ⟨Value.same_of_documentEq same, keyed m hm, keyed n hn⟩ members
    rw [label_ok.1 (kept m hm), label_ok.1 (kept n hn)] at labels
    exact Option.some.inj labels
  · have outcome := labelled members m.1
    generalize label members m.1 = answer at outcome ⊢
    cases outcome with
    | @found before after n row same =>
      have hn : n ∈ members := row ▸ List.mem_append_right before List.mem_cons_self
      rw [one m hm n hn same]
    | refused none | overlong none => cases (none m hm).symm.trans (self m hm)

/-- One, `true` and a list of `true` are members with labels of their own. -/
theorem labels_kept_iff_truths :
    let members : List (Value × Value) :=
      [(.int 1, .text "one"), (.bool true, .text "yes"), (.list [.bool true], .text "row")]
    let host : Host := fun _ v => .ok v
    (∀ m ∈ members, m.1.WellKeyed) ∧ (∀ m ∈ members, m.1.Defined) ∧
      (∀ m ∈ members, (Descriptor.enumeration members).check host m.1 = pure true) ∧
      (∀ m ∈ members, ∀ n ∈ members, m.1.documentEq n.1 = true → m.2 = n.2) ∧
      ∀ m ∈ members, Descriptor.label members m.1 = .ok m.2 := by
  intro members host
  have keyed : ∀ m ∈ members, m.1.WellKeyed := by simp [members]
  have defined : ∀ m ∈ members, m.1.Defined := by
    simp only [members, List.forall_mem_cons]
    exact ⟨.int 1, .bool true, .list (by simpa using .bool true), nofun⟩
  obtain ⟨belong, kept⟩ := labels_kept_iff keyed defined
  have apart : ∀ m ∈ members, ∀ n ∈ members, m.1.documentEq n.1 = true → m.2 = n.2 := by
    simp [members, Value.documentEq, Value.looseEq, Value.equalQuantity, Value.quantity?]
  exact ⟨keyed, defined, belong host, apart, kept.2 apart⟩

/-- A number and its fraction differ in form, and yet the second goes by the label of the first. -/
theorem fraction_shadowed :
    let fraction : Value := .float (.finite false 1 0)
    let members : List (Value × Value) := [(.int 1, .text "one"), (fraction, .text "fraction")]
    (∀ m ∈ members, m.1.WellKeyed ∧ m.1.Defined) ∧
      members.Pairwise (fun m n => ¬(m.1.form = n.1.form ∧ m.1.looseEq n.1 = true)) ∧
      Descriptor.label members fraction = .ok (.text "one") ∧
      ¬∀ m ∈ members, Descriptor.label members m.1 = .ok m.2 := by
  intro fraction members
  have label : Descriptor.label members fraction = .ok (.text "one") := rfl
  refine ⟨?_, ?_, label, fun kept => ?_⟩
  · simp only [members, List.forall_mem_cons]
    exact ⟨⟨.int 1, .int 1⟩, ⟨.float _, .float nofun⟩, nofun⟩
  · simp [members, fraction, Value.form]
  · have own := kept (fraction, .text "fraction") (List.mem_cons_of_mem _ List.mem_cons_self)
    simp [label] at own

end Conform
