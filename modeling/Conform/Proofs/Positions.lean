import Conform.Proofs.LooseEquality

namespace Conform.Value

/-- One step from a value into a part of it. -/
inductive Step where
  | key (key : String)
  | index (i : Nat)

def part? : Value → Step → Option Value
  | .object entries, .key key => entries.lookup key
  | .list items, .index i => items[i]?
  | .tuple items, .index i => items[i]?
  | _, _ => none

/-- What stands at a position. -/
def partAt? : Value → List Step → Option Value
  | v, [] => some v
  | v, step :: path => (v.part? step).bind fun part => part.partAt? path

/-- A boolean stands there. -/
def TruthAt (v : Value) (path : List Step) : Prop :=
  ∃ b, v.partAt? path = some (.bool b)

mutual

/-- With a list in place of every tuple. -/
def untupled : Value → Value
  | .list items => .list (untupledItems items)
  | .tuple items => .list (untupledItems items)
  | .object entries => .object (untupledEntries entries)
  | v => v

def untupledItems : List Value → List Value
  | [] => []
  | x :: xs => x.untupled :: untupledItems xs

def untupledEntries : List (String × Value) → List (String × Value)
  | [] => []
  | (key, x) :: rest => (key, x.untupled) :: untupledEntries rest

end

theorem untupledItems_eq_map (xs : List Value) : untupledItems xs = xs.map untupled := by
  induction xs with
  | nil => rfl
  | cons x xs ih => rw [untupledItems, List.map_cons, ih]

theorem untupledEntries_eq_map (xs : List (String × Value)) :
    untupledEntries xs = xs.map fun entry => (entry.1, entry.2.untupled) := by
  induction xs with
  | nil => rfl
  | cons entry xs ih => rw [untupledEntries, List.map_cons, ih]

theorem lookup_untupledEntries (xs : List (String × Value)) (key : String) :
    (untupledEntries xs).lookup key = (xs.lookup key).map untupled := by
  induction xs with
  | nil => rfl
  | cons entry xs ih =>
    obtain ⟨other, x⟩ := entry
    rw [untupledEntries, List.lookup_cons, List.lookup_cons, ih]
    cases key == other <;> rfl

theorem part?_untupled (v : Value) (step : Step) :
    v.untupled.part? step = (v.part? step).map untupled := by
  cases v with
  | list items | tuple items =>
    cases step with
    | key => rfl
    | index i => simp [untupled, part?, untupledItems_eq_map]
  | object entries =>
    cases step with
    | key key => exact lookup_untupledEntries entries key
    | index => rfl
  | _ => cases step <;> rfl

theorem partAt?_untupled (v : Value) (path : List Step) :
    v.untupled.partAt? path = (v.partAt? path).map untupled := by
  induction path generalizing v with
  | nil => rfl
  | cons step path ih =>
    rw [partAt?, partAt?, part?_untupled]
    cases v.part? step with
    | none => rfl
    | some part => exact ih part

theorem untupled_eq_bool {v : Value} {b : Bool} : v.untupled = .bool b ↔ v = .bool b := by
  cases v <;> simp [untupled]

theorem truthAt_untupled {v : Value} {path : List Step} :
    v.untupled.TruthAt path ↔ v.TruthAt path := by
  unfold TruthAt
  rw [partAt?_untupled]
  cases v.partAt? path with
  | none => rfl
  | some part => simp [untupled_eq_bool]

/-- Booleans stand at the same positions. -/
def SameTruths (a b : Value) : Prop :=
  ∀ path, a.TruthAt path ↔ b.TruthAt path

theorem truthAt_nil {v : Value} : v.TruthAt [] ↔ Kind.boolean.accepts v = true := by
  cases v <;> simp [TruthAt, partAt?, Kind.accepts]

theorem truthAt_cons {v part : Value} {step : Step} (h : v.part? step = some part)
    (path : List Step) : v.TruthAt (step :: path) ↔ part.TruthAt path := by
  rw [TruthAt, partAt?, h]
  rfl

theorem SameTruths.part {a b x y : Value} (h : SameTruths a b) (step : Step)
    (hx : a.part? step = some x) (hy : b.part? step = some y) : SameTruths x y := by
  intro path
  rw [← truthAt_cons hx, ← truthAt_cons hy]
  exact h (step :: path)

theorem part?_index {v : Value} {xs : List Value} (h : v.items? = some xs) (i : Nat) :
    v.part? (.index i) = xs[i]? := by
  cases v with
  | list | tuple =>
    cases h
    rfl
  | _ => cases h

/-- Each part of a document has its counterpart. -/
theorem Same.part {a b x : Value} {step : Step} (h : Same a b) (hx : a.part? step = some x) :
    ∃ y, b.part? step = some y ∧ Same x y := by
  cases h with
  | items ha hb length each =>
    cases step with
    | key => cases a <;> cases ha <;> cases hx
    | index i =>
      rw [part?_index ha] at hx
      have pairs := List.forall₂_iff_zip.2 ⟨length, fun hm => each _ _ hm⟩
      rw [part?_index hb]
      exact (exists_getElem?_of_forall₂ pairs.flip hx)
  | @object xs ys keys each =>
    cases step with
    | key key =>
      change xs.lookup key = some x at hx
      obtain ⟨y, hy⟩ := exists_counterpart keys hx
      exact ⟨y, hy, each key x y hx hy⟩
    | index => cases hx
  | number left => cases a <;> cases left <;> cases step <;> cases hx
  | _ => cases step <;> cases hx

theorem Same.truthAt {a b : Value} (h : Same a b) {path : List Step} (truth : a.TruthAt path) :
    b.TruthAt path := by
  induction path generalizing a b with
  | nil => rwa [truthAt_nil, ← h.accepts, ← truthAt_nil]
  | cons step path ih =>
    obtain ⟨p, found⟩ := truth
    obtain ⟨x, hx, rest⟩ := Option.bind_eq_some_iff.1 found
    obtain ⟨y, hy, same⟩ := h.part hx
    exact (truthAt_cons hy path).2 (ih same ⟨p, rest⟩)

theorem Same.sameTruths {a b : Value} (h : Same a b) : SameTruths a b :=
  fun _ => ⟨h.truthAt, h.symm.truthAt⟩

theorem untupled_of_items {v : Value} {xs : List Value} (h : v.items? = some xs) :
    v.untupled = .list (xs.map untupled) := by
  cases v with
  | list | tuple =>
    cases h
    exact congrArg Value.list (untupledItems_eq_map _)
  | _ => cases h

theorem quantity?_untupled (v : Value) : v.untupled.quantity? = v.quantity? := by
  cases v <;> rfl

theorem keys_untupledEntries (xs : List (String × Value)) :
    Entries.keys (untupledEntries xs) = Entries.keys xs := by
  rw [Entries.keys, untupledEntries_eq_map, List.map_map]
  rfl

/-- Objects with the same distinct keys have as many entries. -/
theorem length_eq_of_keys {xs ys : List (String × Value)} (hx : (Entries.keys xs).Nodup)
    (hy : (Entries.keys ys).Nodup) (keys : ∀ k, (xs.lookup k).isSome = (ys.lookup k).isSome) :
    xs.length = ys.length := by
  have perm : (Entries.keys xs).Perm (Entries.keys ys) :=
    (List.perm_ext_iff_of_nodup hx hy).2 fun k => by
      rw [Entries.mem_keys_iff, Entries.mem_keys_iff, keys]
  simpa [Entries.keys] using perm.length_eq

theorem Same.untupled {a b : Value} (h : Same a b) (ha : a.WellKeyed) (hb : b.WellKeyed) :
    a.untupled.looseEq b.untupled = true := by
  rw [looseEq_iff]
  induction h with
  | null => exact .null
  | bool b => exact .quantity (q := .exact _) rfl rfl nofun
  | text s => exact .text s
  | number _ _ left right defined =>
    rw [← quantity?_untupled] at left right
    exact .quantity left right defined
  | items hx hy length each ih =>
    rw [untupled_of_items hx, untupled_of_items hy]
    refine .list ?_
    rw [List.forall₂_map_left_iff, List.forall₂_map_right_iff, List.forall₂_iff_zip]
    refine ⟨length, fun hm => ?_⟩
    obtain ⟨mx, my⟩ := List.of_mem_zip hm
    exact looseEq_iff.2 (ih _ _ hm (ha.of_items hx mx) (hb.of_items hy my))
  | @object xs ys keys each ih =>
    obtain ⟨dx, px⟩ := wellKeyed_object.1 ha
    obtain ⟨dy, py⟩ := wellKeyed_object.1 hb
    refine .object ?_ fun k x hm => ?_
    · simpa [untupledEntries_eq_map] using length_eq_of_keys dx dy keys
    · have distinct : (Entries.keys (untupledEntries xs)).Nodup := by rwa [keys_untupledEntries]
      have found := Entries.lookup_of_mem distinct hm
      rw [lookup_untupledEntries] at found
      obtain ⟨x, hx, rfl⟩ := Option.map_eq_some_iff.1 found
      obtain ⟨y, hy⟩ := exists_counterpart keys hx
      refine ⟨y.untupled, by rw [lookup_untupledEntries, hy]; rfl, looseEq_iff.2 ?_⟩
      exact ih k x y hx hy (ha.of_lookup hx) (hb.of_lookup hy)

theorem number_of_quantity {v : Value} {q : Quantity} (h : v.quantity? = some q)
    (other : Kind.boolean.accepts v = false) : Kind.number.accepts v = true := by
  cases v with
  | int | float => rfl
  | bool => cases other
  | _ => cases h

theorem items_of_untupled {v : Value} {xs : List Value} (h : v.untupled = .list xs) :
    ∃ ys, v.items? = some ys ∧ xs = ys.map untupled := by
  cases v with
  | list ys | tuple ys =>
    rw [untupled_of_items rfl] at h
    cases h
    exact ⟨ys, rfl, rfl⟩
  | _ => cases h

theorem entries_of_untupled {v : Value} {xs : List (String × Value)}
    (h : v.untupled = .object xs) : ∃ ys, v = .object ys ∧ xs = untupledEntries ys := by
  cases v with
  | object ys =>
    cases h
    exact ⟨ys, rfl, rfl⟩
  | _ => cases h

theorem Same.of_untupledNumber {a b : Value} (number : Kind.number.accepts a = true)
    (h : a.untupled.looseEq b.untupled = true) (truths : SameTruths a b) : Same a b := by
  have quantity : ∃ q, a.untupled.quantity? = some q := by
    cases a with
    | int | float => exact ⟨_, rfl⟩
    | _ => cases number
  obtain ⟨q, hq⟩ := quantity
  rw [(looseEq_of_quantity hq _).1] at h
  obtain ⟨r, left, right, defined⟩ := quantity_of_equalQuantity h
  rw [quantity?_untupled] at left right
  -- What counts as a number is one unless it is a boolean, and no boolean stands here.
  have other : Kind.boolean.accepts b = false := by
    rw [Bool.eq_false_iff, ne_eq, ← truthAt_nil, ← truths, truthAt_nil]
    cases a with
    | int | float => exact nofun
    | _ => cases number
  exact .number number (number_of_quantity right other) left right defined

theorem Same.of_untupledItems {a b : Value} {xs : List Value} (ha : a.items? = some xs)
    (parts : ∀ x ∈ xs, ∀ y : Value, x.untupled.looseEq y.untupled = true → SameTruths x y →
      Same x y)
    (h : a.untupled.looseEq b.untupled = true) (truths : SameTruths a b) : Same a b := by
  rw [untupled_of_items ha] at h
  generalize hb : b.untupled = b' at h
  cases looseEq_iff.1 h with
  | quantity none => cases none
  | list each =>
    obtain ⟨ys, hy, rfl⟩ := items_of_untupled hb
    rw [List.forall₂_map_left_iff, List.forall₂_map_right_iff] at each
    refine .of_forall₂ ha hy (forall₂_of_getElem? each fun i x y hx hy' eq => ?_)
    have facing : SameTruths x y :=
      truths.part (.index i) ((part?_index ha i).trans hx) ((part?_index hy i).trans hy')
    exact parts x (List.mem_of_getElem? hx) y eq facing

theorem Same.of_untupledEntries {xs : List (String × Value)} {b : Value}
    (distinct : (Entries.keys xs).Nodup)
    (parts : ∀ entry ∈ xs, ∀ y : Value, entry.2.untupled.looseEq y.untupled = true →
      SameTruths entry.2 y → Same entry.2 y)
    (h : (Value.object xs).untupled.looseEq b.untupled = true)
    (truths : SameTruths (.object xs) b) : Same (.object xs) b := by
  rw [Value.untupled] at h
  generalize hb : b.untupled = b' at h
  cases looseEq_iff.1 h with
  | quantity none => cases none
  | object length found =>
    obtain ⟨ys, rfl, rfl⟩ := entries_of_untupled hb
    have forth : ∀ k x, xs.lookup k = some x → ∃ y, ys.lookup k = some y ∧ Same x y := by
      intro k x hx
      have there : (untupledEntries xs).lookup k = some x.untupled := by
        rw [lookup_untupledEntries, hx]
        rfl
      obtain ⟨z, hz, eq⟩ := found k _ (Entries.mem_of_lookup there)
      rw [lookup_untupledEntries] at hz
      obtain ⟨y, hy, rfl⟩ := Option.map_eq_some_iff.1 hz
      have facing : SameTruths x y := truths.part (.key k) hx hy
      exact ⟨y, hy, parts (k, x) (Entries.mem_of_lookup hx) y eq facing⟩
    refine .of_lookups forth (keys_subset distinct ?_ (keys_subset_of_lookups forth))
    simpa [untupledEntries_eq_map] using length

/-- Where booleans stand tells a boolean from the number that it counts as. -/
theorem same_of_untupled {a b : Value} (ha : a.WellKeyed)
    (h : a.untupled.looseEq b.untupled = true) (truths : SameTruths a b) : Same a b := by
  induction a generalizing b with
  | null =>
    cases b with
    | null => exact .null
    | _ => simp [Value.untupled, looseEq, equalQuantity, quantity?] at h
  | bool p =>
    have truth : Kind.boolean.accepts b = true := truthAt_nil.1 ((truths []).1 (truthAt_nil.2 rfl))
    cases b with
    | bool q => cases p <;> cases q <;> first | exact .bool _ | cases h
    | _ => cases truth
  | int n => exact .of_untupledNumber rfl h truths
  | float x => exact .of_untupledNumber rfl h truths
  | text s =>
    cases b with
    | text t =>
      rw [show s = t from eq_of_beq h]
      exact .text t
    | _ => simp [Value.untupled, looseEq, equalQuantity, quantity?] at h
  | list xs ih =>
    rw [wellKeyed_list] at ha
    exact .of_untupledItems rfl (fun x hx y => ih x hx (ha x hx)) h truths
  | tuple xs ih =>
    rw [wellKeyed_tuple] at ha
    exact .of_untupledItems rfl (fun x hx y => ih x hx (ha x hx)) h truths
  | object xs ih =>
    obtain ⟨distinct, keyed⟩ := wellKeyed_object.1 ha
    exact .of_untupledEntries distinct (fun entry hm y => ih entry hm (keyed entry hm)) h truths

theorem Same.defined {a : Value} (h : Same a a) (keyed : a.WellKeyed) : a.Defined := by
  induction a with
  | null => exact .null
  | bool b => exact .bool b
  | int n => exact .int n
  | text s => exact .text s
  | float x =>
    cases h with
    | number _ _ quantity _ defined =>
      cases quantity
      exact .float defined
    | items none => cases none
  | list xs ih =>
    rw [wellKeyed_list] at keyed
    obtain ⟨_, itself, each⟩ := h.items_right rfl
    cases itself
    have parts := List.forall₂_same.1 each
    exact .list fun x hx => ih x hx (parts x hx) (keyed x hx)
  | tuple xs ih =>
    rw [wellKeyed_tuple] at keyed
    obtain ⟨_, itself, each⟩ := h.items_right rfl
    cases itself
    have parts := List.forall₂_same.1 each
    exact .tuple fun x hx => ih x hx (parts x hx) (keyed x hx)
  | object xs ih =>
    obtain ⟨distinct, keyed⟩ := wellKeyed_object.1 keyed
    cases h with
    | number other => cases other
    | items none => cases none
    | object _ each =>
      refine .object fun entry hm => ih entry hm ?_ (keyed entry hm)
      have found := Entries.lookup_of_mem distinct hm
      exact each _ _ _ found found

theorem documentEq_self_iff {a : Value} (keyed : a.WellKeyed) :
    a.documentEq a = true ↔ a.Defined := by
  rw [documentEq_iff_same keyed]
  exact ⟨fun h => h.defined keyed, fun defined => same_self (looseEq_refl keyed defined)⟩

/-- Document equality is loose equality but for tuples and booleans, and so an equivalence of the
values that have no undefined number in them. -/
theorem documentEq_iff_positions {a b : Value} (ha : a.WellKeyed) (hb : b.WellKeyed) (c : Value) :
    (a.documentEq b = true ↔ a.untupled.looseEq b.untupled = true ∧
      ∀ path, a.untupled.TruthAt path ↔ b.untupled.TruthAt path) ∧
    (a.documentEq b = true → b.documentEq a = true) ∧
    (a.documentEq b = true → b.documentEq c = true → a.documentEq c = true) ∧
    (a.documentEq a = true ↔ a.Defined) := by
  simp only [truthAt_untupled, documentEq_iff_same ha, documentEq_iff_same hb]
  refine ⟨⟨fun h => ⟨h.untupled ha hb, h.sameTruths⟩, fun h => same_of_untupled ha h.1 h.2⟩,
    Same.symm, Same.trans, ?_⟩
  rw [← documentEq_iff_same ha]
  exact documentEq_self_iff ha

/-- A tuple and a list, a number and its fraction, and keys in another order make no difference; a
boolean where a number stood does. -/
theorem documentEq_iff_positions_rewritten :
    let a : Value := .object [("flags", .tuple [.int 1, .bool true]), ("note", .null)]
    let b : Value :=
      .object [("note", .null), ("flags", .list [.float (.finite false 1 0), .bool true])]
    let c : Value := .object [("flags", .list [.bool true, .bool true]), ("note", .null)]
    a.WellKeyed ∧ b.WellKeyed ∧ a.documentEq b = true ∧ a.untupled.looseEq b.untupled = true ∧
      (∀ path, a.untupled.TruthAt path ↔ b.untupled.TruthAt path) ∧ b.documentEq a = true ∧
      a.documentEq a = true ∧ a.Defined ∧
      a.untupled.looseEq c.untupled = true ∧ a.documentEq c = false := by
  intro a b c
  have keyed : a.WellKeyed ∧ b.WellKeyed := by simp [a, b, Entries.keys]
  have same : a.documentEq b = true := by decide +kernel
  obtain ⟨positions, symm, trans, self⟩ := documentEq_iff_positions keyed.1 keyed.2 a
  obtain ⟨loose, truths⟩ := positions.1 same
  have back : b.documentEq a = true := symm same
  have same' : a.documentEq a = true := trans same back
  exact ⟨keyed.1, keyed.2, same, loose, truths, back, same', self.1 same', by decide +kernel,
    by decide +kernel⟩

end Conform.Value
