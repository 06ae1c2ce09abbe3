namespace Conform.Entries

variable {α : Type}

/-- A key that is there already keeps its place and takes the new value. -/
def insert (key : String) (value : α) : List (String × α) → List (String × α)
  | [] => [(key, value)]
  | (k, v) :: rest => if k = key then (k, value) :: rest else (k, v) :: insert key value rest

def ofList (pairs : List (String × α)) : List (String × α) :=
  pairs.foldl (fun entries (key, value) => insert key value entries) []

def keys (entries : List (String × α)) : List String :=
  entries.map Prod.fst

theorem mem_keys_insert {k key : String} {value : α} {entries : List (String × α)} :
    k ∈ keys (insert key value entries) ↔ k = key ∨ k ∈ keys entries := by
  induction entries with
  | nil => simp [insert, keys]
  | cons entry rest ih =>
    obtain ⟨other, v⟩ := entry
    unfold keys at ih
    by_cases h : other = key
    · subst h
      simp [insert, keys]
    · simp only [insert, h, if_false, keys, List.map_cons, List.mem_cons, ih]
      exact or_left_comm

theorem nodup_keys_insert {key : String} {value : α} {entries : List (String × α)}
    (h : (keys entries).Nodup) : (keys (insert key value entries)).Nodup := by
  induction entries with
  | nil => simp [insert, keys]
  | cons entry rest ih =>
    obtain ⟨other, v⟩ := entry
    obtain ⟨fresh, later⟩ := List.nodup_cons.1 h
    by_cases same : other = key
    · simpa [insert, same, keys] using h
    · simp only [insert, same, if_false]
      refine List.nodup_cons.2 ⟨fun found => ?_, ih later⟩
      rcases mem_keys_insert.1 found with eq | found
      · exact same eq
      · exact fresh found

/-- Keys are distinct, however often a pair repeats one. -/
theorem nodup_keys_ofList (pairs : List (String × α)) : (keys (ofList pairs)).Nodup := by
  suffices ∀ entries : List (String × α), (keys entries).Nodup →
      (keys (pairs.foldl (fun entries (key, value) => insert key value entries) entries)).Nodup from
    this [] List.nodup_nil
  induction pairs with
  | nil => exact fun _ h => h
  | cons pair rest ih => exact fun _ h => ih _ (nodup_keys_insert h)

/-- Insertion changes what is found under its own key, and nothing else. -/
theorem lookup_insert {k key : String} {value : α} {entries : List (String × α)} :
    (insert key value entries).lookup k = if k = key then some value else entries.lookup k := by
  induction entries with
  | nil =>
    by_cases h : k = key
    · simp [insert, h]
    · simp [insert, List.lookup_cons, beq_false_of_ne h, h]
  | cons entry rest ih =>
    obtain ⟨other, v⟩ := entry
    by_cases same : other = key
    · subst same
      by_cases h : k = other
      · simp [insert, h]
      · simp [insert, List.lookup_cons, beq_false_of_ne h, h]
    · simp only [insert, same, if_false, List.lookup_cons, ih]
      by_cases h : k = other
      · simp [h, same]
      · simp [beq_false_of_ne h]

/-- An entry given again changes nothing. -/
theorem insert_of_lookup {key : String} {value : α}
    {entries : List (String × α)} (given : entries.lookup key = some value) :
    insert key value entries = entries := by
  induction entries with
  | nil => cases given
  | cons entry rest ih =>
    obtain ⟨other, v⟩ := entry
    by_cases same : other = key
    · subst same
      rw [List.lookup_cons_self] at given
      cases given
      simp [insert]
    · rw [List.lookup_cons, beq_false_of_ne (Ne.symm same)] at given
      simp [insert, same, ih given]

theorem mem_of_lookup {k : String} {v : α} {entries : List (String × α)}
    (h : entries.lookup k = some v) : (k, v) ∈ entries := by
  obtain ⟨before, after, rfl, _⟩ := List.lookup_eq_some_iff.1 h
  simp

theorem mem_keys_iff {k : String} {entries : List (String × α)} :
    k ∈ keys entries ↔ (entries.lookup k).isSome = true := by
  simp only [keys, List.mem_map, List.lookup_isSome_iff, beq_iff_eq, @eq_comm _ k]

/-- With distinct keys an entry is what its key finds. -/
theorem lookup_of_mem {k : String} {v : α} {entries : List (String × α)}
    (h : (keys entries).Nodup) (hm : (k, v) ∈ entries) : entries.lookup k = some v := by
  induction entries with
  | nil => cases hm
  | cons entry rest ih =>
    obtain ⟨other, w⟩ := entry
    obtain ⟨fresh, later⟩ := List.nodup_cons.1 h
    rcases List.mem_cons.1 hm with eq | hm
    · cases eq
      exact List.lookup_cons_self
    · have hne : k ≠ other := fun eq => fresh (eq ▸ List.mem_map.2 ⟨(k, v), hm, rfl⟩)
      simpa [List.lookup_cons, beq_false_of_ne hne] using ih later hm

/-- In what order distinct keys stand is no matter to what they find. -/
theorem lookup_perm {entries entries' : List (String × α)} (order : entries.Perm entries')
    (distinct : (keys entries).Nodup) (k : String) : entries'.lookup k = entries.lookup k := by
  cases found : entries.lookup k with
  | some v =>
    have distinct' : (keys entries').Nodup := (order.map Prod.fst).nodup distinct
    exact lookup_of_mem distinct' (order.mem_iff.1 (mem_of_lookup found))
  | none =>
    cases found' : entries'.lookup k with
    | none => rfl
    | some v =>
      have mem := lookup_of_mem distinct (order.mem_iff.2 (mem_of_lookup found'))
      cases found.symm.trans mem

/-- Every entry of a list made from pairs is one of the pairs. -/
theorem mem_of_mem_insert {entry : String × α} {key : String} {value : α}
    {entries : List (String × α)} (h : entry ∈ insert key value entries) :
    entry = (key, value) ∨ entry ∈ entries := by
  induction entries with
  | nil => simpa [insert] using h
  | cons first rest ih =>
    obtain ⟨other, v⟩ := first
    by_cases same : other = key
    · simp only [insert, same, if_true, List.mem_cons] at h
      rcases h with rfl | h
      · exact .inl rfl
      · exact .inr (List.mem_cons_of_mem _ h)
    · simp only [insert, same, if_false, List.mem_cons] at h
      rcases h with rfl | h
      · exact .inr List.mem_cons_self
      · exact (ih h).imp_right (List.mem_cons_of_mem _)

theorem mem_of_mem_ofList {entry : String × α} {pairs : List (String × α)}
    (h : entry ∈ ofList pairs) : entry ∈ pairs := by
  suffices ∀ entries : List (String × α),
      entry ∈ pairs.foldl (fun entries (key, value) => insert key value entries) entries →
        entry ∈ pairs ∨ entry ∈ entries by
    simpa using this [] h
  clear h
  induction pairs with
  | nil => exact fun _ h => .inr h
  | cons pair rest ih =>
    intro entries h
    rcases ih _ h with hm | hm
    · exact .inl (List.mem_cons_of_mem _ hm)
    · rcases mem_of_mem_insert hm with rfl | hm
      · exact .inl List.mem_cons_self
      · exact .inr hm

end Conform.Entries
