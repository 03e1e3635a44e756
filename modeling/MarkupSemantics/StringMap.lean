/-!
# Maps with string keys

A finite map from strings, kept as a list of entries in strictly increasing order of their keys, so
that equal maps are equal lists and the entries come out in the order of the keys. `get?_insert`
says what an insertion does to every look-up, and `of_list_entries` that a map is built back from
its entries.
-/

namespace MarkupSemantics

/-- A finite map from strings to `α`. -/
structure StringMap (α : Type) where
  /-- The entries in increasing order of their keys. -/
  entries : List (String × α)
  /-- The keys increase strictly. -/
  sorted : entries.Pairwise (·.1 < ·.1)
  deriving DecidableEq

namespace StringMap

variable {α : Type}

/-- The map without entries. -/
def empty : StringMap α :=
  ⟨[], List.Pairwise.nil⟩

instance : Inhabited (StringMap α) :=
  ⟨empty⟩

/-- `m.get? key` is the value that `m` gives to `key`. -/
def get? (m : StringMap α) (key : String) : Option α :=
  m.entries.lookup key

/-- `m.keys` is the list of the keys of `m` in increasing order. -/
def keys (m : StringMap α) : List String :=
  m.entries.map (·.1)

/-- `m.size` is the number of entries of `m`. -/
def size (m : StringMap α) : Nat :=
  m.entries.length

/-- `insertEntry key value entries` puts an entry at its place among sorted entries, where it
replaces an entry with the same key. -/
def insertEntry (key : String) (value : α) : List (String × α) → List (String × α)
  | [] => [(key, value)]
  | (k, v) :: rest =>
    if key < k then (key, value) :: (k, v) :: rest
    else if key = k then (key, value) :: rest
    else (k, v) :: insertEntry key value rest

/-- An insertion adds no entry but its own. -/
theorem mem_insert_entry {key : String} {value : α} {entries : List (String × α)}
    {entry : String × α} (h : entry ∈ insertEntry key value entries) :
    entry = (key, value) ∨ entry ∈ entries := by
  induction entries with
  | nil => simpa [insertEntry] using h
  | cons head rest ih =>
    simp only [insertEntry] at h
    split at h
    · simpa using h
    · split at h
      · rcases List.mem_cons.1 h with rfl | h
        · exact Or.inl rfl
        · exact Or.inr (List.mem_cons_of_mem _ h)
      · rcases List.mem_cons.1 h with rfl | h
        · exact Or.inr List.mem_cons_self
        · rcases ih h with h | h
          · exact Or.inl h
          · exact Or.inr (List.mem_cons_of_mem _ h)

/-- Of two different strings one is less than the other. -/
theorem lt_of_not_lt_of_ne {s t : String} (h : ¬ s < t) (hne : s ≠ t) : t < s := by
  rcases Decidable.em (t < s) with ht | ht
  · exact ht
  · exact absurd (String.le_antisymm (String.not_lt.1 ht) (String.not_lt.1 h)) hne

/-- An insertion keeps the entries in the order of their keys. -/
theorem insert_entry_sorted {key : String} {value : α} {entries : List (String × α)}
    (h : entries.Pairwise (·.1 < ·.1)) :
    (insertEntry key value entries).Pairwise (·.1 < ·.1) := by
  induction entries with
  | nil => simp [insertEntry]
  | cons head rest ih =>
    obtain ⟨hhead, hrest⟩ := List.pairwise_cons.1 h
    simp only [insertEntry]
    split
    · rename_i hlt
      refine List.pairwise_cons.2 ⟨fun entry hentry => ?_, h⟩
      rcases List.mem_cons.1 hentry with rfl | hentry
      · exact hlt
      · exact String.lt_trans hlt (hhead entry hentry)
    · rename_i hlt
      split
      · rename_i heq
        exact List.pairwise_cons.2 ⟨fun entry hentry => heq ▸ hhead entry hentry, hrest⟩
      · rename_i hne
        refine List.pairwise_cons.2 ⟨fun entry hentry => ?_, ih hrest⟩
        rcases mem_insert_entry hentry with rfl | hentry
        · exact lt_of_not_lt_of_ne hlt hne
        · exact hhead entry hentry

/-- `m.insert key value` is `m` with `value` for `key`. -/
def insert (m : StringMap α) (key : String) (value : α) : StringMap α :=
  ⟨insertEntry key value m.entries, insert_entry_sorted m.sorted⟩

/-- `m.erase key` is `m` without a value for `key`. -/
def erase (m : StringMap α) (key : String) : StringMap α :=
  ⟨m.entries.filter (·.1 != key), m.sorted.filter _⟩

/-- `ofList entries` is the map of `entries`, where a later entry wins over an earlier one with the
same key. -/
def ofList (entries : List (String × α)) : StringMap α :=
  entries.foldl (fun m (key, value) => m.insert key value) empty

/-- `m.append key value` adds `value` at the end of the list that `m` gives to `key`. -/
def append (m : StringMap (List α)) (key : String) (value : α) : StringMap (List α) :=
  m.insert key ((m.get? key).getD [] ++ [value])

/-- A look-up tries the first entry and goes on to the rest. -/
theorem lookup_cons_entry (key k : String) (v : α) (entries : List (String × α)) :
    ((k, v) :: entries).lookup key = if key = k then some v else entries.lookup key := by
  by_cases h : key = k
  · simp [h]
  · have hk : (key == k) = false := by simpa using h
    simp [List.lookup_cons, hk, h]

/-- An insertion among entries changes the look-up of its own key only. -/
theorem lookup_insert_entry (key key' : String) (value : α) (entries : List (String × α)) :
    (insertEntry key value entries).lookup key' =
      if key' = key then some value else entries.lookup key' := by
  induction entries with
  | nil => simp [insertEntry, lookup_cons_entry]
  | cons head rest ih =>
    obtain ⟨k, v⟩ := head
    simp only [insertEntry]
    split
    · simp [lookup_cons_entry]
    · split
      · rename_i heq
        subst heq
        simp only [lookup_cons_entry]
        split <;> rfl
      · rename_i hne
        simp only [lookup_cons_entry, ih]
        by_cases h : key' = k
        · subst h
          simp [Ne.symm hne]
        · simp [h]

/-- An insertion changes the look-up of its own key only. -/
@[simp] theorem get?_insert (m : StringMap α) (key key' : String) (value : α) :
    (m.insert key value).get? key' = if key' = key then some value else m.get? key' :=
  lookup_insert_entry key key' value m.entries

/-- Leaving out the entries of a key changes the look-up of this key only. -/
theorem lookup_filter_ne (key key' : String) (entries : List (String × α)) :
    (entries.filter (·.1 != key)).lookup key' =
      if key' = key then none else entries.lookup key' := by
  induction entries with
  | nil => simp
  | cons head rest ih =>
    obtain ⟨k, v⟩ := head
    by_cases hk : k = key
    · subst hk
      rw [List.filter_cons_of_neg (by simp), ih, lookup_cons_entry]
      by_cases h : key' = k <;> simp [h]
    · rw [List.filter_cons_of_pos (by simpa using hk), lookup_cons_entry, lookup_cons_entry, ih]
      by_cases h : key' = k
      · subst h
        simp [hk]
      · simp [h]

/-- A removal changes the look-up of its own key only. -/
@[simp] theorem get?_erase (m : StringMap α) (key key' : String) :
    (m.erase key).get? key' = if key' = key then none else m.get? key' :=
  lookup_filter_ne key key' m.entries

/-- The empty map has no value for any key. -/
@[simp] theorem get?_empty (key : String) : (empty : StringMap α).get? key = none :=
  rfl

/-- Two maps with the same entries are equal. -/
theorem ext_entries {m n : StringMap α} (h : m.entries = n.entries) : m = n := by
  cases m
  cases n
  cases h
  rfl

/-- An entry whose key is greater than all others goes to the end. -/
theorem insert_entry_last {key : String} {value : α} {entries : List (String × α)}
    (h : ∀ entry ∈ entries, entry.1 < key) :
    insertEntry key value entries = entries ++ [(key, value)] := by
  induction entries with
  | nil => rfl
  | cons head rest ih =>
    have hhead := h head List.mem_cons_self
    have hne : key ≠ head.1 := fun heq => String.lt_irrefl _ (heq ▸ hhead)
    simp [insertEntry, String.lt_asymm hhead, hne,
      ih fun entry hentry => h entry (List.mem_cons_of_mem _ hentry)]

/-- Entries that continue the order of a map go to its end one after the other. -/
theorem entries_foldl_insert (entries : List (String × α)) (m : StringMap α)
    (h : (m.entries ++ entries).Pairwise (·.1 < ·.1)) :
    (entries.foldl (fun m (key, value) => m.insert key value) m).entries =
      m.entries ++ entries := by
  induction entries generalizing m with
  | nil => simp
  | cons head rest ih =>
    have hlast : (m.insert head.1 head.2).entries = m.entries ++ [head] :=
      insert_entry_last fun entry hentry =>
        (List.pairwise_append.1 h).2.2 entry hentry head List.mem_cons_self
    rw [List.foldl_cons, ih _ (by rw [hlast]; simpa using h), hlast]
    simp

/-- A map is built back from its entries. -/
@[simp] theorem of_list_entries (m : StringMap α) : ofList m.entries = m :=
  ext_entries (entries_foldl_insert m.entries empty m.sorted)

end StringMap

end MarkupSemantics
