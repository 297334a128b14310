/-!
# Finite tables

A table is a list of entries with pairwise different keys. Its meaning is the lookup function
`find?`: every operation has one law that says how it changes lookups, and one that says how it
changes the number of entries. Entry order is not part of the meaning.
-/

namespace AlarmServer

universe u v w

/-- A finite map, stored as entries with pairwise different keys. -/
structure Table (κ : Type u) (ν : Type v) where
  /-- The stored entries. -/
  entries : List (κ × ν)
  /-- No key occurs twice. -/
  nodup : (entries.map Prod.fst).Nodup

namespace Table

variable {κ : Type u} {ν : Type v}

/-- The table without entries. -/
def empty : Table κ ν := ⟨[], List.nodup_nil⟩

instance : Inhabited (Table κ ν) := ⟨empty⟩

/-- Number of entries. -/
def size (t : Table κ ν) : Nat := t.entries.length

/-- The keys, in stored order. -/
def keys (t : Table κ ν) : List κ := t.entries.map Prod.fst

/-- The values, in stored order. -/
def values (t : Table κ ν) : List ν := t.entries.map Prod.snd

/-- Is the table without entries? -/
def isEmpty (t : Table κ ν) : Bool := t.entries.isEmpty

/-- Keep the entries whose key satisfies `keep`. -/
def filterKeys (keep : κ → Bool) (t : Table κ ν) : Table κ ν :=
  ⟨t.entries.filter fun e => keep e.1,
    (List.filter_sublist.map Prod.fst).nodup t.nodup⟩

/-- Change every value, which may depend on its key. -/
def mapValues {ν' : Type w} (f : κ → ν → ν') (t : Table κ ν) : Table κ ν' :=
  ⟨t.entries.map fun e => (e.1, f e.1 e.2), by
    simpa [List.map_map, Function.comp_def] using t.nodup⟩

/-- The empty table has no entries. -/
@[simp] theorem size_empty : (empty : Table κ ν).size = 0 := rfl

/-- A change of all values keeps the number of entries. -/
@[simp] theorem size_mapValues {ν' : Type w} (t : Table κ ν) (f : κ → ν → ν') :
    (t.mapValues f).size = t.size := by
  simp [size, mapValues]

variable [DecidableEq κ]

/-- The value stored under `k`. -/
def find? (t : Table κ ν) (k : κ) : Option ν :=
  (t.entries.find? fun e => e.1 = k).map Prod.snd

/-- Does `k` have an entry? -/
def contains (t : Table κ ν) (k : κ) : Bool := (t.find? k).isSome

/-- Remove the entry of `k`, if there is one. -/
def erase (t : Table κ ν) (k : κ) : Table κ ν := t.filterKeys fun k' => k' ≠ k

/-- Give `k` the value `v`, in place of any value it has. -/
def insert (t : Table κ ν) (k : κ) (v : ν) : Table κ ν :=
  ⟨(k, v) :: (t.erase k).entries, by
    have h := (t.erase k).nodup
    simp only [List.map_cons, List.nodup_cons]
    refine ⟨?_, h⟩
    simp [erase, filterKeys]⟩

/-- Change the value of `k`, if it has one. -/
def modify (t : Table κ ν) (k : κ) (f : ν → ν) : Table κ ν :=
  t.mapValues fun k' v => if k' = k then f v else v

/-- The table with the entries of `l`; of two entries with one key the later stays. -/
def ofList (l : List (κ × ν)) : Table κ ν := l.foldl (fun t e => t.insert e.1 e.2) empty

/-! ### Laws of lookup -/

/-- Nothing is found in the empty table. -/
@[simp] theorem find?_empty (k : κ) : (empty : Table κ ν).find? k = none := rfl

/-- Of the entries that are kept each is found as before, and of the others none. -/
theorem find?_filterKeys (t : Table κ ν) (keep : κ → Bool) (k : κ) :
    (t.filterKeys keep).find? k = if keep k then t.find? k else none := by
  simp only [find?, filterKeys, List.find?_filter]
  split
  · next h =>
    congr 2
    funext e
    by_cases hk : e.1 = k <;> simp [hk, h]
  · next h =>
    rw [List.find?_eq_none.2, Option.map_none]
    intro e _
    by_cases hk : e.1 = k <;> simp [hk, h]

/-- An erasure takes away the entry of its key, and no other. -/
theorem find?_erase (t : Table κ ν) (k k' : κ) :
    (t.erase k).find? k' = if k' = k then none else t.find? k' := by
  rw [erase, find?_filterKeys]
  by_cases h : k' = k <;> simp [h]

/-- What was erased is not found. -/
@[simp] theorem find?_erase_self (t : Table κ ν) (k : κ) : (t.erase k).find? k = none := by
  simp [find?_erase]

/-- An insertion sets the entry of its key, and no other. -/
theorem find?_insert (t : Table κ ν) (k k' : κ) (v : ν) :
    (t.insert k v).find? k' = if k' = k then some v else t.find? k' := by
  have h := find?_erase t k k'
  unfold find? at h ⊢
  simp only [insert, List.find?_cons]
  by_cases hk : k = k'
  · simp [hk]
  · have hk' : k' ≠ k := fun e => hk e.symm
    simp only [hk, decide_false, hk', if_false] at h ⊢
    exact h

/-- What was inserted is found. -/
@[simp] theorem find?_insert_self (t : Table κ ν) (k : κ) (v : ν) :
    (t.insert k v).find? k = some v := by
  simp [find?_insert]

/-- A change of all values is found at each key. -/
theorem find?_mapValues {ν' : Type w} (t : Table κ ν) (f : κ → ν → ν') (k : κ) :
    (t.mapValues f).find? k = (t.find? k).map (f k) := by
  simp only [find?, mapValues, List.find?_map, Option.map_map, Function.comp_def]
  cases h : t.entries.find? fun e => decide (e.1 = k) with
  | none => rfl
  | some e =>
    have := List.find?_some h
    simp only [decide_eq_true_eq] at this
    simp [this]

/-- A modification changes the entry of its key, and no other. -/
theorem find?_modify (t : Table κ ν) (k k' : κ) (f : ν → ν) :
    (t.modify k f).find? k' = if k' = k then (t.find? k).map f else t.find? k' := by
  rw [modify, find?_mapValues]
  by_cases h : k' = k
  · subst h
    simp
  · simp [h]

/-- Changing a value twice is changing it once by both. -/
theorem modify_modify (t : Table κ ν) (k : κ) (f g : ν → ν) :
    (t.modify k f).modify k g = t.modify k fun v => g (f v) := by
  have h : ((t.modify k f).modify k g).entries = (t.modify k fun v => g (f v)).entries := by
    simp only [modify, mapValues, List.map_map]
    congr 1
    funext e
    by_cases hk : e.1 = k <;> simp [hk]
  unfold modify mapValues at h ⊢
  congr

/-- The keys are those under which something is found. -/
theorem mem_keys_iff (t : Table κ ν) (k : κ) : k ∈ t.keys ↔ (t.find? k).isSome := by
  simp [keys, find?, List.find?_isSome]

/-- A table contains the keys that it lists. -/
theorem contains_iff_mem_keys (t : Table κ ν) (k : κ) : t.contains k = true ↔ k ∈ t.keys := by
  rw [mem_keys_iff, contains]

/-- The entries are what is found under the keys. -/
theorem mem_entries_iff (t : Table κ ν) (k : κ) (v : ν) :
    (k, v) ∈ t.entries ↔ t.find? k = some v := by
  obtain ⟨l, hl⟩ := t
  simp only [find?]
  induction l with
  | nil => simp
  | cons e l ih =>
    simp only [List.map_cons, List.nodup_cons] at hl
    simp only [List.mem_cons, List.find?_cons]
    by_cases hk : e.1 = k
    · simp only [hk, decide_true, Option.map_some, Option.some.injEq]
      constructor
      · rintro (h | h)
        · rw [← h]
        · exact absurd (List.mem_map_of_mem h) (hk ▸ hl.1)
      · rintro rfl
        exact Or.inl (by rw [← hk])
    · simp only [hk, decide_false]
      rw [← ih hl.2]
      constructor
      · rintro (h | h)
        · exact absurd (by rw [← h]) hk
        · exact h
      · exact Or.inr

/-- An insertion adds its key. -/
theorem contains_insert (t : Table κ ν) (k k' : κ) (v : ν) :
    (t.insert k v).contains k' = (decide (k' = k) || t.contains k') := by
  unfold contains
  rw [find?_insert]
  by_cases h : k' = k <;> simp [h]

/-- An erasure takes away its key. -/
theorem contains_erase (t : Table κ ν) (k k' : κ) :
    (t.erase k).contains k' = (!decide (k' = k) && t.contains k') := by
  unfold contains
  rw [find?_erase]
  by_cases h : k' = k <;> simp [h]

/-- A change of all values keeps the keys. -/
@[simp] theorem contains_mapValues {ν' : Type w} (t : Table κ ν) (f : κ → ν → ν') (k : κ) :
    (t.mapValues f).contains k = t.contains k := by
  simp [contains, find?_mapValues]

/-- A modification keeps the keys. -/
@[simp] theorem contains_modify (t : Table κ ν) (k k' : κ) (f : ν → ν) :
    (t.modify k f).contains k' = t.contains k' :=
  contains_mapValues t _ k'

/-! ### Laws of size -/

/-- A modification keeps the number of entries. -/
@[simp] theorem size_modify (t : Table κ ν) (k : κ) (f : ν → ν) : (t.modify k f).size = t.size :=
  size_mapValues t _

/-- An erasure takes away one entry if the key is there. -/
theorem size_erase (t : Table κ ν) (k : κ) :
    (t.erase k).size = if t.contains k then t.size - 1 else t.size := by
  obtain ⟨l, hl⟩ := t
  simp only [size, erase, filterKeys, contains, find?, Option.isSome_map]
  induction l with
  | nil => rfl
  | cons e l ih =>
    simp only [List.map_cons, List.nodup_cons] at hl
    by_cases hk : e.1 = k
    · have hall : l.filter (fun x => decide (x.1 ≠ k)) = l := by
        rw [List.filter_eq_self]
        intro x hx
        have : x.1 ≠ e.1 := fun h => hl.1 (h ▸ List.mem_map_of_mem hx)
        simpa [hk] using this
      rw [List.filter_cons_of_neg (by simp [hk]), hall]
      simp [hk]
    · have ih' := ih hl.2
      simp only [List.filter_cons, List.find?_cons, hk, ne_eq, not_false_eq_true, decide_true,
        if_true, List.length_cons, decide_false] at ih' ⊢
      rw [ih']
      split
      · next h =>
        have : 0 < l.length := by
          cases l with
          | nil => simp at h
          | cons _ _ => simp
        omega
      · rfl

/-- An insertion adds one entry unless the key is there. -/
theorem size_insert (t : Table κ ν) (k : κ) (v : ν) :
    (t.insert k v).size = if t.contains k then t.size else t.size + 1 := by
  have h := size_erase t k
  unfold size at h ⊢
  simp only [insert, List.length_cons, h]
  split
  · next hc =>
    have : 0 < t.entries.length := by
      cases he : t.entries with
      | nil => simp [contains, find?, he] at hc
      | cons _ _ => simp
    omega
  · rfl

end Table

end AlarmServer
