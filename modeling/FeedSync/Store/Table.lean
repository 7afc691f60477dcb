/-!
# Tables

Finite maps as lists of entries with distinct keys, in the order in which the keys came. The view
of a table is `get?`; each operation says what it does to it.
-/

namespace FeedSync

/-- A finite map. -/
structure Table (κ ν : Type) where
  entries : List (κ × ν)
  distinct : (entries.map Prod.fst).Nodup

namespace Table

variable {κ ν : Type} [DecidableEq κ]

/-- The table without entries. -/
def empty : Table κ ν := ⟨[], List.nodup_nil⟩

instance : Inhabited (Table κ ν) := ⟨empty⟩

/-- The number of keys. -/
def size (t : Table κ ν) : Nat := t.entries.length

/-- The value at a key. -/
def get? (t : Table κ ν) (k : κ) : Option ν := t.entries.lookup k

/-- Entries with the value at a key replaced, or with a new last entry. -/
def put (k : κ) (v : ν) : List (κ × ν) → List (κ × ν)
  | [] => [(k, v)]
  | entry :: entries => if entry.1 = k then (k, v) :: entries else entry :: put k v entries

theorem mem_keys_put {k x : κ} {v : ν} {entries : List (κ × ν)} :
    x ∈ (put k v entries).map Prod.fst ↔ x = k ∨ x ∈ entries.map Prod.fst := by
  induction entries with
  | nil => simp [put]
  | cons entry entries ih =>
    by_cases h : entry.1 = k
    · simp [put, h]
    · simp only [put, h, if_false, List.map_cons, List.mem_cons, ih]
      constructor <;> rintro (h | h | h) <;> simp [h]

theorem nodup_put {k : κ} {v : ν} {entries : List (κ × ν)} (h : (entries.map Prod.fst).Nodup) :
    ((put k v entries).map Prod.fst).Nodup := by
  induction entries with
  | nil => simp [put]
  | cons entry entries ih =>
    simp only [List.map_cons, List.nodup_cons] at h
    by_cases hk : entry.1 = k
    · simp only [put, hk, if_true, List.map_cons, List.nodup_cons]
      exact ⟨hk ▸ h.1, h.2⟩
    · simp only [put, hk, if_false, List.map_cons, List.nodup_cons]
      exact ⟨fun hm => (mem_keys_put.1 hm).elim hk h.1, ih h.2⟩

/-- Sets the value at a key. -/
def set (t : Table κ ν) (k : κ) (v : ν) : Table κ ν := ⟨put k v t.entries, nodup_put t.distinct⟩

/-- The table of some entries; of those with the same key the last one counts. -/
def ofEntries (entries : List (κ × ν)) : Table κ ν :=
  entries.foldl (fun t entry => t.set entry.1 entry.2) empty

@[simp]
theorem get?_empty (k : κ) : (empty : Table κ ν).get? k = none := rfl

theorem lookup_put (k x : κ) (v : ν) (entries : List (κ × ν)) :
    (put k v entries).lookup x = if x = k then some v else entries.lookup x := by
  induction entries with
  | nil =>
    by_cases h : x = k
    · simp [put, h]
    · have hb : (x == k) = false := by simpa using h
      simp [put, List.lookup_cons, h, hb]
  | cons entry entries ih =>
    obtain ⟨e, w⟩ := entry
    by_cases hx : x = e
    · subst hx
      by_cases h : x = k <;> simp [put, h]
    · have hb : (x == e) = false := by simpa using hx
      by_cases h : e = k
      · subst h
        simp [put, List.lookup_cons, hx, hb]
      · simp [put, List.lookup_cons, h, hb, ih]

@[simp]
theorem get?_set (t : Table κ ν) (k x : κ) (v : ν) :
    (t.set k v).get? x = if x = k then some v else t.get? x :=
  lookup_put k x v t.entries

end Table

end FeedSync
