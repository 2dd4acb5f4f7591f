/-!
# The most recent entries

A table of bounded size that keeps the entries used last. Its entries stand in the order of their
last use, so that the one to give up is the last, and no two of them have the same key.

* `Recent.get`: the value under a key, whose entry becomes the most recent one.
* `Recent.put`: a key with its value becomes the most recent entry.
* `Recent.get_of_mem`, `Recent.get_of_not_contains`: what is found, and the table after it.
* `Recent.keys_put`, `Recent.mem_put`: what is in a table after an entry is put.
-/

namespace Formula

/-- Keys with their values, the most recently used first, and how many there may be. -/
@[ext]
structure Recent (κ : Type) (α : Type) where
  capacity : Nat
  entries : List (κ × α)
  nodup : (entries.map (·.1)).Nodup
  bounded : entries.length ≤ capacity

namespace Recent

variable {κ α : Type}

/-- An empty table for the given number of entries, at least one. -/
def ofCapacity (capacity : Nat) : Recent κ α := ⟨max capacity 1, [], List.nodup_nil, Nat.zero_le _⟩

/-- The number of entries. -/
def size (r : Recent κ α) : Nat := r.entries.length

/-- The keys, the most recently used first. -/
def keys (r : Recent κ α) : List κ := r.entries.map (·.1)

/-- Gives up all entries. -/
def clear (r : Recent κ α) : Recent κ α :=
  { r with entries := [], nodup := List.nodup_nil, bounded := Nat.zero_le _ }

theorem clear_of_size {r : Recent κ α} (h : r.size = 0) : r.clear = r :=
  Recent.ext rfl (List.eq_nil_of_length_eq_zero h).symm

variable [DecidableEq κ]

/-! ## Use of an entry -/

/-- An entry in front of those with other keys. -/
def front (entry : κ × α) (entries : List (κ × α)) : List (κ × α) :=
  entry :: entries.filter (·.1 ≠ entry.1)

theorem nodup_front (entry : κ × α) {entries : List (κ × α)} (h : (entries.map (·.1)).Nodup) :
    ((front entry entries).map (·.1)).Nodup := by
  rw [front, List.map_cons, List.nodup_cons]
  refine ⟨?_, h.sublist (List.filter_sublist.map _)⟩
  intro hkey
  obtain ⟨other, hother, heq⟩ := List.mem_map.1 hkey
  simp [heq] at hother

/-- An entry that was there already makes the list no longer. -/
theorem length_front_le {entry : κ × α} {entries : List (κ × α)} (h : entry ∈ entries) :
    (front entry entries).length ≤ entries.length :=
  List.length_filter_lt_length_iff_exists.2 ⟨entry, h, by simp⟩

/-- Whether there is an entry under a key. To ask for it does not count as use. -/
def contains (r : Recent κ α) (key : κ) : Bool := r.entries.any (·.1 = key)

/-- The value under a key, whose entry becomes the most recent one. -/
def get (r : Recent κ α) (key : κ) : Option α × Recent κ α :=
  match h : r.entries.find? (·.1 = key) with
  | some entry =>
    (some entry.2, { r with
      entries := front entry r.entries
      nodup := nodup_front entry r.nodup
      bounded := Nat.le_trans (length_front_le (List.mem_of_find?_eq_some h)) r.bounded })
  | none => (none, r)

/-- Makes a key with its value the most recent entry. What is then too much is given up. -/
def put (r : Recent κ α) (key : κ) (value : α) : Recent κ α :=
  { r with
    entries := (front (key, value) r.entries).take r.capacity
    nodup := (nodup_front (key, value) r.nodup).sublist ((List.take_sublist _ _).map _)
    bounded := List.length_take_le _ _ }

/-! ## What is found and what is kept -/

variable {r : Recent κ α} {key : κ} {value : α}

theorem contains_iff : r.contains key = true ↔ key ∈ r.keys := by
  simp [contains, keys]

theorem contains_iff_exists : r.contains key = true ↔ ∃ value, (key, value) ∈ r.entries := by
  simp [contains]

/-- The entry of a key is the one that is found under it, for there is no other. -/
theorem find?_of_mem {entries : List (κ × α)} (hnodup : (entries.map (·.1)).Nodup)
    (h : (key, value) ∈ entries) : entries.find? (·.1 = key) = some (key, value) := by
  induction entries with
  | nil => cases h
  | cons entry rest ih =>
    rw [List.map_cons, List.nodup_cons] at hnodup
    rcases List.mem_cons.1 h with rfl | h
    · simp
    · have hne : entry.1 ≠ key := by
        rintro rfl
        exact hnodup.1 (List.mem_map.2 ⟨_, h, rfl⟩)
      simp [hne, ih hnodup.2 h]

/-- What is found is as if it were put again, for nothing has to be given up. -/
theorem get_of_mem (h : (key, value) ∈ r.entries) : r.get key = (some value, r.put key value) := by
  have hfound := find?_of_mem r.nodup h
  unfold get
  split
  · rename_i entry hentry
    rw [hfound] at hentry
    cases hentry
    -- the entry was counted already, so nothing falls out at the end
    have hroom := Nat.le_trans (length_front_le h) r.bounded
    exact congrArg (Prod.mk _) (Recent.ext rfl (List.take_of_length_le hroom).symm)
  · rename_i hnone
    rw [hfound] at hnone
    cases hnone

/-- To look for a key in vain does not count as use of anything. -/
theorem get_of_not_contains (h : r.contains key = false) : r.get key = (none, r) := by
  have hnone : r.entries.find? (·.1 = key) = none := by simpa [contains] using h
  unfold get
  split
  · rename_i hentry
    rw [hnone] at hentry
    cases hentry
  · rfl

/-- Nothing but the new entry is added. -/
theorem mem_put {entry : κ × α} (h : entry ∈ (r.put key value).entries) :
    entry = (key, value) ∨ entry ∈ r.entries := by
  rcases List.mem_cons.1 (List.mem_of_mem_take h) with he | he
  · exact .inl he
  · exact .inr (List.mem_filter.1 he).1

theorem keys_put (r : Recent κ α) (key : κ) (value : α) :
    (r.put key value).keys = (key :: r.keys.filter (· ≠ key)).take r.capacity := by
  simp [put, front, keys, List.map_take, List.filter_map, Function.comp_def]

end Recent

end Formula
