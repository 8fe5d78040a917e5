/-!
Lists of keys with values, in the order in which the keys were first stored. `List.lookup` reads
them; storing and erasing keep the order of the other keys.
-/

namespace QueryFence.Assoc

variable {κ α : Type} [DecidableEq κ]

/-- Stores a value under a key: in the place of an older one, or at the end. -/
def put (key : κ) (value : α) : List (κ × α) → List (κ × α)
  | [] => [(key, value)]
  | (k, v) :: rest => if k = key then (key, value) :: rest else (k, v) :: put key value rest

/-- Removes a key and its value. -/
def erase (key : κ) (entries : List (κ × α)) : List (κ × α) := entries.filter fun e => e.1 != key

variable [BEq κ] [LawfulBEq κ]

theorem lookup_put_self (key : κ) (value : α) (entries : List (κ × α)) :
    (put key value entries).lookup key = some value := by
  induction entries with
  | nil => simp [put]
  | cons e rest ih =>
    obtain ⟨k, v⟩ := e
    by_cases hk : k = key
    · simp [put, hk]
    · have hb : (key == k) = false := by simpa using Ne.symm hk
      simp [put, hk, List.lookup_cons, hb, ih]

theorem lookup_put_of_ne {key other : κ} (h : other ≠ key) (value : α) (entries : List (κ × α)) :
    (put key value entries).lookup other = entries.lookup other := by
  have hb : (other == key) = false := by simpa using h
  induction entries with
  | nil => simp [put, List.lookup_cons, hb]
  | cons e rest ih =>
    obtain ⟨k, v⟩ := e
    by_cases hk : k = key
    · subst hk
      simp [put, List.lookup_cons, hb]
    · simp [put, hk, List.lookup_cons, ih]

theorem lookup_erase_self (key : κ) (entries : List (κ × α)) :
    (erase key entries).lookup key = none := by
  rw [List.lookup_eq_none_iff]
  intro e he
  have hne : e.1 ≠ key := by simpa using (List.mem_filter.1 he).2
  simpa using Ne.symm hne

end QueryFence.Assoc
