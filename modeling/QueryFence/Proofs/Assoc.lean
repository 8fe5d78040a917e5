import QueryFence.Assoc
import Mathlib.Data.List.Nodup

/-!
Lists of keys with values in which no key stands twice, as storing and erasing leave them.
-/

namespace QueryFence.Assoc

variable {κ α : Type}

/-- No key stands twice. -/
def HasDistinctKeys (entries : List (κ × α)) : Prop := (entries.map Prod.fst).Nodup

instance [DecidableEq κ] (entries : List (κ × α)) : Decidable (HasDistinctKeys entries) :=
  inferInstanceAs (Decidable (entries.map Prod.fst).Nodup)

theorem HasDistinctKeys.sublist {entries rest : List (κ × α)} (h : HasDistinctKeys entries)
    (hs : rest.Sublist entries) : HasDistinctKeys rest :=
  List.Nodup.sublist (hs.map Prod.fst) h

theorem mem_keys {k : κ} {v : α} {entries : List (κ × α)} (h : (k, v) ∈ entries) :
    k ∈ entries.map Prod.fst := List.mem_map_of_mem h

theorem mem_of_lookup_eq_some [BEq κ] [LawfulBEq κ] {key : κ} {value : α} {entries : List (κ × α)}
    (h : entries.lookup key = some value) : (key, value) ∈ entries := by
  obtain ⟨before, behind, rfl, -⟩ := List.lookup_eq_some_iff.1 h
  exact List.mem_append_right _ List.mem_cons_self

/-- Where no key stands twice, everything that is stored is found. -/
theorem HasDistinctKeys.lookup_eq_some [BEq κ] [LawfulBEq κ] {key : κ} {value : α}
    {entries : List (κ × α)} (h : HasDistinctKeys entries) (hm : (key, value) ∈ entries) :
    entries.lookup key = some value := by
  induction entries with
  | nil => exact absurd hm List.not_mem_nil
  | cons e rest ih =>
    obtain ⟨k, v⟩ := e
    obtain ⟨hk, hrest⟩ := List.nodup_cons.1 h
    rcases List.mem_cons.1 hm with heq | hbehind
    · obtain ⟨rfl, rfl⟩ := Prod.mk.inj heq
      exact List.lookup_cons_self
    · have hne : (key == k) = false := by
        rw [beq_eq_false_iff_ne]
        rintro rfl
        exact hk (mem_keys hbehind)
      rw [List.lookup_cons, hne]
      exact ih hrest hbehind

variable [DecidableEq κ]

theorem mem_of_mem_put {key k : κ} {value v : α} {entries : List (κ × α)}
    (h : HasDistinctKeys entries) (hm : (k, v) ∈ put key value entries) :
    (k = key ∧ v = value) ∨ (k ≠ key ∧ (k, v) ∈ entries) := by
  induction entries with
  | nil =>
    obtain ⟨rfl, rfl⟩ := Prod.mk.inj (List.mem_singleton.1 hm)
    exact .inl ⟨rfl, rfl⟩
  | cons e rest ih =>
    obtain ⟨k', v'⟩ := e
    obtain ⟨hk, hrest⟩ := List.nodup_cons.1 h
    by_cases hput : k' = key
    · subst hput
      rw [put, if_pos rfl] at hm
      rcases List.mem_cons.1 hm with heq | hbehind
      · exact .inl (Prod.mk.inj heq)
      · refine .inr ⟨?_, List.mem_cons_of_mem _ hbehind⟩
        rintro rfl
        exact hk (mem_keys hbehind)
    · rw [put, if_neg hput] at hm
      rcases List.mem_cons.1 hm with heq | hbehind
      · obtain ⟨rfl, rfl⟩ := Prod.mk.inj heq
        exact .inr ⟨hput, List.mem_cons_self⟩
      · rcases ih hrest hbehind with hself | ⟨hne, hold⟩
        · exact .inl hself
        · exact .inr ⟨hne, List.mem_cons_of_mem _ hold⟩

theorem HasDistinctKeys.put {key : κ} {value : α} {entries : List (κ × α)}
    (h : HasDistinctKeys entries) : HasDistinctKeys (put key value entries) := by
  induction entries with
  | nil => exact List.nodup_singleton _
  | cons e rest ih =>
    obtain ⟨k, v⟩ := e
    obtain ⟨hk, hrest⟩ := List.nodup_cons.1 h
    rw [Assoc.put]
    split
    · rename_i hput
      subst hput
      exact h
    · rename_i hne
      refine List.nodup_cons.2 ⟨fun hm => ?_, ih hrest⟩
      obtain ⟨⟨k', v'⟩, hput, heq⟩ := List.mem_map.1 hm
      obtain rfl : k' = k := heq
      rcases mem_of_mem_put hrest hput with ⟨hself, -⟩ | ⟨-, hold⟩
      · exact hne hself
      · exact hk (mem_keys hold)

/-- A new key comes behind all others. -/
theorem put_of_not_mem {key : κ} {entries : List (κ × α)} (h : key ∉ entries.map Prod.fst)
    (value : α) : put key value entries = entries ++ [(key, value)] := by
  induction entries with
  | nil => rfl
  | cons e rest ih =>
    obtain ⟨k, v⟩ := e
    rw [List.map_cons, List.mem_cons, not_or] at h
    rw [Assoc.put, if_neg (Ne.symm h.1), ih h.2, List.cons_append]

theorem erase_sublist (key : κ) (entries : List (κ × α)) :
    (erase key entries).Sublist entries := List.filter_sublist

theorem ne_of_mem_erase {key k : κ} {v : α} {entries : List (κ × α)}
    (h : (k, v) ∈ erase key entries) : k ≠ key := by
  simpa using (List.mem_filter.1 h).2

theorem erase_eq_self [BEq κ] [LawfulBEq κ] {key : κ} {entries : List (κ × α)}
    (h : entries.lookup key = none) : erase key entries = entries := by
  rw [List.lookup_eq_none_iff] at h
  refine List.filter_eq_self.2 fun e he => ?_
  simpa using Ne.symm (by simpa using h e he)

theorem lookup_erase_of_ne [BEq κ] [LawfulBEq κ] {key other : κ} (h : other ≠ key)
    (entries : List (κ × α)) :
    (erase key entries).lookup other = entries.lookup other := by
  induction entries with
  | nil => rfl
  | cons e rest ih =>
    obtain ⟨k, v⟩ := e
    by_cases hk : k = key
    · subst hk
      have hb : (other == k) = false := beq_eq_false_iff_ne.2 h
      rw [erase, List.filter_cons_of_neg (by simp), List.lookup_cons, hb]
      exact ih
    · rw [erase, List.filter_cons_of_pos (by simpa using hk), List.lookup_cons, List.lookup_cons]
      split
      · rfl
      · exact ih

end QueryFence.Assoc
