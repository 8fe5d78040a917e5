import QueryFence.Proofs.Steps
import QueryFence.Settings.Fields

/-!
What is found in a table of custom fields: an id with a name, and by name only ids of the table.
-/

namespace QueryFence.FieldTable

variable {table : FieldTable}

theorem nameOf?_isSome_iff {id : Text} :
    (table.nameOf? id).isSome = true ↔ ∃ name, (id, name) ∈ table := by
  rw [nameOf?, List.lookup_isSome_iff]
  constructor
  · rintro ⟨⟨i, name⟩, hm, he⟩
    exact ⟨name, eq_of_beq he ▸ hm⟩
  · rintro ⟨name, hm⟩
    exact ⟨(id, name), hm, beq_self_eq_true id⟩

theorem mem_insertName {name : Json} {id : Text} {ids : List (Json × Text)} {entry : Json × Text}
    (h : entry ∈ insertName name id ids) : entry.2 = id ∨ entry ∈ ids := by
  induction ids with
  | nil =>
    rw [insertName, List.mem_singleton] at h
    exact .inl (h ▸ rfl)
  | cons first ids ih =>
    obtain ⟨n, i⟩ := first
    rw [insertName] at h
    split at h
    · rcases List.mem_cons.1 h with rfl | h
      · exact .inl rfl
      · exact .inr (List.mem_cons_of_mem _ h)
    · rcases List.mem_cons.1 h with rfl | h
      · exact .inr List.mem_cons_self
      · exact (ih h).imp_right (List.mem_cons_of_mem _)

/-- The ids of the reverse table are ids of the table. -/
theorem exists_mem_of_idsByName {ids : List (Json × Text)} (h : table.idsByName = .ok ids) :
    ∀ entry ∈ ids, ∃ name, (entry.2, name) ∈ table := by
  refine Steps.foldlM_invariant (P := fun ids => ∀ entry ∈ ids, ∃ name, (entry.2, name) ∈ table)
    ?_ (fun entry he => absurd he List.not_mem_nil) h
  rintro ids hi ⟨id, name⟩ hm ids' hs entry he
  have hs : ids' = insertName name id ids := by
    cases name <;> cases hs <;> rfl
  subst hs
  rcases mem_insertName he with he | he
  · exact ⟨name, he ▸ hm⟩
  · exact hi entry he

theorem exists_mem_of_idOf? {name id : Text} (h : table.idOf? name = .ok (some id)) :
    ∃ name, (id, name) ∈ table := by
  rw [idOf?] at h
  cases hi : table.idsByName with
  | error fault =>
    rw [hi] at h
    cases h
  | ok ids =>
    rw [hi, Except.ok.injEq, Option.map_eq_some_iff] at h
    obtain ⟨entry, hf, rfl⟩ := h
    exact exists_mem_of_idsByName hi entry (List.mem_of_find?_eq_some hf)

end QueryFence.FieldTable
