import QueryFence.Proofs.Spec.Grammar

/-!
When reading a block ends in a fault: never, if the comment pattern is one, no limit has too many digits,
and custom fields have names that can be looked up.
-/

namespace QueryFence

open QueryFence.Steps

/-- No field is called by a list or an object, which no name can be compared with. -/
def FieldTable.HasPlainNames (table : FieldTable) : Prop :=
  ∀ entry ∈ table, ∀ v, entry.2 ≠ .list v ∧ ∀ members, entry.2 ≠ .object members

namespace FieldTable

variable {table : FieldTable}

/-- Names that are texts can be looked up. -/
theorem hasPlainNames_of_texts (h : ∀ entry ∈ table, ∃ t, entry.2 = .text t) :
    table.HasPlainNames := by
  intro entry he v
  obtain ⟨t, ht⟩ := h entry he
  rw [ht]
  exact ⟨nofun, nofun⟩

theorem HasPlainNames.endsWell_idOf? (h : table.HasPlainNames) (name : Text) :
    EndsWell (table.idOf? name) := by
  have hids : EndsWell table.idsByName := by
    refine endsWell_foldlM (fun ids entry he => ?_) []
    obtain ⟨id, name⟩ := entry
    have hname := h _ he
    cases name with
    | list items => exact absurd rfl (hname items).1
    | object members => exact absurd rfl ((hname []).2 members)
    | _ => exact endsWell_ok _
  obtain ⟨ids, hids⟩ := hids
  rw [idOf?, hids]
  exact endsWell_ok _

end FieldTable

namespace Column

variable {settings : Settings} {token : Text} {fault : Fault}

theorem resolve_ne_fault {table : FieldTable} (h : table.HasPlainNames) (selector : Text) :
    resolve table selector ≠ .error (.fault fault) := by
  intro hr
  obtain ⟨found, hfound⟩ := h.endsWell_idOf? selector
  unfold resolve at hr
  split at hr
  · split at hr
    · cases hr
    · cases hr
  · rw [hfound] at hr
    cases found with
    | none => cases hr
    | some id =>
      dsimp only at hr
      split at hr
      · cases hr
      · cases hr

theorem readContent_ne_fault (h : settings.customFields.HasPlainNames) :
    readContent settings token ≠ .error (.fault fault) := by
  intro hread
  unfold readContent at hread
  dsimp only at hread
  split at hread
  · cases hread
  split at hread
  · split at hread
    · cases hread
    · next hr =>
      cases hread
      exact resolve_ne_fault h _ hr
  · split at hread
    · cases hread
    · split at hread
      · cases hread
      · cases hread

theorem read_ne_fault (h : settings.customFields.HasPlainNames) :
    read settings token ≠ .error (.fault fault) := by
  intro hread
  unfold read at hread
  dsimp only at hread
  split at hread
  · cases hread
  · next hcontent =>
    cases hread
    exact readContent_ne_fault h hcontent

theorem readList_ne_fault (h : settings.customFields.HasPlainNames) (t : Text) :
    readList settings t ≠ .error (.fault fault) := by
  intro hread
  obtain ⟨token, -, hfault⟩ := exists_of_mapM_eq_error hread
  exact read_ne_fault h hfault

end Column

theorem Limit.read_ne_fault {value : Text} {fault : Fault}
    (h : Text.isNumeral value = true → value.length ≤ Text.numeralLimit) :
    Limit.read value ≠ .error (.fault fault) := by
  intro hread
  rw [Limit.read] at hread
  split at hread
  · next hn =>
    rw [if_neg (Nat.not_lt.2 (h hn))] at hread
    split at hread
    · cases hread
    · cases hread
  · cases hread

namespace Spec

variable {settings : Settings} {s : Spec} {fault : Fault}

theorem applyLine_ne_fault (h : settings.customFields.HasPlainNames) {line : Text}
    (hl : keyOf line = "limit" → Text.isNumeral (valueOf line) = true →
      (valueOf line).length ≤ Text.numeralLimit) :
    s.applyLine settings line ≠ .error (.fault fault) := by
  intro hline
  by_cases hv : valueOf line = []
  · rw [applyLine_bare hv] at hline
    cases hline
  · rw [applyLine_entry hv] at hline
    have hkey : Text.lowerAscii (Text.trim (Text.partition ':' line).1) = "limit" →
        keyOf line = "limit" := fun hk => (Text.lower_eq_iff (by decide)).2 hk
    unfold applyEntry at hline
    dsimp only at hline
    split at hline
    · split at hline
      · cases hline
      · cases hline
    · split at hline
      · cases hline
      · split at hline
        · next hk =>
          split at hline
          · cases hline
          · next hlimit =>
            cases hline
            exact Limit.read_ne_fault (hl (hkey hk)) hlimit
        · split at hline
          · split at hline
            · cases hline
            · next hcolumns =>
              cases hline
              exact Column.readList_ne_fault h _ hcolumns
          · cases hline

/-- Where nothing stands in the way, a block is read or its author told what is wrong. -/
theorem read_ne_fault {comment : Pattern} {t : Text}
    (hc : Pattern.read settings.commentPattern = some comment)
    (h : settings.customFields.HasPlainNames)
    (hl : ∀ line ∈ effectiveLines comment t, keyOf line = "limit" →
      Text.isNumeral (valueOf line) = true → (valueOf line).length ≤ Text.numeralLimit) :
    read settings t ≠ .error (.fault fault) := by
  intro hread
  rw [read, hc] at hread
  dsimp only at hread
  split at hread
  · next hlines =>
    cases hread
    obtain ⟨s, line, hm, hfault⟩ := exists_of_foldlM_eq_error hlines
    exact applyLine_ne_fault h (hl line hm) hfault
  · split at hread
    · cases hread
    · cases hread

end Spec

end QueryFence
