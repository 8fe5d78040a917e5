import QueryFence.Proofs.Json.RoundTrip

/-!
Values that were read from a text: they are exact, so that writing them and reading them again gives them
back, whatever the text was.
-/

namespace QueryFence.Json

theorem hasDistinctKeys_membersOf (written : List (Text × Json)) :
    Assoc.HasDistinctKeys (membersOf written) := by
  have hfold : ∀ members : List (Text × Json), Assoc.HasDistinctKeys members →
      Assoc.HasDistinctKeys
        (written.foldl (fun members member => Assoc.put member.1 member.2 members) members) := by
    induction written with
    | nil => exact fun members h => h
    | cons member written ih => exact fun members h => ih _ h.put
  exact hfold [] List.nodup_nil

/-- Every member of an object was written there. -/
theorem mem_of_mem_membersOf {written : List (Text × Json)} {member : Text × Json}
    (h : member ∈ membersOf written) : member ∈ written := by
  have hfold : ∀ members : List (Text × Json), Assoc.HasDistinctKeys members →
      member ∈ written.foldl (fun members member => Assoc.put member.1 member.2 members) members →
      member ∈ members ∨ member ∈ written := by
    clear h
    induction written with
    | nil => exact fun members _ hm => .inl hm
    | cons next written ih =>
      intro members hd hm
      rcases ih _ hd.put hm with hm | hm
      · rcases Assoc.mem_of_mem_put hd hm with ⟨hname, hvalue⟩ | ⟨-, hold⟩
        · exact .inr (List.mem_cons.2 (.inl (Prod.ext hname hvalue)))
        · exact .inl hold
      · exact .inr (List.mem_cons_of_mem next hm)
  exact (hfold [] List.nodup_nil h).resolve_left List.not_mem_nil

theorem isExact_object_membersOf {written : List (Text × Json)} (h : MembersExact written) :
    IsExact (.object (membersOf written)) := by
  rw [membersExact_iff] at h
  refine ⟨hasDistinctKeys_membersOf written, membersExact_iff.2 fun member hm => ?_⟩
  exact h member (mem_of_mem_membersOf hm)

theorem isNumeral_wholePart {t : Text} (h : wholePart t ≠ []) :
    Text.isNumeral (wholePart t) = true := by
  rw [Text.isNumeral_iff]
  refine ⟨h, fun c hc => ?_⟩
  rw [wholePart.eq_def] at hc
  split at hc
  · rw [List.mem_singleton.1 hc]
    rfl
  · exact List.all_eq_true.1 List.all_takeWhile c hc

theorem isExact_readNumber {t rest : Text} {v : Json} (h : readNumber t = .ok (v, rest)) :
    v.IsExact := by
  simp only [readNumber] at h
  split at h
  · cases h
  · next hwhole =>
    split at h
    · split at h
      · cases h
      · next hlimit =>
        cases h
        have hnumeral := isNumeral_wholePart fun hnil => hwhole (List.isEmpty_iff.2 hnil)
        have hsize := Text.length_ofNat_numeralValue hnumeral
        have habs : ∀ (negative : Bool) (n : Nat),
            (if negative then -(n : Int) else n).natAbs = n := by
          intro negative n
          cases negative
          · exact Int.natAbs_natCast n
          · exact (Int.natAbs_neg _).trans (Int.natAbs_natCast n)
        rw [IsExact, habs]
        exact hsize.trans (Nat.le_of_not_lt hlimit)
    · cases h
      exact Binary64.isCanonical_ofDecimal _ _ _

theorem isExact_readScalar {t rest : Text} {v : Json} (h : readScalar t = .ok (v, rest)) :
    v.IsExact := by
  have hliterals : ∀ literal ∈ literals, literal.2.IsExact := by decide
  rw [readScalar] at h
  split at h
  · next word value hfind =>
    cases h
    exact hliterals _ (List.mem_of_find?_eq_some hfind)
  · exact isExact_readNumber h

/-- What reading with some fuel gives is exact: a value, the items of a list, the members of an object. -/
structure ReadsExactly (fuel : Nat) : Prop where
  value : ∀ {t v rest}, readValue fuel t = .ok (v, rest) → IsExact v
  items : ∀ {t items rest}, readItems fuel t = .ok (items, rest) → ItemsExact items
  members : ∀ {t members rest}, readMembers fuel t = .ok (members, rest) → MembersExact members

theorem isExact_readValue {fuel : Nat} (ih : ReadsExactly fuel) {t rest : Text} {v : Json}
    (h : readValue (fuel + 1) t = .ok (v, rest)) : IsExact v := by
  rw [readValue.eq_def] at h
  dsimp only at h
  split at h
  · split at h
    · cases h
      trivial
    · cases h
  · split at h
    · cases h
      exact ⟨List.nodup_nil, trivial⟩
    · split at h
      · next hmembers =>
        cases h
        exact isExact_object_membersOf (ih.members hmembers)
      · cases h
  · split at h
    · cases h
      trivial
    · split at h
      · next hitems =>
        cases h
        exact ih.items hitems
      · cases h
  · exact isExact_readScalar h

theorem itemsExact_readItems {fuel : Nat} (ih : ReadsExactly fuel) {t rest : Text} {items : List Json}
    (h : readItems (fuel + 1) t = .ok (items, rest)) : ItemsExact items := by
  rw [readItems.eq_def] at h
  dsimp only at h
  split at h
  · cases h
  · next hvalue =>
    split at h
    · cases h
      exact ⟨ih.value hvalue, trivial⟩
    · split at h
      · next hitems =>
        cases h
        exact ⟨ih.value hvalue, ih.items hitems⟩
      · cases h
    · cases h

theorem membersExact_readMembers {fuel : Nat} (ih : ReadsExactly fuel) {t rest : Text}
    {members : List (Text × Json)} (h : readMembers (fuel + 1) t = .ok (members, rest)) :
    MembersExact members := by
  rw [readMembers.eq_def] at h
  dsimp only at h
  split at h
  · split at h
    · cases h
    · split at h
      · split at h
        · cases h
        · next hvalue =>
          split at h
          · cases h
            exact ⟨ih.value hvalue, trivial⟩
          · split at h
            · next hmembers =>
              cases h
              exact ⟨ih.value hvalue, ih.members hmembers⟩
            · cases h
          · cases h
      · cases h
  · cases h

theorem readsExactly (fuel : Nat) : ReadsExactly fuel := by
  induction fuel with
  | zero =>
    constructor
    · intro t v rest h
      rw [readValue] at h
      cases h
    · intro t items rest h
      rw [readItems] at h
      cases h
    · intro t members rest h
      rw [readMembers] at h
      cases h
  | succ fuel ih =>
    exact ⟨isExact_readValue ih, itemsExact_readItems ih, membersExact_readMembers ih⟩

/-- What is read of a text can be written and read again as it is. -/
theorem isExact_of_read {t : Text} {v : Json} (h : read t = .ok v) : v.IsExact := by
  rw [read] at h
  split at h
  · cases h
  · next hvalue =>
    split at h
    · cases h
      exact (readsExactly _).value hvalue
    · cases h

end QueryFence.Json
