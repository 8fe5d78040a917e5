import QueryFence.Proofs.Json.Removal
import QueryFence.Proofs.Text.Joined
import QueryFence.Proofs.View.Cells

/-!
Nulls in values of unknown shape, as custom fields hold them. A null that is an item, or that nothing is
shown by, looks like nothing; one by which an object is shown can be told from a missing one.
-/

namespace QueryFence.Cell

open Json

variable {name a id : Text} {path : List PathStep} {v fields : Json}
  {members rest : List (Text × Json)}

/-- The attribute by which an object is shown. -/
def shownName? (members : List (Text × Json)) : Option Text :=
  shownAttributes.find? fun a => (members.lookup a).isSome

/-- Nulls that are seen in a value of unknown shape: one by which an object is shown, unless the object
looks like a null without it, and all those inside a value by which an object is shown. -/
inductive ValueShowsNull (name : Text) : List PathStep → Json → Prop
  | here {members : List (Text × Json)} (hshown : shownName? members = some name)
    (hother : ofValue (.object (Assoc.erase name members)) ≠ "None".toList) :
    ValueShowsNull name [] (.object members)
  | within {members : List (Text × Json)} {step : Text} {path : List PathStep}
    (hshown : shownName? members = some step) : ValueShowsNull name (.name step :: path) (.object members)
  | item {items : List Json} {n : Nat} {v : Json} {path : List PathStep}
    (hitem : items[n]? = some v) (h : ValueShowsNull name path v) :
    ValueShowsNull name (.index n :: path) (.list items)

theorem ofValue_object (members : List (Text × Json)) : ofValue (.object members) =
    match shownName? members with
    | some a => escapeValue ((members.lookup a).getD .null)
    | none => [] := by
  rw [ofValue, shownName?]
  generalize shownAttributes = attributes
  induction attributes with
  | nil => rfl
  | cons a attributes ih =>
    rw [List.findSome?_cons, List.find?_cons]
    cases hfound : members.lookup a with
    | some v => simp only [Option.isSome_some, hfound, Option.getD_some]
    | none => simpa only [Option.isSome_none] using ih

theorem isSome_of_shownName? (h : shownName? members = some a) : (members.lookup a).isSome = true :=
  (List.find?_eq_some_iff_append.1 h).1

/-- An object with fewer members is shown by the same one, if it still has it. -/
theorem shownName?_congr
    (hfewer : ∀ a, (rest.lookup a).isSome = true → (members.lookup a).isSome = true)
    (hshown : ∀ a, shownName? members = some a → (rest.lookup a).isSome = true) :
    shownName? rest = shownName? members := by
  cases hname : shownName? members with
  | some a =>
    obtain ⟨-, before, behind, hsplit, hbefore⟩ := List.find?_eq_some_iff_append.1 hname
    refine List.find?_eq_some_iff_append.2
      ⟨hshown a hname, before, behind, hsplit, fun b hb => ?_⟩
    have hnot : (members.lookup b).isSome = false := by simpa using hbefore b hb
    have hgone : (rest.lookup b).isSome = false :=
      Bool.eq_false_iff.2 fun hsome => absurd (hfewer b hsome) (Bool.eq_false_iff.1 hnot)
    rw [hgone]
    rfl
  | none =>
    refine List.find?_eq_none.2 fun a ha hsome => ?_
    exact List.find?_eq_none.1 hname a ha (hfewer a hsome)

theorem ofValue_object_congr
    (hfewer : ∀ a, (rest.lookup a).isSome = true → (members.lookup a).isSome = true)
    (hshown : ∀ a, shownName? members = some a → rest.lookup a = members.lookup a) :
    ofValue (.object rest) = ofValue (.object members) := by
  have hname : shownName? rest = shownName? members :=
    shownName?_congr hfewer fun a ha => hshown a ha ▸ isSome_of_shownName? ha
  rw [ofValue_object, ofValue_object, hname]
  cases hshow : shownName? members with
  | some a => simp only [hshown a hshow]
  | none => rfl

theorem count_escape {c : Char} (h : Text.isBlank c = false) (hbar : c ≠ '|') (hback : c ≠ '\\')
    (t : Text) : (escape t).count c = t.count c := by
  rw [escape, Text.count_replaceChar hbar (by simp [hbar, hback]), Text.count_squeeze h]

theorem escapeValue_without_ne (h : HasNullAt name path v) :
    escapeValue (v.without name path) ≠ escapeValue v := by
  intro hsame
  have hcount := congrArg (List.count ':') hsame
  have hlt := h.count_display_lt
  rw [escapeValue, escapeValue, count_escape rfl (by decide) (by decide),
    count_escape rfl (by decide) (by decide)] at hcount
  omega

theorem ofValues_eq_map (items : List Json) : ofValues items = items.map ofValue := by
  induction items with
  | nil => rfl
  | cons v items ih => rw [ofValues, ih, List.map_cons]

/-- The nulls that an object shows are the attribute by which it is shown, or in it. -/
theorem valueShowsNull_object_iff : ValueShowsNull name path (.object members) ↔
    ∃ a, shownName? members = some a ∧
      (path = [] ∧ a = name ∧ ofValue (.object (Assoc.erase name members)) ≠ "None".toList ∨
        ∃ rest, path = .name a :: rest) := by
  constructor
  · intro h
    cases h with
    | here hshown hother => exact ⟨name, hshown, .inl ⟨rfl, rfl, hother⟩⟩
    | within hshown => exact ⟨_, hshown, .inr ⟨_, rfl⟩⟩
  · rintro ⟨a, hshown, ⟨rfl, rfl, hother⟩ | ⟨rest, rfl⟩⟩
    · exact .here hshown hother
    · exact .within hshown

theorem ofValue_object_without_eq_iff (h : HasNullAt name path (.object members)) :
    ofValue ((Json.object members).without name path) = ofValue (.object members) ↔
      ¬ ValueShowsNull name path (.object members) := by
  obtain ⟨rest, hrest, hchange⟩ := h.exists_members
  have hfewer : ∀ a, (rest.lookup a).isSome = true → (members.lookup a).isSome = true :=
    fun a => (hchange a).isSome
  rw [hrest, valueShowsNull_object_iff]
  cases hshown : shownName? members with
  | none =>
    refine iff_of_true (ofValue_object_congr hfewer fun a ha => ?_) ?_
    · cases hshown.symm.trans ha
    · rintro ⟨a, ha, -⟩
      cases ha
  | some a =>
    have hone := hchange a
    generalize hbefore : members.lookup a = before, hafter : rest.lookup a = after at hone
    cases hone with
    | kept hname hpath =>
      refine iff_of_true (ofValue_object_congr hfewer fun b hb => ?_) ?_
      · cases hshown.symm.trans hb
        rw [hbefore, hafter]
      · rintro ⟨b, hb, ⟨hnil, hsame, -⟩ | ⟨rest, hcons⟩⟩
        · cases hb
          exact hname hnil hsame
        · cases hb
          exact hpath rest hcons
    | gone hnil hname =>
      subst hnil hname
      cases hrest
      have hnone : ofValue (.object members) = "None".toList := by
        simp only [ofValue_object, hshown, hbefore]
        rfl
      rw [hnone]
      constructor
      · rintro hsame ⟨_, -, ⟨-, -, hother⟩ | ⟨_, hcons⟩⟩
        · exact hother hsame
        · cases hcons
      · exact fun hnot => by_contra fun hother => hnot ⟨a, rfl, .inl ⟨rfl, rfl, hother⟩⟩
    | @within path v hcons hnull =>
      have hkept : shownName? rest = some a := by
        rw [← hshown]
        refine shownName?_congr hfewer fun b hb => ?_
        cases hshown.symm.trans hb
        rw [hafter]
        rfl
      refine iff_of_false ?_ (not_not_intro ⟨a, rfl, .inr ⟨path, hcons⟩⟩)
      simp only [ofValue_object, hkept, hshown, hbefore, hafter, Option.getD_some]
      exact escapeValue_without_ne hnull

/-- A value looks the same without a null that it does not show. -/
theorem ofValue_without_eq_iff (h : HasNullAt name path v) :
    ofValue (v.without name path) = ofValue v ↔ ¬ ValueShowsNull name path v := by
  induction h with
  | here hnull => exact ofValue_object_without_eq_iff (.here hnull)
  | member hmember h _ => exact ofValue_object_without_eq_iff (.member hmember h)
  | @item items n v path hitem _ ih =>
    obtain ⟨before, behind, hsplit, hwithout⟩ := exists_without_item hitem
    rw [hwithout, hsplit, ofValue, ofValue, ofValues_eq_map, ofValues_eq_map, List.map_append,
      List.map_append, List.map_cons, List.map_cons, Text.joinWith_append_cons_inj, ih, not_iff_not,
      ← hsplit]
    constructor
    · exact .item hitem
    · intro hshows
      cases hshows with
      | item hitem' h =>
        cases hitem.symm.trans hitem'
        exact h

/-- The nulls that a custom field shows. -/
def CustomShowsNull (fields : Json) (id name : Text) (path : List PathStep) : Prop :=
  ∃ v rest, fields.member? (customName id) = some v ∧ path = .name (customName id) :: rest ∧
    ValueShowsNull name rest v

theorem ofCustom_object (members : List (Text × Json)) (id : Text) :
    ofCustom (.object members) id = .ok (ofValue ((members.lookup (customName id)).getD .null)) := rfl

theorem ofCustom_without_eq_iff (h : HasNullAt name path fields) :
    ofCustom (fields.without name path) id = ofCustom fields id ↔
      ¬ CustomShowsNull fields id name path := by
  cases fields with
  | object members =>
    obtain ⟨rest, hrest, hchange⟩ := h.exists_members
    have hone := hchange (customName id)
    rw [hrest, ofCustom_object, ofCustom_object, Except.ok.injEq, CustomShowsNull, member?]
    generalize members.lookup (customName id) = before, rest.lookup (customName id) = after at hone ⊢
    cases hone with
    | kept _ hpath =>
      refine iff_of_true rfl ?_
      rintro ⟨v, rest, -, hsame, -⟩
      exact hpath rest hsame
    | gone hpath _ =>
      refine iff_of_true rfl ?_
      rintro ⟨v, rest, -, hsame, -⟩
      exact nomatch hpath.symm.trans hsame
    | @within path v hpath hnull =>
      subst hpath
      rw [Option.getD_some, Option.getD_some, ofValue_without_eq_iff hnull, not_iff_not]
      constructor
      · exact fun hshows => ⟨v, path, rfl, rfl, hshows⟩
      · rintro ⟨_, _, hv, hsame, hshows⟩
        cases hv
        cases hsame
        exact hshows
  | list items =>
    cases h with
    | item hitem h =>
      refine iff_of_true rfl ?_
      rintro ⟨v, rest, hv, -⟩
      cases hv
  | _ => cases h

end QueryFence.Cell
