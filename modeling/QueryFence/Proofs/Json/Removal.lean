import Mathlib.Algebra.Order.BigOperators.Group.List
import Mathlib.Algebra.Order.Group.Nat
import Mathlib.Algebra.Ring.Nat
import QueryFence.Json.Display
import QueryFence.Proofs.Assoc
import QueryFence.Proofs.Text.Words
import QueryFence.Settings.Check

/-!
Values with one member taken out of one of their objects: what is found in them afterwards, and that a
value which has lost a member is shown in another way.
-/

namespace QueryFence

namespace Assoc

variable {κ α : Type} [DecidableEq κ] [BEq κ] [LawfulBEq κ] {key : κ} {value other : α}
  {entries : List (κ × α)} {f : κ × α → Nat}

theorem sum_map_erase_lt (hpos : ∀ entry, 0 < f entry) (h : entries.lookup key = some value) :
    ((erase key entries).map f).sum < (entries.map f).sum := by
  obtain ⟨before, behind, rfl, -⟩ := List.lookup_eq_some_iff.1 h
  have hle (some : List (κ × α)) : ((erase key some).map f).sum ≤ (some.map f).sum :=
    ((erase_sublist key some).map f).sum_le_sum fun _ _ => Nat.zero_le _
  have hgone : erase key (before ++ (key, value) :: behind) = erase key before ++ erase key behind := by
    simp [erase]
  rw [hgone, List.map_append, List.map_append, List.sum_append, List.sum_append, List.map_cons,
    List.sum_cons]
  have hbefore := hle before
  have hbehind := hle behind
  have hentry := hpos (key, value)
  omega

theorem sum_map_put_lt (h : entries.lookup key = some value) (hlt : f (key, other) < f (key, value)) :
    ((put key other entries).map f).sum < (entries.map f).sum := by
  induction entries with
  | nil => cases h
  | cons entry rest ih =>
    obtain ⟨k, v⟩ := entry
    rw [List.lookup_cons] at h
    by_cases hk : k = key
    · subst hk
      rw [beq_self_eq_true] at h
      cases h
      rw [put, if_pos rfl]
      exact Nat.add_lt_add_right hlt _
    · rw [beq_eq_false_iff_ne.2 (Ne.symm hk)] at h
      rw [put, if_neg hk]
      exact Nat.add_lt_add_left (ih h) _

end Assoc

namespace Json

/-- A value without the member of a name in the object at a path. -/
def without (name : Text) : List PathStep → Json → Json
  | [], .object members => .object (Assoc.erase name members)
  | .name step :: path, .object members =>
    match members.lookup step with
    | some v => .object (Assoc.put step (without name path v) members)
    | none => .object members
  | .index n :: path, .list items => .list (items.modify n (without name path))
  | _, v => v

/-- The object at a path has a member of a name, and it is null. -/
inductive HasNullAt (name : Text) : List PathStep → Json → Prop
  | here {members : List (Text × Json)} (hnull : members.lookup name = some .null) :
    HasNullAt name [] (.object members)
  | member {members : List (Text × Json)} {step : Text} {v : Json} {path : List PathStep}
    (hmember : members.lookup step = some v) (h : HasNullAt name path v) :
    HasNullAt name (.name step :: path) (.object members)
  | item {items : List Json} {n : Nat} {v : Json} {path : List PathStep}
    (hitem : items[n]? = some v) (h : HasNullAt name path v) :
    HasNullAt name (.index n :: path) (.list items)

variable {name : Text} {path : List PathStep} {v : Json} {members : List (Text × Json)}

theorem without_member {step : Text} (h : members.lookup step = some v) :
    (Json.object members).without name (.name step :: path) =
      .object (Assoc.put step (v.without name path) members) := by
  rw [without, h]

/-- An item stands between others, which are kept. -/
theorem exists_without_item {items : List Json} {n : Nat} (h : items[n]? = some v) :
    ∃ before behind, items = before ++ v :: behind ∧
      ∀ name path, (Json.list items).without name (.index n :: path) =
        .list (before ++ v.without name path :: behind) := by
  obtain ⟨hlt, rfl⟩ := List.getElem?_eq_some_iff.1 h
  refine ⟨items.take n, items.drop (n + 1), ?_, fun name path => ?_⟩
  · rw [← List.drop_eq_getElem_cons hlt, List.take_append_drop]
  · rw [without, List.modify_eq_take_cons_drop hlt]

/-- What becomes of the member of an object under `step` when a null is taken out. -/
inductive MemberChange (name : Text) (path : List PathStep) (step : Text) :
    Option Json → Option Json → Prop
  | kept {found : Option Json} (hname : path = [] → step ≠ name)
    (hpath : ∀ rest, path ≠ .name step :: rest) : MemberChange name path step found found
  | gone (hpath : path = []) (hname : step = name) : MemberChange name path step (some .null) none
  | within {rest : List PathStep} {v : Json} (hpath : path = .name step :: rest)
    (h : HasNullAt name rest v) : MemberChange name path step (some v) (some (v.without name rest))

theorem MemberChange.isSome {step : Text} {before after : Option Json}
    (h : MemberChange name path step before after) (ha : after.isSome = true) :
    before.isSome = true := by
  cases h with
  | kept => exact ha
  | gone => cases ha
  | within => rfl

/-- An object without a null in it is an object, of which one member at most has changed. -/
theorem HasNullAt.exists_members (h : HasNullAt name path (.object members)) :
    ∃ rest, (Json.object members).without name path = .object rest ∧
      ∀ step, MemberChange name path step (members.lookup step) (rest.lookup step) := by
  cases h with
  | here hnull =>
    refine ⟨_, rfl, fun step => ?_⟩
    by_cases hstep : step = name
    · subst hstep
      rw [hnull, Assoc.lookup_erase_self]
      exact .gone rfl rfl
    · rw [Assoc.lookup_erase_of_ne hstep]
      exact .kept (fun _ => hstep) nofun
  | @member _ first _ _ hmember h =>
    refine ⟨_, without_member hmember, fun step => ?_⟩
    by_cases hstep : step = first
    · subst hstep
      rw [hmember, Assoc.lookup_put_self]
      exact .within rfl h
    · rw [Assoc.lookup_put_of_ne hstep]
      refine .kept nofun fun other hsame => hstep ?_
      cases hsame
      rfl

/-- A value without objects that have a null. -/
def HasNoNull (v : Json) : Prop := ∀ name path, ¬ HasNullAt name path v

theorem hasNoNull_of_isVoid (h : v.isVoid = true) : v.HasNoNull := by
  intro name path hnull
  cases hnull with
  | here hfound | member hfound _ | item hfound _ =>
    rw [isVoid, List.isEmpty_iff] at h
    rw [h] at hfound
    cases hfound

theorem hasNoNull_list {items : List Json} (h : ∀ v ∈ items, v.HasNoNull) :
    (Json.list items).HasNoNull := by
  intro name path hnull
  cases hnull with
  | item hitem hnull => exact h _ (List.mem_of_getElem? hitem) _ _ hnull

/-- A member without nulls in it is taken out whole, or stays. -/
theorem HasNullAt.exists_members_of_hasNoNull (h : HasNullAt name path (.object members))
    (hv : ((members.lookup a).getD .null).HasNoNull) :
    ∃ rest, (Json.object members).without name path = .object rest ∧
      (path = [] ∧ name = a ∧ members.lookup a = some .null ∧ rest.lookup a = none ∨
        ¬ (path = [] ∧ name = a) ∧ rest.lookup a = members.lookup a) := by
  obtain ⟨rest, hrest, hchange⟩ := h.exists_members
  refine ⟨rest, hrest, ?_⟩
  have hone := hchange a
  generalize members.lookup a = before, rest.lookup a = after at hv hone ⊢
  cases hone with
  | kept hname _ => exact .inr ⟨fun hsame => hname hsame.1 hsame.2.symm, rfl⟩
  | gone hpath hname => exact .inl ⟨hpath, hname.symm, rfl, rfl⟩
  | within _ h => exact absurd h (hv _ _)

section Shown

/-- Every member of an object is shown behind a colon. -/
theorem count_shown_object (members : List (Text × Json)) :
    (shown (.object members)).count ':' = (members.map fun member =>
      (Text.quoted member.1).count ':' + 1 + (shown member.2).count ':').sum := by
  have hmembers : ∀ members, (shownMembers members).map (List.count ':') =
      members.map fun member =>
        (Text.quoted member.1).count ':' + 1 + (shown member.2).count ':' := by
    intro members
    induction members with
    | nil => rfl
    | cons member rest ih =>
      rw [shownMembers, List.map_cons, ih, List.count_append, List.count_append]
      rfl
  rw [shown, List.count_append, List.count_cons, Text.count_joinWith_of_not_mem (by decide), hmembers]
  rfl

theorem count_shown_list (items : List Json) :
    (shown (.list items)).count ':' = (items.map fun v => (shown v).count ':').sum := by
  have hitems : ∀ items, (shownItems items).map (List.count ':') =
      items.map fun v => (shown v).count ':' := by
    intro items
    induction items with
    | nil => rfl
    | cons v rest ih => rw [shownItems, List.map_cons, ih, List.map_cons]
  rw [shown, List.count_append, List.count_cons, Text.count_joinWith_of_not_mem (by decide), hitems]
  rfl

/-- Colons go with a member. -/
theorem HasNullAt.count_shown_lt (h : HasNullAt name path v) :
    (v.without name path).shown.count ':' < v.shown.count ':' := by
  induction h with
  | here hnull =>
    rw [without, count_shown_object, count_shown_object]
    exact Assoc.sum_map_erase_lt (fun _ => by omega) hnull
  | member hmember _ ih =>
    rw [without_member hmember, count_shown_object, count_shown_object]
    exact Assoc.sum_map_put_lt hmember (Nat.add_lt_add_left ih _)
  | @item _ _ _ path hitem _ ih =>
    obtain ⟨before, behind, rfl, hwithout⟩ := exists_without_item hitem
    rw [hwithout, count_shown_list, count_shown_list]
    simp only [List.map_append, List.map_cons, List.sum_append, List.sum_cons]
    omega

theorem HasNullAt.count_display_lt (h : HasNullAt name path v) :
    (v.without name path).display.count ':' < v.display.count ':' := by
  have hlt := h.count_shown_lt
  cases h with
  | here hnull => exact hlt
  | member hmember _ =>
    rw [without_member hmember] at hlt ⊢
    exact hlt
  | item hitem _ => exact hlt

end Shown

end Json

end QueryFence
