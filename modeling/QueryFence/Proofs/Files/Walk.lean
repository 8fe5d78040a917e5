import QueryFence.Proofs.Assoc
import QueryFence.Files.Tree

/-!
Following paths: a way that ends in a folder goes on from there, and is not changed by what happens to
files.
-/

namespace QueryFence.FileTree

/-- A name that stands for nothing but an entry of its folder. -/
structure IsPlainName (name : Text) : Prop where
  stays : staysHere name = false
  up : name ≠ up
  root : name ≠ root
  short : (Text.utf8 name).length ≤ nameLimit

/-- Ways from a folder to a folder, with so many links that may be followed. -/
inductive Leads (t : FileTree) : Nat → Path → List Text → Path → Prop
  | done {links : Nat} {folder : Path} : Leads t links folder [] folder
  | stay {links : Nat} {folder target : Path} {step : Text} {rest : List Text}
      (h : staysHere step = true) (hrest : Leads t links folder rest target) :
    Leads t links folder (step :: rest) target
  | rise {links : Nat} {folder target : Path} {rest : List Text}
      (hrest : Leads t links (above folder) rest target) :
    Leads t links folder (up :: rest) target
  | restart {links : Nat} {folder target : Path} {rest : List Text}
      (hrest : Leads t links [root] rest target) :
    Leads t links folder (root :: rest) target
  | enter {links : Nat} {folder target : Path} {step : Text} {rest : List Text}
      (hplain : IsPlainName step) (h : t.lookup (folder ++ [step]) = some .folder)
      (hrest : Leads t links (folder ++ [step]) rest target) :
    Leads t links folder (step :: rest) target
  | follow {links : Nat} {folder target : Path} {step goal : Text} {rest : List Text}
      (hplain : IsPlainName step) (h : t.lookup (folder ++ [step]) = some (.link goal))
      (hrest : Leads t links folder (rawSteps goal ++ rest) target) :
    Leads t (links + 1) folder (step :: rest) target

variable {t : FileTree} {links : Nat} {folder target : Path} {steps : List Text}

theorem walk_stay {step : Text} (h : staysHere step = true) (rest : List Text) :
    t.walk links folder (step :: rest) = t.walk links folder rest := by
  rw [walk, if_pos h]

theorem walk_up (rest : List Text) :
    t.walk links folder (up :: rest) = t.walk links (above folder) rest := by
  rw [walk, if_neg (by decide), if_pos rfl]

theorem walk_root (rest : List Text) :
    t.walk links folder (root :: rest) = t.walk links [root] rest := by
  rw [walk, if_neg (by decide), if_neg (by decide), if_pos rfl]

/-- A plain name is looked up in the folder. -/
theorem walk_plain {step : Text} (h : IsPlainName step) (rest : List Text) :
    t.walk links folder (step :: rest) =
      match t.lookup (folder ++ [step]) with
      | some .folder => t.walk links (folder ++ [step]) rest
      | some (.file content) =>
        if rest.isEmpty then .file (folder ++ [step]) content else .none .notFolder
      | some (.link goal) =>
        match links with
        | 0 => .none .circularLink
        | links + 1 => t.walk links folder (rawSteps goal ++ rest)
      | none => if rest.isEmpty then .free (folder ++ [step]) else .none .missing := by
  have hshort : ¬ nameLimit < (Text.utf8 step).length := Nat.not_lt.2 h.short
  rw [walk, if_neg (by rw [h.stays]; decide), if_neg h.up, if_neg h.root]
  exact if_neg hshort

theorem leads_of_walk {links : Nat} {folder target : Path} {steps : List Text}
    (h : t.walk links folder steps = .folder target) : Leads t links folder steps target := by
  match steps with
  | [] =>
    rw [walk] at h
    cases h
    exact .done
  | step :: rest =>
    by_cases hstay : staysHere step = true
    · rw [walk_stay hstay] at h
      exact .stay hstay (leads_of_walk h)
    by_cases hup : step = up
    · subst hup
      rw [walk_up] at h
      exact .rise (leads_of_walk h)
    by_cases hroot : step = root
    · subst hroot
      rw [walk_root] at h
      exact .restart (leads_of_walk h)
    by_cases hlong : nameLimit < (Text.utf8 step).length
    · rw [walk, if_neg hstay, if_neg hup, if_neg hroot, if_pos hlong] at h
      cases h
    have hplain : IsPlainName step :=
      ⟨Bool.eq_false_iff.2 hstay, hup, hroot, Nat.not_lt.1 hlong⟩
    rw [walk_plain hplain] at h
    split at h
    · rename_i hfolder
      exact .enter hplain hfolder (leads_of_walk h)
    · split at h <;> cases h
    · rename_i goal hlink
      cases links with
      | zero => cases h
      | succ links => exact .follow hplain hlink (leads_of_walk h)
    · split at h <;> cases h
termination_by (links, steps.length)

/-- A way to a folder, and what further steps lead to from there. -/
theorem Leads.walk_append (h : Leads t links folder steps target) (more : List Text) :
    ∃ left, t.walk links folder (steps ++ more) = t.walk left target more := by
  induction h with
  | done => exact ⟨_, rfl⟩
  | stay hstay _ ih =>
    obtain ⟨left, hleft⟩ := ih
    exact ⟨left, by rw [List.cons_append, walk_stay hstay, hleft]⟩
  | rise _ ih =>
    obtain ⟨left, hleft⟩ := ih
    exact ⟨left, by rw [List.cons_append, walk_up, hleft]⟩
  | restart _ ih =>
    obtain ⟨left, hleft⟩ := ih
    exact ⟨left, by rw [List.cons_append, walk_root, hleft]⟩
  | enter hplain hfolder _ ih =>
    obtain ⟨left, hleft⟩ := ih
    refine ⟨left, ?_⟩
    rw [List.cons_append, walk_plain hplain]
    simp only [hfolder, hleft]
  | follow hplain hlink _ ih =>
    obtain ⟨left, hleft⟩ := ih
    refine ⟨left, ?_⟩
    rw [List.append_assoc] at hleft
    rw [List.cons_append, walk_plain hplain]
    simp only [hlink, hleft]

theorem Leads.walk_eq (h : Leads t links folder steps target) :
    t.walk links folder steps = .folder target := by
  obtain ⟨left, hwalk⟩ := h.walk_append []
  rw [List.append_nil] at hwalk
  rw [hwalk, walk]

/-- Steps that lead to something lead through folders, up to any last ones of them. -/
theorem leads_of_walk_append {links : Nat} {folder : Path} {before more : List Text}
    (hmore : more ≠ []) (h : ∀ e, t.walk links folder (before ++ more) ≠ .none e) :
    ∃ middle, Leads t links folder before middle := by
  match before with
  | [] => exact ⟨folder, .done⟩
  | step :: rest =>
    rw [List.cons_append] at h
    have hrest : (rest ++ more).isEmpty = false := by
      rw [List.isEmpty_eq_false_iff]
      exact List.append_ne_nil_of_right_ne_nil rest hmore
    by_cases hstay : staysHere step = true
    · rw [walk_stay hstay] at h
      obtain ⟨middle, hleads⟩ := leads_of_walk_append hmore h
      exact ⟨middle, .stay hstay hleads⟩
    by_cases hup : step = up
    · subst hup
      rw [walk_up] at h
      obtain ⟨middle, hleads⟩ := leads_of_walk_append hmore h
      exact ⟨middle, .rise hleads⟩
    by_cases hroot : step = root
    · subst hroot
      rw [walk_root] at h
      obtain ⟨middle, hleads⟩ := leads_of_walk_append hmore h
      exact ⟨middle, .restart hleads⟩
    by_cases hlong : nameLimit < (Text.utf8 step).length
    · rw [walk, if_neg hstay, if_neg hup, if_neg hroot, if_pos hlong] at h
      exact absurd rfl (h _)
    have hplain : IsPlainName step :=
      ⟨Bool.eq_false_iff.2 hstay, hup, hroot, Nat.not_lt.1 hlong⟩
    rw [walk_plain hplain, hrest] at h
    split at h
    · rename_i hfolder
      obtain ⟨middle, hleads⟩ := leads_of_walk_append hmore h
      exact ⟨middle, .enter hplain hfolder hleads⟩
    · exact absurd rfl (h _)
    · rename_i goal hlink
      cases links with
      | zero => exact absurd rfl (h _)
      | succ left =>
        dsimp only at h
        rw [← List.append_assoc] at h
        obtain ⟨middle, hleads⟩ := leads_of_walk_append hmore h
        exact ⟨middle, .follow hplain hlink hleads⟩
    · exact absurd rfl (h _)
termination_by (links, before.length)

/-- A way to a folder goes the same in every tree with the folders and links of this one. -/
theorem Leads.frame (h : Leads t links folder steps target) {t' : FileTree}
    (hkeep : ∀ path node, t.lookup path = some node → (∀ content, node ≠ .file content) →
      t'.lookup path = some node) :
    Leads t' links folder steps target := by
  induction h with
  | done => exact .done
  | stay hstay _ ih => exact .stay hstay ih
  | rise _ ih => exact .rise ih
  | restart _ ih => exact .restart ih
  | enter hplain hfolder _ ih =>
    exact .enter hplain (hkeep _ _ hfolder fun _ h => by cases h) ih
  | follow hplain hlink _ ih =>
    exact .follow hplain (hkeep _ _ hlink fun _ h => by cases h) ih

/-- The folders on a way. -/
theorem Leads.split {steps : List Text} (h : Leads t links folder steps target) :
    ∀ before after, steps = before ++ after →
      ∃ left middle, Leads t links folder before middle ∧ Leads t left middle after target := by
  -- A link puts further steps before those that are left, so the induction is not on the steps.
  induction h with
  | done =>
    intro before after heq
    obtain ⟨rfl, rfl⟩ := List.append_eq_nil_iff.1 heq.symm
    exact ⟨0, _, .done, .done⟩
  | @stay _ _ _ step rest hstay hrest ih =>
    intro before after heq
    cases before with
    | nil => exact ⟨_, _, .done, by cases heq; exact .stay hstay hrest⟩
    | cons first before =>
      obtain ⟨rfl, rfl⟩ := List.cons.inj heq
      obtain ⟨left, middle, hb, ha⟩ := ih before after rfl
      exact ⟨left, middle, .stay hstay hb, ha⟩
  | @rise _ _ _ rest hrest ih =>
    intro before after heq
    cases before with
    | nil => exact ⟨_, _, .done, by cases heq; exact .rise hrest⟩
    | cons first before =>
      obtain ⟨rfl, rfl⟩ := List.cons.inj heq
      obtain ⟨left, middle, hb, ha⟩ := ih before after rfl
      exact ⟨left, middle, .rise hb, ha⟩
  | @restart _ _ _ rest hrest ih =>
    intro before after heq
    cases before with
    | nil => exact ⟨_, _, .done, by cases heq; exact .restart hrest⟩
    | cons first before =>
      obtain ⟨rfl, rfl⟩ := List.cons.inj heq
      obtain ⟨left, middle, hb, ha⟩ := ih before after rfl
      exact ⟨left, middle, .restart hb, ha⟩
  | @enter _ _ _ step rest hplain hfolder hrest ih =>
    intro before after heq
    cases before with
    | nil => exact ⟨_, _, .done, by cases heq; exact .enter hplain hfolder hrest⟩
    | cons first before =>
      obtain ⟨rfl, rfl⟩ := List.cons.inj heq
      obtain ⟨left, middle, hb, ha⟩ := ih before after rfl
      exact ⟨left, middle, .enter hplain hfolder hb, ha⟩
  | @follow _ _ _ step goal rest hplain hlink hrest ih =>
    intro before after heq
    cases before with
    | nil => exact ⟨_, _, .done, by cases heq; exact .follow hplain hlink hrest⟩
    | cons first before =>
      obtain ⟨rfl, rfl⟩ := List.cons.inj heq
      obtain ⟨left, middle, hb, ha⟩ := ih (rawSteps goal ++ before) after (List.append_assoc ..).symm
      exact ⟨left, middle, .follow hplain hlink hb, ha⟩

end QueryFence.FileTree
