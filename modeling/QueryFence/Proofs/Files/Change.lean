import QueryFence.Proofs.Files.Home

/-!
Following paths in a tree that was changed at one place. A way goes as before, or comes to that place; so
what was written is read from there, and what was taken away is missing.
-/

namespace QueryFence

namespace FileTree

variable {t t' : FileTree} {path : Path} {links : Nat} {folder : Path} {steps : List Text}

/-- A file that is reached stands in the tree. -/
theorem lookup_of_walk_file {content : Text} (h : t.walk links folder steps = .file path content) :
    t.lookup path = some (.file content) := by
  fun_induction walk t links folder steps with
  | case1 | case5 | case8 | case9 | case11 | case12 => cases h
  | case2 links folder step rest hstay ih => exact ih h
  | case3 links folder rest hstay ih => exact ih h
  | case4 links folder rest hstay hup ih => exact ih h
  | case6 links folder step rest hstay hup hroot hshort hfound ih => exact ih h
  | case7 links folder step rest hstay hup hroot hshort content' hfound hend =>
    cases h
    exact hfound
  | case10 folder step rest hstay hup hroot hshort goal hfound links ih => exact ih h

theorem lookup_of_walk_free (h : t.walk links folder steps = .free path) : t.lookup path = none := by
  fun_induction walk t links folder steps with
  | case1 | case5 | case7 | case8 | case9 | case12 => cases h
  | case2 links folder step rest hstay ih => exact ih h
  | case3 links folder rest hstay ih => exact ih h
  | case4 links folder rest hstay hup ih => exact ih h
  | case6 links folder step rest hstay hup hroot hshort hfound ih => exact ih h
  | case10 folder step rest hstay hup hroot hshort goal hfound links ih => exact ih h
  | case11 links folder step rest hstay hup hroot hshort hfound hend =>
    cases h
    exact hfound

/-- A way comes to a path in two trees at once, with the same steps left. -/
def MeetsAt (t t' : FileTree) (path : Path) (links : Nat) (folder : Path) (steps : List Text) : Prop :=
  ∃ left above step rest, path = above ++ [step] ∧ IsPlainName step ∧
    t.walk links folder steps = t.walk left above (step :: rest) ∧
    t'.walk links folder steps = t'.walk left above (step :: rest)

theorem MeetsAt.step {left : Nat} {next : Path} {rest : List Text}
    (h : MeetsAt t t' path left next rest)
    (ht : t.walk links folder steps = t.walk left next rest)
    (ht' : t'.walk links folder steps = t'.walk left next rest) :
    MeetsAt t t' path links folder steps := by
  obtain ⟨last, above, name, more, hpath, hplain, heq, heq'⟩ := h
  exact ⟨last, above, name, more, hpath, hplain, ht.trans heq, ht'.trans heq'⟩

/-- A way goes the same in two trees, or comes in both to the path at which they differ. -/
def GoesAlike (t t' : FileTree) (path : Path) (links : Nat) (folder : Path) (steps : List Text) : Prop :=
  t'.walk links folder steps = t.walk links folder steps ∨ MeetsAt t t' path links folder steps

theorem GoesAlike.step {left : Nat} {next : Path} {rest : List Text}
    (h : GoesAlike t t' path left next rest)
    (ht : t.walk links folder steps = t.walk left next rest)
    (ht' : t'.walk links folder steps = t'.walk left next rest) :
    GoesAlike t t' path links folder steps := by
  rcases h with h | h
  · exact .inl (ht'.trans (h.trans ht.symm))
  · exact .inr (h.step ht ht')

theorem goesAlike_of_plain (hsame : ∀ other, other ≠ path → t'.lookup other = t.lookup other)
    {step : Text} (hplain : IsPlainName step) (rest : List Text)
    (hfolder : t.lookup (folder ++ [step]) = some .folder →
      GoesAlike t t' path links (folder ++ [step]) rest)
    (hlink : ∀ goal left, t.lookup (folder ++ [step]) = some (.link goal) → links = left + 1 →
      GoesAlike t t' path left folder (rawSteps goal ++ rest)) :
    GoesAlike t t' path links folder (step :: rest) := by
  by_cases hpath : folder ++ [step] = path
  · exact .inr ⟨links, folder, step, rest, hpath.symm, hplain, rfl, rfl⟩
  · have heq := hsame _ hpath
    have hwalk : t.walk links folder (step :: rest) = _ := walk_plain hplain rest
    have hwalk' : t'.walk links folder (step :: rest) = _ := walk_plain hplain rest
    rw [heq] at hwalk'
    cases hfound : t.lookup (folder ++ [step]) with
    | none =>
      rw [hfound] at hwalk hwalk'
      exact .inl (hwalk'.trans hwalk.symm)
    | some node =>
      rw [hfound] at hwalk hwalk'
      cases node with
      | file content => exact .inl (hwalk'.trans hwalk.symm)
      | folder => exact (hfolder hfound).step hwalk hwalk'
      | link goal =>
        cases links with
        | zero => exact .inl (hwalk'.trans hwalk.symm)
        | succ left => exact (hlink goal left hfound rfl).step hwalk hwalk'

theorem goesAlike (hsame : ∀ other, other ≠ path → t'.lookup other = t.lookup other)
    (links : Nat) (folder : Path) (steps : List Text) : GoesAlike t t' path links folder steps := by
  match steps with
  | [] => exact .inl (by rw [walk, walk])
  | step :: rest =>
    by_cases hstay : staysHere step = true
    · exact (goesAlike hsame links folder rest).step (walk_stay hstay rest) (walk_stay hstay rest)
    by_cases hup : step = up
    · subst hup
      exact (goesAlike hsame links (above folder) rest).step (walk_up rest) (walk_up rest)
    by_cases hroot : step = root
    · subst hroot
      exact (goesAlike hsame links [root] rest).step (walk_root rest) (walk_root rest)
    by_cases hlong : nameLimit < (Text.utf8 step).length
    · have hrefused : ∀ s : FileTree, s.walk links folder (step :: rest) = .none .nameTooLong := by
        intro s
        rw [walk, if_neg hstay, if_neg hup, if_neg hroot, if_pos hlong]
      exact .inl ((hrefused t').trans (hrefused t).symm)
    have hplain : IsPlainName step :=
      ⟨Bool.eq_false_iff.2 hstay, hup, hroot, Nat.not_lt.1 hlong⟩
    apply goesAlike_of_plain hsame hplain
    · exact fun _ => goesAlike hsame links (folder ++ [step]) rest
    · rintro goal left - rfl
      exact goesAlike hsame left folder (rawSteps goal ++ rest)
termination_by (links, steps.length)

theorem goesAlike_put (t : FileTree) (path : Path) (node : Node) (links : Nat) (folder : Path)
    (steps : List Text) : GoesAlike t (Assoc.put path node t) path links folder steps :=
  goesAlike (fun _ ho => Assoc.lookup_put_of_ne ho _ _) links folder steps

theorem goesAlike_erase (t : FileTree) (path : Path) (links : Nat) (folder : Path)
    (steps : List Text) : GoesAlike t (Assoc.erase path t) path links folder steps :=
  goesAlike (fun _ ho => Assoc.lookup_erase_of_ne ho _) links folder steps

/-- A file that was written where steps lead is what they lead to. -/
theorem walk_put {content : Text} (h : t.walk links folder steps = .free path ∨
    ∃ old, t.walk links folder steps = .file path old) :
    FileTree.walk (Assoc.put path (.file content) t) links folder steps = .file path content := by
  have hself := Assoc.lookup_put_self path (Node.file content) t
  rcases goesAlike_put t path (.file content) links folder steps with
    heq | ⟨left, above, step, rest, rfl, hplain, hwalk, hwalk'⟩
  · rcases h with h | ⟨old, h⟩
    · cases hself.symm.trans (lookup_of_walk_free (heq.trans h))
    · cases hself.symm.trans (lookup_of_walk_file (heq.trans h))
      exact heq.trans h
  · -- the way ends at the path, so no steps are left behind it
    have hend : rest.isEmpty = true := by
      rw [hwalk] at h
      have hwalk : t.walk left above (step :: rest) = _ := walk_plain hplain rest
      rcases h with h | ⟨old, h⟩
      · rw [lookup_of_walk_free h, h] at hwalk
        by_contra hne
        simp only [hne] at hwalk
        cases hwalk
      · rw [lookup_of_walk_file h, h] at hwalk
        by_contra hne
        simp only [hne] at hwalk
        cases hwalk
    rw [hwalk', walk_plain hplain, hself]
    simp only [hend, if_true]

/-- Where a file or a link was taken away, steps lead to what they led to, or to nothing. -/
theorem walk_erase (t : FileTree) (path : Path) (links : Nat) (folder : Path) (steps : List Text) :
    FileTree.walk (Assoc.erase path t) links folder steps = t.walk links folder steps ∨
      FileTree.walk (Assoc.erase path t) links folder steps = .free path ∨
      FileTree.walk (Assoc.erase path t) links folder steps = .none .missing := by
  have hself := Assoc.lookup_erase_self path t
  rcases goesAlike_erase t path links folder steps with heq | ⟨left, above, step, rest, rfl, hplain, -, hwalk'⟩
  · exact .inl heq
  · right
    rw [hwalk', walk_plain hplain, hself]
    dsimp only
    split
    · exact .inl rfl
    · exact .inr rfl

theorem place_put {content : Text} (h : t.place steps = .free path ∨
    ∃ old, t.place steps = .file path old) :
    FileTree.place (Assoc.put path (.file content) t) steps = .file path content := by
  rw [place] at h ⊢
  cases hrefusal : refusal? steps with
  | some e =>
    rw [hrefusal] at h
    rcases h with h | ⟨old, h⟩ <;> cases h
  | none =>
    rw [hrefusal] at h
    exact walk_put h

theorem place_erase (t : FileTree) (path : Path) (steps : List Text) :
    FileTree.place (Assoc.erase path t) steps = t.place steps ∨
      FileTree.place (Assoc.erase path t) steps = .free path ∨
      FileTree.place (Assoc.erase path t) steps = .none .missing := by
  rw [place, place]
  cases refusal? steps with
  | some e => exact .inl rfl
  | none => exact walk_erase t path linkLimit [] steps

/-- No folder is reached through a new file, nor through what was taken away. -/
theorem place_of_put_file {content : Text} {reached : Path}
    (h : FileTree.place (Assoc.put path (.file content) t) steps = .folder reached) :
    t.place steps = .folder reached := by
  have hself := Assoc.lookup_put_self path (Node.file content) t
  rw [place] at h
  rw [place]
  cases hrefusal : refusal? steps with
  | some e =>
    rw [hrefusal] at h
    cases h
  | none =>
    rw [hrefusal] at h
    dsimp only at h ⊢
    rcases goesAlike_put t path (.file content) linkLimit [] steps with
      heq | ⟨left, above, step, rest, rfl, hplain, -, hwalk'⟩
    · exact heq.symm.trans h
    · rw [hwalk', walk_plain hplain, hself] at h
      dsimp only at h
      split at h <;> cases h

theorem place_of_erase {reached : Path}
    (h : FileTree.place (Assoc.erase path t) steps = .folder reached) :
    t.place steps = .folder reached := by
  rcases place_erase t path steps with heq | heq | heq
  · exact heq.symm.trans h
  · cases heq.symm.trans h
  · cases heq.symm.trans h

/-- What was written is read again. -/
theorem read_of_write {content : Text} {after : FileTree} (h : t.write steps content = .ok after) :
    after.read steps = .ok content := by
  rw [write] at h
  split at h
  · next path old hplace =>
    cases h
    rw [read, place_put (.inr ⟨old, hplace⟩)]
  · next path hplace =>
    cases h
    rw [read, place_put (.inl hplace)]
  · cases h
  · cases h

/-- What can be read of a file can also be written there. -/
theorem write_of_read {content : Text} (h : t.read steps = .ok content) (new : Text) :
    ∃ after, t.write steps new = .ok after := by
  rw [read] at h
  split at h
  · next hplace =>
    rw [write, hplace]
    exact ⟨_, rfl⟩
  · cases h
  · cases h
  · cases h

/-- After something was removed the same is read, or it is missing. -/
theorem read_of_unlink {removed : List Text} {after : FileTree} (h : t.unlink removed = .ok after)
    (steps : List Text) : after.read steps = t.read steps ∨ after.read steps = .error .missing := by
  rw [unlink] at h
  split at h
  · cases h
  · cases h
  · next path hslot =>
    split at h
    · cases h
    · cases h
      rw [read, read]
      rcases place_erase t path steps with hplace | hplace | hplace
      · exact .inl (by rw [hplace])
      · exact .inr (by rw [hplace])
      · exact .inr (by rw [hplace])
    · cases h

/-- What is read of a file is read still after something was put under a free path. -/
theorem read_of_put_free {content : Text} (h : t.read steps = .ok content)
    (hfree : t.lookup path = none) (node : Node) :
    FileTree.read (Assoc.put path node t) steps = .ok content := by
  rw [read, place]
  rw [read, place] at h
  cases hrefusal : refusal? steps with
  | some e =>
    rw [hrefusal] at h
    cases h
  | none =>
    rw [hrefusal] at h
    dsimp only at h ⊢
    rcases goesAlike_put t path node linkLimit [] steps with
      heq | ⟨left, above, step, rest, rfl, hplain, hwalk, -⟩
    · rw [heq]
      exact h
    · -- the way to the file does not come to a free path
      rw [hwalk, walk_plain hplain, hfree] at h
      dsimp only at h
      split at h
      · next hfile =>
        split at hfile
        · cases hfile
        · cases hfile
      · cases h
      · cases h
      · cases h

theorem read_of_make {content : Text} (h : t.read steps = .ok content) {made : List Text}
    {node : Node} {after : FileTree} (hm : t.make made node = .ok after) :
    after.read steps = .ok content := by
  rw [make] at hm
  split at hm
  · cases hm
  · cases hm
  · split at hm
    · cases hm
    · next hfree =>
      cases hm
      exact read_of_put_free h (Option.not_isSome_iff_eq_none.1 hfree) node

theorem read_of_ensure {content : Text} (h : t.read steps = .ok content) {made : List Text}
    {after : FileTree} (hm : t.ensure made = .ok after) : after.read steps = .ok content := by
  rw [ensure] at hm
  split at hm
  · next hmake =>
    cases hm
    exact read_of_make h hmake
  · cases hm
  · split at hm
    · cases hm
      exact h
    · cases hm

theorem read_of_ensureAll {content : Text} (h : t.read steps = .ok content) (made : List Text) :
    (t.ensureAll made).2.read steps = .ok content := by
  induction made generalizing t with
  | nil => exact h
  | cons last before ih =>
    have hbefore := ih h
    rw [ensureAll]
    split
    · next hensure => exact read_of_ensure h hensure
    · split
      · next hfirst =>
        rw [hfirst] at hbefore
        exact hbefore
      · next hfirst =>
        rw [hfirst] at hbefore
        split
        · next hensure => exact read_of_ensure hbefore hensure
        · exact hbefore
    · exact h

/-- Making folders leaves every file as it is. -/
theorem read_of_makeFolders {content : Text} (h : t.read steps = .ok content) (made : List Text) :
    (t.makeFolders made).2.read steps = .ok content := read_of_ensureAll h made.reverse

/-- Writing where nothing is there leaves every file as it is. -/
theorem read_of_write_absent {content new : Text} (h : t.read steps = .ok content)
    {written : List Text} (habsent : t.isThere written = false) {after : FileTree}
    (hw : t.write written new = .ok after) : after.read steps = .ok content := by
  rw [isThere] at habsent
  rw [write] at hw
  split at hw
  · next hplace =>
    rw [hplace] at habsent
    cases habsent
  · next path hplace =>
    cases hw
    refine read_of_put_free h ?_ _
    rw [place] at hplace
    split at hplace
    · cases hplace
    · exact lookup_of_walk_free hplace
  · cases hw
  · cases hw

end FileTree

end QueryFence
