import QueryFence.Proofs.Assoc
import QueryFence.Proofs.Files.Home

/-!
A home in which all files of a kind are the program's own: a plan that touches only names of its own
leaves it so. The names that are listed there are then the program's, each of them once.
-/

namespace QueryFence

/-- Every question that a plan may come to is of a kind. -/
def Plan.Asks {Ask : Type} {Reply : Ask → Type} {α : Type} (P : Ask → Prop) :
    Plan Ask Reply α → Prop
  | .done _ => True
  | .ask question next => P question ∧ ∀ reply, (next reply).Asks P

theorem Plan.Asks.bind {Ask : Type} {Reply : Ask → Type} {α β : Type} {P : Ask → Prop}
    {p : Plan Ask Reply α} {f : α → Plan Ask Reply β} (hp : p.Asks P) (hf : ∀ a, (f a).Asks P) :
    (p >>= f).Asks P := by
  induction p with
  | done a => exact hf a
  | ask question next ih => exact ⟨hp.1, fun reply => ih reply (hp.2 reply)⟩

/-! Making folders puts no path twice into the tree. -/

theorem Assoc.HasDistinctKeys.make {t after : FileTree} {steps : List Text} {node : Node}
    (h : Assoc.HasDistinctKeys t) (hm : t.make steps node = .ok after) :
    Assoc.HasDistinctKeys after := by
  rw [FileTree.make] at hm
  split at hm
  · cases hm
  · cases hm
  · split at hm
    · cases hm
    · cases hm
      exact h.put

theorem Assoc.HasDistinctKeys.ensure {t after : FileTree} {steps : List Text}
    (h : Assoc.HasDistinctKeys t) (hm : t.ensure steps = .ok after) :
    Assoc.HasDistinctKeys after := by
  rw [FileTree.ensure] at hm
  split at hm
  · next hmake =>
    cases hm
    exact h.make hmake
  · cases hm
  · split at hm
    · cases hm
      exact h
    · cases hm

theorem Assoc.HasDistinctKeys.ensureAll {t : FileTree} (h : Assoc.HasDistinctKeys t)
    (steps : List Text) : Assoc.HasDistinctKeys (t.ensureAll steps).2 := by
  induction steps generalizing t with
  | nil => exact h
  | cons last before ih =>
    have hbefore := ih h
    rw [FileTree.ensureAll]
    split
    · next hensure => exact h.ensure hensure
    · split
      · next hall =>
        rw [hall] at hbefore
        exact hbefore
      · next hall =>
        rw [hall] at hbefore
        split
        · next hensure => exact hbefore.ensure hensure
        · exact hbefore
    · exact h

theorem Assoc.HasDistinctKeys.makeFolders {t : FileTree} (h : Assoc.HasDistinctKeys t)
    (steps : List Text) : Assoc.HasDistinctKeys (t.makeFolders steps).2 := h.ensureAll steps.reverse

/-- A folder lists what is in it by name, and each name once. -/
theorem FileTree.names_eq_ok {t : FileTree} {steps : List Text} {folder : Path}
    (h : t.place steps = .folder folder) (hp : Assoc.HasDistinctKeys t) :
    ∃ found, t.names steps = .ok found ∧ found.Nodup ∧
      ∀ name, name ∈ found ↔ ∃ node, (folder ++ [name], node) ∈ t := by
  obtain ⟨nameOf, hnameOf⟩ : ∃ nameOf : Path → Option Text, ∀ path, nameOf path =
      path.getLast?.bind fun name => if path = folder ++ [name] then some name else none :=
    ⟨_, fun _ => rfl⟩
  have hname : ∀ path name, nameOf path = some name ↔ path = folder ++ [name] := by
    intro path name
    rw [hnameOf, Option.bind_eq_some_iff]
    constructor
    · rintro ⟨last, -, hn⟩
      split at hn
      · next he =>
        rw [Option.some.inj hn] at he
        exact he
      · cases hn
    · rintro rfl
      exact ⟨name, List.getLast?_concat, if_pos rfl⟩
  refine ⟨(t.map Prod.fst).filterMap nameOf, ?_, ?_, fun name => ?_⟩
  · rw [names, h, List.filterMap_map]
    refine congrArg (fun f => Except.ok (t.filterMap f)) (funext fun entry => ?_)
    obtain ⟨path, node⟩ := entry
    rw [Function.comp_apply, hnameOf]
    cases hlast : path.getLast? <;> simp only [hlast, Option.bind_none, Option.bind_some]
  · apply List.Nodup.filterMap _ hp
    intro path other name ho hn
    rw [Option.mem_def, hname] at ho hn
    rw [ho, hn]
  · rw [List.mem_filterMap]
    constructor
    · rintro ⟨path, hm, hn⟩
      obtain ⟨entry, hentry, rfl⟩ := List.mem_map.1 hm
      obtain ⟨path, node⟩ := entry
      obtain rfl : path = folder ++ [name] := (hname _ _).1 hn
      exact ⟨node, hentry⟩
    · rintro ⟨node, hm⟩
      exact ⟨folder ++ [name], Assoc.mem_keys hm, (hname _ _).2 rfl⟩

namespace Disk

/-- An action on a name of the program's own, or none that changes anything. -/
def IsOwnAction (own : Text → Prop) : DiskAction → Prop
  | .exists name => own name
  | .read name => own name
  | .write name _ => own name
  | .unlink name => own name
  | .names => True

theorem asks_exists {own : Text → Prop} {name : Text} (h : own name) :
    (DiskPlan.exists? name).Asks (IsOwnAction own) := ⟨h, fun _ => trivial⟩

theorem asks_read {own : Text → Prop} {name : Text} (h : own name) :
    (DiskPlan.read name).Asks (IsOwnAction own) := ⟨h, fun _ => trivial⟩

theorem asks_write {own : Text → Prop} {name : Text} (h : own name) (content : Text) :
    (DiskPlan.write name content).Asks (IsOwnAction own) := ⟨h, fun _ => trivial⟩

theorem asks_unlink {own : Text → Prop} {name : Text} (h : own name) :
    (DiskPlan.unlink name).Asks (IsOwnAction own) := ⟨h, fun _ => trivial⟩

/-- No path stands twice in the tree, and what a folder holds of a kind is the program's own. -/
structure IsTidy (disk : Disk) (folder : Path) (own : Text → Prop) (kind : Text → Bool) :
    Prop where
  paths : Assoc.HasDistinctKeys disk.tree
  own : ∀ name node, (folder ++ [name], node) ∈ disk.tree → kind name = true → own name

variable {disk : Disk} {folder : Path} {own : Text → Prop} {kind : Text → Bool} {name : Text}

theorem IsTidy.put (h : disk.IsTidy folder own kind) (hn : own name) (node : Node) :
    IsTidy { disk with tree := Assoc.put (folder ++ [name]) node disk.tree } folder own kind := by
  refine ⟨h.paths.put, fun other found hm hk => ?_⟩
  rcases Assoc.mem_of_mem_put h.paths hm with ⟨hpath, -⟩ | ⟨-, hm⟩
  · rw [List.singleton_inj.1 (List.append_cancel_left hpath)]
    exact hn
  · exact h.own other found hm hk

theorem IsTidy.erase (h : disk.IsTidy folder own kind) (path : Path) :
    IsTidy { disk with tree := Assoc.erase path disk.tree } folder own kind :=
  ⟨h.paths.sublist (Assoc.erase_sublist _ _), fun other found hm hk =>
    h.own other found ((Assoc.erase_sublist _ _).subset hm) hk⟩

theorem Keeps.answer_write_eq (h : disk.Keeps folder own) (hn : own name) (content : Text) :
    answer (.write name content) disk =
      (.ok (), { disk with tree := Assoc.put (folder ++ [name]) (.file content) disk.tree }) := by
  rw [answer, FileTree.write, h.place_eq hn]
  cases disk.content? folder name <;> rfl

/-- An action on the program's own keeps the home and its tidiness. -/
theorem Keeps.answer_isTidy (h : disk.Keeps folder own) (ht : disk.IsTidy folder own kind)
    {action : DiskAction} (ha : IsOwnAction own action) :
    (answer action disk).2.Keeps folder own ∧ (answer action disk).2.IsTidy folder own kind := by
  cases action with
  | «exists» name => exact ⟨h, ht⟩
  | read name => exact ⟨h, ht⟩
  | write name content =>
    obtain ⟨after, hwrite, hup⟩ := h.answer_write ha content
    rw [hwrite]
    rw [h.answer_write_eq ha] at hwrite
    cases hwrite
    exact ⟨hup.keeps, ht.put ha _⟩
  | unlink name =>
    cases hc : disk.content? folder name with
    | none =>
      have hlookup := h.lookup_eq ha
      rw [hc] at hlookup
      rw [answer, FileTree.unlink, h.slot_eq ha]
      dsimp only
      rw [hlookup]
      exact ⟨h, ht⟩
    | some content =>
      obtain ⟨after, hunlink, hup⟩ := h.answer_unlink ha (by rw [hc]; rfl)
      have hlookup := h.lookup_eq ha
      rw [hc] at hlookup
      rw [hunlink]
      rw [answer, FileTree.unlink, h.slot_eq ha] at hunlink
      dsimp only at hunlink
      rw [hlookup] at hunlink
      cases hunlink
      exact ⟨hup.keeps, ht.erase _⟩
  | names => exact ⟨h, ht⟩

theorem Keeps.run_isTidy (h : disk.Keeps folder own) (ht : disk.IsTidy folder own kind) {α : Type}
    {p : DiskPlan α} (hp : p.Asks (IsOwnAction own)) :
    (run p disk).2.Keeps folder own ∧ (run p disk).2.IsTidy folder own kind := by
  induction p generalizing disk with
  | done a => exact ⟨h, ht⟩
  | ask action next ih =>
    obtain ⟨hkeeps, htidy⟩ := h.answer_isTidy ht hp.1
    exact ih _ hkeeps htidy (hp.2 _)

theorem answer_home (action : DiskAction) (disk : Disk) :
    (answer action disk).2.home = disk.home := by
  have hchange : ∀ result, (disk.change result).2.home = disk.home := by
    rintro (e | t) <;> rfl
  cases action with
  | write name content => exact hchange _
  | unlink name => exact hchange _
  | _ => rfl

/-- No plan takes the program to another home. -/
theorem run_home {α : Type} (p : DiskPlan α) (disk : Disk) : (run p disk).2.home = disk.home := by
  induction p generalizing disk with
  | done a => rfl
  | ask action next ih => exact (ih _ _).trans (answer_home action disk)

theorem Keeps.answer_lookup (h : disk.Keeps folder own) {action : DiskAction}
    (ha : IsOwnAction own action) {path : Path} (hp : ∀ name, own name → path ≠ folder ++ [name]) :
    (answer action disk).2.tree.lookup path = disk.tree.lookup path := by
  cases action with
  | write name content =>
    rw [h.answer_write_eq ha]
    exact Assoc.lookup_put_of_ne (hp name ha) _ _
  | unlink name =>
    rw [answer, FileTree.unlink, h.slot_eq ha]
    dsimp only
    split
    · rfl
    · exact Assoc.lookup_erase_of_ne (hp name ha) _
    · rfl
  | _ => rfl

/-- A plan that touches only the program's own leaves everything else in the tree as it is. -/
theorem Keeps.run_lookup (h : disk.Keeps folder own) (ht : disk.IsTidy folder own kind) {α : Type}
    {p : DiskPlan α} (hp : p.Asks (IsOwnAction own)) {path : Path}
    (hpath : ∀ name, own name → path ≠ folder ++ [name]) :
    (run p disk).2.tree.lookup path = disk.tree.lookup path := by
  induction p generalizing disk with
  | done a => rfl
  | ask action next ih =>
    obtain ⟨hkeeps, htidy⟩ := h.answer_isTidy ht hp.1
    exact (ih _ hkeeps htidy (hp.2 _)).trans (h.answer_lookup hp.1 hpath)

/-- The names of a kind that a tidy home lists are those of the program's own files, each once. -/
theorem Keeps.answer_names (h : disk.Keeps folder own) (ht : disk.IsTidy folder own kind) :
    ∃ found, answer .names disk = (.ok found, disk) ∧ (found.filter kind).Nodup ∧
      ∀ name, name ∈ found.filter kind ↔
        kind name = true ∧ own name ∧ (disk.content? folder name).isSome = true := by
  obtain ⟨found, hfound, hnodup, hmem⟩ := FileTree.names_eq_ok h.home ht.paths
  refine ⟨found, by rw [answer, hfound], hnodup.filter kind, fun name => ?_⟩
  rw [List.mem_filter, hmem, and_comm]
  refine and_congr_right fun hk => ?_
  constructor
  · rintro ⟨node, hm⟩
    have hown := ht.own name node hm hk
    have hlookup := ht.paths.lookup_eq_some hm
    rw [h.lookup_eq hown] at hlookup
    obtain ⟨content, hc, -⟩ := Option.map_eq_some_iff.1 hlookup
    exact ⟨hown, by rw [hc]; rfl⟩
  · rintro ⟨hown, hc⟩
    obtain ⟨content, hc⟩ := Option.isSome_iff_exists.1 hc
    have hlookup := h.lookup_eq hown
    rw [hc] at hlookup
    exact ⟨.file content, Assoc.mem_of_lookup_eq_some hlookup⟩

end Disk

end QueryFence
