import QueryFence.Proofs.Files.Custody
import QueryFence.Proofs.Text.Cut

/-!
Programs that are stopped before their end. A program may be stopped before any of its actions, or in
the middle of a write, which then leaves only the beginning of the new content in the file. A program
guards a property of the disk if it holds wherever the program is stopped.
-/

namespace QueryFence.Disk

variable {α β : Type}

/-- What a program may leave of a disk, when it is stopped or at its end. -/
inductive Leaves {α : Type} : DiskPlan α → Disk → Disk → Prop
  /-- It is stopped before its next action, or has none. -/
  | here {p : DiskPlan α} {disk : Disk} : Leaves p disk disk
  /-- It is stopped in the middle of a write. -/
  | torn {name content part : Text} {next : Except StorageError Unit → DiskPlan α} {disk : Disk}
      (h : Text.IsCut part content) :
      Leaves (.ask (.write name content) next) disk (answer (.write name part) disk).2
  | later {action : DiskAction} {next : action.Reply → DiskPlan α} {disk after : Disk}
      (h : Leaves (next (answer action disk).1) (answer action disk).2 after) :
      Leaves (.ask action next) disk after

theorem leaves_run (p : DiskPlan α) (disk : Disk) : Leaves p disk (run p disk).2 := by
  induction p generalizing disk with
  | done a => exact .here
  | ask action next ih => exact .later (ih _ _)

/-- A program of two parts is stopped in the first or in the second. -/
theorem Leaves.bind {p : DiskPlan α} {f : α → DiskPlan β} {disk after : Disk}
    (h : Leaves (p >>= f) disk after) :
    Leaves p disk after ∨ Leaves (f (run p disk).1) (run p disk).2 after := by
  induction p generalizing disk with
  | done a => exact .inr h
  | ask action next ih =>
    obtain ⟨q, hq⟩ : ∃ q, q = (Plan.ask action next >>= f) := ⟨_, rfl⟩
    rw [← hq] at h
    cases h with
    | here => exact .inl .here
    | torn hcut =>
      cases hq
      exact .inl (.torn hcut)
    | later h =>
      cases hq
      rcases ih _ h with h | h
      · exact .inl (.later h)
      · exact .inr h

/-- Wherever the program is stopped the disk has a property that it had before, and the program ends
with a result of a kind. -/
structure Guards (J : Disk → Prop) (p : DiskPlan α) (Q : α → Prop) : Prop where
  leaves : ∀ {disk after}, J disk → Leaves p disk after → J after
  result : ∀ {disk}, J disk → Q (run p disk).1

variable {J : Disk → Prop} {p : DiskPlan α} {Q : α → Prop}

theorem Guards.run (h : Guards J p Q) {disk : Disk} (hj : J disk) : J (Disk.run p disk).2 :=
  h.leaves hj (leaves_run p disk)

theorem Guards.imp (h : Guards J p Q) {R : α → Prop} (hr : ∀ a, Q a → R a) : Guards J p R :=
  ⟨h.leaves, fun hj => hr _ (h.result hj)⟩

theorem guards_pure {a : α} (h : Q a) : Guards J (pure a) Q := by
  refine ⟨fun hj hleaves => ?_, fun _ => h⟩
  obtain ⟨q, hq⟩ : ∃ q, q = (pure a : DiskPlan α) := ⟨_, rfl⟩
  rw [← hq] at hleaves
  cases hleaves with
  | here => exact hj
  | torn _ => cases hq
  | later _ => cases hq

theorem Guards.bind (hp : Guards J p Q) {f : α → DiskPlan β} {R : β → Prop}
    (hf : ∀ a, Q a → Guards J (f a) R) : Guards J (p >>= f) R := by
  constructor
  · intro disk after hj hleaves
    rcases hleaves.bind with h | h
    · exact hp.leaves hj h
    · exact (hf _ (hp.result hj)).leaves (hp.run hj) h
  · intro disk hj
    rw [run_bind]
    exact (hf _ (hp.result hj)).result (hp.run hj)

/-- A single action guards what it keeps, also when it is a write and is done only in part. -/
theorem guards_query {action : DiskAction} {Q : action.Reply → Prop}
    (hkeeps : ∀ disk, J disk → J (answer action disk).2 ∧ Q (answer action disk).1)
    (htorn : ∀ name content, action = .write name content → ∀ part, Text.IsCut part content →
      ∀ disk, J disk → J (answer (.write name part) disk).2) :
    Guards J (Plan.query action) Q := by
  refine ⟨fun hj hleaves => ?_, fun hj => (hkeeps _ hj).2⟩
  obtain ⟨q, hq⟩ : ∃ q, q = (Plan.query action : DiskPlan action.Reply) := ⟨_, rfl⟩
  rw [← hq] at hleaves
  cases hleaves with
  | here => exact hj
  | torn hcut =>
    cases hq
    exact htorn _ _ rfl _ hcut _ hj
  | later h =>
    cases hq
    cases h with
    | here => exact (hkeeps _ hj).1

end QueryFence.Disk
