import QueryFence.Proofs.Cache.Alike
import QueryFence.Proofs.Cache.FolderCalls
import QueryFence.Proofs.Cache.Shelves

/-!
Look-ups of a cache in a folder go unnoticed, whatever its files hold and wherever folders stand in their
places: a look-up empties a slot only when its time is over, and nothing is found there later either.
-/

namespace QueryFence.FileCache

variable {folder : Path} {key : Text} {ttl : Span} {now : Instant}

/-- Two slots are the same, or the first is empty and the time of the second is over. -/
def Slot.Twin (ttl : Span) (now : Instant) (a b : Slot) : Prop :=
  a = b ∨ (a = (none, none) ∧ ∃ content record, b = (some (.file content), some record) ∧
    hasLapsed ttl now record = true)

theorem isExpired_of_le {later : Instant} {time : Json} (h : isExpired ttl now time = true)
    (hle : now.micros ≤ later.micros) : isExpired ttl later time = true := by
  cases time with
  | text t =>
    rw [isExpired] at h ⊢
    cases hread : Iso.read t with
    | none => rfl
    | some moment =>
      rw [hread] at h
      obtain ⟨instant, offset⟩ := moment
      cases offset with
      | true => rfl
      | false =>
        have hlong := of_decide_eq_true h
        exact decide_eq_true (by omega)
  | null | bool _ | int _ | float _ | list _ | object _ => rfl

theorem hasLapsed_of_le {later : Instant} {record : Json} (h : hasLapsed ttl now record = true)
    (hle : now.micros ≤ later.micros) : hasLapsed ttl later record = true := by
  cases htime : record.item "cached_at" with
  | error fault =>
    rw [hasLapsed_of_error htime] at h
    cases h
  | ok time =>
    rw [hasLapsed_of_item htime] at h ⊢
    exact isExpired_of_le h hle

namespace Slot.Twin

variable {a b : Slot}

theorem of_le {later : Instant} (h : Twin ttl now a b) (hle : now.micros ≤ later.micros) :
    Twin ttl later a b := by
  rcases h with h | ⟨ha, content, record, hb, hover⟩
  · exact .inl h
  · exact .inr ⟨ha, content, record, hb, hasLapsed_of_le hover hle⟩

theorem found_eq (h : Twin ttl now a b) : a.found ttl now = b.found ttl now := by
  rcases h with rfl | ⟨rfl, content, record, rfl, hover⟩
  · rfl
  · exact (found_of_over (s := (some (.file content), some record)) hover).symm

theorem lookedUp_eq (h : Twin ttl now a b) : a.lookedUp ttl now = b.lookedUp ttl now := by
  rcases h with rfl | ⟨rfl, content, record, rfl, hover⟩
  · rfl
  · rw [lookedUp, lookedUp, isOver_some, hover]
    rfl

theorem removed_eq (h : Twin ttl now a b) : a.removed = b.removed := by
  rcases h with rfl | ⟨rfl, content, record, rfl, -⟩ <;> rfl

theorem stored_eq (h : Twin ttl now a b) (key : Text) (e : Entry) : a.stored key e = b.stored key e := by
  rcases h with rfl | ⟨rfl, content, record, rfl, -⟩ <;> rfl

end Slot.Twin

/-- Two folders with twins in the slots of all keys. -/
structure HaveTwins (ttl : Span) (now : Instant) (folder : Path) (a : Disk)
    (recordsA : List (Text × Json)) (b : Disk) (recordsB : List (Text × Json)) : Prop where
  first : Shelves a folder recordsA
  second : Shelves b folder recordsB
  slots : ∀ key, Slot.Twin ttl now (slot folder a recordsA key) (slot folder b recordsB key)

/-- A call that fills the slot of its key alike in both folders leaves twins in them. -/
theorem HaveTwins.of_fills {a b a' b' : Disk} {recordsA recordsB recordsA' recordsB' : List (Text × Json)}
    {s s' : Slot} (h : HaveTwins ttl now folder a recordsA b recordsB)
    (ha : Fills folder a recordsA key s a' recordsA') (hb : Fills folder b recordsB key s' b' recordsB')
    (hs : s = s') : HaveTwins ttl now folder a' recordsA' b' recordsB' := by
  refine ⟨ha.shelves, hb.shelves, fun other => ?_⟩
  by_cases ho : fileKey other = fileKey key
  · rw [slot_congr ho, slot_congr ho, ha.slot_self, hb.slot_self]
    exact .inl hs
  · rw [ha.slot_of_ne other ho, hb.slot_of_ne other ho]
    exact h.slots other

/-- Two caches are the same, or have twins in their folders. -/
def AreTwins (now : Instant) (a b : FileCache) : Prop :=
  a = b ∨ (a.ttl = b.ttl ∧ ∃ folder recordsA recordsB,
    HaveTwins a.ttl now folder a.disk recordsA b.disk recordsB)

section Twins

variable {a b : FileCache}

theorem AreTwins.of_le {later : Instant} (h : AreTwins now a b) (hle : now.micros ≤ later.micros) :
    AreTwins later a b := by
  rcases h with h | ⟨httl, folder, recordsA, recordsB, h⟩
  · exact .inl h
  · exact .inr ⟨httl, folder, recordsA, recordsB, h.first, h.second, fun key => (h.slots key).of_le hle⟩

theorem AreTwins.get (h : AreTwins now a b) (key : Text) :
    (ResultCache.get a now key).1 = (ResultCache.get b now key).1 ∧
      AreTwins now (ResultCache.get a now key).2 (ResultCache.get b now key).2 := by
  rcases h with rfl | ⟨httl, folder, recordsA, recordsB, h⟩
  · exact ⟨rfl, .inl rfl⟩
  · obtain ⟨a', recordsA', hrunA, hfillsA⟩ := h.first.run_get a.ttl now key
    obtain ⟨b', recordsB', hrunB, hfillsB⟩ := h.second.run_get b.ttl now key
    have hgetA : ResultCache.get a now key = _ := perform_eq hrunA
    have hgetB : ResultCache.get b now key = _ := perform_eq hrunB
    rw [← httl] at hgetB hfillsB
    rw [hgetA, hgetB]
    refine ⟨(h.slots key).found_eq, .inr ⟨rfl, folder, recordsA', recordsB', ?_⟩⟩
    exact h.of_fills hfillsA hfillsB (h.slots key).lookedUp_eq

theorem AreTwins.add (h : AreTwins now a b) (key : Text) (data : Json) (isError : Bool) :
    AreTwins now (ResultCache.add a now key data isError).2
      (ResultCache.add b now key data isError).2 := by
  rcases h with rfl | ⟨httl, folder, recordsA, recordsB, h⟩
  · exact .inl rfl
  · obtain ⟨a', recordsA', hrunA, hfillsA⟩ := h.first.run_add now key data isError
    obtain ⟨b', recordsB', hrunB, hfillsB⟩ := h.second.run_add now key data isError
    have haddA : (ResultCache.add a now key data isError).2 = { a with disk := a' } :=
      congrArg Prod.snd (perform_eq hrunA)
    have haddB : (ResultCache.add b now key data isError).2 = { b with disk := b' } :=
      congrArg Prod.snd (perform_eq hrunB)
    rw [haddA, haddB]
    refine .inr ⟨httl, folder, recordsA', recordsB', ?_⟩
    exact h.of_fills hfillsA hfillsB ((h.slots key).stored_eq key _)

theorem AreTwins.delete (h : AreTwins now a b) (key : Text) :
    AreTwins now (ResultCache.delete a key).2 (ResultCache.delete b key).2 := by
  rcases h with rfl | ⟨httl, folder, recordsA, recordsB, h⟩
  · exact .inl rfl
  · obtain ⟨a', recordsA', hrunA, hfillsA⟩ := h.first.run_removeEntry key
    obtain ⟨b', recordsB', hrunB, hfillsB⟩ := h.second.run_removeEntry key
    have hdeleteA : (ResultCache.delete a key).2 = { a with disk := a' } :=
      congrArg Prod.snd (perform_eq hrunA)
    have hdeleteB : (ResultCache.delete b key).2 = { b with disk := b' } :=
      congrArg Prod.snd (perform_eq hrunB)
    rw [hdeleteA, hdeleteB]
    refine .inr ⟨httl, folder, recordsA', recordsB', ?_⟩
    exact h.of_fills hfillsA hfillsB (h.slots key).removed_eq

theorem keepsInStep_areTwins : KeepsInStep AreTwins where
  later h hle := h.of_le hle
  get_fst key h := (h.get key).1
  get_snd key h := (h.get key).2
  add_snd key data isError h := h.add key data isError
  delete_snd key h := h.delete key

end Twins

variable {c : FileCache}

/-- A slot that is looked up is a twin of what it was. -/
theorem Slot.twin_lookedUp {s : Slot} (hlink : ∀ goal, s.1 ≠ some (.link goal)) :
    Twin ttl now (s.lookedUp ttl now) s := by
  rw [lookedUp]
  split
  · next hover =>
    obtain ⟨node, record⟩ := s
    cases node with
    | none => cases hover
    | some node =>
      cases record with
      | none => cases hover
      | some record =>
        cases node with
        | folder => exact .inl rfl
        | file content => exact .inr ⟨rfl, content, record, rfl, hover⟩
        | link goal => exact absurd rfl (hlink goal)
  · exact .inl rfl

/-- A look-up leaves a twin of the cache. -/
theorem areTwins_get (h : c.disk.HasNoLinks) (now : Instant) (key : Text) :
    AreTwins now (ResultCache.get c now key).2 c := by
  by_cases hthere : c.disk.tree.isThere (c.disk.steps (fileName (fileKey key))) = true
  · by_cases hrecords : ∃ records, indexIn (readIn c.disk indexName) = .ok (.object records)
    · obtain ⟨records, hindex⟩ := hrecords
      obtain ⟨folder, hhouses⟩ := h.houses hthere
      have hshelves : Shelves c.disk folder records := ⟨hhouses, isExact_of_indexIn hindex, hindex⟩
      obtain ⟨after, records', hrun, hfills⟩ := hshelves.run_get c.ttl now key
      have hself : HaveTwins c.ttl now folder c.disk records c.disk records :=
        ⟨hshelves, hshelves, fun _ => .inl rfl⟩
      have hget : ResultCache.get c now key = _ := perform_eq hrun
      rw [hget]
      refine .inr ⟨rfl, folder, records', records, hfills.shelves, hshelves, fun other => ?_⟩
      by_cases ho : fileKey other = fileKey key
      · rw [slot_congr ho, slot_congr ho, hfills.slot_self]
        exact Slot.twin_lookedUp (hhouses.links _ (isOwnName_file key))
      · rw [hfills.slot_of_ne other ho]
        exact .inl rfl
    · have hsame := run_get_of_no_records (fun records hi => hrecords ⟨records, hi⟩) c.ttl now key
      exact .inl (congrArg (FileCache.mk c.ttl) hsame)
  · have hsame : (Disk.run (FileCache.get c.ttl now key) c.disk).2 = c.disk := by
      rw [FileCache.get, Disk.run_bind, Disk.run_exists, Disk.answer]
      simp only [hthere]
      rfl
    exact .inl (congrArg (FileCache.mk c.ttl) hsame)

/-- Look-ups of a cache in a folder go unnoticed, whatever files and folders are in it. -/
theorem goesUnnoticed : GoesUnnoticed fun c : FileCache => c.disk.HasNoLinks where
  get _ _ h := h.run _
  add now key data isError h := h.run (FileCache.add now key data isError)
  delete _ h := h.run _
  get_alike now key h := keepsInStep_areTwins.answersAlike (areTwins_get h now key)

end QueryFence.FileCache
