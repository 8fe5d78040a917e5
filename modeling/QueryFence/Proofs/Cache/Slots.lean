import QueryFence.Proofs.Cache.Recall

/-!
Slots: the places where a cache keeps outcomes, one for each. A cache in memory has one for every key, and
one in a folder has one for every digest, so that two keys may share it. What stands in a slot is found
under every key of it, and stays while it is live and the slot is not stored to.
-/

namespace QueryFence

/-- What holds of a cache with slots whose outcomes have data of some kind. -/
structure SlotLaws (σ : Type) [ResultCache σ] (ttl : Span) (Fits : Json → Prop) where
  slot : Text → Text
  Sound : σ → Prop
  /-- The slot of a key holds a deposit. -/
  Keeps : σ → Text → Deposit → Prop
  recalls : ∀ {c : σ} {key other : Text} {d : Deposit}, Keeps c key d → slot other = slot key →
    Recalls ttl c other d
  get_sound : ∀ {c : σ} (now : Instant) (key : Text), Sound c → Sound (ResultCache.get c now key).2
  get_keeps : ∀ {c : σ} {now : Instant} {key other : Text} {d : Deposit}, Keeps c key d →
    slot other ≠ slot key → Keeps (ResultCache.get c now other).2 key d
  add_ok : ∀ {c : σ} {now : Instant} (other : Text) {data : Json} (isError : Bool), Sound c →
    now.IsTold → Fits data → ∃ after, ResultCache.add c now other data isError =
        (.ok (Entry.at now data isError).toJson, after) ∧
      Sound after ∧ Keeps after other ⟨data, isError, now⟩ ∧
      ∀ key d, Keeps c key d → slot other ≠ slot key → d.isLive ttl now = true → Keeps after key d

namespace MemoryCache

variable {ttl : Span} {c : MemoryCache} {now : Instant} {key other : Text} {d : Deposit}

theorem KeepsUnder.get_of_ne (h : KeepsUnder ttl key c (some d)) (hne : other ≠ key) :
    KeepsUnder ttl key (ResultCache.get c now other).2 (some d) := by
  obtain ⟨httl, hsound, hd⟩ := h
  have hrest := hsound.result_get_snd now other
  refine ⟨hrest.ttl.trans httl, hrest.isSound hsound, ?_, hd.2⟩
  rcases c.get_snd now other with hsame | ⟨herase, -⟩
  · rw [hsame]
    exact hd.1
  · rw [herase, find?_erase_of_ne hne.symm]
    exact hd.1

/-- The slots of a cache in memory. -/
def slotLaws (ttl : Span) : SlotLaws MemoryCache ttl fun _ => True where
  slot key := key
  Sound c := c.ttl = ttl ∧ c.IsSound
  Keeps c key d := KeepsUnder ttl key c (some d)
  recalls := by
    rintro c key _ d ⟨rfl, -, hfind, htold⟩ rfl
    exact recalls_of_find? hfind (htold d rfl)
  get_sound := by
    rintro c now key ⟨rfl, hsound⟩
    have hrest := hsound.result_get_snd now key
    exact ⟨hrest.ttl, hrest.isSound hsound⟩
  get_keeps h hne := h.get_of_ne hne
  add_ok := by
    rintro c now other data isError ⟨rfl, hsound⟩ hnow -
    obtain ⟨rest, hadd, hrest, hheld⟩ := hsound.add_eq now other data isError
    have hafter := (hrest.isSound hsound).put hnow other (e := Entry.at now data isError) rfl
    refine ⟨rest.put other (Entry.at now data isError), ?_, ⟨hrest.ttl, hafter⟩, ?_, ?_⟩
    · simp only [ResultCache.add, hadd]
    · refine ⟨hrest.ttl, hafter, find?_put_self rest other _, ?_⟩
      rintro e ⟨⟩
      exact hnow
    · rintro key d ⟨-, -, hd⟩ hne hlive
      have hkept := hheld key (some d) hd
      rw [Option.filter_some, hlive, if_pos rfl] at hkept
      exact ⟨hrest.ttl, hafter, (find?_put_of_ne hne.symm _).trans hkept.1, hkept.2⟩

end MemoryCache

namespace FileCache

variable {ttl : Span} {c : FileCache} {key other : Text} {d : Deposit}

/-- Under the digest of a key there are the file of a deposit, which is read back as it is, and its record,
which may be for another key. -/
structure KeepsAt (ttl : Span) (c : FileCache) (key : Text) (d : Deposit) : Prop where
  ttl : c.ttl = ttl
  told : d.time.IsTold
  exact : d.data.IsExact
  there : ∃ folder records k, Indexes c.disk folder records ∧
    c.disk.content? folder (fileName (fileKey key)) = some (entryText d.entry) ∧
    records.lookup (fileKey key) = some (indexRecord k d.entry)

theorem KeepsAt.recalls (h : KeepsAt ttl c key d) (hsame : fileKey other = fileKey key) :
    Recalls ttl c other d := by
  obtain ⟨rfl, htold, hexact, folder, records, k, hindexes, hfile, hrecord⟩ := h
  intro later hlive
  have hexp := isExpired_deposit htold c.ttl later
  rw [hlive] at hexp
  rw [← hsame] at hfile hrecord
  exact perform_eq (hindexes.run_get_live hfile hrecord (read_entryText hexact) hexp)

/-- The slots of a cache in a folder. -/
def slotLaws (ttl : Span) : SlotLaws FileCache ttl Json.IsExact where
  slot := fileKey
  Sound c := c.ttl = ttl ∧ c.IsSound
  Keeps := KeepsAt ttl
  recalls h hsame := h.recalls hsame
  get_sound := by
    rintro c now key ⟨rfl, hsound⟩
    rcases hsound.result_get now key with ⟨hsame, -⟩ | ⟨httl, hafter, -⟩
    · rw [hsame]
      exact ⟨rfl, hsound⟩
    · exact ⟨httl, hafter⟩
  get_keeps := by
    rintro c now key other d ⟨rfl, htold, hexact, folder, records, k, hindexes, hfile, hrecord⟩ hne
    rcases hindexes.run_get c.ttl now other with ⟨-, r, hrun⟩ | ⟨-, after, hrun, hafter, -, hothers⟩
    · have hget : ResultCache.get c now other = (r, c) := perform_eq hrun
      rw [hget]
      exact ⟨rfl, htold, hexact, folder, records, k, hindexes, hfile, hrecord⟩
    · have hget : ResultCache.get c now other = (.ok none, ⟨c.ttl, after⟩) := perform_eq hrun
      have hsame := hothers.isSame (Assoc.lookup_erase_of_ne hne.symm records) hne.symm
      rw [hget]
      exact ⟨rfl, htold, hexact, folder, _, k, hafter, hsame.content.trans hfile,
        hsame.record.trans hrecord⟩
  add_ok := by
    rintro c now other data isError ⟨rfl, folder, records, hindexes⟩ hnow hdata
    obtain ⟨after, hrun, hafter, hfile, -⟩ := hindexes.run_add now other data isError
    have hadd : ResultCache.add c now other data isError =
        (.ok (Entry.at now data isError).toJson, ⟨c.ttl, after⟩) := by
      simp only [ResultCache.add, perform_eq hrun]
    refine ⟨⟨c.ttl, after⟩, hadd, ⟨rfl, folder, _, hafter⟩, ?_, ?_⟩
    · exact ⟨rfl, hnow, hdata, folder, _, other, hafter, hfile, Assoc.lookup_put_self _ _ _⟩
    · rintro key d ⟨-, htold, hexact, folder', records', k, hindexes', hfile', hrecord'⟩ hne -
      obtain ⟨after', hrun', hafter', -, hothers⟩ := hindexes'.run_add now other data isError
      obtain rfl := (Prod.mk.inj (hrun.symm.trans hrun')).2
      have hsame := hothers.isSame (Assoc.lookup_put_of_ne hne.symm
        (indexRecord other (Entry.at now data isError)) records') hne.symm
      exact ⟨rfl, htold, hexact, folder', _, k, hafter', hsame.content.trans hfile',
        hsame.record.trans hrecord'⟩

end FileCache

end QueryFence
