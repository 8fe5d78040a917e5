import QueryFence.Proofs.Cache.Folder
import QueryFence.Proofs.Rounds.Sharing

/-!
Blocks that share a cache in a folder. Whatever its files hold at first, as long as the index can be
used, a look-up finds what the file and the record of its key tell, and removing and storing touch those of
one key only.
-/

namespace QueryFence.FileCache

open QueryFence.Cycle QueryFence.Traffic

/-- What the file of an outcome holds. -/
def storedIn (content : Text) : Except Fault (Option Json) :=
  match Json.read content with
  | .ok .null => .ok none
  | .ok v => .ok (some v)
  | .error (.malformed _ _ _ _) => .ok none
  | .error e => .error (.badValue e.message)

/-- What a look-up finds, by the file and the record of its key. -/
def foundBy (ttl : Span) (now : Instant) (content : Option Text) (record : Option Json) :
    Except Fault (Option Json) :=
  match content, record with
  | some content, some record =>
    match record.item "cached_at" with
    | .error fault => .error fault
    | .ok time => if isExpired ttl now time then .ok none else storedIn content
  | _, _ => .ok none

variable {disk after : Disk} {folder : Path} {records records' : List (Text × Json)} {key : Text}

theorem run_loadEntry_eq (h : disk.Keeps folder IsOwnName) {content : Text}
    (hc : disk.content? folder (fileName (fileKey key)) = some content) :
    Disk.run (loadEntry (fileKey key)) disk = (storedIn content, disk) := by
  rw [loadEntry, Disk.run_bind, Disk.run_read, h.answer_read (isOwnName_file key), hc, storedIn]
  dsimp only
  cases Json.read content with
  | ok v => cases v <;> rfl
  | error e => cases e <;> rfl

def found (ttl : Span) (now : Instant) (folder : Path) (disk : Disk) (records : List (Text × Json))
    (key : Text) : Except Fault (Option Json) :=
  foundBy ttl now (disk.content? folder (fileName (fileKey key))) (records.lookup (fileKey key))

theorem IsSame.found_eq (h : IsSame folder disk records after records' key) (ttl : Span)
    (now : Instant) : found ttl now folder after records' key = found ttl now folder disk records key := by
  rw [found, found, h.content, h.record]

theorem found_of_content_none (ttl : Span) (now : Instant)
    (h : disk.content? folder (fileName (fileKey key)) = none) :
    found ttl now folder disk records key = .ok none := by
  rw [found, h]
  rfl

/-- A look-up finds what the file and the record of its key tell, and what it removes could not have
been found. -/
theorem Opens.run_get (h : Opens disk folder records) (ttl : Span) (now : Instant) (key : Text) :
    ∃ after records', Disk.run (get ttl now key) disk =
        (found ttl now folder disk records key, after) ∧
      Opens after folder records' ∧ ∀ other,
        found ttl now folder after records' other = found ttl now folder disk records other := by
  cases hfile : disk.content? folder (fileName (fileKey key)) with
  | none =>
    rw [found_of_content_none ttl now hfile]
    exact ⟨disk, records, run_get_missing h.keeps ttl now hfile, h, fun _ => rfl⟩
  | some content =>
    have hthere : (disk.content? folder (fileName (fileKey key))).isSome = true := by
      rw [hfile]
      rfl
    rw [get, found, hfile]
    simp only [Disk.run_bind, Disk.run_exists, h.keeps.answer_exists (isOwnName_file key), hthere,
      if_true, h.loads, findRecord_object]
    cases hrecord : records.lookup (fileKey key) with
    | none => exact ⟨disk, records, rfl, h, fun _ => rfl⟩
    | some record =>
      dsimp only [foundBy]
      cases htime : record.item "cached_at" with
      | error fault => exact ⟨disk, records, rfl, h, fun _ => rfl⟩
      | ok time =>
        dsimp only
        cases hexp : isExpired ttl now time with
        | false =>
          rw [if_neg Bool.false_ne_true, if_neg Bool.false_ne_true]
          exact ⟨disk, records, run_loadEntry_eq h.keeps hfile, h, fun _ => rfl⟩
        | true =>
          rw [if_pos rfl, if_pos rfl]
          -- what is removed was too old to be found before
          obtain ⟨after, hremove, hopens, -, hgone, hothers⟩ := h.run_removeEntry key
          refine ⟨after, _, ?_, hopens, fun other => ?_⟩
          · rw [Disk.run_bind, hremove]
            rfl
          · by_cases hk : fileKey other = fileKey key
            · rw [found, found, hk, hgone, hfile, hrecord]
              simp only [foundBy, htime, hexp, if_true]
            · exact (hothers.isSame (Assoc.lookup_erase_of_ne hk _) hk).found_eq ttl now

/-- A cache in a folder that can be used: under its own names there are only files, and the index is
missing, no JSON at all, or an object. -/
def IsUsable (c : FileCache) : Prop := ∃ folder records, Opens c.disk folder records

theorem IsSound.isUsable {c : FileCache} (h : c.IsSound) : c.IsUsable := by
  obtain ⟨folder, records, hindexes⟩ := h
  exact ⟨folder, records, hindexes.opens⟩

variable {c first : FileCache}

theorem Opens.result_get (h : Opens c.disk folder records) (now : Instant) (key : Text) :
    (ResultCache.get c now key).1 = found c.ttl now folder c.disk records key ∧
      (ResultCache.get c now key).2.ttl = c.ttl ∧
      ∃ records', Opens (ResultCache.get c now key).2.disk folder records' ∧ ∀ other,
        found c.ttl now folder (ResultCache.get c now key).2.disk records' other =
          found c.ttl now folder c.disk records other := by
  obtain ⟨after, records', hrun, hopens, hsame⟩ := h.run_get c.ttl now key
  have hget : ResultCache.get c now key = _ := perform_eq (c := c) hrun
  rw [hget]
  exact ⟨rfl, rfl, records', hopens, hsame⟩

/-- Storing makes an outcome found that is read back from its file, and changes nothing under other
keys. -/
theorem Opens.result_add (h : Opens c.disk folder records) {now : Instant} (hnow : now.IsTold)
    (key : Text) {data : Json} {isError : Bool}
    (hread : Json.read (entryText (Entry.at now data isError)) =
      .ok (Entry.at now data isError).toJson) :
    ∃ (after : FileCache) (records' : List (Text × Json)),
      ResultCache.add c now key data isError =
        (.ok (Entry.at now data isError).toJson, after) ∧ after.ttl = c.ttl ∧
      Opens after.disk folder records' ∧
      found c.ttl now folder after.disk records' key =
        .ok (if decide (0 ≤ c.ttl.micros) then some (Entry.at now data isError).toJson else none) ∧
      ∀ other, fileKey other ≠ fileKey key →
        found c.ttl now folder after.disk records' other =
          found c.ttl now folder c.disk records other := by
  obtain ⟨after, hrun, hopens, -, hfile, hothers⟩ := h.run_add now key data isError
  have hperform := perform_eq (c := c) hrun
  refine ⟨{ c with disk := after }, _, by simp only [ResultCache.add, hperform], rfl, hopens, ?_,
    fun other hk => (hothers.isSame (Assoc.lookup_put_of_ne hk _ _) hk).found_eq c.ttl now⟩
  have htime : (indexRecord key (Entry.at now data isError)).item "cached_at" =
      .ok (.text now.isoText) := rfl
  have hstored : storedIn (entryText (Entry.at now data isError)) =
      .ok (some (Entry.at now data isError).toJson) := by
    rw [storedIn, hread]
    rfl
  rw [found, hfile, Assoc.lookup_put_self]
  simp only [foundBy, htime, isExpired_stored c.ttl hnow, hstored, decide_eq_true_eq]
  by_cases hneg : c.ttl.micros < 0
  · rw [if_pos hneg, if_neg (Int.not_le.2 hneg)]
  · rw [if_neg hneg, if_pos (Int.not_lt.1 hneg)]

/-- Blocks may share a cache in a folder that can be used. -/
def sharing (first : FileCache) (hopens : Opens first.disk folder records) {now : Instant}
    (hnow : now.IsTold) {known : Spec → Prop} {answer : Spec → Except SearchFailure Json}
    (hown : ∀ x y, known x → known y → fileKey x.cacheKey = fileKey y.cacheKey →
      answer x = answer y ∧ x.cacheKey = y.cacheKey)
    (hread : ∀ spec, known spec → Json.read (entryText (entryOf now (answer spec))) =
      .ok (entryOf now (answer spec)).toJson) :
    Sharing FileCache now known answer first where
  Reached c := c.ttl = first.ttl ∧ ∃ records', Opens c.disk folder records' ∧
    ∀ spec, known spec → IsFoundAs (decide (0 ≤ first.ttl.micros)) (entryOf now (answer spec))
      (found first.ttl now folder first.disk records spec.cacheKey)
      (found first.ttl now folder c.disk records' spec.cacheKey)
  lasts := decide (0 ≤ first.ttl.micros)
  initial := ⟨rfl, records, hopens, fun _ _ => .inl rfl⟩
  found {c spec} hc hk := by
    obtain ⟨httl, records', hc, hfound⟩ := hc
    rw [(hc.result_get now spec.cacheKey).1, (hopens.result_get now spec.cacheKey).1, httl]
    exact hfound spec hk
  get {c spec} hc hk := by
    obtain ⟨httl, records', hc, hfound⟩ := hc
    obtain ⟨hget, httl', records'', hafter, hsame⟩ := hc.result_get now spec.cacheKey
    refine ⟨⟨httl'.trans httl, records'', hafter, fun other ho => ?_⟩, ?_⟩
    · rw [httl] at hsame
      rw [hsame]
      exact hfound other ho
    · rw [(hafter.result_get now spec.cacheKey).1, hget, httl', hsame]
  add {c spec} hc hk hnone _ := by
    obtain ⟨httl, records', hc, hfound⟩ := hc
    obtain ⟨after, records'', hadd, httl', hafter, hself, hothers⟩ :=
      hc.result_add hnow spec.cacheKey (hread spec hk)
    rw [(hopens.result_get now spec.cacheKey).1] at hnone
    rw [httl] at hself hothers
    refine ⟨after, hadd, ⟨httl'.trans httl, records'', hafter, fun other ho => ?_⟩, ?_⟩
    · by_cases hkey : fileKey other.cacheKey = fileKey spec.cacheKey
      · obtain ⟨hanswer, heq⟩ := hown other spec ho hk hkey
        rw [heq, hself, hanswer]
        exact isFoundAs_stored hnone _ _
      · rw [hothers _ hkey]
        exact hfound other ho
    · rw [(hafter.result_get now spec.cacheKey).1, httl', httl]
      exact hself

/-- A block for which nothing is found in a folder that can be used shows the answer to its search. -/
theorem searches_of_missing (hopens : Opens first.disk folder records) {now : Instant}
    (hnow : now.IsTold) {known : Spec → Prop} {answer : Spec → Except SearchFailure Json}
    (hown : ∀ x y, known x → known y → fileKey x.cacheKey = fileKey y.cacheKey →
      answer x = answer y ∧ x.cacheKey = y.cacheKey)
    (hread : ∀ spec, known spec → Json.read (entryText (entryOf now (answer spec))) =
      .ok (entryOf now (answer spec)).toJson) {hub : Hub} {spec : Spec} {t : Text} (hk : known spec)
    (hmissing : (ResultCache.get first now spec.cacheKey).1 = .ok none)
    (ho : IsSearchOutcome (answer spec))
    (ht : textOfAnswer hub spec (answer spec)
      (.ok (if 0 ≤ first.ttl.micros then some (entryOf now (answer spec)).toJson else none)) =
        .ok t) :
    (sharing first hopens hnow hown hread).Searches hub spec t := by
  obtain ⟨-, -, records', hafter, -⟩ := hopens.result_get now spec.cacheKey
  obtain ⟨after, -, hadd, -⟩ := hafter.result_add hnow spec.cacheKey (hread spec hk)
  refine ⟨hk, hmissing, ho, ⟨_, congrArg Prod.fst hadd⟩, ?_⟩
  rw [← ht, Sharing.fresh]
  simp only [sharing, decide_eq_true_eq]

end QueryFence.FileCache
