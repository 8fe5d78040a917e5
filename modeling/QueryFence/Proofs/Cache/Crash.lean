import QueryFence.Proofs.Cache.FolderCalls
import QueryFence.Proofs.Files.Crash
import QueryFence.Proofs.Json.Prefix

/-!
The cache in a folder when it is stopped before the end of a call. Whatever the call was, each file of
the cache then is missing, is no JSON, or is as the cache writes it; so later calls find nothing that
was not added as a whole.
-/

namespace QueryFence.FileCache

open QueryFence.Disk (Guards)
open QueryFence.Text (IsCut)

/-- A text that is no JSON. -/
def IsMalformed (content : Text) : Prop :=
  ∃ cause line column offset, Json.read content = .error (.malformed cause line column offset)

/-- An index of the cache, under file keys of its own. -/
structure IsOwnIndex (records : List (Text × Json)) : Prop where
  index : IsIndex records
  fileKeys : ∀ k ∈ records.map Prod.fst, IsFileKey k

/-- What may stand in a file of the cache: no JSON, an index, or an outcome that was added for a key with
the digest in the name. -/
inductive IsContent (added : Text → Entry → Prop) : Text → Text → Prop
  | malformed {name content : Text} (h : IsMalformed content) : IsContent added name content
  | index {records : List (Text × Json)} (h : IsOwnIndex records) :
    IsContent added indexName (Json.object records).writeIndented
  | entry {key : Text} {e : Entry} (h : added key e) :
    IsContent added (fileName (fileKey key)) (entryText e)

/-- A folder of the cache as a call that was stopped may leave it. -/
structure IsLeft (folder : Path) (added : Text → Entry → Prop) (disk : Disk) : Prop where
  keeps : disk.Keeps folder IsOwnName
  tidy : disk.IsTidy folder IsOwnName isCacheFile
  contents : ∀ name, IsOwnName name → ∀ content ∈ disk.content? folder name,
    IsContent added name content

/-- An outcome for a key that was added under its digest. -/
def IsAdded (added : Text → Entry → Prop) (key : Text) (record : Json) : Prop :=
  ∃ other e, fileKey other = fileKey key ∧ added other e ∧ record = e.toJson

section Contents

variable {added : Text → Entry → Prop} {folder : Path} {disk after : Disk} {name content key : Text}

/-- What is left of the text of an object. -/
theorem isMalformed_of_isCut {members : List (Text × Json)} (h : (Json.object members).IsExact)
    {part : Text} (hp : IsCut part (Json.object members).writeIndented) : IsMalformed part :=
  Json.read_of_isCut h hp

theorem IsContent.of_index (h : IsContent added indexName content) :
    IsMalformed content ∨ ∃ records, IsOwnIndex records ∧
      content = (Json.object records).writeIndented := by
  obtain ⟨name, hname⟩ : ∃ name, name = indexName := ⟨_, rfl⟩
  rw [← hname] at h
  cases h with
  | malformed h => exact .inl h
  | index h => exact .inr ⟨_, h, rfl⟩
  | @entry key _ _ => exact absurd hname (fileName_ne_indexName key)

theorem IsContent.of_file (h : IsContent added (fileName (fileKey key)) content) :
    IsMalformed content ∨ ∃ other e, fileKey other = fileKey key ∧ added other e ∧
      content = entryText e := by
  obtain ⟨name, hname⟩ : ∃ name, name = fileName (fileKey key) := ⟨_, rfl⟩
  rw [← hname] at h
  cases h with
  | malformed h => exact .inl h
  | index _ => exact absurd hname.symm (fileName_ne_indexName key)
  | @entry other e h => exact .inr ⟨other, e, fileName_inj hname, h, rfl⟩

/-- A change of one of the cache's files to what may stand there. -/
theorem IsLeft.of_isUpdate (h : IsLeft folder added disk) {content : Option Text}
    (hup : Disk.IsUpdate folder IsOwnName disk after name content)
    (htidy : after.IsTidy folder IsOwnName isCacheFile)
    (hc : ∀ c ∈ content, IsContent added name c) : IsLeft folder added after := by
  refine ⟨hup.keeps, htidy, fun other ho c hother => ?_⟩
  by_cases hsame : other = name
  · subst hsame
    rw [hup.content] at hother
    exact hc c hother
  · rw [hup.others other hsame] at hother
    exact h.contents other ho c hother

end Contents

section Actions

variable {added : Text → Entry → Prop} {folder : Path} {name content : Text}

theorem guards_exists (name : Text) :
    Guards (IsLeft folder added) (DiskPlan.exists? name) fun _ => True :=
  Disk.guards_query (fun _ h => ⟨h, trivial⟩) nofun

theorem guards_read (hn : IsOwnName name) :
    Guards (IsLeft folder added) (DiskPlan.read name) fun reply =>
      reply = .error .missing ∨ ∃ content, reply = .ok content ∧ IsContent added name content := by
  refine Disk.guards_query (fun disk h => ?_) nofun
  rw [h.keeps.answer_read hn]
  refine ⟨h, ?_⟩
  cases hc : disk.content? folder name with
  | none => exact .inl rfl
  | some content => exact .inr ⟨content, rfl, h.contents name hn content hc⟩

theorem IsLeft.answer_write {disk : Disk} (h : IsLeft folder added disk) (hn : IsOwnName name)
    (hc : IsContent added name content) :
    IsLeft folder added (Disk.answer (.write name content) disk).2 ∧
      (Disk.answer (.write name content) disk).1 = .ok () := by
  obtain ⟨after, hwrite, hup⟩ := h.keeps.answer_write hn content
  have hown : Disk.IsOwnAction IsOwnName (.write name content) := hn
  have htidy := (h.keeps.answer_isTidy h.tidy hown).2
  rw [hwrite] at htidy ⊢
  refine ⟨h.of_isUpdate hup htidy fun c hm => ?_, rfl⟩
  rw [← Option.some.inj hm]
  exact hc

/-- What may stand in a file can be written there, if no part of it is JSON. -/
theorem guards_write (hn : IsOwnName name) (hc : IsContent added name content)
    (hcut : ∀ part, IsCut part content → IsMalformed part) :
    Guards (IsLeft folder added) (DiskPlan.write name content) (· = .ok ()) := by
  refine Disk.guards_query (fun disk h => h.answer_write hn hc) ?_
  rintro _ _ ⟨⟩ part hpart disk h
  exact (h.answer_write hn (.malformed (hcut part hpart))).1

theorem guards_unlink (hn : IsOwnName name) :
    Guards (IsLeft folder added) (DiskPlan.unlink name) fun _ => True := by
  refine Disk.guards_query (fun disk h => ⟨?_, trivial⟩) nofun
  have hown : Disk.IsOwnAction IsOwnName (.unlink name) := hn
  obtain ⟨hkeeps, htidy⟩ := h.keeps.answer_isTidy h.tidy hown
  cases hc : disk.content? folder name with
  | some content =>
    obtain ⟨after, hunlink, hup⟩ := h.keeps.answer_unlink hn (by rw [hc]; rfl)
    rw [hunlink] at htidy ⊢
    exact h.of_isUpdate hup htidy nofun
  | none =>
    have hlookup := h.keeps.lookup_eq hn
    rw [hc] at hlookup
    have hsame : (Disk.answer (.unlink name) disk).2 = disk := by
      rw [Disk.answer, FileTree.unlink, h.keeps.slot_eq hn]
      dsimp only
      rw [hlookup]
      rfl
    rw [hsame]
    exact h

/-- The files that look like the cache's are its own. -/
theorem guards_names :
    Guards (IsLeft folder added) DiskPlan.names fun reply =>
      ∃ found, reply = .ok found ∧ ∀ name ∈ found.filter isCacheFile, IsOwnName name := by
  refine Disk.guards_query (fun disk h => ?_) nofun
  obtain ⟨found, hnames, -, hmem⟩ := h.keeps.answer_names h.tidy
  rw [hnames]
  exact ⟨h, found, rfl, fun name hm => ((hmem name).1 hm).2.1⟩

end Actions

section Plans

variable {added : Text → Entry → Prop} {folder : Path}

/-- An index that is missing or no JSON is read as an empty one. -/
theorem guards_loadIndex :
    Guards (IsLeft folder added) loadIndex fun loaded =>
      ∃ records, loaded = .ok (.object records) ∧ IsOwnIndex records := by
  have hempty : IsOwnIndex [] := ⟨isIndex_nil, fun _ h => absurd h List.not_mem_nil⟩
  refine (guards_read isOwnName_index).bind fun reply hreply => ?_
  rcases hreply with rfl | ⟨content, rfl, hcontent⟩
  · exact Disk.guards_pure ⟨[], rfl, hempty⟩
  · rcases hcontent.of_index with ⟨cause, line, column, offset, hread⟩ | ⟨records, hrecords, rfl⟩
    · simp only [hread]
      exact Disk.guards_pure ⟨[], rfl, hempty⟩
    · simp only [Json.read_writeIndented hrecords.index.isExact]
      exact Disk.guards_pure ⟨records, rfl, hrecords⟩

theorem guards_saveIndex {records : List (Text × Json)} (h : IsOwnIndex records) :
    Guards (IsLeft folder added) (saveIndex (.object records)) fun _ => True :=
  (guards_write isOwnName_index (.index h) fun _ hpart =>
    isMalformed_of_isCut h.index.isExact hpart).bind fun _ _ => Disk.guards_pure trivial

theorem IsOwnIndex.erase {records : List (Text × Json)} (h : IsOwnIndex records) (k : Text) :
    IsOwnIndex (Assoc.erase k records) :=
  ⟨h.index.erase k, fun k' hk =>
    h.fileKeys k' (((Assoc.erase_sublist k records).map Prod.fst).subset hk)⟩

theorem IsOwnIndex.put {records : List (Text × Json)} (h : IsOwnIndex records) (key : Text) (e : Entry) :
    IsOwnIndex (Assoc.put (fileKey key) (indexRecord key e) records) := by
  refine ⟨h.index.put _ key e, fun k hk => ?_⟩
  obtain ⟨⟨k, record⟩, hm, rfl⟩ := List.mem_map.1 hk
  rcases Assoc.mem_of_mem_put h.index.keys hm with ⟨rfl, -⟩ | ⟨-, hm⟩
  · exact ⟨key, rfl⟩
  · exact h.fileKeys k (Assoc.mem_keys hm)

theorem guards_removeRecord (k : Text) :
    Guards (IsLeft folder added) (removeRecord k) (· = .ok ()) := by
  refine guards_loadIndex.bind fun loaded hloaded => ?_
  obtain ⟨records, rfl, hrecords⟩ := hloaded
  have hcontains : (Json.object records).contains k = .ok (records.lookup k).isSome := rfl
  simp only [hcontains]
  cases records.lookup k with
  | none => exact Disk.guards_pure rfl
  | some record =>
    exact (guards_saveIndex (hrecords.erase k)).bind fun _ _ => Disk.guards_pure rfl

theorem guards_removeEntry (key : Text) :
    Guards (IsLeft folder added) (removeEntry (fileKey key)) (· = .ok ()) := by
  refine (guards_exists _).bind fun there _ => ?_
  split
  · refine (guards_unlink (isOwnName_file key)).bind fun reply _ => ?_
    split
    · exact Disk.guards_pure rfl
    · exact guards_removeRecord _
  · exact guards_removeRecord _

/-- A look-up finds nothing, or an outcome that was added as a whole. -/
def FindsAdded (added : Text → Entry → Prop) (key : Text) (reply : Except Fault (Option Json)) : Prop :=
  ∃ found, reply = .ok found ∧ ∀ record ∈ found, IsAdded added key record

theorem findsAdded_none (key : Text) : FindsAdded added key (.ok none) := ⟨none, rfl, nofun⟩

variable (hadded : ∀ key e, added key e → e.data.IsExact)

include hadded

theorem guards_loadEntry (key : Text) :
    Guards (IsLeft folder added) (loadEntry (fileKey key)) (FindsAdded added key) := by
  refine (guards_read (isOwnName_file key)).bind fun reply hreply => ?_
  rcases hreply with rfl | ⟨content, rfl, hcontent⟩
  · exact Disk.guards_pure (findsAdded_none key)
  · rcases hcontent.of_file with ⟨cause, line, column, offset, hread⟩ | ⟨other, e, hkey, he, rfl⟩
    · simp only [hread]
      exact Disk.guards_pure (findsAdded_none key)
    · have hread := read_entryText (hadded other e he)
      simp only [hread]
      refine Disk.guards_pure ⟨_, rfl, ?_⟩
      rintro record ⟨⟩
      exact ⟨other, e, hkey, he, rfl⟩

theorem guards_get (ttl : Span) (now : Instant) (key : Text) :
    Guards (IsLeft folder added) (get ttl now key) (FindsAdded added key) := by
  refine (guards_exists _).bind fun there _ => ?_
  split
  · refine guards_loadIndex.bind fun loaded hloaded => ?_
    obtain ⟨records, rfl, hrecords⟩ := hloaded
    simp only [findRecord_object]
    cases hrecord : records.lookup (fileKey key) with
    | none => exact Disk.guards_pure (findsAdded_none key)
    | some record =>
      obtain ⟨k, e, rfl⟩ := hrecords.index.records _ _ (Assoc.mem_of_lookup_eq_some hrecord)
      have htime : (indexRecord k e).item "cached_at" = .ok (.text e.time) := rfl
      simp only [htime]
      split
      · refine (guards_removeEntry key).bind fun removed hremoved => ?_
        rw [hremoved]
        exact Disk.guards_pure (findsAdded_none key)
      · exact guards_loadEntry hadded key
  · exact Disk.guards_pure (findsAdded_none key)

theorem guards_add (now : Instant) {key : Text} {data : Json} {isError : Bool}
    (he : added key (Entry.at now data isError)) :
    Guards (IsLeft folder added) (add now key data isError) fun _ => True := by
  have hkeys : [("data" : Text), "is_error", "time"].Nodup := by decide
  have hexact : (Entry.at now data isError).toJson.IsExact :=
    ⟨hkeys, hadded key _ he, trivial, trivial, trivial⟩
  refine (guards_write (isOwnName_file key) (.entry he) fun _ hpart =>
    isMalformed_of_isCut hexact hpart).bind fun reply hreply => ?_
  subst hreply
  refine guards_loadIndex.bind fun loaded hloaded => ?_
  obtain ⟨records, rfl, hrecords⟩ := hloaded
  exact (guards_saveIndex (hrecords.put key _)).bind fun _ _ => Disk.guards_pure trivial

omit hadded

theorem guards_removeAll {keys : List Text} (h : ∀ k ∈ keys, IsFileKey k) :
    Guards (IsLeft folder added) (removeAll keys) (· = .ok ()) := by
  induction keys with
  | nil => exact Disk.guards_pure rfl
  | cons k keys ih =>
    obtain ⟨key, rfl⟩ := h k List.mem_cons_self
    refine (guards_removeEntry key).bind fun removed hremoved => ?_
    rw [hremoved]
    exact ih fun other hm => h other (List.mem_cons_of_mem _ hm)

theorem guards_cleanup (ttl : Span) (now : Instant) :
    Guards (IsLeft folder added) (cleanup ttl now) fun counted => ∃ n, counted = .ok n := by
  refine guards_loadIndex.bind fun loaded hloaded => ?_
  obtain ⟨records, rfl, hrecords⟩ := hloaded
  obtain ⟨keys, hkeys, hmem⟩ := expiredKeys_eq_ok ttl now hrecords.index.records
  have hfile : ∀ k ∈ keys, IsFileKey k := by
    intro k hk
    obtain ⟨key, e, hrecord, -⟩ := (hmem k).1 hk
    exact hrecords.fileKeys k (Assoc.mem_keys hrecord)
  simp only [hkeys]
  refine (guards_removeAll hfile).bind fun removed hremoved => ?_
  rw [hremoved]
  exact Disk.guards_pure ⟨_, rfl⟩

theorem guards_unlinkAll {names : List Text} (h : ∀ name ∈ names, IsOwnName name) :
    Guards (IsLeft folder added) (unlinkAll names) fun _ => True := by
  induction names with
  | nil => exact Disk.guards_pure trivial
  | cons name names ih =>
    refine (guards_unlink (h name List.mem_cons_self)).bind fun reply _ => ?_
    split
    · exact Disk.guards_pure trivial
    · exact ih fun other hm => h other (List.mem_cons_of_mem name hm)

theorem guards_saveEmpty : Guards (IsLeft folder added) (saveIndex (.object [])) fun _ => True :=
  guards_saveIndex ⟨isIndex_nil, fun _ h => absurd h List.not_mem_nil⟩

theorem guards_clear : Guards (IsLeft folder added) clear fun _ => True := by
  refine guards_names.bind fun reply hreply => ?_
  obtain ⟨found, rfl, hown⟩ := hreply
  refine (guards_unlinkAll hown).bind fun all _ => ?_
  split
  · exact guards_saveEmpty
  · exact Disk.guards_pure trivial

theorem guards_prepare : Guards (IsLeft folder added) prepare fun _ => True := by
  refine (guards_exists indexName).bind fun there _ => ?_
  split
  · exact Disk.guards_pure trivial
  · exact guards_saveEmpty

end Plans

end QueryFence.FileCache
