import QueryFence.Cache.Basic
import QueryFence.Encoding.Md5
import QueryFence.Files.Disk
import QueryFence.Json.Reader
import QueryFence.Json.Writer

/-!
The cache in a folder: one file for each outcome, named by the digest of its key, and an index of
them with the times by which they expire. Failures of the file system are let pass: what could not
be stored is not found later.
-/

namespace QueryFence

namespace FileCache

/-- The name of the index. -/
def indexName : Text := "cache_metadata.json"

def suffix : Text := ".json"

/-- The name under which the index knows a key. -/
def fileKey (key : Text) : Text := Md5.hexDigest key

/-- The file of an outcome. -/
def fileName (fileKey : Text) : Text := fileKey ++ suffix

/-- The content of an outcome's file. -/
def entryText (e : Entry) : Text := e.toJson.writeIndented

/-- What the index says of an outcome. -/
def indexRecord (key : Text) (e : Entry) : Json :=
  .object [("key", .text key), ("cached_at", .text e.time), ("is_error", .bool e.isError)]

/-- Why the index cannot be used: the file system, or a fault of its content. -/
def storageFault (e : StorageError) : Fault := .storage e

/-- The index. One that is missing or is not JSON is empty; a number that cannot be read is a
fault. -/
def loadIndex : DiskPlan (Except Fault Json) := do
  match ← DiskPlan.read indexName with
  | .error .missing => return .ok (.object [])
  | .error e => return .error (storageFault e)
  | .ok content =>
    match Json.read content with
    | .ok index => return .ok index
    | .error (.malformed _ _ _ _) => return .ok (.object [])
    | .error e => return .error (.badValue e.message)

def saveIndex (index : Json) : DiskPlan Unit := do
  let _ ← DiskPlan.write indexName index.writeIndented
  return ()

/-- Whether a time is longer ago than the cache keeps outcomes. What is no time, or has an offset,
has expired. -/
def isExpired (ttl : Span) (now : Instant) (time : Json) : Bool :=
  match time with
  | .text t =>
    match Iso.read t with
    | some ⟨instant, false⟩ => ttl.micros < now.micros - instant.micros
    | _ => true
  | _ => true

/-- Whether the index has a record under a file key, and the record. -/
def findRecord (index : Json) (fileKey : Text) : Except Fault (Option Json) := do
  if ← index.contains fileKey then return some (← index.item fileKey)
  else return none

/-- The index without a record. -/
def dropRecord (index : Json) (fileKey : Text) : Except Fault Json :=
  match index with
  | .object members => .ok (.object (Assoc.erase fileKey members))
  | .list _ => .error (.wrongKind "list indices must be integers or slices, not str")
  | v => .error (.wrongKind ("'" ++ v.kind.name ++ "' object doesn't support item deletion"))

/-- The index with a record. -/
def putRecord (index : Json) (fileKey : Text) (record : Json) : Except Fault Json :=
  match index with
  | .object members => .ok (.object (Assoc.put fileKey record members))
  | .list _ => .error (.wrongKind "list indices must be integers or slices, not str")
  | v => .error (.wrongKind ("'" ++ v.kind.name ++ "' object does not support item assignment"))

/-- Removes the record of an outcome from the index. -/
def removeRecord (fileKey : Text) : DiskPlan (Except Fault Unit) := do
  match ← loadIndex with
  | .error (.storage _) => return .ok ()
  | .error fault => return .error fault
  | .ok index =>
    match index.contains fileKey with
    | .error fault => return .error fault
    | .ok false => return .ok ()
    | .ok true =>
      match dropRecord index fileKey with
      | .error fault => return .error fault
      | .ok index =>
        saveIndex index
        return .ok ()

/-- Removes the file of an outcome and then its record. -/
def removeEntry (fileKey : Text) : DiskPlan (Except Fault Unit) := do
  if ← DiskPlan.exists? (fileName fileKey) then
    match ← DiskPlan.unlink (fileName fileKey) with
    | .error _ => return .ok ()
    | .ok () => removeRecord fileKey
  else removeRecord fileKey

/-- The content of an outcome's file; one that is missing, null or not JSON is no outcome. -/
def loadEntry (fileKey : Text) : DiskPlan (Except Fault (Option Json)) := do
  match ← DiskPlan.read (fileName fileKey) with
  | .error .missing => return .ok none
  | .error e => return .error (storageFault e)
  | .ok content =>
    match Json.read content with
    | .ok .null => return .ok none
    | .ok v => return .ok (some v)
    | .error (.malformed _ _ _ _) => return .ok none
    | .error e => return .error (.badValue e.message)

/-- The live outcome under a key; an expired one is removed. -/
def get (ttl : Span) (now : Instant) (key : Text) : DiskPlan (Except Fault (Option Json)) := do
  let fileKey := fileKey key
  if ← DiskPlan.exists? (fileName fileKey) then
    match ← loadIndex with
    | .error fault => return .error fault
    | .ok index =>
      match findRecord index fileKey with
      | .error fault => return .error fault
      | .ok none => return .ok none
      | .ok (some record) =>
        match record.item "cached_at" with
        | .error fault => return .error fault
        | .ok time =>
          if isExpired ttl now time then
            match ← removeEntry fileKey with
            | .error fault => return .error fault
            | .ok () => return .ok none
          else loadEntry fileKey
  else return .ok none

/-- Stores an outcome: its file first, then its record. An index that is no object stays as it
is. -/
def add (now : Instant) (key : Text) (data : Json) (isError : Bool) : DiskPlan Entry := do
  let e := Entry.at now data isError
  match ← DiskPlan.write (fileName (fileKey key)) (entryText e) with
  | .error _ => return e
  | .ok () =>
    match ← loadIndex with
    | .error _ => return e
    | .ok index =>
      match putRecord index (fileKey key) (indexRecord key e) with
      | .error _ => return e
      | .ok index =>
        saveIndex index
        return e

def delete (key : Text) : DiskPlan (Except Fault Unit) := removeEntry (fileKey key)

/-- The file keys of the records whose time has expired. -/
def expiredKeys (ttl : Span) (now : Instant) : List (Text × Json) → Except Fault (List Text)
  | [] => .ok []
  | (fileKey, record) :: rest => do
    let time ← record.item "cached_at"
    let more ← expiredKeys ttl now rest
    return if isExpired ttl now time then fileKey :: more else more

/-- Removes outcomes one after the other. -/
def removeAll : List Text → DiskPlan (Except Fault Unit)
  | [] => return .ok ()
  | fileKey :: rest => do
    match ← removeEntry fileKey with
    | .error fault => return .error fault
    | .ok () => removeAll rest

/-- Removes every expired outcome and gives their number. -/
def cleanup (ttl : Span) (now : Instant) : DiskPlan (Except Fault Nat) := do
  match ← loadIndex with
  | .error fault => return .error fault
  | .ok (.object records) =>
    match expiredKeys ttl now records with
    | .error fault => return .error fault
    | .ok keys =>
      match ← removeAll keys with
      | .error fault => return .error fault
      | .ok () => return .ok keys.length
  | .ok index => return .error (.noAttribute index.kind "items")

/-- A name with something before the suffix. -/
def isCacheFile (name : Text) : Bool :=
  suffix.isSuffixOf name && suffix.length < name.length

/-- Removes files one after the other, up to the first that cannot be removed. -/
def unlinkAll : List Text → DiskPlan Bool
  | [] => return true
  | name :: rest => do
    match ← DiskPlan.unlink name with
    | .error _ => return false
    | .ok () => unlinkAll rest

/-- Removes every file of the cache and starts an empty index. -/
def clear : DiskPlan Unit := do
  match ← DiskPlan.names with
  | .error _ => return ()
  | .ok names =>
    if ← unlinkAll (names.filter isCacheFile) then saveIndex (.object []) else return ()

/-- Starts an empty index where there is none. -/
def prepare : DiskPlan Unit := do
  if ← DiskPlan.exists? indexName then return () else saveIndex (.object [])

end FileCache

structure FileCache where
  /-- How long an outcome is kept. -/
  ttl : Span
  disk : Disk

namespace FileCache

/-- The cache in the home of a disk, which is made where it is missing; or why it cannot be made. -/
def attach (ttl : Span) (disk : Disk) : Except StorageError Unit × FileCache :=
  match disk.make with
  | (.ok (), disk) => (.ok (), ⟨ttl, (Disk.run prepare disk).2⟩)
  | (.error e, disk) => (.error e, ⟨ttl, disk⟩)

/-- A program on the cache's folder. -/
def perform {α : Type} (c : FileCache) (p : DiskPlan α) : α × FileCache :=
  let (a, disk) := Disk.run p c.disk
  (a, { c with disk := disk })

instance : ResultCache FileCache where
  get c now key := c.perform (get c.ttl now key)
  add c now key data isError :=
    let (e, c) := c.perform (FileCache.add now key data isError)
    (.ok e.toJson, c)
  delete c key := c.perform (delete key)

end FileCache

end QueryFence
