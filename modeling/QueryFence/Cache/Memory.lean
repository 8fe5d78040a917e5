import QueryFence.Assoc
import QueryFence.Cache.Basic

/-!
The cache in memory. Storing an outcome first drops all that have expired.
-/

namespace QueryFence

structure MemoryCache where
  /-- How long an outcome is kept. -/
  ttl : Span
  entries : List (Text × Entry)

namespace MemoryCache

def empty (ttl : Span) : MemoryCache := ⟨ttl, []⟩

def size (c : MemoryCache) : Nat := c.entries.length

def find? (c : MemoryCache) (key : Text) : Option Entry := c.entries.lookup key

/-- Whether an entry is older than the cache keeps it. A time with an offset cannot be compared. -/
def isExpired (c : MemoryCache) (now : Instant) (e : Entry) : Except Fault Bool :=
  match Iso.read e.time with
  | none => .error (.badValue "Invalid isoformat string")
  | some ⟨instant, hasOffset⟩ =>
    if hasOffset then
      .error (.wrongKind "can't subtract offset-naive and offset-aware datetimes")
    else .ok (c.ttl.micros < now.micros - instant.micros)

def erase (c : MemoryCache) (key : Text) : MemoryCache :=
  { c with entries := Assoc.erase key c.entries }

/-- The live entry under a key; an expired one is dropped. -/
def get (c : MemoryCache) (now : Instant) (key : Text) : Except Fault (Option Entry) × MemoryCache :=
  match c.find? key with
  | none => (.ok none, c)
  | some e =>
    match c.isExpired now e with
    | .error fault => (.error fault, c)
    | .ok true => (.ok none, c.erase key)
    | .ok false => (.ok (some e), c)

/-- The entries that are kept, if the time of each can be told. -/
def liveEntries (c : MemoryCache) (now : Instant) :
    List (Text × Entry) → Except Fault (List (Text × Entry))
  | [] => .ok []
  | (key, e) :: rest =>
    match c.isExpired now e with
    | .error fault => .error fault
    | .ok expired =>
      match c.liveEntries now rest with
      | .error fault => .error fault
      | .ok live => .ok (if expired then live else (key, e) :: live)

/-- Drops every expired entry and gives their number. -/
def cleanup (c : MemoryCache) (now : Instant) : Except Fault Nat × MemoryCache :=
  match c.liveEntries now c.entries with
  | .error fault => (.error fault, c)
  | .ok live => (.ok (c.size - live.length), { c with entries := live })

def add (c : MemoryCache) (now : Instant) (key : Text) (data : Json) (isError : Bool) :
    Except Fault Entry × MemoryCache :=
  match c.cleanup now with
  | (.error fault, c) => (.error fault, c)
  | (.ok _, c) =>
    let e := Entry.at now data isError
    (.ok e, { c with entries := Assoc.put key e c.entries })

def clear (c : MemoryCache) : MemoryCache := { c with entries := [] }

/-- Overwrites the time of the entry under a key. -/
def setTime (c : MemoryCache) (key time : Text) : Except Fault MemoryCache :=
  match c.find? key with
  | none => .error (.missingKey key)
  | some e => .ok { c with entries := Assoc.put key { e with time := time } c.entries }

instance : ResultCache MemoryCache where
  get c now key :=
    match c.get now key with
    | (.ok found, c) => (.ok (found.map Entry.toJson), c)
    | (.error fault, c) => (.error fault, c)
  add c now key data isError :=
    match c.add now key data isError with
    | (.ok e, c) => (.ok e.toJson, c)
    | (.error fault, c) => (.error fault, c)
  delete c key := (.ok (), c.erase key)

end MemoryCache

end QueryFence
