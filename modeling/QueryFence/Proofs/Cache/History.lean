import QueryFence.Cache.Basic
import QueryFence.Proofs.Calendar.Iso

/-!
What a cache was asked to do, call by call, and the outcome that is then deposited under a key. A cache
may let a deposit go only after its time, so at any instant it finds exactly the deposits that are still
live; this is proved here for one key of any cache, from what a single call does to it.
-/

namespace QueryFence

/-- An outcome with the instant at which it was added. -/
structure Deposit where
  data : Json
  isError : Bool
  time : Instant

namespace Deposit

def entry (d : Deposit) : Entry := Entry.at d.time d.data d.isError

/-- Whether a deposit is not older than it may be. -/
def isLive (ttl : Span) (now : Instant) (d : Deposit) : Bool :=
  now.micros - d.time.micros ≤ ttl.micros

theorem isLive_eq_false_iff {ttl : Span} {now : Instant} {d : Deposit} :
    d.isLive ttl now = false ↔ ttl.micros < now.micros - d.time.micros := by
  rw [isLive, decide_eq_false_iff_not, Int.not_le]

theorem isLive_of_le {ttl : Span} {now later : Instant} {d : Deposit}
    (h : d.isLive ttl now = false) (hle : now.micros ≤ later.micros) :
    d.isLive ttl later = false := by
  rw [isLive_eq_false_iff] at h ⊢
  omega

end Deposit

/-- The calls of a cache. -/
inductive CacheCall
  | add (key : Text) (data : Json) (isError : Bool)
  | get (key : Text)
  | getTime (key : Text)
  | delete (key : Text)
  | cleanup
  | clear
  /-- The cache is closed and opened again with the same span. -/
  | reopen

namespace CacheCall

/-- The keys that a call names. -/
def keys : CacheCall → List Text
  | .add key _ _ | .get key | .getTime key | .delete key => [key]
  | .cleanup | .clear | .reopen => []

/-- What a call makes of the deposit under a key. -/
def effect (key : Text) (now : Instant) (before : Option Deposit) : CacheCall → Option Deposit
  | .add other data isError => if other = key then some ⟨data, isError, now⟩ else before
  | .delete other => if other = key then none else before
  | .clear => none
  | .get _ | .getTime _ | .cleanup | .reopen => before

/-- A call decides what is deposited under a key, or leaves it. -/
theorem effect_const_or_id (key : Text) (now : Instant) (call : CacheCall) :
    (∀ d d', call.effect key now d = call.effect key now d') ∨
      ∀ d, call.effect key now d = d := by
  cases call with
  | add other data isError =>
    by_cases h : other = key
    · exact .inl fun d d' => by rw [effect, effect, if_pos h, if_pos h]
    · exact .inr fun d => by rw [effect, if_neg h]
  | delete other =>
    by_cases h : other = key
    · exact .inl fun d d' => by rw [effect, effect, if_pos h, if_pos h]
    · exact .inr fun d => by rw [effect, if_neg h]
  | clear => exact .inl fun d d' => rfl
  | get _ => exact .inr fun d => rfl
  | getTime _ => exact .inr fun d => rfl
  | cleanup => exact .inr fun d => rfl
  | reopen => exact .inr fun d => rfl

end CacheCall

/-- Calls, each with its instant. -/
abbrev CacheHistory := List (Instant × CacheCall)

namespace CacheHistory

/-- What calls make of the deposit under a key. -/
def depositFrom (key : Text) (before : Option Deposit) (calls : CacheHistory) : Option Deposit :=
  calls.foldl (fun d call => call.2.effect key call.1 d) before

/-- The outcome that was last added under a key, unless the key was deleted or everything was cleared
since. -/
def deposit? (key : Text) (calls : CacheHistory) : Option Deposit := depositFrom key none calls

/-- The deposit under a key while it is live. -/
def live? (ttl : Span) (key : Text) (now : Instant) (calls : CacheHistory) : Option Deposit :=
  (calls.deposit? key).filter (·.isLive ttl now)

end CacheHistory

/-- What a cache does besides what cycles need. -/
class CacheUpkeep (σ : Type) where
  cleanup : σ → Instant → σ
  clear : σ → σ
  reopen : σ → σ

/-- The cache after a call. -/
def CacheCall.carryOut {σ : Type} [ResultCache σ] [CacheUpkeep σ] (c : σ) (now : Instant) :
    CacheCall → σ
  | .add key data isError => (ResultCache.add c now key data isError).2
  | .get key => (ResultCache.get c now key).2
  | .getTime key => (ResultCache.getTime c now key).2
  | .delete key => (ResultCache.delete c key).2
  | .cleanup => CacheUpkeep.cleanup c now
  | .clear => CacheUpkeep.clear c
  | .reopen => CacheUpkeep.reopen c

/-- The cache after calls, one after the other. -/
def CacheHistory.carryOut {σ : Type} [ResultCache σ] [CacheUpkeep σ] (c : σ)
    (calls : CacheHistory) : σ :=
  calls.foldl (fun c call => call.2.carryOut c call.1) c

/-- The time that is shown for a deposit, if there is one. -/
def Deposit.shownTime (d : Option Deposit) : Text :=
  match d with
  | some d => d.time.shownText
  | none => missingTime

section Times

variable {σ : Type} [ResultCache σ]

theorem ResultCache.getTime_snd (c : σ) (now : Instant) (key : Text) :
    (ResultCache.getTime c now key).2 = (ResultCache.get c now key).2 := by
  rw [ResultCache.getTime]
  split <;> next h => rw [h]

theorem Deposit.shownTime_toJson {d : Deposit} (h : d.time.IsTold) :
    QueryFence.shownTime d.entry.toJson = .ok d.time.shownText := by
  have hitem : d.entry.toJson.item "time" = .ok (.text d.time.isoText) := rfl
  simp only [QueryFence.shownTime, hitem, bind, Except.bind, Iso.read_isoText h]
  rfl

theorem ResultCache.getTime_fst {c : σ} {now : Instant} {key : Text} {d : Option Deposit}
    (h : (ResultCache.get c now key).1 = .ok (d.map (·.entry.toJson)))
    (hd : ∀ e ∈ d, e.time.IsTold) :
    (ResultCache.getTime c now key).1 = .ok (Deposit.shownTime d) := by
  obtain ⟨after, hget⟩ : ∃ after, ResultCache.get c now key =
    (.ok (d.map (·.entry.toJson)), after) := ⟨_, Prod.ext h rfl⟩
  rw [ResultCache.getTime, hget]
  cases d with
  | none => rfl
  | some d => exact Deposit.shownTime_toJson (hd d rfl)

end Times

section Holding

variable {ttl : Span} {Holds After : Option Deposit → Prop} {now later : Instant} {d : Option Deposit}

/-- A deposit is held, or was let go after its time. -/
def HoldsLive (ttl : Span) (Holds : Option Deposit → Prop) (now : Instant) (d : Option Deposit) :
    Prop :=
  Holds d ∨ (Holds none ∧ ∃ e, d = some e ∧ e.isLive ttl now = false)

theorem HoldsLive.of_le (h : HoldsLive ttl Holds now d) (hle : now.micros ≤ later.micros) :
    HoldsLive ttl Holds later d := by
  rcases h with h | ⟨h, e, he, hexp⟩
  · exact .inl h
  · exact .inr ⟨h, e, he, Deposit.isLive_of_le hexp hle⟩

theorem HoldsLive.imp (h : HoldsLive ttl Holds now d) (himp : ∀ d, Holds d → After d) :
    HoldsLive ttl After now d := by
  rcases h with h | ⟨h, hexp⟩
  · exact .inl (himp d h)
  · exact .inr ⟨himp none h, hexp⟩

/-- Who holds just what is live has let go what is not. -/
theorem HoldsLive.of_filter (h : Holds (d.filter (·.isLive ttl now))) :
    HoldsLive ttl Holds now d := by
  cases d with
  | none => exact .inl h
  | some e =>
    rw [Option.filter_some] at h
    cases hlive : e.isLive ttl now with
    | true =>
      rw [hlive] at h
      exact .inl h
    | false =>
      rw [hlive] at h
      exact .inr ⟨h, e, rfl, hlive⟩

theorem HoldsLive.exists_holds (h : HoldsLive ttl Holds now d) :
    ∃ held, Holds held ∧ held.filter (·.isLive ttl now) = d.filter (·.isLive ttl now) := by
  rcases h with h | ⟨h, e, rfl, hexp⟩
  · exact ⟨d, h, rfl⟩
  · refine ⟨none, h, ?_⟩
    rw [Option.filter_some, hexp]
    rfl

/-- A call keeps in step with the deposits whoever does so while nothing was let go. -/
theorem HoldsLive.effect {key : Text} {call : CacheCall} (h : HoldsLive ttl Holds now d)
    (step : ∀ d, Holds d → HoldsLive ttl After now (call.effect key now d)) :
    HoldsLive ttl After now (call.effect key now d) := by
  rcases h with h | ⟨h, e, rfl, hexp⟩
  · exact step d h
  · have hnone := step none h
    rcases call.effect_const_or_id key now with hconst | hid
    · rw [hconst (some e) none]
      exact hnone
    · rw [hid] at hnone ⊢
      rcases hnone with hnone | ⟨-, e', he', -⟩
      · exact .inr ⟨hnone, e, rfl, hexp⟩
      · cases he'

/-- A cache that keeps in step at every call keeps in step with all of them, while the clock does not
go back. -/
theorem CacheHistory.carryOut_holdsLive {σ : Type} [ResultCache σ] [CacheUpkeep σ]
    {P : σ → Option Deposit → Prop} {key : Text} {calls : CacheHistory}
    (step : ∀ call ∈ calls, ∀ c d, P c d →
      HoldsLive ttl (P (call.2.carryOut c call.1)) call.1 (call.2.effect key call.1 d))
    (hclock : (calls.map Prod.fst ++ [now]).Pairwise (·.micros ≤ ·.micros)) {c : σ}
    (h : ∀ t ∈ calls.map Prod.fst ++ [now], HoldsLive ttl (P c) t d) :
    HoldsLive ttl (P (calls.carryOut c)) now (calls.depositFrom key d) := by
  induction calls generalizing c d with
  | nil => exact h now List.mem_cons_self
  | cons call calls ih =>
    obtain ⟨hfirst, hrest⟩ := List.pairwise_cons.1 hclock
    have hnow := (h call.1 List.mem_cons_self).effect (step call List.mem_cons_self c)
    apply ih (fun other hm => step other (List.mem_cons_of_mem call hm)) hrest
    intro t ht
    exact hnow.of_le (hfirst t ht)

end Holding

end QueryFence
