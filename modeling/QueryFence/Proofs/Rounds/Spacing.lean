import Mathlib
import QueryFence.Proofs.Cache.Slots
import QueryFence.Proofs.Rounds.Logging
import QueryFence.Proofs.Traffic.Provenance
import QueryFence.Proofs.Traffic.Refresh

/-!
Blocks rendered one after the other on one cache. As long as an outcome is kept, no block with its query and
limit asks the search service again, whatever other blocks do meanwhile.
-/

namespace QueryFence

open QueryFence.Cycle QueryFence.Traffic

variable {σ ε : Type} [ResultCache σ] {ttl : Span} {Fits : Json → Prop}

theorem Cycle.IsLookedUp.logged {now : Instant} {key : Text} {c after : Logged σ}
    (h : IsLookedUp now key c after) : IsLookedUp now key c.cache after.cache := by
  rcases h with rfl | rfl
  · exact .inl rfl
  · exact .inr rfl

namespace SlotLaws

variable (L : SlotLaws σ ttl Fits) {now : Instant} {c after : σ} {key other : Text} {d : Deposit}

/-- A look-up leaves every slot as it is whose deposit is live. -/
theorem get_live (h : L.Keeps c key d) (hlive : d.isLive ttl now = true) (other : Text) :
    L.Keeps (ResultCache.get c now other).2 key d := by
  by_cases hslot : L.slot other = L.slot key
  · rw [L.recalls h hslot now hlive]
    exact h
  · exact L.get_keeps h hslot

theorem isLookedUp_sound (hc : L.Sound c) (h : IsLookedUp now other c after) : L.Sound after := by
  rcases h with rfl | rfl
  · exact hc
  · exact L.get_sound now other hc

theorem isLookedUp_live (hc : L.Keeps c key d) (hlive : d.isLive ttl now = true)
    (h : IsLookedUp now other c after) : L.Keeps after key d := by
  rcases h with rfl | rfl
  · exact hc
  · exact L.get_live hc hlive other

end SlotLaws

/-- A visit to a block: it is rendered at one instant, and where it comes to its search that is answered at
another. -/
structure Visit where
  source : Text
  begun : Instant
  answered : Instant

/-- A search that a visit asked for, with the block that it stands in. -/
structure Fetch where
  time : Instant
  source : Text
  query : Text
  limit : Int

/-- A visit of a clock that tells the time and does not go back. -/
structure Visit.IsTimely (v : Visit) : Prop where
  told : v.answered.IsTold
  onward : v.begun.micros ≤ v.answered.micros

/-- Every search of a service ends with results or a failure, whose data are of some kind. -/
def Service.Fetches (service : Service ε) (Fits : Json → Prop) : Prop :=
  ∀ query limit world,
    IsSearchOutcome ((service.search query limit).run service.answer world).1 ∧
      Fits (recorded ((service.search query limit).run service.answer world).1).1

namespace Visit

variable {service : Service ε} {hub : Hub} {v : Visit} {cache : σ} {world : ε}

/-- The run of a visit. -/
def run (service : Service ε) (hub : Hub) (v : Visit) (cache : σ) (world : ε) :
    BlockRun (Logged σ) (ε × List (Text × Int)) :=
  BlockRun.logged service hub v.begun v.answered v.source cache world

/-- What a visit does to the slots of a cache. -/
structure Passes (L : SlotLaws σ ttl Fits) (hub : Hub) (v : Visit) (cache : σ)
    (calls : List (Text × Int)) (after : σ) : Prop where
  sound : L.Sound after
  /-- A deposit stays that is live to the end of the visit. -/
  keeps : ∀ key d, L.Keeps cache key d → d.isLive ttl v.answered = true → L.Keeps after key d
  once : calls = [] ∨ ∃ call, calls = [call]
  /-- A visit that asks has found nothing, and leaves what it was answered unless that is over at once. -/
  asks : ∀ call ∈ calls, ∃ spec, Spec.read hub.settings v.source = .ok spec ∧
    (ResultCache.get cache v.begun spec.cacheKey).1 = .ok none ∧
    ∃ d : Deposit, d.time = v.answered ∧
      (d.isLive ttl v.answered = true → L.Keeps after spec.cacheKey d)

variable {L : SlotLaws σ ttl Fits}

theorem isLive_begun (hv : v.IsTimely) {d : Deposit} (hlive : d.isLive ttl v.answered = true) :
    d.isLive ttl v.begun = true := by
  cases hdead : d.isLive ttl v.begun with
  | true => rfl
  | false => exact (Deposit.isLive_of_le hdead hv.onward).symm.trans hlive

theorem passes_of_lookUps (L : SlotLaws σ ttl Fits) (hub : Hub) (hv : v.IsTimely) (hc : L.Sound cache)
    (key : Text) {found after : σ} (hfound : IsLookedUp v.begun key cache found)
    (hafter : IsLookedUp v.begun key found after) :
    Passes L hub v cache [] after where
  sound := L.isLookedUp_sound (L.isLookedUp_sound hc hfound) hafter
  keeps other d hd hlive := by
    have hbegun := isLive_begun hv hlive
    exact L.isLookedUp_live (L.isLookedUp_live hd hbegun hfound) hbegun hafter
  once := .inl rfl
  asks _ hcall := absurd hcall List.not_mem_nil

theorem passes_of_search (hv : v.IsTimely) (hc : L.Sound cache) {p : Pending}
    (hread : Spec.read hub.settings v.source = .ok p.spec)
    (hmissing : (ResultCache.get cache v.begun p.spec.cacheKey).1 = .ok none)
    {outcome : Except SearchFailure Json} (houtcome : IsSearchOutcome outcome)
    (hfits : Fits (recorded outcome).1) {s : Scene σ}
    (hs : s.cache = (ResultCache.get cache v.begun p.spec.cacheKey).2) (call : Text × Int) :
    Passes L hub v cache [call] ((resume hub v.answered p outcome).run.run s).2.cache := by
  have hfound := L.get_sound v.begun p.spec.cacheKey hc
  rw [← hs] at hfound
  obtain ⟨stored, hadd, hstored, hown, hothers⟩ :=
    L.add_ok p.spec.cacheKey (recorded outcome).2 hfound hv.told hfits
  have hlook := isLookedUp_resume hub houtcome (e := entryOf v.answered outcome) rfl hadd
  refine ⟨L.isLookedUp_sound hstored hlook, ?_, .inr ⟨call, rfl⟩, ?_⟩
  · intro key d hd hlive
    have hbegun := isLive_begun hv hlive
    have hslot : L.slot p.spec.cacheKey ≠ L.slot key := by
      intro hslot
      rw [L.recalls hd hslot v.begun hbegun] at hmissing
      cases hmissing
    have hkept := L.get_live hd hbegun p.spec.cacheKey
    rw [← hs] at hkept
    exact L.isLookedUp_live (hothers key d hkept hslot hlive) hlive hlook
  · intro call' _
    exact ⟨p.spec, hread, hmissing, _, rfl, fun hlive => L.isLookedUp_live hown hlive hlook⟩

theorem passes_run (hub : Hub) (hs : service.Fetches Fits) (hv : v.IsTimely) (hc : L.Sound cache)
    (world : ε) :
    Passes L hub v cache (v.run service hub cache world).world.2
      (v.run service hub cache world).scene.cache.cache := by
  obtain ⟨r, hr⟩ : ∃ r, (start hub v.begun v.source).run.run
      (⟨Display.blank, ⟨cache, []⟩⟩ : Scene (Logged σ)) = r := ⟨_, rfl⟩
  have hbegins : Begins hub v.begun v.source (⟨Display.blank, ⟨cache, []⟩⟩ : Scene (Logged σ)) r :=
    hr ▸ start_begins v.source _
  rw [run, BlockRun.logged, BlockRun.between, hr]
  cases hbegins with
  | unread hread => exact passes_of_lookUps L hub hv hc [] (.inl rfl) (.inl rfl)
  | rejected hread => exact passes_of_lookUps L hub hv hc [] (.inl rfl) (.inl rfl)
  | @broken spec fault found hread hget =>
    obtain ⟨-, rfl⟩ := Prod.mk.inj hget
    exact passes_of_lookUps L hub hv hc _ (.inr rfl) (.inl rfl)
  | @found spec record found result s hread hget hshow =>
    have hlook := isLookedUp_showStored hub v.begun spec record
      (⟨Display.blank, found⟩ : Scene (Logged σ))
    have hs : ((showStored hub v.begun spec record).run.run
      (⟨Display.blank, found⟩ : Scene (Logged σ))).2 = s := congrArg Prod.snd hshow
    rw [hs] at hlook
    obtain ⟨-, rfl⟩ := Prod.mk.inj hget
    have hpass := passes_of_lookUps L hub hv hc _ (.inr rfl) hlook.logged
    cases result with
    | error fault => exact hpass
    | ok outcome => exact hpass
  | @missed spec found hread hget =>
    obtain ⟨hmissing, rfl⟩ := Prod.mk.inj hget
    obtain ⟨houtcome, hfits⟩ := hs spec.query (effectiveLimit hub spec) world
    have hpass := passes_of_search (p := ⟨spec, effectiveLimit hub spec⟩) (s := Scene.erase
      ⟨Display.blank.put .loading loadingText, ⟨_, [.get spec.cacheKey]⟩⟩) hv hc hread hmissing houtcome
      hfits rfl (spec.query, effectiveLimit hub spec)
    rw [follows_resume] at hpass
    dsimp only
    rw [Service.run_logged]
    exact hpass

/-- The searches that visits ask for, one after the other on one cache. -/
def fetches (service : Service ε) (hub : Hub) : List Visit → σ → ε → List Fetch
  | [], _, _ => []
  | v :: rest, cache, world =>
    let run := v.run service hub cache world
    run.world.2.map (fun call => ⟨v.begun, v.source, call.1, call.2⟩) ++
      fetches service hub rest run.scene.cache.cache run.world.1

/-- While a deposit is kept and live, nothing is fetched for its key. -/
theorem not_isLive_of_mem_fetches (hs : service.Fetches Fits) {key : Text} {d : Deposit}
    {visits : List Visit} (hvisits : ∀ v ∈ visits, v.IsTimely)
    (hclock : visits.Pairwise fun v w => v.answered.micros ≤ w.begun.micros) (hc : L.Sound cache)
    (hd : L.Keeps cache key d ∨ ∀ v ∈ visits, d.isLive ttl v.begun = false) :
    ∀ f ∈ fetches service hub visits cache world, ∀ spec,
      Spec.read hub.settings f.source = .ok spec → spec.cacheKey = key →
        d.isLive ttl f.time = false := by
  induction visits generalizing cache world with
  | nil => exact fun _ hf => absurd hf List.not_mem_nil
  | cons v rest ih =>
    obtain ⟨hnext, hrest⟩ := List.pairwise_cons.1 hclock
    obtain ⟨hv, htimely⟩ := List.forall_mem_cons.1 hvisits
    have hpass := passes_run hub hs hv hc world
    intro f hf spec hread hkey
    rcases List.mem_append.1 hf with hf | hf
    · obtain ⟨call, hcall, rfl⟩ := List.mem_map.1 hf
      obtain ⟨spec', hread', hmissing, -⟩ := hpass.asks call hcall
      obtain rfl := Except.ok.inj (hread.symm.trans hread')
      rcases hd with hd | hdead
      · -- a live deposit would have been found
        subst hkey
        rw [Bool.eq_false_iff]
        intro hlive
        rw [L.recalls hd rfl v.begun hlive] at hmissing
        cases hmissing
      · exact hdead v List.mem_cons_self
    · refine ih htimely hrest hpass.sound ?_ f hf spec hread hkey
      rcases hd with hd | hdead
      · cases hlive : d.isLive ttl v.answered with
        | true => exact .inl (hpass.keeps key d hd hlive)
        | false => exact .inr fun w hw => Deposit.isLive_of_le hlive (hnext w hw)
      · exact .inr fun w hw => hdead w (List.mem_cons_of_mem v hw)

/-- Two searches are apart that stand in blocks with one query and limit. -/
def AreApart (ttl : Span) (hub : Hub) (f g : Fetch) : Prop :=
  ∀ a b, Spec.read hub.settings f.source = .ok a → Spec.read hub.settings g.source = .ok b →
    a.query = b.query → a.limit = b.limit → ttl.micros < g.time.micros - f.time.micros

theorem fetches_pairwise (L : SlotLaws σ ttl Fits) (hs : service.Fetches Fits) {visits : List Visit}
    (hvisits : ∀ v ∈ visits, v.IsTimely)
    (hclock : visits.Pairwise fun v w => v.answered.micros ≤ w.begun.micros) (hc : L.Sound cache)
    (world : ε) : (fetches service hub visits cache world).Pairwise (AreApart ttl hub) := by
  induction visits generalizing cache world with
  | nil => exact .nil
  | cons v rest ih =>
    obtain ⟨hnext, hrest⟩ := List.pairwise_cons.1 hclock
    obtain ⟨hv, htimely⟩ := List.forall_mem_cons.1 hvisits
    have hpass := passes_run hub hs hv hc world
    rw [fetches]
    refine List.pairwise_append.2 ⟨?_, ih htimely hrest hpass.sound _, ?_⟩
    · rcases hpass.once with hnone | ⟨call, hone⟩
      · rw [hnone]
        exact .nil
      · rw [hone]
        exact List.pairwise_singleton _ _
    · intro f hf g hg a b ha hb hquery hlimit
      obtain ⟨call, hcall, rfl⟩ := List.mem_map.1 hf
      obtain ⟨spec, hread, -, d, htime, hd⟩ := hpass.asks call hcall
      obtain rfl := Except.ok.inj (ha.symm.trans hread)
      have hkept : L.Keeps (v.run service hub cache world).scene.cache.cache a.cacheKey d ∨
          ∀ w ∈ rest, d.isLive ttl w.begun = false := by
        cases hlive : d.isLive ttl v.answered with
        | true => exact .inl (hd hlive)
        | false => exact .inr fun w hw => Deposit.isLive_of_le hlive (hnext w hw)
      have hdead := not_isLive_of_mem_fetches hs htimely hrest hpass.sound hkept g hg b hb
        (Spec.cacheKey_congr hquery hlimit).symm
      rw [Deposit.isLive_eq_false_iff, htime] at hdead
      have honward := hv.onward
      dsimp only
      omega

end Visit

end QueryFence
