import Mathlib
import QueryFence.Proofs.Jira.Discovery
import QueryFence.Proofs.Tools.Entry

/-!
The hub that calls of the tools share, when they overlap. Between looking for a hub and putting one in its
place a call waits for the service; another one that comes in between finds none either, loads the custom
fields as well and makes a hub of its own. The tools share one hub just where no two calls do so.
-/

namespace QueryFence

namespace Entries

/-- How a server changes with a call that comes to a stage. -/
inductive Moves (t : Entries) : EntryStage → Entries → Prop
  | waits {stage : EntryStage} (h : stage.isLoading = true) : Moves t stage t
  | joins {number : Nat} (h : number < t.hubs.length) : Moves t (.joined number) t
  | loses {stage : EntryStage} {server : ToolServer} (h : stage.IsLost)
      (hshared : server.shared = t.server.shared) : Moves t stage { t with server := server }
  | makes (found : Option FieldTable) {server : ToolServer} {shared : SharedHub}
      (hshared : server.shared = some shared) : Moves t (.made found t.hubs.length)
        { t with server := server, hubs := t.hubs ++ [shared] }

section Moves

variable {t after : Entries} {stage : EntryStage} {number : Nat}

/-- Making the hub of a server changes the folder of its cache, and puts the hub in its place if there is
one. -/
theorem install_cases (server : ToolServer) (settings : Settings) : ∃ disk,
    (∃ failure, server.install settings = (.error failure, { server with disk := disk })) ∨
      ∃ shared, server.install settings =
        (.ok shared, { server with disk := disk, shared := some shared }) := by
  rw [ToolServer.install]
  cases Span.ofHours (.float settings.cacheHours) with
  | error fault => exact ⟨server.disk, .inl ⟨_, rfl⟩⟩
  | ok ttl =>
    dsimp only
    rcases FileCache.attach ttl server.disk with ⟨_ | _, cache⟩
    · exact ⟨cache.disk, .inl ⟨_, rfl⟩⟩
    · dsimp only
      cases Hub.of settings with
      | error failure => exact ⟨cache.disk, .inl ⟨_, rfl⟩⟩
      | ok hub => exact ⟨cache.disk, .inr ⟨_, rfl⟩⟩

theorem moves_finish (t : Entries) (result : Except SearchFailure (Option FieldTable)) :
    Moves t (t.finish result).1 (t.finish result).2 := by
  cases result with
  | error failure => exact .loses (.inr ⟨_, rfl⟩) rfl
  | ok found =>
    rw [finish]
    obtain ⟨disk, ⟨failure, hinstall⟩ | ⟨shared, hinstall⟩⟩ :=
      install_cases t.server (Jira.complete t.server.settings found)
    · rw [hinstall]
      exact .loses (.inl ⟨found, failure, rfl⟩) rfl
    · rw [hinstall]
      exact .makes found rfl

theorem moves_advance (t : Entries) (plan : Jira.ClientPlan (Option FieldTable)) :
    Moves t (t.advance plan).1 (t.advance plan).2 := by
  cases plan with
  | ask question next => exact .waits rfl
  | done result => exact moves_finish t result

theorem Moves.hubs_le (h : Moves t stage after) : t.hubs.length ≤ after.hubs.length := by
  cases h with
  | waits | joins | loses => exact Nat.le_refl _
  | makes =>
    rw [List.length_append]
    exact Nat.le_add_right _ _

theorem Moves.shared (h : Moves t stage after) (hshared : t.server.shared = t.hubs.getLast?) :
    after.server.shared = after.hubs.getLast? := by
  cases h with
  | waits | joins => exact hshared
  | loses _ hkept => exact hkept.trans hshared
  | makes _ hmade => exact hmade.trans List.getLast?_concat.symm

theorem Moves.number_lt (h : Moves t stage after) (hn : stage.hub? = some number) :
    number < after.hubs.length := by
  cases h with
  | waits hloading => cases stage <;> cases hn <;> cases hloading
  | joins hin =>
    cases hn
    exact hin
  | loses hlost _ => rcases hlost with ⟨_, _, rfl⟩ | ⟨_, rfl⟩ <;> cases hn
  | makes =>
    cases hn
    rw [List.length_append]
    exact Nat.lt_succ_self _

/-- Only a call that makes a hub adds one, and its number is new. -/
theorem Moves.made_iff (h : Moves t stage after) :
    stage.Made number ↔ number = t.hubs.length ∧ number < after.hubs.length := by
  cases h with
  | waits hloading =>
    refine iff_of_false ?_ fun hn => absurd hn.2 (hn.1 ▸ Nat.lt_irrefl _)
    rintro ⟨_, rfl⟩
    cases hloading
  | joins =>
    refine iff_of_false ?_ fun hn => absurd hn.2 (hn.1 ▸ Nat.lt_irrefl _)
    rintro ⟨_, ⟨⟩⟩
  | loses hlost _ =>
    refine iff_of_false ?_ fun hn => absurd hn.2 (hn.1 ▸ Nat.lt_irrefl _)
    rintro ⟨_, rfl⟩
    rcases hlost with ⟨_, _, hsame⟩ | ⟨_, hsame⟩ <;> cases hsame
  | makes found =>
    rw [List.length_append]
    constructor
    · rintro ⟨_, ⟨⟩⟩
      exact ⟨rfl, Nat.lt_succ_self _⟩
    · rintro ⟨rfl, -⟩
      exact ⟨found, rfl⟩

theorem Moves.lt_or_made (h : Moves t stage after) (hn : number < after.hubs.length) :
    number < t.hubs.length ∨ stage.Made number := by
  cases h with
  | waits | joins | loses => exact .inl hn
  | makes found =>
    rw [List.length_append, List.length_singleton] at hn
    rcases Nat.lt_succ_iff_lt_or_eq.1 hn with hold | rfl
    · exact .inl hold
    · exact .inr ⟨found, rfl⟩

end Moves

/-- What holds of the calls of a server, whenever they come and are answered. -/
structure IsOrderly (t : Entries) : Prop where
  /-- A call that comes gets the hub that was made last. -/
  shared : t.server.shared = t.hubs.getLast?
  met_lt : ∀ {j : Nat} {b : EntryCall}, t.calls[j]? = some b → ∀ i ∈ b.met, i < j
  /-- Before a call that found no hub, there were just such that were still loading or have ended
  without one. -/
  met_or_lost : ∀ {i j : Nat} {a b : EntryCall}, i < j → t.calls[i]? = some a → t.calls[j]? = some b →
    b.stage.CameFirst → i ∈ b.met ∨ a.stage.IsLost
  number_lt : ∀ {i n : Nat} {a : EntryCall}, t.calls[i]? = some a → a.stage.hub? = some n →
    n < t.hubs.length
  /-- Every hub was made by one call. -/
  maker : ∀ {n : Nat}, n < t.hubs.length →
    ∃ (i : Nat) (a : EntryCall), t.calls[i]? = some a ∧ a.stage.Made n
  made_unique : ∀ {i j n : Nat} {a b : EntryCall}, t.calls[i]? = some a → t.calls[j]? = some b →
    a.stage.Made n → b.stage.Made n → i = j

theorem isOrderly_fresh (settings : Settings) : IsOrderly (fresh settings) where
  shared := rfl
  met_lt h := nomatch h
  met_or_lost _ h := nomatch h
  number_lt h := nomatch h
  maker h := absurd h (Nat.not_lt_zero _)
  made_unique h := nomatch h

section Orderly

variable {t after : Entries} {calls : List EntryCall} {i : Nat} {c : EntryCall}

theorem not_isLost_of_isLoading {stage : EntryStage} (h : stage.isLoading = true) : ¬ stage.IsLost := by
  rintro (⟨_, _, rfl⟩ | ⟨_, rfl⟩) <;> cases h

theorem hub?_of_made {stage : EntryStage} {n : Nat} (h : stage.Made n) : stage.hub? = some n := by
  obtain ⟨_, rfl⟩ := h
  rfl

/-- A call that has come, or that has gone on loading, leaves the calls in order. -/
theorem IsOrderly.put (h : t.IsOrderly) (hmoves : Moves t c.stage after)
    (hcalls : ∀ k, calls[k]? = if k = i then some c else t.calls[k]?)
    (hfree : ∀ a, t.calls[i]? = some a → a.stage.isLoading = true)
    (hmet : ∀ k ∈ c.met, k < i)
    (hbefore : c.stage.CameFirst → ∀ k a, k < i → t.calls[k]? = some a → k ∈ c.met ∨ a.stage.IsLost) :
    IsOrderly { after with calls := calls } := by
  have hself : calls[i]? = some c := by rw [hcalls, if_pos rfl]
  have hother : ∀ {k : Nat}, k ≠ i → calls[k]? = t.calls[k]? := fun hk => by rw [hcalls, if_neg hk]
  refine ⟨hmoves.shared h.shared, ?_, ?_, ?_, ?_, ?_⟩
  · intro j b hj
    by_cases hji : j = i
    · subst hji
      cases hself.symm.trans hj
      exact hmet
    · exact h.met_lt ((hother hji).symm.trans hj)
  · intro k j a b hkj hk hj hfirst
    by_cases hji : j = i
    · subst hji
      cases hself.symm.trans hj
      exact hbefore hfirst k a hkj ((hother (Nat.ne_of_lt hkj)).symm.trans hk)
    · have hold := (hother hji).symm.trans hj
      by_cases hki : k = i
      · -- the call was loading before, so it was met by every later one that found no hub
        subst hki
        obtain ⟨a', ha'⟩ : ∃ a', t.calls[k]? = some a' :=
          ⟨_, List.getElem?_eq_getElem (Nat.lt_trans hkj (List.getElem?_eq_some_iff.1 hold).1)⟩
        have hwas := h.met_or_lost hkj ha' hold hfirst
        exact .inl (hwas.resolve_right (not_isLost_of_isLoading (hfree a' ha')))
      · exact h.met_or_lost hkj ((hother hki).symm.trans hk) hold hfirst
  · intro k n a hk hn
    by_cases hki : k = i
    · subst hki
      cases hself.symm.trans hk
      exact hmoves.number_lt hn
    · exact Nat.lt_of_lt_of_le (h.number_lt ((hother hki).symm.trans hk) hn) hmoves.hubs_le
  · intro n hn
    rcases hmoves.lt_or_made hn with hold | hmade
    · obtain ⟨k, a, hk, ha⟩ := h.maker hold
      have hki : k ≠ i := by
        rintro rfl
        obtain ⟨_, hmade⟩ := ha
        have hloading := hfree a hk
        rw [hmade] at hloading
        cases hloading
      exact ⟨k, a, (hother hki).trans hk, ha⟩
    · exact ⟨i, c, hself, hmade⟩
  · -- a hub that is made now has a number that no other call has
    have hnew : ∀ {k n : Nat} {a : EntryCall}, k ≠ i → calls[k]? = some a → a.stage.Made n →
        ¬ c.stage.Made n := by
      intro k n a hki hk ha hmade
      have hold := h.number_lt ((hother hki).symm.trans hk) (hub?_of_made ha)
      exact absurd hold ((hmoves.made_iff.1 hmade).1 ▸ Nat.lt_irrefl _)
    intro k j n a b hk hj ha hb
    by_cases hki : k = i
    · by_cases hji : j = i
      · exact hki.trans hji.symm
      · subst hki
        cases hself.symm.trans hk
        exact absurd ha (hnew hji hj hb)
    · by_cases hji : j = i
      · subst hji
        cases hself.symm.trans hj
        exact absurd hb (hnew hki hk ha)
      · exact h.made_unique ((hother hki).symm.trans hk) ((hother hji).symm.trans hj) ha hb

theorem getElem?_push (calls : List EntryCall) (c : EntryCall) (k : Nat) :
    (calls ++ [c])[k]? = if k = calls.length then some c else calls[k]? := by
  rcases Nat.lt_trichotomy k calls.length with hlt | rfl | hgt
  · rw [if_neg (Nat.ne_of_lt hlt), List.getElem?_append_left hlt]
  · rw [if_pos rfl, List.getElem?_concat_length]
  · have hout : (calls ++ [c]).length ≤ k := by
      rw [List.length_append]
      exact hgt
    rw [if_neg (Nat.ne_of_gt hgt), List.getElem?_eq_none hout, List.getElem?_eq_none (Nat.le_of_lt hgt)]

theorem lt_of_mem_waiting {k : Nat} (h : k ∈ t.waiting) : k < t.calls.length := by
  obtain ⟨a, ha, -⟩ := mem_waiting_iff.1 h
  exact (List.getElem?_eq_some_iff.1 ha).1

/-- Without a hub every call is still loading, or has ended without one. -/
theorem IsOrderly.mem_waiting_or_lost (h : t.IsOrderly) (hempty : t.hubs = []) {k : Nat}
    {a : EntryCall} (hk : t.calls[k]? = some a) : k ∈ t.waiting ∨ a.stage.IsLost := by
  cases hstage : a.stage with
  | loading question next => exact .inl (mem_waiting_iff.2 ⟨a, hk, by rw [hstage]; rfl⟩)
  | joined number | made found number =>
    have hin := h.number_lt hk (by rw [hstage]; rfl)
    rw [hempty] at hin
    exact absurd hin (Nat.not_lt_zero _)
  | refused found failure => exact .inr (.inl ⟨found, failure, rfl⟩)
  | failed failure => exact .inr (.inr ⟨failure, rfl⟩)

theorem IsOrderly.step (h : t.IsOrderly) (event : EntryEvent) : (t.step event).IsOrderly := by
  have hnone : ∀ {a : EntryCall}, t.calls[t.calls.length]? ≠ some a := fun ha =>
    absurd (List.getElem?_eq_some_iff.1 ha).1 (Nat.lt_irrefl _)
  cases event with
  | call =>
    rw [Entries.step]
    cases hshared : t.server.shared with
    | some shared =>
      have hlast : t.hubs.getLast? = some shared := h.shared.symm.trans hshared
      have hpos : 0 < t.hubs.length := by
        cases hhubs : t.hubs with
        | nil =>
          rw [hhubs] at hlast
          cases hlast
        | cons => exact Nat.succ_pos _
      have hmoves : Moves t (.joined (t.hubs.length - 1)) t := .joins (by omega)
      exact h.put (c := ⟨t.waiting, .joined (t.hubs.length - 1)⟩) hmoves (getElem?_push _ _)
        (fun a ha => absurd ha hnone) (fun _ => lt_of_mem_waiting) fun hfirst => absurd rfl (hfirst _)
    | none =>
      have hempty : t.hubs = [] := List.getLast?_eq_none_iff.1 (h.shared.symm.trans hshared)
      exact h.put (c := ⟨t.waiting, (t.advance (Jira.discover t.server.settings)).1⟩)
        (moves_advance t _) (getElem?_push _ _) (fun a ha => absurd ha hnone)
        (fun _ => lt_of_mem_waiting) fun _ k a _ hk => h.mem_waiting_or_lost hempty hk
  | reply index replies =>
    rw [Entries.step]
    split
    · next met question next hcall =>
      have hin := (List.getElem?_eq_some_iff.1 hcall).1
      refine h.put (c := ⟨met, (t.advance (next (replies question))).1⟩) (moves_advance t _) ?_ ?_
        (fun k hk => h.met_lt hcall k hk) ?_
      · intro k
        by_cases hk : k = index
        · rw [if_pos hk, hk]
          exact List.getElem?_set_self hin
        · rw [if_neg hk]
          exact List.getElem?_set_ne (Ne.symm hk)
      · intro a ha
        cases hcall.symm.trans ha
        rfl
      · intro _ k a hk ha
        have hfirst : (EntryStage.loading question next).CameFirst := by rintro _ ⟨⟩
        exact h.met_or_lost (b := ⟨met, .loading question next⟩) hk ha hcall hfirst
    · exact h
  | work disk => exact ⟨h.shared, h.met_lt, h.met_or_lost, h.number_lt, h.maker, h.made_unique⟩

theorem isOrderly_run (settings : Settings) (events : List EntryEvent) :
    ((fresh settings).run events).IsOrderly := by
  induction events using List.reverseRecOn with
  | nil => exact isOrderly_fresh settings
  | append_singleton events event ih =>
    rw [run_append]
    exact ih.step event

end Orderly

/-- The tools share one hub: no second one is made, no second call has loaded the custom fields, and all
calls go on with the same. -/
structure IsShared (t : Entries) : Prop where
  hub : t.hubs.length ≤ 1
  load : ∀ {i j : Nat} {a b : EntryCall}, t.calls[i]? = some a → t.calls[j]? = some b →
    a.stage.HasLoaded → b.stage.HasLoaded → i = j
  use : ∀ a ∈ t.calls, ∀ b ∈ t.calls, ∀ m ∈ a.stage.hub?, ∀ n ∈ b.stage.hub?, m = n

/-- Two calls of which neither could know of the other. -/
inductive Collides (t : Entries) : Prop
  /-- Both made a hub, and the later one came while the earlier one was loading. -/
  | hubs {i j m n : Nat} {a b : EntryCall} (hi : t.calls[i]? = some a) (hj : t.calls[j]? = some b)
      (hmet : i ∈ b.met) (ha : a.stage.Made m) (hb : b.stage.Made n)
  /-- Both have loaded the fields, and the later one came while the earlier one was loading, or after what
  the earlier one had found was refused. -/
  | loads {i j : Nat} {a b : EntryCall} (hi : t.calls[i]? = some a) (hj : t.calls[j]? = some b)
      (hmet : i ∈ b.met ∨ i < j ∧ a.stage.IsRefused) (ha : a.stage.HasLoaded) (hb : b.stage.HasLoaded)

section Shared

variable {t : Entries} {i j m n : Nat} {a b : EntryCall}

theorem IsOrderly.collides_of_made (h : t.IsOrderly) (hij : i < j) (hi : t.calls[i]? = some a)
    (hj : t.calls[j]? = some b) (ha : a.stage.Made m) (hb : b.stage.Made n) : t.Collides := by
  have hfirst : b.stage.CameFirst := by
    obtain ⟨_, hstage⟩ := hb
    rw [hstage]
    rintro _ ⟨⟩
  have hkept : ¬ a.stage.IsLost := by
    obtain ⟨_, hstage⟩ := ha
    rw [hstage]
    rintro (⟨_, _, hsame⟩ | ⟨_, hsame⟩) <;> cases hsame
  exact .hubs hi hj ((h.met_or_lost hij hi hj hfirst).resolve_right hkept) ha hb

theorem IsOrderly.collides_of_hasLoaded (h : t.IsOrderly) (hij : i < j) (hi : t.calls[i]? = some a)
    (hj : t.calls[j]? = some b) (ha : a.stage.HasLoaded) (hb : b.stage.HasLoaded) : t.Collides := by
  have hfirst : b.stage.CameFirst := by
    obtain ⟨_, ⟨_, hstage⟩ | ⟨_, hstage⟩⟩ := hb
    all_goals
      rw [hstage]
      rintro _ ⟨⟩
  refine .loads hi hj ((h.met_or_lost hij hi hj hfirst).imp_right fun hlost => ⟨hij, ?_⟩) ha hb
  refine hlost.resolve_right fun ⟨_, hfailed⟩ => ?_
  obtain ⟨_, ⟨_, hstage⟩ | ⟨_, hstage⟩⟩ := ha <;> cases hfailed.symm.trans hstage

theorem IsOrderly.isShared_iff (h : t.IsOrderly) : t.IsShared ↔ ¬ t.Collides := by
  constructor
  · rintro ⟨hhub, hload, -⟩ (⟨hi, hj, hmet, ha, hb⟩ | ⟨hi, hj, hmet, ha, hb⟩)
    · -- of one hub at most, both numbers are zero
      have hm := h.number_lt hi (hub?_of_made ha)
      have hn := h.number_lt hj (hub?_of_made hb)
      have hsame := Nat.lt_one_iff.1 (Nat.lt_of_lt_of_le hm hhub)
      have hsame' := Nat.lt_one_iff.1 (Nat.lt_of_lt_of_le hn hhub)
      subst hsame hsame'
      exact absurd (h.met_lt hj _ hmet) (h.made_unique hi hj ha hb ▸ Nat.lt_irrefl _)
    · have hij : _ < _ := hmet.elim (h.met_lt hj _) And.left
      exact absurd hij (hload hi hj ha hb ▸ Nat.lt_irrefl _)
  · intro hnone
    have hhub : t.hubs.length ≤ 1 := by
      by_contra hmore
      obtain ⟨i, a, hi, ha⟩ := h.maker (n := 0) (by omega)
      obtain ⟨j, b, hj, hb⟩ := h.maker (n := 1) (by omega)
      rcases Nat.lt_trichotomy i j with hij | rfl | hji
      · exact hnone (h.collides_of_made hij hi hj ha hb)
      · cases hi.symm.trans hj
        exact absurd (Option.some.inj ((hub?_of_made ha).symm.trans (hub?_of_made hb))) (by decide)
      · exact hnone (h.collides_of_made hji hj hi hb ha)
    refine ⟨hhub, fun {i j a b} hi hj ha hb => ?_, ?_⟩
    · rcases Nat.lt_trichotomy i j with hij | hsame | hji
      · exact absurd (h.collides_of_hasLoaded hij hi hj ha hb) hnone
      · exact hsame
      · exact absurd (h.collides_of_hasLoaded hji hj hi hb ha) hnone
    · intro a ha b hb m hm n hn
      obtain ⟨i, hi⟩ := List.getElem?_of_mem ha
      obtain ⟨j, hj⟩ := List.getElem?_of_mem hb
      have hm0 := h.number_lt hi hm
      have hn0 := h.number_lt hj hn
      omega

/-- Calls that come one after the other share a hub, as long as none of them is refused one. -/
theorem IsOrderly.isShared_of_apart (h : t.IsOrderly) (happart : ∀ a ∈ t.calls, a.met = [])
    (hkept : ∀ a ∈ t.calls, ¬ a.stage.IsRefused) : t.IsShared := by
  have hmet : ∀ {i j : Nat} {b : EntryCall}, t.calls[j]? = some b → i ∉ b.met := by
    intro i j b hj hin
    rw [happart b (List.mem_of_getElem? hj)] at hin
    exact absurd hin List.not_mem_nil
  refine h.isShared_iff.2 ?_
  rintro (⟨-, hj, hin, -, -⟩ | ⟨hi, hj, hin | ⟨-, hrefused⟩, -, -⟩)
  · exact hmet hj hin
  · exact hmet hj hin
  · exact hkept _ (List.mem_of_getElem? hi) hrefused

end Shared

section TwoHubs

variable {ε : Type} {answer : (q : Jira.Action) → ε → q.Reply × ε} {world : ε} {settings : Settings}
  {found : Option FieldTable}

/-- Where the service has to be asked for the fields and hubs can be made, two first calls make two: the
second one comes before the first one is answered. -/
theorem exists_two_hubs {question : Jira.Action}
    {next : question.Reply → Jira.ClientPlan (Option FieldTable)}
    (hask : Jira.discover settings = .ask question next)
    (hfound : ((Jira.discover settings).run answer world).1 = .ok found)
    {server after : ToolServer} {first second : SharedHub}
    (hfirst : (ToolServer.fresh settings).install (Jira.complete settings found) = (.ok first, server))
    (hsecond : server.install (Jira.complete settings found) = (.ok second, after)) :
    ∃ events, ((fresh settings).run events).calls = [⟨[], .made found 0⟩, ⟨[0], .made found 1⟩] ∧
      ((fresh settings).run events).hubs = [first, second] := by
  rw [hask] at hfound
  have hcalls : (fresh settings).run [.call, .call] = ⟨ToolServer.fresh settings,
      [⟨[], .loading question next⟩, ⟨[0], .loading question next⟩], []⟩ := by
    simp only [run, List.foldl_cons, List.foldl_nil, step, fresh, ToolServer.fresh, hask, advance]
    rfl
  obtain ⟨earlier, hearlier⟩ : ∃ events, (fresh settings).run ([.call, .call] ++ events) = ⟨server,
      [⟨[], .made found 0⟩, ⟨[0], .loading question next⟩], [first]⟩ := by
    have hwaits : (⟨ToolServer.fresh settings, [⟨[], .loading question next⟩,
        ⟨[0], .loading question next⟩], []⟩ : Entries).calls[0]? = some ⟨[], .loading question next⟩ := rfl
    obtain ⟨events, hrun⟩ := exists_run_of_loading answer world hwaits
    refine ⟨events, ?_⟩
    rw [run_append, hcalls, hrun, hfound, finish]
    simp only [show (ToolServer.fresh settings).settings = settings from rfl, hfirst]
    rfl
  have hsettings : server.settings = settings := by
    obtain ⟨disk, ⟨_, hinstall⟩ | ⟨_, hinstall⟩⟩ :=
      install_cases (ToolServer.fresh settings) (Jira.complete settings found)
    · cases hfirst.symm.trans hinstall
    · cases hfirst.symm.trans hinstall
      rfl
  have hwaits : (⟨server, [⟨[], .made found 0⟩, ⟨[0], .loading question next⟩], [first]⟩ :
      Entries).calls[1]? = some ⟨[0], .loading question next⟩ := rfl
  obtain ⟨later, hlater⟩ := exists_run_of_loading answer world hwaits
  refine ⟨[.call, .call] ++ earlier ++ later, ?_⟩
  rw [run_append, hearlier, hlater, hfound, finish]
  simp only [hsettings, hsecond]
  exact ⟨rfl, rfl⟩

/-- Settings that name an account and no field have the service asked. -/
theorem exists_question {account : Account} (hempty : settings.customFields = [])
    (hfirst : (Jira.ranked settings.accounts).head? = some account) (hretries : 0 ≤ settings.maxRetries)
    (hcount : settings.maxRetries < Jira.countLimit) :
    ∃ question next, Jira.discover settings = .ask question next := by
  obtain ⟨left, hleft⟩ : ∃ left, (settings.maxRetries + 1).toNat = left + 1 :=
    ⟨settings.maxRetries.toNat, by omega⟩
  have hget : Jira.get (Jira.Client.of settings Jira.usualBackoff) account Jira.fieldsPath [] =
      Jira.attempts (Jira.Client.of settings Jira.usualBackoff) account Jira.fieldsPath []
        (left + 1) 0 := by
    rw [Jira.get, if_pos, ← hleft]
    · rfl
    · simp only [Jira.Client.of]
      omega
  rw [Jira.discover_eq hempty hfirst, hget, Jira.attempts]
  exact ⟨_, _, rfl⟩

theorem install_eq {server : ToolServer} {ttl : Span} {cache : FileCache} {hub : Hub}
    (httl : Span.ofHours (.float settings.cacheHours) = .ok ttl)
    (hcache : FileCache.attach ttl server.disk = (.ok (), cache)) (hhub : Hub.of settings = .ok hub) :
    server.install settings = (.ok ⟨hub, ttl⟩,
      { server with disk := cache.disk, shared := some ⟨hub, ttl⟩ }) := by
  rw [ToolServer.install, httl]
  simp only [hcache, hhub]

/-- Whatever the settings are, and whenever calls come and are answered, the tools share one hub just where
no two calls have made one or loaded the fields without knowing of each other. -/
theorem isShared_run_iff (settings : Settings) (events : List EntryEvent) :
    ((fresh settings).run events).IsShared ↔ ¬ ((fresh settings).run events).Collides :=
  (isOrderly_run settings events).isShared_iff

/-- Two first calls on a server whose only account lists no custom fields. -/
theorem not_isShared_of_two_first_calls :
    ∃ events, ((fresh Jira.oneAccount).run events).hubs.length = 2 ∧
      ¬ ((fresh Jira.oneAccount).run events).IsShared := by
  have hfirst : (Jira.ranked Jira.oneAccount.accounts).head? =
      some ⟨"Default", "http://h", .none, [], [], [], 1, "#000000"⟩ := by
    rw [Jira.oneAccount, Jira.ranked, List.mergeSort_singleton]
    rfl
  obtain ⟨question, next, hask⟩ := exists_question rfl hfirst (by decide) (by decide)
  have hfound : ((Jira.discover Jira.oneAccount).run (Jira.answeredBy "[]") ()).1 =
      .ok (some []) := by
    have hlast : (Jira.responses (Jira.answeredBy "[]")
        (Jira.get (Jira.Client.of Jira.oneAccount Jira.usualBackoff)
          ⟨"Default", "http://h", .none, [], [], [], 1, "#000000"⟩ Jira.fieldsPath []) ()).getLast? =
        some (.answered 200 "[]") := by decide +kernel
    rw [Jira.run_discover rfl hfirst, Jira.run_get_of_getLast? hlast]
    rfl
  have httl : Span.ofHours (.float Jira.oneAccount.cacheHours) = .ok ⟨900000000⟩ := by
    decide +kernel
  obtain ⟨hub, hhub⟩ : ∃ hub, Hub.of (Jira.complete Jira.oneAccount (some [])) = .ok hub := by
    have hread : (Column.defaults (Jira.complete Jira.oneAccount (some []))).toOption.isSome = true := by
      decide +kernel
    rw [Hub.of]
    cases hcolumns : Column.defaults (Jira.complete Jira.oneAccount (some [])) with
    | error failure =>
      rw [hcolumns] at hread
      cases hread
    | ok columns => exact ⟨_, rfl⟩
  -- the folder of the cache is made by the first call, and is there for the second one
  obtain ⟨cache, hcache, again, hagain⟩ : ∃ cache, FileCache.attach ⟨900000000⟩
      (ToolServer.fresh Jira.oneAccount).disk = (.ok (), cache) ∧
      ∃ again, FileCache.attach ⟨900000000⟩ cache.disk = (.ok (), again) := by
    have hhome : (ToolServer.fresh Jira.oneAccount).disk = ⟨["cache"], []⟩ := by decide +kernel
    have hmade : (FileCache.attach ⟨900000000⟩ ⟨["cache"], []⟩).1 = .ok () := by cbv
    have hthere : (FileCache.attach ⟨900000000⟩
        (FileCache.attach ⟨900000000⟩ ⟨["cache"], []⟩).2.disk).1 = .ok () := by cbv
    rw [hhome]
    exact ⟨_, Prod.ext hmade rfl, _, Prod.ext hthere rfl⟩
  obtain ⟨events, hcalls, hhubs⟩ :=
    exists_two_hubs hask hfound (install_eq httl hcache hhub) (install_eq httl hagain hhub)
  refine ⟨events, by rw [hhubs]; rfl, fun hshared => ?_⟩
  have hearlier : ((fresh Jira.oneAccount).run events).calls[0]? = some ⟨[], .made (some []) 0⟩ := by
    rw [hcalls]
    rfl
  have hlater : ((fresh Jira.oneAccount).run events).calls[1]? = some ⟨[0], .made (some []) 1⟩ := by
    rw [hcalls]
    rfl
  exact (isShared_run_iff Jira.oneAccount events).1 hshared
    (.hubs hearlier hlater List.mem_cons_self ⟨_, rfl⟩ ⟨_, rfl⟩)

end TwoHubs

end Entries

end QueryFence
