import QueryFence.Proofs.Cache.Laws
import QueryFence.Proofs.Spec.RoundTrip
import QueryFence.Proofs.Traffic.Basic

/-!
Refreshing: what a block has stored is dropped, its canonical text is read, and its search is asked
for anew. Blanks around a query are lost on the way, and with them the key.
-/

namespace QueryFence.Traffic

open QueryFence.Cycle

variable {σ : Type} [ResultCache σ] {hub : Hub}

section Laws

variable (L : CacheLaws σ)

theorem sound_of_isLookedUp {now : Instant} {key : Text} {c after : σ} (hc : L.Sound c)
    (h : IsLookedUp now key c after) : L.Sound after := by
  rcases h with rfl | rfl
  · exact hc
  · exact L.get_sound now key hc

theorem start_sound {now : Instant} {source : Text} {s : Scene σ} (hs : L.Sound s.cache) :
    L.Sound ((start hub now source).run.run s).2.cache := by
  obtain ⟨r, hr⟩ : ∃ r, r = (start hub now source).run.run s := ⟨_, rfl⟩
  have hb : Begins hub now source s r := hr ▸ start_begins source s
  rw [← hr]
  cases hb with
  | unread _ => exact hs
  | rejected _ => exact hs
  | @broken spec fault cache _ hget =>
    have h := L.get_sound now spec.cacheKey hs
    rwa [hget] at h
  | @missed spec cache _ hget =>
    have h := L.get_sound now spec.cacheKey hs
    rwa [hget] at h
  | @found spec record cache r s' _ hget hshow =>
    have h := L.get_sound now spec.cacheKey hs
    rw [hget] at h
    have hlook := isLookedUp_showStored hub now spec record { s with cache := cache }
    rw [hshow] at hlook
    exact sound_of_isLookedUp L h hlook

/-- The entry that an answer is stored as. -/
def entryOf (now : Instant) (outcome : Except SearchFailure Json) : Entry :=
  Entry.at now (recorded outcome).1 (recorded outcome).2

/-- A cycle that goes on with the answer to its search leaves it stored under its key. -/
theorem resume_holds {now : Instant} (hnow : now.IsTold) {p : Pending}
    {outcome : Except SearchFailure Json} (ho : IsSearchOutcome outcome) {s : Scene σ}
    (hs : L.Sound s.cache) :
    L.Sound ((resume hub now p outcome).run.run s).2.cache ∧
      L.Holds ((resume hub now p outcome).run.run s).2.cache p.spec.cacheKey
        (entryOf now outcome) := by
  obtain ⟨after, hadd, hsound, hholds⟩ :=
    L.add_ok p.spec.cacheKey (recorded outcome).1 (recorded outcome).2 hs hnow
  have he : ((entryOf now outcome).data, (entryOf now outcome).isError) = recorded outcome := rfl
  rcases isLookedUp_resume hub ho he hadd with hsame | hget
  · rw [hsame]
    exact ⟨hsound, hholds⟩
  · rw [hget]
    exact ⟨L.get_sound now _ hsound, L.get_holds hsound hnow hholds⟩

theorem step_sound {t : Traffic σ} (ht : L.Sound t.cache) {event : Instant × Event}
    (husual : Event.IsUsual event) : L.Sound (t.step hub event.1 event.2).cache := by
  obtain ⟨now, event⟩ := event
  cases event with
  | render source =>
    rw [step, launch_cache]
    exact start_sound L ht
  | refresh spec =>
    obtain ⟨after, hdelete, hafter, -⟩ := L.delete_ok spec.cacheKey ht
    rw [step, launch_cache, run_startOver]
    simp only [hdelete]
    exact start_sound L hafter
  | answer index outcome =>
    simp only [step]
    split
    · exact (resume_holds L husual.time (husual.answer index outcome rfl) ht).1
    · exact ht

theorem run_sound (t : Traffic σ) (ht : L.Sound t.cache) {events : List (Instant × Event)}
    (husual : ∀ event ∈ events, Event.IsUsual event) : L.Sound (t.run hub events).cache :=
  run_invariant (P := fun t => L.Sound t.cache)
    (fun _ event he h => step_sound L h (husual event he)) ht

end Laws

section Asked

variable {t : Traffic σ} {now : Instant} {spec spec' : Spec}

/-- A cycle that begins asks for nothing, or for the search of the block that it reads. -/
theorem calls_launch {source : Text} (hread : Spec.read hub.settings source = .ok spec')
    (s : Scene σ) :
    (t.launch source ((start hub now source).run.run s)).calls = t.calls ∨
      (t.launch source ((start hub now source).run.run s)).calls =
        t.calls ++ [(spec'.query, effectiveLimit hub spec')] := by
  obtain ⟨r, hr⟩ : ∃ r, r = (start hub now source).run.run s := ⟨_, rfl⟩
  have hb : Begins hub now source s r := hr ▸ start_begins source s
  rw [← hr]
  cases hb with
  | unread _ => exact .inl rfl
  | rejected _ => exact .inl rfl
  | broken _ _ => exact .inl rfl
  | missed h _ =>
    obtain rfl := Except.ok.inj (hread.symm.trans h)
    exact .inr rfl
  | @found _ _ _ r _ _ _ _ => cases r <;> exact .inl rfl

theorem calls_refresh (t : Traffic σ) (now : Instant)
    (hread : Spec.read hub.settings (spec.write hub.settings) = .ok spec') :
    (t.step hub now (.refresh spec)).calls = t.calls ∨
      (t.step hub now (.refresh spec)).calls =
        t.calls ++ [(spec'.query, effectiveLimit hub spec')] := by
  simp only [step, run_startOver]
  rcases ResultCache.delete t.cache spec.cacheKey with ⟨fault | _, cache⟩
  · exact .inl rfl
  · exact calls_launch hread _

variable (L : CacheLaws σ)

/-- A block that is read as it was written finds nothing left of it, and waits for its search. -/
theorem step_refresh (ht : L.Sound t.cache)
    (hread : Spec.read hub.settings (spec.write hub.settings) = .ok spec) (now : Instant) :
    ∃ cache, L.Sound cache ∧ t.step hub now (.refresh spec) =
      t.launch (spec.write hub.settings) (.ok (.searching ⟨spec, effectiveLimit hub spec⟩),
        ⟨Display.blank.put .loading loadingText, cache⟩) := by
  obtain ⟨dropped, hdelete, hdropped, hnone⟩ := L.delete_ok spec.cacheKey ht
  obtain ⟨cache, hcache⟩ : ∃ cache, cache = (ResultCache.get dropped now spec.cacheKey).2 := ⟨_, rfl⟩
  have hget : ResultCache.get dropped now spec.cacheKey = (.ok none, cache) :=
    Prod.ext (hnone now) hcache.symm
  refine ⟨cache, hcache ▸ L.get_sound now _ hdropped, ?_⟩
  simp only [step, run_startOver, hdelete]
  congr 1
  simp only [start, hread, run_bind, run_onCache, hget, run_showText, run_pure]

/-- The search of a block is asked for once by a refresh, and its outcome is stored under the key of
the block, whatever else goes on before it is answered. -/
structure IsAskedAfresh (Holds : σ → Text → Entry → Prop) (hub : Hub) (t : Traffic σ)
    (now : Instant) (spec : Spec) : Prop where
  asks : (t.step hub now (.refresh spec)).calls =
    t.calls ++ [(spec.query, effectiveLimit hub spec)]
  stores : ∀ meanwhile : List (Instant × Event), (∀ event ∈ meanwhile, Event.IsUsual event) →
    (∀ event ∈ meanwhile, ∀ outcome, event.2 ≠ .answer t.errands.length outcome) →
    ∀ later : Instant, later.IsTold → ∀ outcome, IsSearchOutcome outcome →
      let waiting := (t.step hub now (.refresh spec)).run hub meanwhile
      let answered := waiting.step hub later (.answer t.errands.length outcome)
      answered.calls = waiting.calls ∧
        Holds answered.cache spec.cacheKey (entryOf later outcome)

/-- A refresh asks for the search of a block exactly when the query of the block is trimmed. -/
theorem isAskedAfresh_iff (ht : L.Sound t.cache) (hs : hub.settings.HasUsualGrammar) {source : Text}
    (hread : Spec.read hub.settings source = .ok spec) :
    IsAskedAfresh L.Holds hub t now spec ↔ Text.trim spec.query = spec.query := by
  obtain ⟨hwritten, hiff⟩ := Spec.read_write_of_read hs hread
  constructor
  · -- Whatever is asked for, it is the trimmed query that the canonical text holds.
    intro h
    rcases calls_refresh t now hwritten with hnone | hone
    · have hlength := congrArg List.length (hnone.symm.trans h.asks)
      rw [List.length_append, List.length_singleton] at hlength
      omega
    · have hcall := List.append_cancel_left (hone.symm.trans h.asks)
      exact congrArg Prod.fst (List.singleton_inj.1 hcall)
  · intro htrim
    obtain ⟨cache, hcache, hstep⟩ := step_refresh L ht (hiff.2 htrim) now
    refine ⟨by rw [hstep]; rfl, fun meanwhile husual hothers later hlater outcome ho => ?_⟩
    intro waiting answered
    -- Events in between keep the cache sound and leave the waiting cycle where it is.
    have hsound : L.Sound waiting.cache :=
      run_sound L _ (by rw [hstep, launch_cache]; exact hcache) husual
    have hwaits : waiting.errands[t.errands.length]? = some ⟨spec.write hub.settings,
        Display.blank.put .loading loadingText, .searching ⟨spec, effectiveLimit hub spec⟩⟩ := by
      refine run_errand ?_ hothers
      rw [hstep]
      exact List.getElem?_concat_length
    have hanswered : answered = waiting.step hub later (.answer t.errands.length outcome) := rfl
    simp only [step, hwaits] at hanswered
    rw [hanswered]
    exact ⟨rfl, (resume_holds L hlater ho hsound).2⟩

end Asked

/-- A cache on a disk where one can be opened, or again where cycles have used one before. -/
inductive IsOpened : FileCache → Prop
  | fresh {ttl : Span} {disk : Disk} {c : FileCache} (hdisk : FileCache.IsReady disk)
      (hattach : FileCache.attach ttl disk = (.ok (), c)) : IsOpened c
  | again {hub : Hub} {c : FileCache} (hc : IsOpened c) {events : List (Instant × Event)}
      (husual : ∀ event ∈ events, Event.IsUsual event) {ttl : Span} {c' : FileCache}
      (hattach : FileCache.attach ttl ((quiet c).run hub events).cache.disk = (.ok (), c')) :
      IsOpened c'

theorem IsOpened.isSound {c : FileCache} (h : IsOpened c) : c.IsSound := by
  induction h with
  | fresh hdisk hattach => exact hdisk.isSound_attach hattach
  | @again hub c _ events husual _ _ hattach ih =>
    have hleft : FileCache.IsSound ((quiet c).run hub events).cache :=
      run_sound FileCache.laws (quiet c) ih husual
    exact hleft.attach hattach

end QueryFence.Traffic
