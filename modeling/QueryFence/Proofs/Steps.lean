/-!
Lists of steps that may fail: what holds of every step holds of a run that has ended well.
-/

namespace QueryFence.Steps

variable {α β ε σ : Type}

/-- A step with what follows it ends well when both of them do. -/
theorem bind_eq_ok_iff {first : Except ε α} {next : α → Except ε β} {b : β} :
    first >>= next = .ok b ↔ ∃ a, first = .ok a ∧ next a = .ok b := by
  cases first with
  | error e =>
    constructor
    · intro h
      cases h
    · rintro ⟨a, ha, -⟩
      cases ha
  | ok a =>
    constructor
    · exact fun h => ⟨a, rfl, h⟩
    · rintro ⟨a', ha, h⟩
      cases ha
      exact h

theorem mapError_eq_ok_iff {ε' : Type} {f : ε → ε'} {x : Except ε α} {a : α} :
    x.mapError f = .ok a ↔ x = .ok a := by
  cases x with
  | error e => exact ⟨nofun, nofun⟩
  | ok b => exact ⟨fun h => congrArg _ (Except.ok.inj h), fun h => congrArg _ (Except.ok.inj h)⟩

/-- What the start has and every step keeps, the end of a run has. -/
theorem foldlM_invariant {f : σ → α → Except ε σ} {P : σ → Prop} {items : List α}
    (step : ∀ s, P s → ∀ a ∈ items, ∀ s', f s a = .ok s' → P s') {s r : σ} (hs : P s)
    (h : items.foldlM f s = .ok r) : P r := by
  induction items generalizing s with
  | nil =>
    cases h
    exact hs
  | cons a items ih =>
    rw [List.foldlM_cons, bind_eq_ok_iff] at h
    obtain ⟨s', ha, hr⟩ := h
    exact ih (fun s hs b hb => step s hs b (List.mem_cons_of_mem a hb))
      (step s hs a List.mem_cons_self s' ha) hr

theorem mapM_map_eq_ok {f : α → Except ε β} {g : β → α} {results : List β}
    (h : ∀ b ∈ results, f (g b) = .ok b) : (results.map g).mapM f = .ok results := by
  induction results with
  | nil => rfl
  | cons b results ih =>
    rw [List.map_cons, List.mapM_cons, h b List.mem_cons_self,
      ih fun c hc => h c (List.mem_cons_of_mem b hc)]
    rfl

/-- Every result of a list of steps is the result of one of them. -/
theorem exists_of_mem_mapM {f : α → Except ε β} {items : List α} {results : List β}
    (h : items.mapM f = .ok results) : ∀ b ∈ results, ∃ a ∈ items, f a = .ok b := by
  induction items generalizing results with
  | nil =>
    cases h
    exact fun b hb => absurd hb List.not_mem_nil
  | cons a items ih =>
    rw [List.mapM_cons, bind_eq_ok_iff] at h
    obtain ⟨b, ha, h⟩ := h
    obtain ⟨more, hr, h⟩ := bind_eq_ok_iff.1 h
    cases h
    intro c hc
    rcases List.mem_cons.1 hc with rfl | hc
    · exact ⟨a, List.mem_cons_self, ha⟩
    · obtain ⟨d, hd, hf⟩ := ih hr c hc
      exact ⟨d, List.mem_cons_of_mem a hd, hf⟩

/-- A list of steps ends well exactly when every step does, each with its own result. -/
theorem mapM_eq_ok_iff {f : α → Except ε β} {items : List α} {results : List β} :
    items.mapM f = .ok results ↔ items.map f = results.map .ok := by
  induction items generalizing results with
  | nil =>
    cases results with
    | nil => exact ⟨fun _ => rfl, fun _ => rfl⟩
    | cons b results => exact ⟨nofun, nofun⟩
  | cons a items ih =>
    rw [List.mapM_cons, bind_eq_ok_iff]
    constructor
    · rintro ⟨b, ha, h⟩
      obtain ⟨more, hr, h⟩ := bind_eq_ok_iff.1 h
      cases h
      rw [List.map_cons, List.map_cons, ha, ih.1 hr]
    · intro h
      cases results with
      | nil => cases h
      | cons b results =>
        obtain ⟨ha, hr⟩ := List.cons.inj h
        exact ⟨b, ha, bind_eq_ok_iff.2 ⟨results, ih.2 hr, rfl⟩⟩

/-- Steps that all end well end well together. -/
theorem exists_mapM_eq_ok_iff {f : α → Except ε β} {items : List α} :
    (∃ results, items.mapM f = .ok results) ↔ ∀ a ∈ items, ∃ b, f a = .ok b := by
  constructor
  · rintro ⟨results, h⟩ a ha
    have hmem : f a ∈ results.map Except.ok := by
      rw [← mapM_eq_ok_iff.1 h]
      exact List.mem_map_of_mem ha
    obtain ⟨b, -, hb⟩ := List.mem_map.1 hmem
    exact ⟨b, hb.symm⟩
  · intro h
    induction items with
    | nil => exact ⟨[], rfl⟩
    | cons a items ih =>
      obtain ⟨b, hb⟩ := h a List.mem_cons_self
      obtain ⟨results, hr⟩ := ih fun c hc => h c (List.mem_cons_of_mem a hc)
      refine ⟨b :: results, mapM_eq_ok_iff.2 ?_⟩
      rw [List.map_cons, List.map_cons, hb, mapM_eq_ok_iff.1 hr]

theorem length_of_mapM {f : α → Except ε β} {items : List α} {results : List β}
    (h : items.mapM f = .ok results) : results.length = items.length := by
  have hlength := congrArg List.length (mapM_eq_ok_iff.1 h)
  rw [List.length_map, List.length_map] at hlength
  exact hlength.symm

/-- A list of steps has results of a kind exactly when every step has one. -/
theorem exists_mapM_forall_iff {f : α → Except ε β} {P : β → Prop} {items : List α} :
    (∃ results, items.mapM f = .ok results ∧ ∀ b ∈ results, P b) ↔
      ∀ a ∈ items, ∃ b, f a = .ok b ∧ P b := by
  constructor
  · rintro ⟨results, h, hp⟩ a ha
    have hmem : f a ∈ results.map Except.ok := by
      rw [← mapM_eq_ok_iff.1 h]
      exact List.mem_map_of_mem ha
    obtain ⟨b, hb, he⟩ := List.mem_map.1 hmem
    exact ⟨b, he.symm, hp b hb⟩
  · intro h
    obtain ⟨results, hresults⟩ := exists_mapM_eq_ok_iff.2 fun a ha => (h a ha).imp fun _ => And.left
    refine ⟨results, hresults, fun b hb => ?_⟩
    obtain ⟨a, ha, he⟩ := exists_of_mem_mapM hresults b hb
    obtain ⟨b', he', hp⟩ := h a ha
    rw [he] at he'
    exact Except.ok.inj he' ▸ hp

/-- A step that does not fail. -/
def EndsWell (step : Except ε α) : Prop := ∃ a, step = .ok a

theorem endsWell_ok (a : α) : EndsWell (.ok a : Except ε α) := ⟨a, rfl⟩

theorem not_endsWell_error (e : ε) : ¬ EndsWell (.error e : Except ε α) := nofun

theorem endsWell_bind_iff {first : Except ε α} {next : α → Except ε β} :
    EndsWell (first >>= next) ↔ ∃ a, first = .ok a ∧ EndsWell (next a) := by
  constructor
  · rintro ⟨b, h⟩
    obtain ⟨a, ha, hb⟩ := bind_eq_ok_iff.1 h
    exact ⟨a, ha, b, hb⟩
  · rintro ⟨a, ha, b, hb⟩
    exact ⟨b, bind_eq_ok_iff.2 ⟨a, ha, hb⟩⟩

/-- What is only handed on ends as the step itself does. -/
theorem endsWell_bind_pure_iff {first : Except ε α} {f : α → β} :
    EndsWell (first >>= fun a => pure (f a)) ↔ EndsWell first := by
  rw [endsWell_bind_iff]
  exact ⟨fun ⟨a, ha, _⟩ => ⟨a, ha⟩, fun ⟨a, ha⟩ => ⟨a, ha, endsWell_ok _⟩⟩

theorem endsWell_mapM_iff {f : α → Except ε β} {items : List α} :
    EndsWell (items.mapM f) ↔ ∀ a ∈ items, EndsWell (f a) := exists_mapM_eq_ok_iff

/-- What every step can do after any other, a list of steps can do. -/
theorem endsWell_foldlM {f : σ → α → Except ε σ} {items : List α}
    (h : ∀ s, ∀ a ∈ items, EndsWell (f s a)) (s : σ) : EndsWell (items.foldlM f s) := by
  induction items generalizing s with
  | nil => exact endsWell_ok s
  | cons a items ih =>
    obtain ⟨s', hs⟩ := h s a List.mem_cons_self
    rw [List.foldlM_cons, hs]
    exact ih (fun s b hb => h s b (List.mem_cons_of_mem a hb)) s'

/-- Where what a step can do does not depend on those before it, a list of steps ends well exactly when
each of them can. -/
theorem endsWell_foldlM_iff {f : σ → α → Except ε σ} {P : α → Prop} {items : List α}
    (h : ∀ s, ∀ a ∈ items, EndsWell (f s a) ↔ P a) (s : σ) :
    EndsWell (items.foldlM f s) ↔ ∀ a ∈ items, P a := by
  constructor
  · intro hall
    induction items generalizing s with
    | nil => exact fun a ha => absurd ha List.not_mem_nil
    | cons a items ih =>
      rw [List.foldlM_cons, endsWell_bind_iff] at hall
      obtain ⟨s', hs, hrest⟩ := hall
      have ha : P a := (h s a List.mem_cons_self).1 ⟨s', hs⟩
      exact List.forall_mem_cons.2
        ⟨ha, ih (fun s b hb => h s b (List.mem_cons_of_mem a hb)) s' hrest⟩
  · exact fun hall => endsWell_foldlM (fun s a ha => (h s a ha).2 (hall a ha)) s

/-- A list of steps that fails does so at one of them. -/
theorem exists_of_foldlM_eq_error {f : σ → α → Except ε σ} {items : List α} {s : σ} {e : ε}
    (h : items.foldlM f s = .error e) : ∃ s' a, a ∈ items ∧ f s' a = .error e := by
  induction items generalizing s with
  | nil => cases h
  | cons a items ih =>
    rw [List.foldlM_cons] at h
    cases ha : f s a with
    | error e' =>
      rw [ha] at h
      cases h
      exact ⟨s, a, List.mem_cons_self, ha⟩
    | ok s' =>
      rw [ha] at h
      obtain ⟨s'', b, hb, hf⟩ := ih h
      exact ⟨s'', b, List.mem_cons_of_mem a hb, hf⟩

theorem exists_of_mapM_eq_error {f : α → Except ε β} {items : List α} {e : ε}
    (h : items.mapM f = .error e) : ∃ a ∈ items, f a = .error e := by
  induction items with
  | nil => cases h
  | cons a items ih =>
    rw [List.mapM_cons] at h
    cases ha : f a with
    | error e' =>
      rw [ha] at h
      cases h
      exact ⟨a, List.mem_cons_self, ha⟩
    | ok b =>
      rw [ha] at h
      cases hr : items.mapM f with
      | error e' =>
        rw [hr] at h
        cases h
        obtain ⟨c, hc, hf⟩ := ih hr
        exact ⟨c, List.mem_cons_of_mem a hc, hf⟩
      | ok results =>
        rw [hr] at h
        cases h

/-- A list of steps fails as the first of them that does. -/
theorem mapM_eq_error_iff {f : α → Except ε β} {items : List α} {e : ε} :
    items.mapM f = .error e ↔ ∃ before a behind, items = before ++ a :: behind ∧
      (∀ b ∈ before, EndsWell (f b)) ∧ f a = .error e := by
  induction items with
  | nil =>
    constructor
    · intro h
      cases h
    · rintro ⟨before, a, behind, hitems, -, -⟩
      cases before <;> cases hitems
  | cons first items ih =>
    rw [List.mapM_cons]
    constructor
    · intro h
      cases hfirst : f first with
      | error e' =>
        rw [hfirst] at h
        cases h
        exact ⟨[], first, items, rfl, fun b hb => absurd hb List.not_mem_nil, hfirst⟩
      | ok result =>
        have hrest : items.mapM f = .error e := by
          rw [hfirst] at h
          cases hmap : items.mapM f with
          | error e' =>
            rw [hmap] at h
            cases h
            rfl
          | ok results =>
            rw [hmap] at h
            cases h
        obtain ⟨before, a, behind, rfl, hbefore, ha⟩ := ih.1 hrest
        exact ⟨first :: before, a, behind, rfl, List.forall_mem_cons.2 ⟨⟨result, hfirst⟩, hbefore⟩, ha⟩
    · rintro ⟨before, a, behind, hitems, hbefore, ha⟩
      cases before with
      | nil =>
        cases hitems
        rw [ha]
        rfl
      | cons b before =>
        cases hitems
        obtain ⟨⟨result, hfirst⟩, hbefore⟩ := List.forall_mem_cons.1 hbefore
        rw [hfirst, ih.2 ⟨before, a, behind, rfl, hbefore, ha⟩]
        rfl

/-- Where a step ends well or fails in some way whatever came before it, a list of steps fails in that way
exactly when one of them does, behind steps that all end well. -/
theorem foldlM_fails_iff {f : σ → α → Except ε σ} {P Q : α → Prop} {F : ε → Prop}
    (hwell : ∀ s a, EndsWell (f s a) ↔ P a) (hfail : ∀ s a, (∃ e, F e ∧ f s a = .error e) ↔ Q a)
    {items : List α} (s : σ) :
    (∃ e, F e ∧ items.foldlM f s = .error e) ↔ ∃ before a behind, items = before ++ a :: behind ∧
      (∀ b ∈ before, P b) ∧ Q a := by
  induction items generalizing s with
  | nil =>
    constructor
    · rintro ⟨e, -, h⟩
      cases h
    · rintro ⟨before, a, behind, hitems, -, -⟩
      cases before <;> cases hitems
  | cons first items ih =>
    rw [List.foldlM_cons]
    cases hfirst : f s first with
    | error e' =>
      have hnot : ¬ P first := fun hp => by
        obtain ⟨s', hs⟩ := (hwell s first).2 hp
        cases hfirst.symm.trans hs
      constructor
      · rintro ⟨e, he, h⟩
        cases h
        exact ⟨[], first, items, rfl, fun b hb => absurd hb List.not_mem_nil,
          (hfail s first).1 ⟨_, he, hfirst⟩⟩
      · rintro ⟨before, a, behind, hitems, hbefore, ha⟩
        cases before with
        | nil =>
          cases hitems
          obtain ⟨e, he, h⟩ := (hfail s first).2 ha
          exact ⟨e, he, by rw [← h, hfirst]; rfl⟩
        | cons b before =>
          cases hitems
          exact absurd (hbefore first List.mem_cons_self) hnot
    | ok s' =>
      have hp : P first := (hwell s first).1 ⟨s', hfirst⟩
      refine (ih s').trans ⟨?_, ?_⟩
      · rintro ⟨before, a, behind, rfl, hbefore, ha⟩
        exact ⟨first :: before, a, behind, rfl, List.forall_mem_cons.2 ⟨hp, hbefore⟩, ha⟩
      · rintro ⟨before, a, behind, hitems, hbefore, ha⟩
        cases before with
        | nil =>
          cases hitems
          obtain ⟨e, -, h⟩ := (hfail s first).2 ha
          cases hfirst.symm.trans h
        | cons b before =>
          cases hitems
          exact ⟨before, a, behind, rfl, fun b hb => hbefore b (List.mem_cons_of_mem _ hb), ha⟩

end QueryFence.Steps
