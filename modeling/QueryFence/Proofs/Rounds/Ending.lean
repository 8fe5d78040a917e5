import QueryFence.Proofs.Traffic.Refresh

/-!
What a block comes to: the text that its cycle ends with, by what the cycle finds in the cache and by the
answer to its search.
-/

namespace QueryFence.Cycle

open QueryFence.Traffic (entryOf)

variable {σ : Type} {hub : Hub} {now : Instant} {spec : Spec}

/-- The text of a stored outcome, where a look-up finds this. -/
def textOfRecord (hub : Hub) (spec : Spec) (record : Json) (found : Except Fault (Option Json)) :
    Except Fault Text :=
  match record.item "is_error" with
  | .error fault => .error fault
  | .ok isError =>
    match record.item "data" with
    | .error fault => .error fault
    | .ok data =>
      if isError.isVoid then textOfResults hub spec data found
      else .ok (errorText hub.settings data (some spec))

/-- The text of the answer to a search, where a look-up finds this. -/
def textOfAnswer (hub : Hub) (spec : Spec) (outcome : Except SearchFailure Json)
    (found : Except Fault (Option Json)) : Except Fault Text :=
  match outcome with
  | .ok results => textOfResults hub spec results found
  | .error failure => .ok (errorText hub.settings (.text failure.message) (some spec))

/-- A stored answer is shown as the answer itself. -/
theorem textOfRecord_entryOf (now : Instant) (outcome : Except SearchFailure Json)
    (found : Except Fault (Option Json)) :
    textOfRecord hub spec (entryOf now outcome).toJson found =
      textOfAnswer hub spec outcome found := by
  have herror : (entryOf now outcome).toJson.item "is_error" = .ok (.bool (recorded outcome).2) := rfl
  have hdata : (entryOf now outcome).toJson.item "data" = .ok (recorded outcome).1 := rfl
  simp only [textOfRecord, herror, hdata]
  cases outcome <;> rfl

/-- The text that a cycle has put on its display, unless it ended in a fault. -/
def shown {α : Type} (r : Except Fault α × Scene σ) : Except Fault Text :=
  r.1.map fun _ => r.2.display.output

theorem shown_eq_ok_iff {α : Type} {r : Except Fault α × Scene σ} {t : Text} :
    shown r = .ok t ↔ (∃ a, r.1 = .ok a) ∧ r.2.display.output = t := by
  rcases r with ⟨fault | a, s⟩
  · simp [shown, Except.map]
  · simp [shown, Except.map]

theorem put_output {d : Display} (hopen : d.closed = false) (call : Showing) (t : Text) :
    (d.put call t).output = t := by
  simp only [Display.put, hopen, Bool.false_eq_true, if_false]

theorem shown_error {s : Scene σ} (hopen : s.display.closed = false) (message : Json)
    (outcome : Outcome) :
    shown ((do showError hub message (some spec); return outcome : CycleM σ Outcome).run.run s) =
      .ok (errorText hub.settings message (some spec)) :=
  shown_eq_ok_iff.2 ⟨⟨outcome, rfl⟩, put_output hopen _ _⟩

/-- What a cycle hands back is nothing to what it shows. -/
theorem shown_bind_pure {α β : Type} (m : CycleM σ α) (b : β) (s : Scene σ) :
    shown ((m >>= fun _ => pure b).run.run s) = shown (m.run.run s) := by
  rw [run_bind]
  rcases m.run.run s with ⟨fault | a, s'⟩ <;> rfl

variable [ResultCache σ]

theorem shown_showResults {results : Json} {s : Scene σ} (hopen : s.display.closed = false) :
    shown ((showResults hub now spec results).run.run s) =
      textOfResults hub spec results (ResultCache.get s.cache now spec.cacheKey).1 := by
  obtain ⟨cache, -, hrun⟩ := run_resultsText hub now spec results s
  simp only [showResults, run_bind, run_get, hopen, Bool.false_eq_true, if_false, hrun]
  cases textOfResults hub spec results (ResultCache.get s.cache now spec.cacheKey).1 with
  | error fault => rfl
  | ok t =>
    simp only [run_showText]
    exact shown_eq_ok_iff.2 ⟨⟨(), rfl⟩, put_output hopen _ t⟩

theorem shown_results {results : Json} {s : Scene σ} (hopen : s.display.closed = false)
    (outcome : Outcome) :
    shown ((do showResults hub now spec results; return outcome : CycleM σ Outcome).run.run s) =
      textOfResults hub spec results (ResultCache.get s.cache now spec.cacheKey).1 :=
  (shown_bind_pure _ outcome s).trans (shown_showResults hopen)

theorem shown_showStored (hub : Hub) (now : Instant) (spec : Spec) (record : Json) {s : Scene σ} (hopen : s.display.closed = false) :
    shown ((showStored hub now spec record).run.run s) =
      textOfRecord hub spec record (ResultCache.get s.cache now spec.cacheKey).1 := by
  simp only [showStored, textOfRecord, run_bind, run_result]
  cases record.item "is_error" with
  | error fault => rfl
  | ok isError =>
    cases record.item "data" with
    | error fault => rfl
    | ok data =>
      dsimp only
      split
      · exact shown_results hopen _
      · exact shown_error hopen data _

/-- A cycle that goes on with an answer shows it, and tells the time that is found once the answer is
stored. -/
theorem shown_resume {p : Pending} {outcome : Except SearchFailure Json}
    (ho : IsSearchOutcome outcome) {s : Scene σ} (hopen : s.display.closed = false) {cache : σ}
    (hadd : ResultCache.add s.cache now p.spec.cacheKey (recorded outcome).1 (recorded outcome).2 =
      (.ok (entryOf now outcome).toJson, cache)) :
    shown ((resume hub now p outcome).run.run s) =
      textOfAnswer hub p.spec outcome (ResultCache.get cache now p.spec.cacheKey).1 := by
  cases outcome with
  | error failure =>
    simp only [recorded] at hadd
    simp only [resume, run_bind, run_onCache, hadd]
    rw [← run_bind]
    exact shown_error (s := { s with cache := cache }) hopen _ _
  | ok results =>
    obtain ⟨total, htotal⟩ := ho
    have hitem : (entryOf now (.ok results)).toJson.item "data" = .ok results := rfl
    simp only [recorded] at hadd
    simp only [resume, run_bind, run_onCache, run_result, htotal, hadd, hitem]
    rw [← run_bind]
    exact shown_results (s := { s with cache := cache }) hopen _

/-- A cycle that ends well was given an outcome of a search, and has stored it. -/
theorem isSearchOutcome_of_resume {p : Pending} {outcome : Except SearchFailure Json} {s : Scene σ}
    {t : Text} (h : shown ((resume hub now p outcome).run.run s) = .ok t) :
    IsSearchOutcome outcome ∧ ∃ record, (ResultCache.add s.cache now p.spec.cacheKey
      (recorded outcome).1 (recorded outcome).2).1 = .ok record := by
  cases outcome with
  | error failure =>
    simp only [resume, recorded, run_bind, run_onCache] at h ⊢
    refine ⟨trivial, ?_⟩
    cases hadd : (ResultCache.add s.cache now p.spec.cacheKey (Json.text failure.message) true).1 with
    | error fault =>
      rw [hadd] at h
      cases h
    | ok record => exact ⟨record, rfl⟩
  | ok results =>
    simp only [resume, recorded, run_bind, run_result, run_onCache] at h ⊢
    cases htotal : results.item "total" with
    | error fault =>
      rw [htotal] at h
      cases h
    | ok total =>
      refine ⟨⟨total, htotal⟩, ?_⟩
      cases hadd : (ResultCache.add s.cache now p.spec.cacheKey results false).1 with
      | error fault =>
        simp only [htotal, hadd] at h
        cases h
      | ok record => exact ⟨record, rfl⟩

end QueryFence.Cycle
