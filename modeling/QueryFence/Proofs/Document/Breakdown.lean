import QueryFence.Proofs.Command.InPlace
import QueryFence.Proofs.Spec.Breakdown

/-!
Which documents can be formatted. A block that its author got wrong is left as it was written; a block at
which reading breaks down keeps the whole document from being formatted.
-/

namespace QueryFence

open QueryFence.Steps

/-- A specification, or a mistake of the author. -/
def IsJudged (result : Except SpecFailure Spec) : Prop :=
  (∃ spec, result = .ok spec) ∨ ∃ error, result = .error (.rejected error)

theorem isJudged_iff {result : Except SpecFailure Spec} : IsJudged result ↔ ¬ BreaksDown result := by
  rw [breaksDown_iff]
  constructor
  · rintro (⟨spec, rfl⟩ | ⟨error, rfl⟩)
    · exact nofun
    · rintro ⟨fault, h⟩
      cases h
  · intro h
    cases result with
    | ok spec => exact .inl ⟨spec, rfl⟩
    | error failure =>
      cases failure with
      | rejected error => exact .inr ⟨error, rfl⟩
      | fault fault => exact absurd ⟨fault, rfl⟩ h

namespace Document

variable {settings : Settings} {document formatted : Text}

/-- What stands in the place of a block: the fence of its specification, or the block as it was written. -/
inductive ReplacesBlock (settings : Settings) (text source : Text) : Text → Prop
  | valid {spec : Spec} (h : Spec.read settings source = .ok spec) :
    ReplacesBlock settings text source (spec.fence settings)
  | rejected {error : SpecError} (h : Spec.read settings source = .error (.rejected error)) :
    ReplacesBlock settings text source text

/-- A document with its valid blocks in canonical form and all other text as it was. -/
def IsFormatOf (settings : Settings) (document formatted : Text) : Prop :=
  ∃ texts, List.Forall₂ (fun b t => ReplacesBlock settings (b.text document) b.source t)
      (blocks document) texts ∧
    formatted = fill (outside document) texts

theorem replacesBlock_formattedBlock {text source : Text} (h : IsJudged (Spec.read settings source)) :
    ReplacesBlock settings text source (formattedBlock settings text source) := by
  rcases h with ⟨spec, h⟩ | ⟨error, h⟩
  · rw [formattedBlock, h]
    exact .valid h
  · rw [formattedBlock, h]
    exact .rejected h

/-- A document whose blocks are all read or rejected is formatted. -/
theorem exists_isFormatOf (h : ∀ b ∈ blocks document, IsJudged (Spec.read settings b.source)) :
    ∃ formatted, normalize settings document = .ok formatted ∧
      IsFormatOf settings document formatted := by
  cases hnormal : normalize settings document with
  | error fault =>
    obtain ⟨b, hb, hfault⟩ := exists_of_normalize_eq_error hnormal
    exact absurd (breaksDown_iff.2 ⟨fault, hfault⟩) (isJudged_iff.1 (h b hb))
  | ok formatted =>
    refine ⟨formatted, rfl, _, ?_, normalize_eq_fill hnormal⟩
    rw [List.forall₂_map_right_iff, List.forall₂_same]
    exact fun b hb => replacesBlock_formattedBlock (h b hb)

theorem isJudged_of_normalize (h : normalize settings document = .ok formatted) :
    ∀ b ∈ blocks document, IsJudged (Spec.read settings b.source) := by
  have hread : ∀ b ∈ blocks document, ∀ fault, Spec.read settings b.source ≠ .error (.fault fault) :=
    (forall_mem_blocks (P := fun _ source =>
      ∀ fault, Spec.read settings source ≠ .error (.fault fault))).2 (readsWell_of_normalize h)
  intro b hb
  rw [isJudged_iff, breaksDown_iff]
  exact fun ⟨fault, hfault⟩ => hread b hb fault hfault

/-- A document that is nothing but a fence has the source of the fence in its only block. -/
theorem exists_block_of_fence {f : Fence} (h : f.IsProper) :
    ∃ b ∈ blocks f.text, b.source = f.source := by
  have htext : textOf [f.segment] = f.text := textOf_singleton f.segment
  have hsources : (blocks f.text).map (·.source) = [f.source] := by
    rw [map_source_blocks, ← htext, segments_textOf (.lastFence h)]
    rfl
  exact List.mem_map.1 (hsources ▸ List.mem_singleton_self f.source)

/-- A fence with a limit of one digit more than are looked at. -/
def longLimit : Fence where
  opening := "```jira-search\n"
  source := Spec.entryText ("limit", List.replicate (Text.numeralLimit + 1) '1') ++ ['\n']
  closing := "```"

end Document

end QueryFence
