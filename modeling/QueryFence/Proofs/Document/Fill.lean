import QueryFence.Proofs.Document.Blocks

/-!
Texts put in the places of the blocks of a document, with the texts outside the blocks around them.
-/

namespace QueryFence.Document

variable {document : Text} {segs : List Segment} {texts : List Text}

/-- Texts put into the gaps between others. -/
def fill : List Text → List Text → Text
  | gap :: gaps, t :: texts => gap ++ (t ++ fill gaps texts)
  | gaps, _ => gaps.flatten

theorem fill_gapsFrom (h : texts.length = (sources segs).length) (gathered : Text) :
    fill (gapsFrom gathered segs) texts = gathered ++ replaceFences segs texts := by
  induction segs generalizing gathered texts with
  | nil =>
    cases texts with
    | nil => rfl
    | cons t texts => cases h
  | cons s rest ih =>
    cases s with
    | plain t =>
      rw [gapsFrom, ih h, replaceFences, List.append_assoc]
    | fence opening source closing =>
      cases texts with
      | nil => cases h
      | cons t texts =>
        have hrest : texts.length = (sources rest).length := Nat.succ.inj h
        rw [gapsFrom, fill, ih hrest, replaceFences, List.nil_append]

theorem sources_eq_map_fences (segs : List Segment) : sources segs = (fences segs).map (·.source) := by
  induction segs with
  | nil => rfl
  | cons s rest ih =>
    cases s with
    | plain t => exact ih
    | fence opening source closing => exact congrArg (source :: ·) ih

/-- Replacing every fence by the text of another one is exchanging the fences. -/
theorem replaceFences_exchange (g : Fence → Fence) (segs : List Segment) :
    replaceFences segs ((fences segs).map fun f => (g f).text) = textOf (segs.map (exchange g)) := by
  induction segs with
  | nil => rfl
  | cons s rest ih =>
    rw [List.map_cons, textOf_cons]
    cases s with
    | plain t => rw [fences_plain, replaceFences, ih, exchange, Segment.text]
    | fence opening source closing =>
      rw [fences_fence, List.map_cons, replaceFences, ih]
      rfl

theorem replaceFences_map_text (segs : List Segment) :
    replaceFences segs ((fences segs).map (·.text)) = textOf segs := by
  have hid : ∀ s : Segment, exchange id s = s := by
    intro s
    cases s <;> rfl
  exact (replaceFences_exchange id segs).trans (congrArg textOf (List.map_id'' hid segs))

theorem map_source_blocks (document : Text) :
    (blocks document).map (·.source) = sources (segments document) := by
  have h := congrArg (List.map Prod.snd) (map_blocks document)
  rw [List.map_map, List.map_map] at h
  exact h.trans (sources_eq_map_fences _).symm

theorem fill_outside (h : texts.length = (blocks document).length) :
    fill (outside document) texts = replaceFences (segments document) texts := by
  have hlength : texts.length = (sources (segments document)).length := by
    rw [h, ← map_source_blocks, List.length_map]
  rw [outside_eq_gapsFrom, fill_gapsFrom hlength, List.nil_append]

/-- With its own blocks in the gaps a document is as it was. -/
theorem fill_outside_blocks (document : Text) :
    fill (outside document) ((blocks document).map (·.text document)) = document := by
  have h := congrArg (List.map Prod.fst) (map_blocks document)
  rw [List.map_map, List.map_map] at h
  have hblocks : (blocks document).map (·.text document) =
      (fences (segments document)).map (·.text) := h
  rw [fill_outside (List.length_map _), hblocks, replaceFences_map_text, textOf_segments]
end QueryFence.Document
