import Mathlib.Data.List.Forall2
import QueryFence.Proofs.Document.Scan

/-!
The blocks of a document by their places, and the texts outside them. Both are read off the segments:
a block is a fence, and between two blocks stands what the plain segments between them say.
-/

namespace QueryFence

/-- The part of a document that a block takes up. -/
def SearchBlock.text (document : Text) (b : SearchBlock) : Text :=
  (document.drop b.start).take (b.stop - b.start)

namespace Document

/-- The texts of a document from a place on before, between and behind blocks. -/
def outsideFrom (document : Text) (place : Nat) : List SearchBlock → List Text
  | [] => [document.drop place]
  | b :: rest => (document.drop place).take (b.start - place) :: outsideFrom document b.stop rest

/-- The texts before, between and behind the blocks of a document, one more than there are blocks. -/
def outside (document : Text) : List Text := outsideFrom document 0 (blocks document)

/-- The fences among segments. -/
def fences (segs : List Segment) : List Fence :=
  segs.filterMap fun
    | .plain _ => none
    | .fence opening source closing => some ⟨opening, source, closing⟩

@[simp] theorem fences_plain (t : Text) (rest : List Segment) :
    fences (.plain t :: rest) = fences rest := rfl

@[simp] theorem fences_fence (opening source closing : Text) (rest : List Segment) :
    fences (.fence opening source closing :: rest) = ⟨opening, source, closing⟩ :: fences rest := rfl

/-- The plain texts before, between and behind fences, behind a text already gathered. -/
def gapsFrom (gathered : Text) : List Segment → List Text
  | [] => [gathered]
  | .plain t :: rest => gapsFrom (gathered ++ t) rest
  | .fence _ _ _ :: rest => gathered :: gapsFrom [] rest

variable {document : Text} {segs : List Segment}

theorem outsideFrom_blocksFrom (before gathered : Text)
    (h : before ++ gathered ++ textOf segs = document) :
    outsideFrom document before.length (blocksFrom (before.length + gathered.length) segs) =
      gapsFrom gathered segs := by
  induction segs generalizing before gathered with
  | nil =>
    rw [textOf_nil, List.append_nil] at h
    rw [blocksFrom, outsideFrom, gapsFrom, ← h, List.drop_left]
  | cons s rest ih =>
    rw [textOf_cons] at h
    cases s with
    | plain t =>
      rw [blocksFrom, gapsFrom, Nat.add_assoc, ← List.length_append]
      apply ih
      rw [← h, Segment.text]
      simp only [List.append_assoc]
    | fence opening source closing =>
      have hd : document.drop before.length =
          gathered ++ (Segment.text (.fence opening source closing) ++ textOf rest) := by
        rw [← h, List.append_assoc, List.drop_left]
      have hr := ih (before ++ gathered ++ Segment.text (.fence opening source closing)) []
        (by rw [← h]; simp only [List.append_assoc, List.append_nil])
      rw [blocksFrom, outsideFrom, gapsFrom]
      dsimp only
      rw [hd, Nat.add_sub_cancel_left, List.take_left, ← hr]
      simp only [List.length_append, List.length_nil, Nat.add_zero]

theorem outside_eq_gapsFrom (document : Text) :
    outside document = gapsFrom [] (segments document) :=
  outsideFrom_blocksFrom [] [] (textOf_segments document)

theorem map_blocksFrom (before : Text) (h : before ++ textOf segs = document) :
    (blocksFrom before.length segs).map (fun b => (b.text document, b.source)) =
      (fences segs).map fun f => (f.text, f.source) := by
  induction segs generalizing before with
  | nil => rfl
  | cons s rest ih =>
    rw [textOf_cons] at h
    have hr := ih (before ++ s.text) (by rw [List.append_assoc, h])
    rw [List.length_append] at hr
    cases s with
    | plain t =>
      rw [blocksFrom, fences_plain]
      exact hr
    | fence opening source closing =>
      rw [blocksFrom, fences_fence, List.map_cons, List.map_cons, hr, SearchBlock.text]
      dsimp only
      rw [Nat.add_sub_cancel_left, ← h, List.drop_left, List.take_left]
      rfl

theorem map_blocks (document : Text) :
    (blocks document).map (fun b => (b.text document, b.source)) =
      (fences (segments document)).map fun f => (f.text, f.source) :=
  map_blocksFrom [] (textOf_segments document)

/-- What holds of the text and the source of every fence holds of every block. -/
theorem forall_mem_blocks {P : Text → Text → Prop} :
    (∀ b ∈ blocks document, P (b.text document) b.source) ↔
      ∀ f ∈ fences (segments document), P f.text f.source := by
  have hb := List.forall_mem_map (l := blocks document) (P := fun p => P p.1 p.2)
    (f := fun b => (b.text document, b.source))
  rw [map_blocks] at hb
  rw [← hb]
  exact List.forall_mem_map

theorem fences_exchange (g : Fence → Fence) (segs : List Segment) :
    fences (segs.map (exchange g)) = (fences segs).map g := by
  induction segs with
  | nil => rfl
  | cons s rest ih =>
    cases s with
    | plain t => exact ih
    | fence opening source closing =>
      rw [fences_fence, List.map_cons, List.map_cons, ← ih]
      rfl

theorem map_exchange_eq_self_iff {g : Fence → Fence} :
    segs.map (exchange g) = segs ↔ ∀ f ∈ fences segs, g f = f := by
  induction segs with
  | nil => exact ⟨fun _ _ h => absurd h List.not_mem_nil, fun _ => rfl⟩
  | cons s rest ih =>
    rw [List.map_cons, List.cons.injEq, ih]
    cases s with
    | plain t => exact ⟨fun h => h.2, fun h => ⟨rfl, h⟩⟩
    | fence opening source closing =>
      rw [fences_fence, List.forall_mem_cons]
      refine and_congr_left fun _ => ?_
      constructor
      · intro h
        exact Fence.segment_injective h
      · intro h
        rw [exchange, h, Fence.segment]

/-- An exchange leaves a document as it is exactly when it leaves every fence. -/
theorem textOf_exchange_eq_self_iff {g : Fence → Fence}
    (hg : ∀ f : Fence, f.IsProper → (g f).IsProper) :
    textOf ((segments document).map (exchange g)) = document ↔
      ∀ f ∈ fences (segments document), g f = f := by
  rw [← map_exchange_eq_self_iff]
  constructor
  · intro h
    have hs := segments_exchange hg document
    rw [h] at hs
    exact hs.symm
  · intro h
    rw [h]
    exact textOf_segments document

/-- Documents whose fences go together one by one have blocks that go together. -/
theorem forall₂_blocks {R : Text → Text → Text → Text → Prop} {g : Fence → Fence}
    {exchanged : Text} (he : fences (segments exchanged) = (fences (segments document)).map g)
    (hR : ∀ f, R f.text f.source (g f).text (g f).source) :
    List.Forall₂ (fun b b' => R (b.text document) b.source (b'.text exchanged) b'.source)
      (blocks document) (blocks exchanged) := by
  have h : List.Forall₂ (fun p p' : Text × Text => R p.1 p.2 p'.1 p'.2)
      ((blocks document).map fun b => (b.text document, b.source))
      ((blocks exchanged).map fun b => (b.text exchanged, b.source)) := by
    rw [map_blocks, map_blocks, he, List.map_map, List.forall₂_map_left_iff,
      List.forall₂_map_right_iff, List.forall₂_same]
    exact fun f _ => hR f
  rw [List.forall₂_map_left_iff, List.forall₂_map_right_iff] at h
  exact h

theorem gapsFrom_exchange (g : Fence → Fence) (segs : List Segment) (gathered : Text) :
    gapsFrom gathered (segs.map (exchange g)) = gapsFrom gathered segs := by
  induction segs generalizing gathered with
  | nil => rfl
  | cons s rest ih =>
    cases s with
    | plain t => exact ih (gathered ++ t)
    | fence opening source closing => exact congrArg (gathered :: ·) (ih [])

end Document

end QueryFence
