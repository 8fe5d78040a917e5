import Mathlib.Data.List.TakeWhile
import QueryFence.Fence

/-!
What the scan of a document gives. `IsScanned` says which lists of segments it can give, line by line;
such a list is what the scan of its own text gives, so segments may be exchanged in it and the new text
falls into the new segments.
-/

namespace QueryFence.Document

/-- A line with its line feed. -/
def IsEnded (line : Text) : Prop := ∃ l, '\n' ∉ l ∧ line = l ++ ['\n']

theorem rawLines_of_not_mem {l : Text} (hn : '\n' ∉ l) (hne : l ≠ []) : rawLines l = [l] := by
  induction l with
  | nil => exact absurd rfl hne
  | cons c l ih =>
    have hc : c ≠ '\n' := fun he => hn (he ▸ List.mem_cons_self)
    rw [rawLines, if_neg hc]
    cases l with
    | nil => rfl
    | cons d l => rw [ih (fun h => hn (List.mem_cons_of_mem c h)) (List.cons_ne_nil d l)]

theorem rawLines_append {line : Text} (h : IsEnded line) (rest : Text) :
    rawLines (line ++ rest) = line :: rawLines rest := by
  obtain ⟨l, hn, rfl⟩ := h
  induction l with
  | nil => rw [List.nil_append, List.singleton_append, rawLines, if_pos rfl]
  | cons c l ih =>
    have hc : c ≠ '\n' := fun he => hn (he ▸ List.mem_cons_self)
    rw [List.cons_append, List.cons_append, rawLines, if_neg hc,
      ih fun h => hn (List.mem_cons_of_mem c h)]

theorem rawLines_flatten_append {lines : List Text} (h : ∀ line ∈ lines, IsEnded line)
    (rest : Text) : rawLines (lines.flatten ++ rest) = lines ++ rawLines rest := by
  induction lines with
  | nil => rfl
  | cons line lines ih =>
    rw [List.flatten_cons, List.append_assoc, rawLines_append (h line List.mem_cons_self),
      ih fun l hl => h l (List.mem_cons_of_mem line hl), List.cons_append]

theorem flatten_rawLines (document : Text) : (rawLines document).flatten = document := by
  induction document with
  | nil => rfl
  | cons c rest ih =>
    rw [rawLines]
    split
    · next hc => rw [List.flatten_cons, ih, hc, List.singleton_append]
    · split
      · next hr =>
        rw [hr] at ih
        rw [← ih]
        rfl
      · next l ls hr =>
        rw [hr] at ih
        rw [← ih]
        rfl

/-- A document is empty, or one line without a line feed, or a line before a document. -/
@[elab_as_elim]
theorem byLines {P : Text → Prop} (nil : P []) (last : ∀ l, l ≠ [] → '\n' ∉ l → P l)
    (line : ∀ l rest, IsEnded l → P rest → P (l ++ rest)) (d : Text) : P d := by
  -- The line before the first line feed is put in front of an induction on the characters.
  have h : ∀ l, '\n' ∉ l → P (l ++ d) := by
    induction d with
    | nil =>
      intro l hn
      rw [List.append_nil]
      by_cases hl : l = []
      · rw [hl]
        exact nil
      · exact last l hl hn
    | cons c d ih =>
      intro l hn
      by_cases hc : c = '\n'
      · subst hc
        have hd : P d := ih [] List.not_mem_nil
        rw [List.append_cons]
        exact line (l ++ ['\n']) d ⟨l, hn, rfl⟩ hd
      · rw [List.append_cons]
        apply ih
        intro hm
        rcases List.mem_append.1 hm with hm | hm
        · exact hn hm
        · exact hc (List.mem_singleton.1 hm).symm
  exact h [] List.not_mem_nil

theorem IsEnded.of_isOpening {line : Text} (h : isOpening line = true) : IsEnded line := by
  rw [isOpening, Bool.and_eq_true, List.isPrefixOf_iff_prefix, beq_iff_eq] at h
  obtain ⟨⟨padded, rfl⟩, hp⟩ := h
  rw [List.drop_left] at hp
  have hs := List.takeWhile_append_dropWhile (p := isPad) (l := padded)
  rw [hp] at hs
  refine ⟨fenceMark ++ fenceLanguage ++ padded.takeWhile isPad, ?_, ?_⟩
  · intro hm
    rcases List.mem_append.1 hm with hm | hm
    · revert hm
      decide
    · have hb : isPad '\n' = true := List.mem_takeWhile_imp hm
      revert hb
      decide
  · rw [List.append_assoc _ _ ['\n'], hs]

theorem isOpening_of_not_mem {l : Text} (hn : '\n' ∉ l) : isOpening l = false := by
  apply Bool.eq_false_iff.2
  intro ho
  obtain ⟨t, -, rfl⟩ := IsEnded.of_isOpening ho
  exact hn (List.mem_append_right t List.mem_cons_self)

theorem isClosing_append_lineFeed (l : Text) : isClosing (l ++ ['\n']) = isClosing l := by
  have hp : List.isPrefixOf fenceMark (l ++ ['\n']) = List.isPrefixOf fenceMark l := by
    rw [Bool.eq_iff_iff, List.isPrefixOf_iff_prefix, List.isPrefixOf_iff_prefix,
      List.prefix_concat_iff]
    refine or_iff_right fun he => ?_
    have hm : '\n' ∈ fenceMark := he ▸ List.mem_append_right l List.mem_cons_self
    revert hm
    decide
  rw [isClosing, isClosing, hp]
  cases hm : List.isPrefixOf fenceMark l with
  | false => rfl
  | true =>
    obtain ⟨rest, rfl⟩ := List.isPrefixOf_iff_prefix.1 hm
    rw [List.append_assoc, List.drop_left, List.drop_left, List.dropWhile_append]
    split
    · next he =>
      rw [List.isEmpty_iff.1 he]
      rfl
    · rw [List.all_append]
      exact congrArg _ (Bool.and_true _)

/-- Whole lines none of which closes a fence. -/
def IsInside (source : Text) : Prop :=
  ∃ ls : List Text, source = ls.flatten ∧ ∀ line ∈ ls, IsEnded line ∧ isClosing line = false

theorem IsInside.nil : IsInside [] := ⟨[], rfl, fun _ h => absurd h List.not_mem_nil⟩

theorem IsInside.append {source line : Text} (h : IsInside source) (hl : IsEnded line)
    (hc : isClosing line = false) : IsInside (source ++ line) := by
  obtain ⟨ls, rfl, hs⟩ := h
  refine ⟨ls ++ [line], by rw [List.flatten_concat], fun l hm => ?_⟩
  rcases List.mem_append.1 hm with hm | hm
  · exact hs l hm
  · rw [List.mem_singleton.1 hm]
    exact ⟨hl, hc⟩

theorem IsInside.rawLines_append {source rest : Text} (h : IsInside source)
    (hr : ∀ line ∈ rawLines rest, isClosing line = false) :
    ∀ line ∈ rawLines (source ++ rest), isClosing line = false := by
  obtain ⟨ls, rfl, hs⟩ := h
  rw [rawLines_flatten_append fun line hm => (hs line hm).1]
  intro line hm
  rcases List.mem_append.1 hm with hm | hm
  · exact (hs line hm).2
  · exact hr line hm

/-- The parts of a search fence. -/
structure Fence where
  opening : Text
  source : Text
  closing : Text
deriving DecidableEq, Repr

namespace Fence

def segment (f : Fence) : Segment := .fence f.opening f.source f.closing

theorem segment_injective : Function.Injective segment := by
  rintro ⟨opening, source, closing⟩ ⟨opening', source', closing'⟩ h
  cases h
  rfl

def text (f : Fence) : Text := f.opening ++ f.source ++ f.closing

/-- An opening line, further lines none of which closes it, and a closing line without its line
feed. -/
structure IsProper (f : Fence) : Prop where
  opens : isOpening f.opening = true
  inside : IsInside f.source
  closes : isClosing f.closing = true
  one_line : '\n' ∉ f.closing

theorem IsProper.closing_ne_nil {f : Fence} (h : f.IsProper) : f.closing ≠ [] := by
  intro he
  have hc := h.closes
  rw [he] at hc
  exact absurd hc (by decide)

end Fence

/-- The lists of segments that a scan can give. -/
inductive IsScanned : List Segment → Prop
  | nil : IsScanned []
  | line {l : Text} {rest : List Segment} (hl : IsEnded l) (ho : isOpening l = false)
      (h : IsScanned rest) : IsScanned (.plain l :: rest)
  | lastLine {l : Text} (hne : l ≠ []) (hn : '\n' ∉ l) : IsScanned [.plain l]
  /-- A fence that is never closed. -/
  | unclosed {opening rest : Text} (ho : isOpening opening = true)
      (hc : ∀ line ∈ rawLines rest, isClosing line = false) : IsScanned [.plain (opening ++ rest)]
  | fence {f : Fence} {rest : List Segment} (h : f.IsProper) (hr : IsScanned rest) :
      IsScanned (f.segment :: .plain ['\n'] :: rest)
  | lastFence {f : Fence} (h : f.IsProper) : IsScanned [f.segment]

/-- The document that segments come from. -/
def textOf (segments : List Segment) : Text := segments.flatMap Segment.text

@[simp] theorem textOf_nil : textOf [] = [] := rfl

theorem textOf_cons (s : Segment) (rest : List Segment) :
    textOf (s :: rest) = s.text ++ textOf rest := List.flatMap_cons

theorem textOf_singleton (s : Segment) : textOf [s] = s.text := List.flatMap_singleton _ _

theorem takeWhile_of_not_mem {l : Text} (hn : '\n' ∉ l) : l.takeWhile (· != '\n') = l :=
  List.takeWhile_eq_self_iff.2 fun _ hc => bne_iff_ne.2 fun he => hn (he ▸ hc)

variable {opening source : Text} {rest : List Text}

theorem segmentsFrom_line {l : Text} (ho : isOpening l = false) :
    segmentsFrom none (l :: rest) = .plain l :: segmentsFrom none rest := by
  rw [segmentsFrom, if_neg (by rw [ho]; exact Bool.false_ne_true)]

theorem segmentsFrom_opening {l : Text} (ho : isOpening l = true) :
    segmentsFrom none (l :: rest) = segmentsFrom (some (l, [])) rest := by
  rw [segmentsFrom, if_pos ho]

theorem segmentsFrom_inside {l : Text} (hc : isClosing l = false) :
    segmentsFrom (some (opening, source)) (l :: rest) =
      segmentsFrom (some (opening, source ++ l)) rest := by
  rw [segmentsFrom, if_neg (by rw [hc]; exact Bool.false_ne_true)]

/-- A line without a line feed closes a fence at the end of the document. -/
theorem segmentsFrom_lastClosing {l : Text} (hc : isClosing l = true) (hn : '\n' ∉ l) :
    segmentsFrom (some (opening, source)) (l :: rest) =
      .fence opening source l :: segmentsFrom none rest := by
  have hl : l.contains '\n' = false := by
    rw [List.contains_eq_mem, decide_eq_false_iff_not]
    exact hn
  rw [segmentsFrom, if_pos hc, takeWhile_of_not_mem hn, lineFeedOf, hl,
    if_neg Bool.false_ne_true, List.nil_append]

theorem segmentsFrom_closing {l : Text} (hc : isClosing l = true) (hn : '\n' ∉ l) :
    segmentsFrom (some (opening, source)) ((l ++ ['\n']) :: rest) =
      .fence opening source l :: .plain ['\n'] :: segmentsFrom none rest := by
  have hl : (l ++ ['\n']).contains '\n' = true := by
    rw [List.contains_eq_mem, decide_eq_true_eq]
    exact List.mem_append_right l List.mem_cons_self
  have ht : (l ++ ['\n']).takeWhile (· != '\n') = l := by
    rw [List.takeWhile_append, takeWhile_of_not_mem hn, if_pos rfl,
      List.takeWhile_cons_of_neg (by decide), List.append_nil]
  rw [segmentsFrom, if_pos (by rw [isClosing_append_lineFeed, hc]), ht, lineFeedOf, hl, if_pos rfl,
    List.singleton_append]

theorem segmentsFrom_inside_append {lines : List Text}
    (h : ∀ line ∈ lines, isClosing line = false) :
    segmentsFrom (some (opening, source)) (lines ++ rest) =
      segmentsFrom (some (opening, source ++ lines.flatten)) rest := by
  induction lines generalizing source with
  | nil => rw [List.nil_append, List.flatten_nil, List.append_nil]
  | cons line lines ih =>
    rw [List.cons_append, segmentsFrom_inside (h line List.mem_cons_self),
      ih fun l hl => h l (List.mem_cons_of_mem line hl), List.flatten_cons, List.append_assoc]

/-- A scan gives its document back, and the lines of an open fence with it. -/
theorem textOf_segments (document : Text) : textOf (segments document) = document := by
  suffices h : textOf (segmentsFrom none (rawLines document)) = document ∧
      ∀ opening source, textOf (segmentsFrom (some (opening, source)) (rawLines document)) =
        opening ++ source ++ document from h.1
  induction document using byLines with
  | nil =>
    refine ⟨rfl, fun opening source => ?_⟩
    rw [rawLines, segmentsFrom, textOf_cons, Segment.text, textOf_nil]
  | last l hne hn =>
    rw [rawLines_of_not_mem hn hne]
    constructor
    · rw [segmentsFrom_line (isOpening_of_not_mem hn)]
      exact List.append_nil l
    · intro opening source
      cases hc : isClosing l with
      | true =>
        rw [segmentsFrom_lastClosing hc hn, textOf_cons]
        exact List.append_nil _
      | false =>
        rw [segmentsFrom_inside hc, segmentsFrom, textOf_cons, List.append_assoc opening source l]
        exact List.append_nil _
  | line line rest hl ih =>
    rw [rawLines_append hl]
    constructor
    · cases ho : isOpening line with
      | true =>
        rw [segmentsFrom_opening ho, ih.2, List.append_nil]
      | false =>
        rw [segmentsFrom_line ho, textOf_cons, ih.1, Segment.text]
    · intro opening source
      cases hc : isClosing line with
      | true =>
        obtain ⟨l, hn, rfl⟩ := hl
        rw [isClosing_append_lineFeed] at hc
        rw [segmentsFrom_closing hc hn, textOf_cons, textOf_cons, ih.1, Segment.text, Segment.text]
        simp only [List.append_assoc]
      | false =>
        rw [segmentsFrom_inside hc, ih.2]
        simp only [List.append_assoc]

theorem isScanned_segments (document : Text) : IsScanned (segments document) := by
  suffices h : IsScanned (segmentsFrom none (rawLines document)) ∧
      ∀ opening source, isOpening opening = true → IsInside source →
        IsScanned (segmentsFrom (some (opening, source)) (rawLines document)) from h.1
  induction document using byLines with
  | nil =>
    refine ⟨.nil, fun opening source ho hs => .unclosed ho ?_⟩
    rw [← List.append_nil source]
    exact hs.rawLines_append (fun _ h => absurd h List.not_mem_nil)
  | last l hne hn =>
    rw [rawLines_of_not_mem hn hne]
    constructor
    · rw [segmentsFrom_line (isOpening_of_not_mem hn)]
      exact .lastLine hne hn
    · intro opening source ho hs
      cases hc : isClosing l with
      | true =>
        rw [segmentsFrom_lastClosing hc hn]
        exact .lastFence (f := ⟨opening, source, l⟩) ⟨ho, hs, hc, hn⟩
      | false =>
        rw [segmentsFrom_inside hc]
        apply IsScanned.unclosed ho
        apply hs.rawLines_append
        rw [rawLines_of_not_mem hn hne]
        intro line hm
        rw [List.mem_singleton.1 hm]
        exact hc
  | line line rest hl ih =>
    rw [rawLines_append hl]
    constructor
    · cases ho : isOpening line with
      | true =>
        rw [segmentsFrom_opening ho]
        exact ih.2 line [] ho .nil
      | false =>
        rw [segmentsFrom_line ho]
        exact .line hl ho ih.1
    · intro opening source ho hs
      cases hc : isClosing line with
      | true =>
        obtain ⟨l, hn, rfl⟩ := hl
        rw [isClosing_append_lineFeed] at hc
        rw [segmentsFrom_closing hc hn]
        exact .fence (f := ⟨opening, source, l⟩) ⟨ho, hs, hc, hn⟩ ih.1
      | false =>
        rw [segmentsFrom_inside hc]
        exact ih.2 opening (source ++ line) ho (hs.append hl hc)

/-- The lines of a fence, scanned from its opening line. -/
theorem Fence.IsProper.segmentsFrom_append {f : Fence} (h : f.IsProper) (rest : Text) :
    segmentsFrom none (rawLines (f.opening ++ f.source ++ rest)) =
      segmentsFrom (some (f.opening, f.source)) (rawLines rest) := by
  obtain ⟨ls, hs, hl⟩ := h.inside
  rw [hs, List.append_assoc, rawLines_append (.of_isOpening h.opens),
    rawLines_flatten_append fun line hm => (hl line hm).1, segmentsFrom_opening h.opens,
    segmentsFrom_inside_append fun line hm => (hl line hm).2, List.nil_append]

/-- A list that a scan can give is what the scan of its own text gives. -/
theorem segments_textOf {segs : List Segment} (h : IsScanned segs) :
    segments (textOf segs) = segs := by
  rw [segments]
  induction h with
  | nil => rfl
  | @line l rest hl ho h ih =>
    rw [textOf_cons, Segment.text, rawLines_append hl, segmentsFrom_line ho, ih]
  | @lastLine l hne hn =>
    rw [textOf_singleton, Segment.text, rawLines_of_not_mem hn hne,
      segmentsFrom_line (isOpening_of_not_mem hn), segmentsFrom]
  | @unclosed opening rest ho hc =>
    rw [textOf_singleton, Segment.text, rawLines_append (.of_isOpening ho), segmentsFrom_opening ho,
      ← List.append_nil (rawLines rest), segmentsFrom_inside_append hc, List.nil_append,
      flatten_rawLines, segmentsFrom]
  | @fence f rest h hr ih =>
    have hl : IsEnded (f.closing ++ ['\n']) := ⟨f.closing, h.one_line, rfl⟩
    rw [textOf_cons, textOf_cons, Fence.segment, Segment.text, Segment.text,
      List.append_assoc _ f.closing, ← List.append_assoc f.closing, h.segmentsFrom_append,
      rawLines_append hl, segmentsFrom_closing h.closes h.one_line, ih]
  | @lastFence f h =>
    rw [textOf_singleton, Fence.segment, Segment.text, h.segmentsFrom_append,
      rawLines_of_not_mem h.one_line h.closing_ne_nil,
      segmentsFrom_lastClosing h.closes h.one_line, segmentsFrom]

/-- A segment with another fence in the place of its fence. -/
def exchange (g : Fence → Fence) : Segment → Segment
  | .plain t => .plain t
  | .fence opening source closing => (g ⟨opening, source, closing⟩).segment

theorem IsScanned.exchange {g : Fence → Fence} (hg : ∀ f : Fence, f.IsProper → (g f).IsProper)
    {segs : List Segment} (h : IsScanned segs) : IsScanned (segs.map (Document.exchange g)) := by
  induction h with
  | nil => exact .nil
  | line hl ho h ih => exact .line hl ho ih
  | lastLine hne hn => exact .lastLine hne hn
  | unclosed ho hc => exact .unclosed ho hc
  | fence h hr ih => exact .fence (hg _ h) ih
  | lastFence h => exact .lastFence (hg _ h)

/-- When the fences of a document are exchanged for fences, its text falls into the new ones and what
was outside the old ones. -/
theorem segments_exchange {g : Fence → Fence} (hg : ∀ f : Fence, f.IsProper → (g f).IsProper)
    (document : Text) :
    segments (textOf ((segments document).map (exchange g))) =
      (segments document).map (exchange g) :=
  segments_textOf ((isScanned_segments document).exchange hg)

end QueryFence.Document
