import Mathlib.Data.List.Pairwise
import Mathlib.Data.List.Sort
import QueryFence.Proofs.Document.Fenced

/-!
Where the search blocks of a document stand. `IsScan` says which places they may have: each is a fence of
whole lines, they follow each other, and behind an opening line that they leave out nothing closes any
more. There is just one such list for a document, and the scan gives it.
-/

namespace QueryFence.Document

/-- Whether a line starts at a place: the first of all, or one behind a line feed. -/
def StartsLine (document : Text) (place : Nat) : Prop :=
  place = 0 ∨ document[place - 1]? = some '\n'

/-- Whether a line ends at a place, before a line feed or with the document. -/
def EndsLine (document : Text) (place : Nat) : Prop :=
  place = document.length ∨ document[place]? = some '\n'

/-- A text of whole lines, if any. -/
def IsWhole (t : Text) : Prop := t = [] ∨ t.getLast? = some '\n'

/-- Nothing but blanks and tabs. -/
def IsPadding (t : Text) : Prop := ∀ c ∈ t, c = ' ' ∨ c = '\t'

/-- Whether an opening line starts at a place. -/
def OpensAt (document : Text) (place : Nat) : Prop :=
  StartsLine document place ∧ ∃ padding, IsPadding padding ∧
    fenceMark ++ fenceLanguage ++ padding ++ ['\n'] <+: document.drop place

/-- Whether a line starts at a place that is a fence mark with nothing but padding behind it. -/
def ClosesAt (document : Text) (place : Nat) : Prop :=
  StartsLine document place ∧ ∃ padding, IsPadding padding ∧
    (document.drop place).takeWhile (· != '\n') = fenceMark ++ padding

/-- A block of a document: an opening line, the lines of its source, none of which closes it, and a closing
line. -/
structure IsBlock (document : Text) (b : SearchBlock) : Prop where
  stop_le : b.stop ≤ document.length
  text : ∃ padding padding', IsPadding padding ∧ IsPadding padding' ∧ b.text document =
    fenceMark ++ fenceLanguage ++ padding ++ ['\n'] ++ b.source ++ (fenceMark ++ padding')
  starts : StartsLine document b.start
  ends : EndsLine document b.stop
  whole : IsWhole b.source
  leavesOpen : LeavesOpen b.source

/-- Blocks of a document, each behind the one before, that leave out no line which opens a block. -/
structure IsScan (document : Text) (bs : List SearchBlock) : Prop where
  blocks : ∀ b ∈ bs, IsBlock document b
  ordered : bs.Pairwise fun a b => a.stop ≤ b.start
  complete : ∀ place, OpensAt document place → (∀ b ∈ bs, ¬ (b.start ≤ place ∧ place < b.stop)) →
    ∀ later, place < later → ¬ ClosesAt document later

section Lines

variable {before behind line rest l : Text} {place : Nat}

theorem isWhole_concat (l : Text) : IsWhole (l ++ ['\n']) :=
  .inr (List.getLast?_eq_some_iff.2 ⟨l, rfl⟩)

theorem IsEnded.isWhole (h : IsEnded line) : IsWhole line := by
  obtain ⟨l, -, rfl⟩ := h
  exact isWhole_concat l

theorem IsWhole.append (hb : IsWhole before) (hr : IsWhole rest) : IsWhole (before ++ rest) := by
  rcases hr with rfl | hr
  · rwa [List.append_nil]
  · exact .inr (by rw [List.getLast?_append, hr]; rfl)

/-- Behind whole lines the lines start where they start in what follows. -/
theorem IsWhole.startsLine_iff (h : IsWhole before) :
    StartsLine (before ++ rest) (before.length + place) ↔ StartsLine rest place := by
  cases place with
  | zero =>
    refine iff_of_true ?_ (.inl rfl)
    rcases h with rfl | h
    · exact .inl rfl
    · obtain ⟨l, rfl⟩ := List.getLast?_eq_some_iff.1 h
      right
      rw [List.append_assoc, List.length_append, List.getElem?_append_right (by simp)]
      simp
  | succ place =>
    have hget : (before ++ rest)[before.length + place]? = rest[place]? := by
      rw [List.getElem?_append_right (Nat.le_add_right _ _), Nat.add_sub_cancel_left]
    simp only [StartsLine, ← Nat.add_assoc, Nat.add_sub_cancel, hget, Nat.add_one_ne_zero, false_or]

theorem IsWhole.opensAt_iff (h : IsWhole before) :
    OpensAt (before ++ rest) (before.length + place) ↔ OpensAt rest place := by
  rw [OpensAt, OpensAt, h.startsLine_iff, List.drop_length_add_append]

theorem IsWhole.closesAt_iff (h : IsWhole before) :
    ClosesAt (before ++ rest) (before.length + place) ↔ ClosesAt rest place := by
  rw [ClosesAt, ClosesAt, h.startsLine_iff, List.drop_length_add_append]

/-- Behind a text without line feeds no line starts, until one comes. -/
theorem length_lt_of_startsLine (hn : '\n' ∉ l) (hs : StartsLine (l ++ rest) place) (hp : 0 < place) :
    l.length < place := by
  rcases hs with rfl | hs
  · exact absurd hp (Nat.lt_irrefl 0)
  · by_contra hle
    rw [List.getElem?_append_left (by omega)] at hs
    exact hn (List.mem_of_getElem? hs)

/-- The second line starts behind the first one. -/
theorem IsEnded.exists_place (h : IsEnded line) (hs : StartsLine (line ++ rest) place)
    (hp : 0 < place) : ∃ further, place = line.length + further := by
  obtain ⟨l, hn, rfl⟩ := h
  rw [List.append_assoc] at hs
  have hlt := length_lt_of_startsLine hn hs hp
  refine ⟨place - (l ++ ['\n']).length, ?_⟩
  rw [List.length_append, List.length_singleton]
  omega

theorem takeWhile_append_lineFeed (hn : '\n' ∉ l) (rest : Text) :
    (l ++ '\n' :: rest).takeWhile (· != '\n') = l := by
  have hl : ∀ c ∈ l, (c != '\n') = true := fun c hc => bne_iff_ne.2 fun he => hn (he ▸ hc)
  rw [List.takeWhile_append_of_pos hl, List.takeWhile_cons_of_neg (by decide), List.append_nil]

theorem IsEnded.eq_of_isPrefix (hb : IsEnded before) (h : IsEnded line)
    (hp : before <+: line ++ rest) : before = line := by
  obtain ⟨l, hn, rfl⟩ := hb
  obtain ⟨l', hn', rfl⟩ := h
  obtain ⟨more, he⟩ := hp
  have hl := congrArg (List.takeWhile (· != '\n')) he
  rw [List.append_assoc, List.append_assoc, List.singleton_append, List.singleton_append,
    takeWhile_append_lineFeed hn, takeWhile_append_lineFeed hn'] at hl
  rw [hl]

theorem isOpening_iff : isOpening line = true ↔ ∃ padding, IsPadding padding ∧
    line = fenceMark ++ fenceLanguage ++ padding ++ ['\n'] := by
  rw [isOpening, Bool.and_eq_true, List.isPrefixOf_iff_prefix, beq_iff_eq]
  constructor
  · rintro ⟨⟨padded, rfl⟩, hp⟩
    rw [List.drop_left] at hp
    refine ⟨padded.takeWhile isPad, fun c hc => isPad_iff.1 (List.mem_takeWhile_imp hc), ?_⟩
    rw [List.append_assoc _ _ ['\n'], ← hp, List.takeWhile_append_dropWhile]
  · rintro ⟨padding, hp, rfl⟩
    rw [List.append_assoc]
    refine ⟨List.prefix_append _ _, ?_⟩
    rw [List.drop_left, List.dropWhile_append_of_pos fun c hc => isPad_iff.2 (hp c hc)]
    rfl

theorem IsEnded.opensAt_zero_iff (h : IsEnded line) :
    OpensAt (line ++ rest) 0 ↔ isOpening line = true := by
  constructor
  · rintro ⟨-, padding, hp, hprefix⟩
    have ho : isOpening (fenceMark ++ fenceLanguage ++ padding ++ ['\n']) = true :=
      isOpening_iff.2 ⟨padding, hp, rfl⟩
    rwa [(IsEnded.of_isOpening ho).eq_of_isPrefix h hprefix] at ho
  · intro ho
    obtain ⟨padding, hp, rfl⟩ := isOpening_iff.1 ho
    exact ⟨.inl rfl, padding, hp, List.prefix_append _ _⟩

theorem OpensAt.lineFeed_mem (h : OpensAt before place) : '\n' ∈ before.drop place := by
  obtain ⟨-, padding, -, hprefix⟩ := h
  exact hprefix.subset (List.mem_append_right _ (List.mem_singleton_self _))

theorem OpensAt.lt_length (h : OpensAt before place) : place < before.length := by
  by_contra hle
  have hm := h.lineFeed_mem
  rw [List.drop_eq_nil_iff.2 (Nat.not_lt.1 hle)] at hm
  cases hm

/-- Whether a text is empty or starts with a line feed. -/
def IsBoundary (behind : Text) : Prop := behind = [] ∨ ∃ rest, behind = '\n' :: rest

theorem endsLine_iff : EndsLine before place ∧ place ≤ before.length ↔
    IsBoundary (before.drop place) ∧ place ≤ before.length := by
  refine and_congr_left fun hle => ?_
  constructor
  · rintro (rfl | hfeed)
    · exact .inl (List.drop_length)
    · exact .inr ⟨_, (List.drop_eq_getElem_cons (List.getElem?_eq_some_iff.1 hfeed).1).trans
        (by rw [(List.getElem?_eq_some_iff.1 hfeed).2])⟩
  · rintro (hnil | ⟨rest, hfeed⟩)
    · exact .inl (Nat.le_antisymm hle (List.drop_eq_nil_iff.1 hnil))
    · refine .inr ?_
      rw [← List.head?_drop, hfeed, List.head?_cons]

theorem StartsLine.isWhole_take (h : StartsLine before place) : IsWhole (before.take place) := by
  rcases h with rfl | h
  · exact .inl List.take_zero
  · by_cases hz : place = 0
    · exact .inl (by rw [hz, List.take_zero])
    · exact .inr (by rw [List.getLast?_take, if_neg hz, h, Option.some_or])

theorem takeWhile_append_of_isBoundary (hn : '\n' ∉ l) (hb : IsBoundary behind) :
    (l ++ behind).takeWhile (· != '\n') = l := by
  rcases hb with rfl | ⟨rest, rfl⟩
  · rw [List.append_nil, takeWhile_of_not_mem hn]
  · exact takeWhile_append_lineFeed hn rest

theorem closesAt_zero_iff (hn : '\n' ∉ l) (hb : IsBoundary behind) :
    ClosesAt (l ++ behind) 0 ↔ isClosing l = true := by
  rw [isClosing_of_not_mem hn, ClosesAt, List.drop_zero, takeWhile_append_of_isBoundary hn hb]
  exact and_iff_right (.inl rfl)

/-- Where no line closes a fence, none does at any place. -/
theorem not_closesAt {document : Text} (h : ∀ line ∈ rawLines document, isClosing line = false)
    (place : Nat) : ¬ ClosesAt document place := by
  induction document using byLines generalizing place with
  | nil =>
    rintro ⟨-, padding, -, hline⟩
    rw [List.drop_nil] at hline
    cases hline
  | last l hne hn =>
    intro hc
    rw [rawLines_of_not_mem hn hne, List.forall_mem_singleton] at h
    rcases Nat.eq_zero_or_pos place with rfl | hp
    · have hclosing := (closesAt_zero_iff hn (.inl rfl)).1 ((List.append_nil l).symm ▸ hc)
      rw [h] at hclosing
      cases hclosing
    · have hs : StartsLine (l ++ []) place := (List.append_nil l).symm ▸ hc.1
      have hlt := length_lt_of_startsLine hn hs hp
      obtain ⟨-, padding, -, hline⟩ := hc
      rw [List.drop_eq_nil_iff.2 hlt.le] at hline
      cases hline
  | line line rest hl ih =>
    intro hc
    rw [rawLines_append hl, List.forall_mem_cons] at h
    rcases Nat.eq_zero_or_pos place with rfl | hp
    · obtain ⟨l, hn, rfl⟩ := hl
      rw [List.append_assoc, List.singleton_append, closesAt_zero_iff hn (.inr ⟨rest, rfl⟩)] at hc
      rw [isClosing_append_lineFeed, hc] at h
      cases h.1
    · obtain ⟨further, rfl⟩ := hl.exists_place hc.1 hp
      exact ih h.2 further (hl.isWhole.closesAt_iff.1 hc)

end Lines

section Sources

variable {source : Text}

theorem splitOn_concat_lineFeed_subset (source : Text) :
    source.splitOn '\n' ⊆ (source ++ ['\n']).splitOn '\n' := by
  induction source using byLines with
  | nil => decide
  | last l hne hn =>
    rw [List.splitOn_eq_singleton hn, List.splitOn_append_cons_self_of_not_mem hn]
    exact List.cons_subset_cons l (List.nil_subset _)
  | line line rest hl ih =>
    obtain ⟨l, hn, rfl⟩ := hl
    rw [List.append_assoc, List.append_assoc, List.append_assoc, List.singleton_append,
      List.singleton_append, List.splitOn_append_cons_self_of_not_mem hn,
      List.splitOn_append_cons_self_of_not_mem hn]
    exact List.cons_subset_cons _ ih

theorem isInside_iff : IsInside source ↔ IsWhole source ∧ LeavesOpen source := by
  constructor
  · rintro ⟨ls, rfl, hls⟩
    induction ls with
    | nil => exact ⟨.inl rfl, by decide⟩
    | cons line ls ih =>
      obtain ⟨hl, hls⟩ := List.forall_mem_cons.1 hls
      obtain ⟨hwhole, hopen⟩ := ih hls
      refine ⟨hl.1.isWhole.append hwhole, ?_⟩
      obtain ⟨⟨l, hn, rfl⟩, hc⟩ := hl
      rw [isClosing_append_lineFeed] at hc
      rw [leavesOpen_iff, List.flatten_cons, List.append_assoc, List.singleton_append,
        List.splitOn_append_cons_self_of_not_mem hn, List.forall_mem_cons]
      exact ⟨hc, leavesOpen_iff.1 hopen⟩
  · rintro ⟨rfl | hlast, hopen⟩
    · exact .nil
    · obtain ⟨l, rfl⟩ := List.getLast?_eq_some_iff.1 hlast
      have hl : LeavesOpen l := fun padding hp hm =>
        hopen padding hp (splitOn_concat_lineFeed_subset l hm)
      exact hl.isInside

end Sources

section Fences

variable {f f' : Fence} {document before before' behind behind' rest : Text} {place : Nat}

theorem Fence.IsProper.isWhole (h : f.IsProper) : IsWhole (f.opening ++ f.source) :=
  (IsEnded.of_isOpening h.opens).isWhole.append (isInside_iff.1 h.inside).1

theorem Fence.IsProper.text_pos (h : f.IsProper) : 0 < f.text.length := by
  rw [Fence.text, List.length_append]
  exact Nat.add_pos_right _ (List.length_pos_iff.2 h.closing_ne_nil)

/-- No line starts right behind the closing line of a fence. -/
theorem Fence.IsProper.length_lt (h : f.IsProper) (hs : StartsLine (f.text ++ rest) place)
    (hle : f.text.length ≤ place) : f.text.length < place := by
  have hlength : f.text.length = (f.opening ++ f.source).length + f.closing.length :=
    List.length_append
  have hpos : 0 < f.closing.length := List.length_pos_iff.2 h.closing_ne_nil
  obtain ⟨further, rfl⟩ := Nat.exists_eq_add_of_le (show (f.opening ++ f.source).length ≤ place by omega)
  rw [Fence.text, List.append_assoc _ f.closing, h.isWhole.startsLine_iff] at hs
  have hlt := length_lt_of_startsLine h.one_line hs (by omega)
  omega

theorem Fence.IsProper.opensAt (h : f.IsProper) (hb : IsWhole before) :
    OpensAt (before ++ (f.text ++ behind)) before.length := by
  have hat := @IsWhole.opensAt_iff before (f.text ++ behind) 0 hb
  rw [Nat.add_zero] at hat
  rw [hat, Fence.text, List.append_assoc, List.append_assoc,
    (IsEnded.of_isOpening h.opens).opensAt_zero_iff]
  exact h.opens

/-- A fence is closed at a place behind its first one. -/
theorem Fence.IsProper.closesAt (h : f.IsProper) (hb : IsWhole before) (hbehind : IsBoundary behind) :
    ClosesAt (before ++ (f.text ++ behind)) (before.length + (f.opening ++ f.source).length) := by
  have hat := @IsWhole.closesAt_iff (f.opening ++ f.source) (f.closing ++ behind) 0 h.isWhole
  rw [Nat.add_zero] at hat
  rw [hb.closesAt_iff, Fence.text, List.append_assoc _ f.closing, hat,
    closesAt_zero_iff h.one_line hbehind]
  exact h.closes

/-- A fence at the start of a text is the first thing that the scan gives. -/
theorem Fence.IsProper.head?_segments (h : f.IsProper) (hbehind : IsBoundary behind) :
    (segments (f.text ++ behind)).head? = some f.segment := by
  rw [segments, Fence.text, List.append_assoc _ f.closing, h.segmentsFrom_append]
  rcases hbehind with rfl | ⟨rest, rfl⟩
  · rw [List.append_nil, rawLines_of_not_mem h.one_line h.closing_ne_nil,
      segmentsFrom_lastClosing h.closes h.one_line, Fence.segment, List.head?_cons]
  · rw [List.append_cons, rawLines_append ⟨f.closing, h.one_line, rfl⟩,
      segmentsFrom_closing h.closes h.one_line, Fence.segment, List.head?_cons]

end Fences

section Blocks

variable {document : Text} {b b' : SearchBlock}

/-- The blocks are the fences behind whole lines with nothing more in their last line. -/
theorem isBlock_iff : IsBlock document b ↔ ∃ (before : Text) (f : Fence) (behind : Text),
    IsWhole before ∧ f.IsProper ∧ IsBoundary behind ∧ document = before ++ (f.text ++ behind) ∧
      b = ⟨before.length, before.length + f.text.length, f.source⟩ := by
  constructor
  · rintro ⟨hle, ⟨padding, padding', hp, hp', htext⟩, hstarts, hends, hwhole, hopen⟩
    let f : Fence := ⟨fenceMark ++ fenceLanguage ++ padding ++ ['\n'], b.source, fenceMark ++ padding'⟩
    have hone : '\n' ∉ f.closing := by
      intro hm
      rcases List.mem_append.1 hm with hm | hm
      · exact absurd hm (by decide)
      · exact absurd (hp' _ hm) (by decide)
    have hf : f.IsProper := ⟨isOpening_iff.2 ⟨padding, hp, rfl⟩, isInside_iff.2 ⟨hwhole, hopen⟩,
      (isClosing_of_not_mem hone).2 ⟨padding', hp', rfl⟩, hone⟩
    have hft : b.text document = f.text := htext
    have hlength : f.text.length = b.stop - b.start := by
      rw [← hft, SearchBlock.text, List.length_take, List.length_drop]
      omega
    have hpos := hf.text_pos
    refine ⟨document.take b.start, f, document.drop b.stop, hstarts.isWhole_take, hf,
      (endsLine_iff.1 ⟨hends, hle⟩).1, ?_, ?_⟩
    · have hdrop : document.drop b.stop = (document.drop b.start).drop (b.stop - b.start) := by
        rw [List.drop_drop, Nat.add_sub_cancel' (by omega)]
      rw [← hft, SearchBlock.text, hdrop, List.take_append_drop, List.take_append_drop]
    · rw [List.length_take_of_le (by omega), hlength, Nat.add_sub_cancel' (by omega)]
  · rintro ⟨before, f, behind, hb, hf, hbehind, rfl, rfl⟩
    obtain ⟨padding, hp, ho⟩ := isOpening_iff.1 hf.opens
    obtain ⟨padding', hp', hc⟩ := (isClosing_of_not_mem hf.one_line).1 hf.closes
    have hinside := isInside_iff.1 hf.inside
    have hends : (before ++ (f.text ++ behind)).drop (before.length + f.text.length) = behind := by
      rw [List.drop_length_add_append, List.drop_left]
    have hle : before.length + f.text.length ≤ (before ++ (f.text ++ behind)).length := by
      simp only [List.length_append]
      omega
    refine ⟨hle, ⟨padding, padding', hp, hp', ?_⟩, ?_, ?_, hinside.1, hinside.2⟩
    · rw [SearchBlock.text, List.drop_left, Nat.add_sub_cancel_left, List.take_left, Fence.text, ho, hc]
    · exact (hf.opensAt hb).1
    · refine (endsLine_iff.2 ⟨?_, hle⟩).1
      rw [hends]
      exact hbehind

theorem IsBlock.start_lt_stop (h : IsBlock document b) : b.start < b.stop := by
  obtain ⟨before, f, behind, -, hf, -, -, rfl⟩ := isBlock_iff.1 h
  exact Nat.lt_add_of_pos_right hf.text_pos

theorem IsBlock.opensAt (h : IsBlock document b) : OpensAt document b.start := by
  obtain ⟨before, f, behind, hb, hf, -, rfl, rfl⟩ := isBlock_iff.1 h
  exact hf.opensAt hb

theorem IsBlock.exists_closesAt (h : IsBlock document b) :
    ∃ later, b.start < later ∧ ClosesAt document later := by
  obtain ⟨before, f, behind, hb, hf, hbehind, rfl, rfl⟩ := isBlock_iff.1 h
  refine ⟨_, ?_, hf.closesAt hb hbehind⟩
  have hne : f.opening ≠ [] := by
    intro he
    have ho := hf.opens
    rw [he] at ho
    exact absurd ho (by decide)
  have hpos := List.length_pos_iff.2 hne
  rw [List.length_append]
  dsimp only
  omega

theorem IsBlock.eq_of_start (h : IsBlock document b) (h' : IsBlock document b')
    (hs : b.start = b'.start) : b = b' := by
  obtain ⟨before, f, behind, -, hf, hbehind, rfl, rfl⟩ := isBlock_iff.1 h
  obtain ⟨before', f', behind', -, hf', hbehind', he, rfl⟩ := isBlock_iff.1 h'
  obtain ⟨rfl, htext⟩ := List.append_inj he hs
  have hhead := hf.head?_segments hbehind
  rw [htext, hf'.head?_segments hbehind', Option.some_inj] at hhead
  rw [Fence.segment_injective hhead]

theorem IsScan.apart {bs : List SearchBlock} (h : IsScan document bs) (hm : b ∈ bs) (hm' : b' ∈ bs)
    (hne : b ≠ b') : b.stop ≤ b'.start ∨ b'.stop ≤ b.start := by
  let r : SearchBlock → SearchBlock → Prop := fun a b => a.stop ≤ b.start ∨ b.stop ≤ a.start
  have : Std.Symm r := ⟨fun _ _ => Or.symm⟩
  have hr : bs.Pairwise r := h.ordered.imp Or.inl
  exact hr.forall hm hm' hne

/-- A block of one scan is one of another, if the two agree on the blocks that start before it. -/
theorem IsScan.mem_of_mem {bs bs' : List SearchBlock} (h : IsScan document bs)
    (h' : IsScan document bs') (hbefore : ∀ c ∈ bs', c.start < b.start → c ∈ bs) (hm : b ∈ bs) :
    b ∈ bs' := by
  have hb := h.blocks b hm
  by_contra hnot
  obtain ⟨later, hlater, hcloses⟩ := hb.exists_closesAt
  refine h'.complete b.start hb.opensAt ?_ later hlater hcloses
  rintro c hc ⟨hle, hlt⟩
  rcases hle.eq_or_lt with heq | hstart
  · exact hnot ((h'.blocks c hc).eq_of_start hb heq ▸ hc)
  · -- the block around it would be in the first scan too
    have hne : b ≠ c := fun he => hstart.ne (by rw [he])
    have hpos := hb.start_lt_stop
    rcases h.apart hm (hbefore c hc hstart) hne with hstop | hstop <;> omega

theorem IsScan.mem_iff {bs bs' : List SearchBlock} (h : IsScan document bs) (h' : IsScan document bs') :
    b ∈ bs ↔ b ∈ bs' := by
  -- by induction on the start: two scans that agree on what starts earlier agree on this block
  induction hn : b.start using Nat.strong_induction_on generalizing b with
  | _ n ih =>
    subst hn
    constructor
    · exact h.mem_of_mem h' fun c hc hlt => (ih c.start hlt rfl).2 hc
    · exact h'.mem_of_mem h fun c hc hlt => (ih c.start hlt rfl).1 hc

theorem IsScan.unique {bs bs' : List SearchBlock} (h : IsScan document bs) (h' : IsScan document bs') :
    bs = bs' := by
  let r : SearchBlock → SearchBlock → Prop := fun a b => a.start < b.start
  have : Std.Irrefl r := ⟨fun a => Nat.lt_irrefl a.start⟩
  have : Std.Antisymm r := ⟨fun a b hab hba => absurd hba (Nat.lt_asymm hab)⟩
  have hsorted : ∀ {bs}, IsScan document bs → bs.Pairwise r := fun h =>
    h.ordered.imp_of_mem fun ha _ hle => (h.blocks _ ha).start_lt_stop.trans_le hle
  exact (hsorted h).eq_of_mem_iff (hsorted h') fun b => h.mem_iff h'

end Blocks

section Scan

variable {document : Text} {segs rest : List Segment} {b : SearchBlock} {start : Nat}

theorem blocksFrom_segment (f : Fence) (start : Nat) (rest : List Segment) :
    blocksFrom start (f.segment :: rest) =
      ⟨start, start + f.text.length, f.source⟩ :: blocksFrom (start + f.text.length) rest := rfl

theorem le_start_of_mem_blocksFrom (h : b ∈ blocksFrom start segs) : start ≤ b.start := by
  induction segs generalizing start with
  | nil => cases h
  | cons s rest ih =>
    cases s with
    | plain t => exact (Nat.le_add_right _ _).trans (ih h)
    | fence opening source closing =>
      rcases List.mem_cons.1 h with rfl | h
      · exact Nat.le_refl _
      · exact (Nat.le_add_right _ _).trans (ih h)

theorem pairwise_blocksFrom (start : Nat) (segs : List Segment) :
    (blocksFrom start segs).Pairwise fun a b => a.stop ≤ b.start := by
  induction segs generalizing start with
  | nil => exact .nil
  | cons s rest ih =>
    cases s with
    | plain t => exact ih _
    | fence opening source closing =>
      exact List.pairwise_cons.2 ⟨fun b hb => le_start_of_mem_blocksFrom hb, ih _⟩

theorem IsScanned.isBlock (h : IsScanned segs) {before : Text} (hb : IsWhole before) :
    ∀ b ∈ blocksFrom before.length segs, IsBlock (before ++ textOf segs) b := by
  -- the lines that are scanned move from the segments to what stands before them
  induction h generalizing before with
  | nil => exact fun b hm => absurd hm List.not_mem_nil
  | @line l rest hl ho h ih =>
    rw [blocksFrom, ← List.length_append, textOf_cons, ← List.append_assoc]
    exact ih (hb.append hl.isWhole)
  | lastLine hne hn => exact fun b hm => absurd hm List.not_mem_nil
  | unclosed ho hc => exact fun b hm => absurd hm List.not_mem_nil
  | @fence f rest h hr ih =>
    have hwhole : IsWhole (before ++ f.text ++ ['\n']) := isWhole_concat _
    have hrest := ih hwhole
    rw [List.length_append, List.length_append] at hrest
    rw [blocksFrom_segment, blocksFrom, List.forall_mem_cons]
    constructor
    · exact isBlock_iff.2 ⟨before, f, '\n' :: textOf rest, hb, h, .inr ⟨_, rfl⟩, rfl, rfl⟩
    · rw [textOf_cons, textOf_cons, ← List.append_assoc, ← List.append_assoc]
      exact hrest
  | @lastFence f h =>
    rw [blocksFrom_segment, blocksFrom, List.forall_mem_singleton, textOf_singleton]
    exact isBlock_iff.2 ⟨before, f, [], hb, h, .inl rfl, by rw [List.append_nil]; rfl, rfl⟩

/-- An opening line outside the blocks is followed by no closing line. -/
theorem IsScanned.complete (h : IsScanned segs) {place later : Nat} (ho : OpensAt (textOf segs) place)
    (hout : ∀ b ∈ blocksFrom start segs, ¬ (b.start ≤ start + place ∧ start + place < b.stop))
    (hlater : place < later) : ¬ ClosesAt (textOf segs) later := by
  induction h generalizing start place later with
  | nil => exact absurd ho.lt_length (Nat.not_lt_zero _)
  | @line l rest hl hno h ih =>
    rw [textOf_cons, Segment.text] at ho ⊢
    rcases Nat.eq_zero_or_pos place with rfl | hp
    · rw [hl.opensAt_zero_iff, hno] at ho
      cases ho
    · obtain ⟨further, rfl⟩ := hl.exists_place ho.1 hp
      obtain ⟨farther, rfl⟩ := Nat.exists_eq_add_of_le (show l.length ≤ later by omega)
      rw [hl.isWhole.opensAt_iff] at ho
      rw [hl.isWhole.closesAt_iff]
      rw [blocksFrom, ← Nat.add_assoc] at hout
      exact ih ho hout (Nat.lt_of_add_lt_add_left hlater)
  | @lastLine l hne hn =>
    rw [textOf_singleton] at ho
    exact absurd ((List.drop_subset _ _) ho.lineFeed_mem) hn
  | @unclosed opening rest hopens hc =>
    rw [textOf_singleton, Segment.text]
    intro hcloses
    have hended := IsEnded.of_isOpening hopens
    obtain ⟨farther, rfl⟩ := hended.exists_place hcloses.1 (by omega)
    exact not_closesAt hc farther (hended.isWhole.closesAt_iff.1 hcloses)
  | @fence f rest h hr ih =>
    have hwhole : IsWhole (f.text ++ ['\n']) := isWhole_concat _
    have htext : textOf (f.segment :: .plain ['\n'] :: rest) = f.text ++ ['\n'] ++ textOf rest := by
      rw [textOf_cons, textOf_cons, List.append_assoc]
      rfl
    rw [blocksFrom_segment, blocksFrom, List.forall_mem_cons] at hout
    rw [htext] at ho ⊢
    have hlt : f.text.length < place := by
      rw [List.append_assoc] at ho
      refine h.length_lt ho.1 ?_
      have := hout.1
      dsimp only at this
      omega
    have hlength : (f.text ++ ['\n']).length = f.text.length + 1 := List.length_append
    obtain ⟨further, rfl⟩ := Nat.exists_eq_add_of_le (show (f.text ++ ['\n']).length ≤ place by omega)
    obtain ⟨farther, rfl⟩ := Nat.exists_eq_add_of_le (show (f.text ++ ['\n']).length ≤ later by omega)
    rw [hwhole.opensAt_iff] at ho
    rw [hwhole.closesAt_iff]
    rw [hlength, ← Nat.add_assoc, ← Nat.add_assoc] at hout
    exact ih ho hout.2 (Nat.lt_of_add_lt_add_left hlater)
  | @lastFence f h =>
    rw [textOf_singleton] at ho
    have hlt : place < f.text.length := ho.lt_length
    rw [blocksFrom_segment, blocksFrom, List.forall_mem_singleton] at hout
    exact absurd ⟨Nat.le_add_right _ _, Nat.add_lt_add_left hlt _⟩ hout

theorem isScan_blocks (document : Text) : IsScan document (blocks document) := by
  have hscanned := isScanned_segments document
  have htext := textOf_segments document
  refine ⟨?_, pairwise_blocksFrom _ _, ?_⟩
  · have h := @IsScanned.isBlock _ hscanned [] (.inl rfl)
    rw [List.nil_append, htext] at h
    exact h
  · intro place ho hout later hlater
    have h := @IsScanned.complete _ 0 hscanned place later
    rw [htext] at h
    refine h ho ?_ hlater
    rw [Nat.zero_add]
    exact hout

/-- The scan of a document finds the blocks that it has: there is one list of them, and this is it. -/
theorem isScan_iff_eq_blocks {bs : List SearchBlock} : IsScan document bs ↔ bs = blocks document := by
  constructor
  · intro h
    exact h.unique (isScan_blocks document)
  · rintro rfl
    exact isScan_blocks document

end Scan

end QueryFence.Document
