import QueryFence.Proofs.Document.Blocks
import QueryFence.Proofs.Spec.RoundTrip

/-!
A block put between the lines of a fence. The block must not close the fence itself; then the fence is all
that the scan finds, and the line feed before its closing line changes nothing in how the block is read.
-/

namespace QueryFence

namespace Text

/-- A line feed behind a text ends its last line, or opens one more line that is empty. -/
theorem lines_concat_lineFeed (t : Text) :
    lines (t ++ ['\n']) = lines t ∨ lines (t ++ ['\n']) = lines t ++ [[]] := by
  induction t using lines.induct with
  | case1 =>
    right
    exact lines_append_lineFeed (fun _ h => absurd h List.not_mem_nil) []
  | case2 rest ih =>
    rw [List.cons_append, List.cons_append, lines, lines]
    rcases ih with ih | ih
    · left
      rw [ih]
    · right
      rw [ih, List.cons_append]
  | case3 c rest hr he ih =>
    by_cases hc : c = '\r' ∧ rest = []
    · -- the line feed is the second half of the last boundary
      obtain ⟨rfl, rfl⟩ := hc
      left
      rfl
    · have hr' : ∀ rest', c = '\r' → rest ++ ['\n'] = '\n' :: rest' → False := by
        intro rest' hcr hcons
        cases rest with
        | nil => exact hc ⟨hcr, rfl⟩
        | cons d rest =>
          obtain ⟨rfl, -⟩ := List.cons.inj hcons
          exact hr rest hcr rfl
      rw [List.cons_append, lines.eq_3 c _ hr', lines.eq_3 c _ hr, if_pos he, if_pos he]
      rcases ih with ih | ih
      · left
        rw [ih]
      · right
        rw [ih, List.cons_append]
  | case4 c rest hr he hl ih =>
    have hrest : lines (rest ++ ['\n']) = [] ∨ lines (rest ++ ['\n']) = [[]] := by
      rwa [hl] at ih
    rw [List.cons_append, lines_cons_of_not_isLineEnd (Bool.eq_false_iff.2 he),
      lines_cons_of_not_isLineEnd (Bool.eq_false_iff.2 he), hl]
    left
    rcases hrest with hrest | hrest <;> rw [hrest]
  | case5 c rest hr he first others hl ih =>
    rw [hl] at ih
    rw [List.cons_append, lines_cons_of_not_isLineEnd (Bool.eq_false_iff.2 he),
      lines_cons_of_not_isLineEnd (Bool.eq_false_iff.2 he), hl]
    rcases ih with ih | ih
    · left
      rw [ih]
    · right
      rw [ih]
      rfl

/-- Split at a character, a text with that character behind it is its parts, each with the character behind
it. -/
theorem flatten_splitOn_concat (c : Char) (t : Text) :
    ((t.splitOn c).map (· ++ [c])).flatten = t ++ [c] := by
  have h : ∀ parts : List Text, parts ≠ [] →
      (parts.map (· ++ [c])).flatten = [c].intercalate parts ++ [c] := by
    intro parts hparts
    induction parts with
    | nil => exact absurd rfl hparts
    | cons part parts ih =>
      cases parts with
      | nil => simp
      | cons next parts =>
        rw [List.map_cons, List.flatten_cons, ih (List.cons_ne_nil _ _), List.intercalate_cons_cons]
        simp only [List.append_assoc]
  rw [h _ (List.splitOn_ne_nil c t), List.intercalate_splitOn]

end Text

/-- The line feed before the closing line of a fence is nothing to the block inside. -/
theorem Spec.read_concat_lineFeed (settings : Settings) (source : Text) :
    Spec.read settings (source ++ ['\n']) = Spec.read settings source := by
  have hlines : ∀ comment, effectiveLines comment (source ++ ['\n']) = effectiveLines comment source := by
    intro comment
    rw [effectiveLines, effectiveLines]
    rcases Text.lines_concat_lineFeed source with h | h
    · rw [h]
    · rw [h, List.filter_append]
      exact List.append_nil _
  simp only [Spec.read, hlines]

namespace Document

/-- A block between an opening line and a closing line. -/
def fenced (source : Text) : Text :=
  fenceMark ++ fenceLanguage ++ "\n" ++ source ++ "\n" ++ fenceMark

/-- A block none of whose lines is a fence mark with nothing behind it but blanks and tabs. -/
def LeavesOpen (source : Text) : Prop :=
  ∀ padding : Text, (∀ c ∈ padding, c = ' ' ∨ c = '\t') →
    fenceMark ++ padding ∉ source.splitOn '\n'

theorem isPad_iff {c : Char} : isPad c = true ↔ c = ' ' ∨ c = '\t' := by
  simp only [isPad, Bool.or_eq_true, decide_eq_true_eq]

theorem isClosing_of_not_mem {line : Text} (hn : '\n' ∉ line) :
    isClosing line = true ↔ ∃ padding : Text, (∀ c ∈ padding, c = ' ' ∨ c = '\t') ∧
      line = fenceMark ++ padding := by
  rw [isClosing, Bool.and_eq_true, List.isPrefixOf_iff_prefix]
  constructor
  · rintro ⟨⟨padding, rfl⟩, hall⟩
    refine ⟨padding, ?_, rfl⟩
    rw [List.drop_left, List.all_eq_true] at hall
    have hnil : padding.dropWhile isPad = [] := by
      rw [List.eq_nil_iff_forall_not_mem]
      intro c hc
      have hfeed : c = '\n' := beq_iff_eq.1 (hall c hc)
      exact hn (List.mem_append_right _ (hfeed ▸ (List.dropWhile_sublist _).subset hc))
    intro c hc
    exact isPad_iff.1 (List.dropWhile_eq_nil_iff.1 hnil c hc)
  · rintro ⟨padding, hp, rfl⟩
    refine ⟨List.prefix_append _ _, ?_⟩
    rw [List.drop_left, List.dropWhile_eq_nil_iff.2 fun c hc => isPad_iff.2 (hp c hc)]
    rfl

theorem leavesOpen_iff {source : Text} :
    LeavesOpen source ↔ ∀ line ∈ source.splitOn '\n', isClosing line = false := by
  constructor
  · intro h line hline
    rw [Bool.eq_false_iff]
    intro hclosing
    obtain ⟨padding, hp, rfl⟩ := (isClosing_of_not_mem (Text.not_mem_of_mem_splitOn hline).1).1 hclosing
    exact h padding hp hline
  · intro h padding hp hline
    have hclosing := (isClosing_of_not_mem (Text.not_mem_of_mem_splitOn hline).1).2 ⟨padding, hp, rfl⟩
    rw [h _ hline] at hclosing
    cases hclosing

instance (source : Text) : Decidable (LeavesOpen source) :=
  decidable_of_iff _ leavesOpen_iff.symm

theorem LeavesOpen.isInside {source : Text} (h : LeavesOpen source) :
    IsInside (source ++ ['\n']) := by
  refine ⟨(source.splitOn '\n').map (· ++ ['\n']), (Text.flatten_splitOn_concat _ _).symm, ?_⟩
  intro line hline
  obtain ⟨l, hl, rfl⟩ := List.mem_map.1 hline
  refine ⟨⟨l, (Text.not_mem_of_mem_splitOn hl).1, rfl⟩, ?_⟩
  rw [isClosing_append_lineFeed]
  exact leavesOpen_iff.1 h l hl

theorem segments_fenced {source : Text} (h : LeavesOpen source) :
    segments (fenced source) =
      [.fence (fenceMark ++ fenceLanguage ++ "\n") (source ++ ['\n']) fenceMark] := by
  have hopens : isOpening (fenceMark ++ fenceLanguage ++ "\n") = true := by decide
  have hcloses : isClosing fenceMark = true := by decide
  have hone : '\n' ∉ fenceMark := by decide
  have hproper : Fence.IsProper ⟨fenceMark ++ fenceLanguage ++ "\n", source ++ ['\n'], fenceMark⟩ :=
    ⟨hopens, h.isInside, hcloses, hone⟩
  have htext : fenced source = textOf [Fence.segment
      ⟨fenceMark ++ fenceLanguage ++ "\n", source ++ ['\n'], fenceMark⟩] := by
    rw [textOf_singleton, Fence.segment, Segment.text, fenced]
    simp only [List.append_assoc]
    rfl
  rw [htext]
  exact segments_textOf (.lastFence hproper)

/-- A document that is one fence comes to the canonical fence of its block, and stays as it is where the
block is refused. -/
theorem normalize_fenced (settings : Settings) {source : Text} (h : LeavesOpen source) :
    normalize settings (fenced source) =
      match Spec.read settings source with
      | .ok spec => .ok (spec.fence settings)
      | .error (.rejected _) => .ok (fenced source)
      | .error (.fault fault) => .error fault := by
  have htext : Segment.text (.fence (fenceMark ++ fenceLanguage ++ "\n") (source ++ ['\n']) fenceMark) =
      fenced source := by
    rw [← textOf_segments (fenced source), segments_fenced h, textOf_singleton]
  rw [normalize, segments_fenced h, List.mapM_cons, List.mapM_nil, normalizeSegment, htext,
    Spec.read_concat_lineFeed]
  rcases Spec.read settings source with (error | fault) | spec
  · exact congrArg Except.ok (List.append_nil _)
  · rfl
  · exact congrArg Except.ok (List.append_nil _)

end Document

end QueryFence
