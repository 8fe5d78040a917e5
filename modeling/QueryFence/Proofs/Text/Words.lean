import Mathlib.Algebra.Ring.Nat
import QueryFence.Proofs.Text.Lines

/-!
The words of a text. They are all there is in it but white space, so that a text put on one line
keeps its other characters; and words with single spaces between them are found again as they are.
-/

namespace QueryFence.Text

variable {c d : Char} {t w separator : Text} {ws : List Text}

/-- A word: one character or more, none of them white space. -/
structure IsWord (w : Text) : Prop where
  ne_nil : w ≠ []
  solid : ∀ c ∈ w, isBlank c = false

/-- White space stands between words only, as single spaces. -/
def IsSpaced (t : Text) : Prop :=
  ∀ front c back, t = front ++ c :: back → isBlank c = true →
    c = ' ' ∧ (∃ d ∈ front.getLast?, isBlank d = false) ∧ ∃ d ∈ back.head?, isBlank d = false

theorem flatten_words (t : Text) : (words t).flatten = t.filter fun c => !isBlank c := by
  fun_induction words t <;> simp_all

theorem isBlank_of_mem_words (h : w ∈ words t) : ∀ c ∈ w, isBlank c = false := by
  intro c hc
  have hmem : c ∈ (words t).flatten := List.mem_flatten_of_mem h hc
  rw [flatten_words, List.mem_filter] at hmem
  simpa using hmem.2

theorem isWord_of_mem_words (h : w ∈ words t) : IsWord w := by
  refine ⟨?_, isBlank_of_mem_words h⟩
  rintro rfl
  fun_induction words t <;> simp_all

theorem words_cons_of_isBlank (h : isBlank c = true) (t : Text) : words (c :: t) = words t := by
  rw [words.eq_def]
  simp only [h, if_true]

theorem words_cons_cons (hc : isBlank c = false) (hd : isBlank d = false)
    (h : words (d :: t) = w :: ws) : words (c :: d :: t) = (c :: w) :: ws := by
  rw [words.eq_def]
  simp only [hc, hd, h, Bool.false_eq_true, if_false]

/-- A word goes on to the next white space, or to the end. -/
theorem IsWord.words_append (hw : IsWord w) (ht : ∀ c ∈ t.head?, isBlank c = true) :
    words (w ++ t) = w :: words t := by
  obtain ⟨hne, hsolid⟩ := hw
  induction w with
  | nil => exact absurd rfl hne
  | cons c w ih =>
    obtain ⟨hc, hw⟩ := List.forall_mem_cons.1 hsolid
    cases w with
    | nil =>
      cases t with
      | nil => simp [words, hc]
      | cons d t => simp [words, hc, ht d rfl]
    | cons d w => exact words_cons_cons hc (hw d List.mem_cons_self) (ih (List.cons_ne_nil d w) hw)

theorem IsWord.starts (hw : IsWord w) (t : Text) : ∃ d ∈ (w ++ t).head?, isBlank d = false := by
  obtain ⟨d, rest, rfl⟩ := List.exists_cons_of_ne_nil hw.ne_nil
  exact ⟨d, rfl, hw.solid d List.mem_cons_self⟩

theorem IsWord.ends (hw : IsWord w) : ∃ d ∈ w.getLast?, isBlank d = false :=
  ⟨w.getLast hw.ne_nil, List.getLast?_eq_some_getLast hw.ne_nil, hw.solid _ (List.getLast_mem _)⟩

theorem joinWith_space (w next : Text) (ws : List Text) :
    joinWith " " (w :: next :: ws) = w ++ ' ' :: joinWith " " (next :: ws) := by
  rw [joinWith, List.intercalate_cons_cons, List.append_assoc]
  rfl

theorem words_joinWith (h : ∀ w ∈ ws, IsWord w) : words (joinWith " " ws) = ws := by
  induction ws with
  | nil => rfl
  | cons w ws ih =>
    obtain ⟨hw, hws⟩ := List.forall_mem_cons.1 h
    cases ws with
    | nil =>
      have hend : ∀ c ∈ ([] : Text).head?, isBlank c = true := nofun
      rw [joinWith, List.intercalate_singleton, ← List.append_nil w, hw.words_append hend,
        List.append_nil]
      rfl
    | cons next ws =>
      have hspace : ∀ c ∈ (' ' :: joinWith " " (next :: ws)).head?, isBlank c = true :=
        fun c hc => Option.some.inj hc ▸ rfl
      rw [joinWith_space, hw.words_append hspace, words_cons_of_isBlank rfl, ih hws]

theorem words_squeeze (t : Text) : words (squeeze t) = words t :=
  words_joinWith fun _ h => isWord_of_mem_words h

theorem squeeze_eq_iff {s : Text} : squeeze s = squeeze t ↔ words s = words t := by
  constructor
  · intro h
    rw [← words_squeeze s, h, words_squeeze]
  · intro h
    rw [squeeze, h, squeeze]

theorem isPrefix_joinWith (separator part : Text) (parts : List Text) :
    part <+: joinWith separator (part :: parts) := by
  cases parts with
  | nil => exact ⟨[], by rw [joinWith, List.intercalate_singleton, List.append_nil]⟩
  | cons next parts =>
    rw [joinWith, List.intercalate_cons_cons, List.append_assoc]
    exact List.prefix_append _ _

theorem IsWord.isSpaced (hw : IsWord w) : IsSpaced w := by
  intro front c back h hc
  rw [hw.solid c (h ▸ List.mem_append_right front List.mem_cons_self)] at hc
  cases hc

theorem IsSpaced.cons_word (ht : IsSpaced t) (hstarts : ∃ d ∈ t.head?, isBlank d = false)
    (hw : IsWord w) : IsSpaced (w ++ ' ' :: t) := by
  intro front c back h hc
  -- the white space is the one behind the word, or stands in the text behind that
  rcases List.append_eq_append_iff.1 h with ⟨more, rfl, hmore⟩ | ⟨more, rfl, hmore⟩
  · cases more with
    | nil =>
      cases hmore
      rw [List.append_nil]
      exact ⟨rfl, hw.ends, hstarts⟩
    | cons d more =>
      obtain ⟨rfl, heq⟩ := List.cons.inj hmore
      obtain ⟨hspace, ⟨last, hlast, hsolid⟩, hback⟩ := ht more c back heq hc
      refine ⟨hspace, ⟨last, ?_, hsolid⟩, hback⟩
      rw [List.getLast?_append, List.getLast?_cons, hlast]
      rfl
  · cases more with
    | nil =>
      cases hmore
      rw [List.append_nil] at hw
      exact ⟨rfl, hw.ends, hstarts⟩
    | cons d more =>
      obtain ⟨rfl, -⟩ := List.cons.inj hmore
      rw [hw.solid c (List.mem_append_right front List.mem_cons_self)] at hc
      cases hc

theorem isSpaced_joinWith (h : ∀ w ∈ ws, IsWord w) : IsSpaced (joinWith " " ws) := by
  induction ws with
  | nil =>
    intro front c back h
    cases front <;> cases h
  | cons w ws ih =>
    obtain ⟨hw, hws⟩ := List.forall_mem_cons.1 h
    cases ws with
    | nil =>
      rw [joinWith, List.intercalate_singleton]
      exact hw.isSpaced
    | cons next ws =>
      rw [joinWith_space]
      apply (ih hws).cons_word _ hw
      obtain ⟨rest, heq⟩ := isPrefix_joinWith " " next ws
      rw [← heq]
      exact (hws next List.mem_cons_self).starts rest

theorem isOneLine_squeeze (t : Text) : IsOneLine (squeeze t) := by
  apply IsOneLine.joinWith (by decide)
  intro w hw
  exact isOneLine_of_isBlank (isBlank_of_mem_words hw)

theorem count_joinWith (c : Char) (separator part : Text) (parts : List Text) :
    (joinWith separator (part :: parts)).count c =
      ((part :: parts).map (List.count c)).sum + parts.length * separator.count c := by
  induction parts generalizing part with
  | nil => simp [joinWith]
  | cons next parts ih =>
    have hnext := ih next
    rw [joinWith] at hnext ⊢
    rw [List.intercalate_cons_cons, List.count_append, List.count_append, hnext,
      List.map_cons (l := next :: parts), List.sum_cons, List.length_cons, Nat.succ_mul]
    omega

theorem count_joinWith_of_not_mem (h : c ∉ separator) (parts : List Text) :
    (joinWith separator parts).count c = (parts.map (List.count c)).sum := by
  cases parts with
  | nil => rfl
  | cons part parts =>
    rw [count_joinWith, List.count_eq_zero_of_not_mem h, Nat.mul_zero, Nat.add_zero]

theorem count_squeeze (h : isBlank c = false) (t : Text) : (squeeze t).count c = t.count c := by
  have hspace : c ∉ " ".toList := by
    intro hc
    rw [List.mem_singleton.1 hc] at h
    cases h
  rw [squeeze, count_joinWith_of_not_mem hspace, ← List.count_flatten, flatten_words]
  exact List.count_filter (by rw [h]; rfl)

theorem replaceChar_cons (c : Char) (by_ : Text) (d : Char) (t : Text) :
    replaceChar c by_ (d :: t) = (if d = c then by_ else [d]) ++ replaceChar c by_ t :=
  List.flatMap_cons

theorem replaceChar_append (c : Char) (by_ t more : Text) :
    replaceChar c by_ (t ++ more) = replaceChar c by_ t ++ replaceChar c by_ more :=
  List.flatMap_append

theorem replaceChar_of_not_mem (h : c ∉ t) (by_ : Text) : replaceChar c by_ t = t := by
  have hsame : ∀ d ∈ t, (if d = c then by_ else [d]) = [d] := by
    intro d hd
    apply if_neg
    rintro rfl
    exact h hd
  rw [replaceChar, List.flatMap_congr hsame]
  exact List.flatMap_singleton' t

theorem replaceChar_joinWith (h : c ∉ separator) (by_ : Text) (parts : List Text) :
    replaceChar c by_ (joinWith separator parts) =
      joinWith separator (parts.map (replaceChar c by_)) := by
  induction parts with
  | nil => rfl
  | cons part parts ih =>
    cases parts with
    | nil => simp only [joinWith, List.map_singleton, List.intercalate_singleton]
    | cons next parts =>
      rw [joinWith, joinWith] at ih ⊢
      rw [List.intercalate_cons_cons, replaceChar_append, replaceChar_append, ih,
        replaceChar_of_not_mem h]
      simp only [List.map_cons, List.intercalate_cons_cons]

theorem count_replaceChar {d : Char} {by_ : Text} (hd : c ≠ d) (hby : c ∉ by_) (t : Text) :
    (replaceChar d by_ t).count c = t.count c := by
  induction t with
  | nil => rfl
  | cons e t ih =>
    rw [replaceChar_cons, List.count_append, ih]
    split
    · next he =>
      rw [List.count_eq_zero_of_not_mem hby, Nat.zero_add, List.count_cons_of_ne (he ▸ hd.symm)]
    · rw [← List.count_append, List.singleton_append]

end QueryFence.Text
