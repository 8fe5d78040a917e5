import QueryFence.Cell
import QueryFence.Proofs.Text.Bars

/-!
Escaped texts. A text that is put on one line with a backslash before every bar tells its words:
without those backslashes it is the words with single spaces between them.
-/

namespace QueryFence.Cell

open QueryFence.Text (words squeeze IsWord IsSpaced BarsAreEscaped joinWith replaceChar)

/-- Every backslash with a bar behind it is taken away, from left to right. -/
def unescape : Text → Text
  | '\\' :: '|' :: rest => '|' :: unescape rest
  | c :: rest => c :: unescape rest
  | [] => []

theorem unescape_cons {c : Char} {t : Text} (h : t.head? ≠ some '|') :
    unescape (c :: t) = c :: unescape t := by
  rw [unescape.eq_def]
  split
  · next heq =>
    cases heq
    exact absurd rfl h
  · next heq =>
    cases heq
    rfl
  · next heq => cases heq

theorem head?_replaceChar_ne (t : Text) : (replaceChar '|' "\\|" t).head? ≠ some '|' := by
  cases t with
  | nil => nofun
  | cons c t =>
    rw [Text.replaceChar_cons]
    split
    · nofun
    · next hc => exact fun h => hc (Option.some.inj h)

theorem unescape_replaceChar (t : Text) : unescape (replaceChar '|' "\\|" t) = t := by
  induction t with
  | nil => rfl
  | cons c t ih =>
    rw [Text.replaceChar_cons]
    split
    · next hc =>
      rw [hc]
      exact congrArg ('|' :: ·) ih
    · exact (unescape_cons (head?_replaceChar_ne t)).trans (congrArg (c :: ·) ih)

theorem isWord_replaceChar {w : Text} (hw : IsWord w) : IsWord (replaceChar '|' "\\|" w) where
  ne_nil h := hw.ne_nil (by rw [← unescape_replaceChar w, h]; rfl)
  solid d hd := by
    obtain ⟨c, hc, hd⟩ := List.mem_flatMap.1 hd
    split at hd
    · have hpair : d ∈ ['\\', '|'] := hd
      rcases List.mem_pair.1 hpair with rfl | rfl <;> rfl
    · rw [List.mem_singleton.1 hd]
      exact hw.solid c hc

theorem escape_eq_joinWith (t : Text) :
    escape t = joinWith " " ((words t).map (replaceChar '|' "\\|")) :=
  Text.replaceChar_joinWith (by decide) _ _

/-- Without its backslashes before bars an escaped text is the words of the text with single spaces
between them; its own white space and bars are as the cells of a table need them; and it is the same
for two texts just when these have the same words. -/
theorem escape_isLossless (t : Text) :
    unescape (escape t) = joinWith " " (words t) ∧ IsSpaced (escape t) ∧ BarsAreEscaped (escape t) ∧
      ∀ t', escape t = escape t' ↔ words t = words t' := by
  have hback : ∀ t, unescape (escape t) = squeeze t := fun t => unescape_replaceChar (squeeze t)
  refine ⟨hback t, ?_, ?_, fun t' => ?_⟩
  · rw [escape_eq_joinWith]
    apply Text.isSpaced_joinWith
    exact List.forall_mem_map.2 fun w hw => isWord_replaceChar (Text.isWord_of_mem_words hw)
  · exact Text.openBars_eq_zero_iff.1 (Text.openBarsBehind_replaceChar ' ' (squeeze t))
  · rw [← Text.squeeze_eq_iff]
    constructor
    · intro h
      rw [← hback t, h, hback t']
    · intro h
      rw [escape, h, escape]

example : escape " a|\\|\tb " = "a\\|\\\\| b".toList := by decide

end QueryFence.Cell
