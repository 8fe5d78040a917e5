import QueryFence.Domain.Name
import QueryFence.Proofs.Steps
import QueryFence.Proofs.Text.Lines
import QueryFence.Proofs.Text.SmallLetter

/-!
The characters of domain names in ASCII: letters and digits, hyphens, and points between the labels. A
label that passes the checks has no other ones of ASCII, and neither has the Punycode of one or a label
that is read as Punycode.
-/

namespace QueryFence

namespace Domain

/-- A letter or a digit of ASCII, a hyphen, or the point between labels. -/
def isNameChar (c : Char) : Bool := c.isAlphanum || c == '-' || c == '.'

theorem isNameChar_of_isLetter {c : Char} (hc : c.toNat < 128) (h : isLetter c.toNat = true) :
    isNameChar c = true := by
  have hall : ∀ n < 128, isLetter n = true → isNameChar (Char.ofNat n) = true := by decide +kernel
  have hn := hall c.toNat hc h
  rwa [Char.ofNat_toNat] at hn

theorem isNameChar_of_toLower {c : Char} (h : isNameChar c.toLower = true) :
    isNameChar c = true := by
  by_cases hc : 'A'.val ≤ c.val ∧ c.val ≤ 'Z'.val
  · have hu : c.isUpper = true := decide_eq_true hc
    change (c.isUpper || c.isLower || c.isDigit || c == '-' || c == '.') = true
    rw [hu]
    rfl
  · have hsame : c.toLower = c := dif_neg hc
    rwa [hsame] at h

theorem isLetter_of_codeProblem? {label before behind : List Nat}
    (h : codeProblem? label before behind = none) :
    ∀ n ∈ behind, n < 128 → isLetter n = true := by
  induction behind generalizing before with
  | nil => exact fun n hn => absurd hn List.not_mem_nil
  | cons code behind ih =>
    intro n hn hsmall
    rw [codeProblem?] at h
    by_cases hl : isLetter code = true
    · rw [if_pos hl] at h
      rcases List.mem_cons.1 hn with rfl | hn
      · exact hl
      · exact ih h n hn hsmall
    · -- whatever else may stand in a label is beyond ASCII
      rw [if_neg hl] at h
      have hlarge : 128 ≤ code ∧ codeProblem? label (code :: before) behind = none := by
        by_cases hj : code = 0x200C ∨ code = 0x200D
        · rw [if_pos (by simpa using hj)] at h
          split at h
          · exact ⟨by omega, h⟩
          · cases h
        · rw [if_neg (by simpa using hj)] at h
          cases hp : isPlaced? label code before behind with
          | none =>
            rw [hp] at h
            cases h
          | some placed =>
            cases placed with
            | false =>
              rw [hp] at h
              cases h
            | true =>
              rw [hp] at h
              refine ⟨?_, h⟩
              apply Nat.le_of_not_lt
              intro hcode
              rw [isPlaced?, if_neg (by omega), if_neg (by omega), if_neg (by simp; omega),
                if_neg (by omega), if_neg (by simp [isArabicDigit]; omega),
                if_neg (by simp [isFurtherArabicDigit]; omega)] at hp
              cases hp
      rcases List.mem_cons.1 hn with rfl | hn
      · exact absurd hsmall (Nat.not_lt.2 hlarge.1)
      · exact ih hlarge.2 n hn hsmall

/-- A label that passes the checks has only letters, digits and hyphens of ASCII. -/
theorem isNameChar_of_checkLabel {label : List Nat} {t : Text} (h : checkLabel label = .ok t)
    {c : Char} (hm : c.toNat ∈ label) (hc : c.toNat < 128) : isNameChar c = true := by
  rw [checkLabel] at h
  split at h
  · cases h
  · next hp =>
    have hcodes : codeProblem? label [] label = none := by
      simp only [labelProblem?] at hp
      iterate 5
        split at hp
        · cases hp
      split at hp
      · cases hp
      · assumption
    exact isNameChar_of_isLetter hc (isLetter_of_codeProblem? hcodes _ hm hc)

end Domain

namespace Punycode

open Domain

theorem isAlphanum_of_digitOf? {c : Char} {d : Nat} (h : digitOf? c = some d) :
    isNameChar c = true := by
  have ha : c.isAlphanum = true := by
    change (c.isUpper || c.isLower || c.isDigit) = true
    rw [digitOf?] at h
    split at h
    · next hl => simp [hl]
    · split at h
      · next hu => simp [hu]
      · split at h
        · next hd => simp [hd]
        · cases h
  rw [isNameChar, ha]
  rfl

/-- Reading a digit drops no code point that is there, and reads nothing but digits. -/
theorem Reading.step_eq_some {r after : Reading} {c : Char} (h : r.step c = some after) :
    r.out ⊆ after.out ∧ isNameChar c = true := by
  rw [Reading.step] at h
  cases hd : digitOf? c with
  | none =>
    rw [hd] at h
    cases h
  | some d =>
    refine ⟨?_, isAlphanum_of_digitOf? hd⟩
    rw [hd] at h
    simp only [Option.bind_eq_bind, Option.bind_some] at h
    split at h
    · rw [Reading.insert] at h
      dsimp only at h
      split at h
      · cases h
      · cases h
        intro n hn
        dsimp only
        rw [← List.take_append_drop ((r.place + (r.distance + d * r.weight)) % (r.out.length + 1))
          r.out] at hn
        rcases List.mem_append.1 hn with hn | hn
        · exact List.mem_append_left _ hn
        · exact List.mem_append_right _ (List.mem_cons_of_mem _ hn)
    · cases h
      exact List.Subset.refl _

theorem Reading.foldlM_eq_some {t : Text} {r after : Reading}
    (h : t.foldlM Reading.step r = some after) :
    r.out ⊆ after.out ∧ ∀ c ∈ t, isNameChar c = true := by
  induction t generalizing r with
  | nil =>
    cases h
    exact ⟨List.Subset.refl _, fun c hc => absurd hc List.not_mem_nil⟩
  | cons d t ih =>
    rw [List.foldlM_cons] at h
    obtain ⟨next, hstep, hrest⟩ := Option.bind_eq_some_iff.1 h
    obtain ⟨hkeeps, hd⟩ := step_eq_some hstep
    obtain ⟨hmore, hall⟩ := ih hrest
    refine ⟨List.Subset.trans hkeeps hmore, fun c hc => ?_⟩
    rcases List.mem_cons.1 hc with rfl | hc
    · exact hd
    · exact hall c hc

/-- What is read as Punycode consists of digits, hyphens, and characters that are read as themselves. -/
theorem isNameChar_of_decode {t : Text} {codes : List Nat} (h : decode t = some codes)
    (hcodes : ∀ c : Char, c.toNat ∈ codes → isNameChar c = true ∨ 128 ≤ c.toNat)
    (ht : ∀ c ∈ t, c.toNat < 128) : ∀ c ∈ t, isNameChar c = true := by
  rw [decode] at h
  rcases hs : Text.splitLast '-' t with ⟨basic, behind⟩
  rw [hs] at h
  obtain ⟨r, hr, h⟩ := Option.bind_eq_some_iff.1 h
  obtain ⟨hkeeps, hbehind⟩ := Reading.foldlM_eq_some hr
  split at h
  · cases h
    cases basic with
    | none =>
      rw [(Text.splitLast_eq.2 behind hs).1]
      exact hbehind
    | some before =>
      have he := (Text.splitLast_eq.1 before behind hs).1
      intro c hc
      have hsmall := ht c hc
      rw [he] at hc
      rcases List.mem_append.1 hc with hc | hc
      · rcases hcodes c (hkeeps (List.mem_map_of_mem hc)) with hn | hlarge
        · exact hn
        · omega
      · rcases List.mem_cons.1 hc with rfl | hc
        · rfl
        · exact hbehind c hc
  · cases h

theorem isNameChar_digit {n : Nat} (h : n < 36) : isNameChar (digit n) = true := by
  have hall : ∀ n < 36, isNameChar (digit n) = true := by decide +kernel
  exact hall n h

theorem threshold_bounds (bias position : Nat) :
    1 ≤ threshold bias position ∧ threshold bias position ≤ 26 := by
  rw [threshold]
  omega

theorem isNameChar_of_mem_number {bias position n : Nat} {c : Char}
    (h : c ∈ number bias position n) : isNameChar c = true := by
  induction n using Nat.strongRecOn generalizing position with
  | ind n ih =>
    obtain ⟨hlow, hhigh⟩ := threshold_bounds bias position
    rw [number] at h
    split at h
    · rw [List.mem_singleton.1 h]
      exact isNameChar_digit (by omega)
    · next hn =>
      rcases List.mem_cons.1 h with rfl | h
      · have hm : (n - threshold bias position) % (36 - threshold bias position) <
            36 - threshold bias position := Nat.mod_lt _ (by omega)
        exact isNameChar_digit (by omega)
      · refine ih _ ?_ h
        exact Nat.lt_of_le_of_lt (Nat.div_le_self _ _) (by omega)

theorem isNameChar_of_mem_pass {basic n : Nat} {p : Progress} {d : Char}
    (hp : ∀ c ∈ p.out, isNameChar c = true) : ∀ c ∈ (pass basic n p d).out, isNameChar c = true := by
  rw [pass]
  split
  · exact hp
  · split
    · intro c hc
      rcases List.mem_append.1 hc with hc | hc
      · exact hp c hc
      · exact isNameChar_of_mem_number hc
    · exact hp

theorem isNameChar_of_mem_writeFrom {t : Text} {basic next : Nat} {codes : List Nat} {p : Progress}
    (hp : ∀ c ∈ p.out, isNameChar c = true) :
    ∀ c ∈ writeFrom t basic next codes p, isNameChar c = true := by
  induction codes generalizing next p with
  | nil => exact hp
  | cons n codes ih =>
    rw [writeFrom]
    refine ih ?_
    have hfold : ∀ (t : Text) (p : Progress), (∀ c ∈ p.out, isNameChar c = true) →
        ∀ c ∈ (t.foldl (pass basic n) p).out, isNameChar c = true := by
      intro t
      induction t with
      | nil => exact fun _ hp => hp
      | cons d t ih => exact fun _ hp => ih _ (isNameChar_of_mem_pass hp)
    exact hfold t _ hp

theorem isNameChar_of_mem_encode {t : Text}
    (h : ∀ c ∈ t, c.toNat < 128 → isNameChar c = true) : ∀ c ∈ encode t, isNameChar c = true := by
  intro c hc
  rw [encode] at hc
  rcases List.mem_append.1 hc with hc | hc
  · split at hc
    · exact absurd hc List.not_mem_nil
    · rcases List.mem_append.1 hc with hc | hc
      · obtain ⟨hm, hb⟩ := List.mem_filter.1 hc
        exact h c hm (of_decide_eq_true hb)
      · rw [List.mem_singleton.1 hc]
        rfl
  · exact isNameChar_of_mem_writeFrom (fun d hd => absurd hd List.not_mem_nil) c hc

end Punycode

namespace Domain

/-- The characters of the mark of Punycode are those of names. -/
theorem isNameChar_of_mem_mark : ∀ c ∈ mark, isNameChar c = true :=
  List.all_eq_true.1 rfl

theorem isNameChar_of_readLabel {label meant : Text} (h : readLabel label = .ok meant)
    (hl : ∀ c ∈ label, c.toNat < 128) : ∀ c ∈ label, isNameChar c = true := by
  -- in small letters the label has no capitals of which nothing is known
  suffices hs : ∀ c ∈ Text.lowerAscii label, isNameChar c = true from fun c hc =>
    isNameChar_of_toLower (hs _ (List.mem_map_of_mem hc))
  have hsmall : ∀ c ∈ Text.lowerAscii label, c.toNat < 128 := by
    intro d hd
    obtain ⟨c, hc, rfl⟩ := List.mem_map.1 hd
    exact Text.forall_ascii (P := fun c => c.toLower.toNat < 128) (by decide +kernel) (hl c hc)
  rw [readLabel] at h
  split at h
  · next hmark =>
    obtain ⟨written, hw⟩ := List.isPrefixOf_iff_prefix.1 hmark
    rw [← hw] at hsmall h ⊢
    rw [List.drop_left] at h
    split at h
    · cases h
    · split at h
      · cases h
      · split at h
        · next codes hcodes =>
          intro c hc
          rcases List.mem_append.1 hc with hc | hc
          · exact isNameChar_of_mem_mark c hc
          · refine Punycode.isNameChar_of_decode hcodes (fun d hd => ?_)
              (fun d hd => hsmall d (List.mem_append_right _ hd)) c hc
            by_cases hd128 : d.toNat < 128
            · exact .inl (isNameChar_of_checkLabel h hd hd128)
            · exact .inr (Nat.not_lt.1 hd128)
        · cases h
  · exact fun c hc => isNameChar_of_checkLabel h (List.mem_map_of_mem hc) (hsmall c hc)

theorem isNameChar_of_writeLabel {label written : Text} (h : writeLabel label = .ok written) :
    ∀ c ∈ written, isNameChar c = true := by
  have hfits : ∀ {out : Text}, (if labelLimit < out.length then
      Except.error NameProblem.labelTooLong else .ok out) = .ok written → out = written := by
    intro out hout
    split at hout
    · cases hout
    · exact Except.ok.inj hout
  rw [writeLabel] at h
  split at h
  · next hb =>
    obtain ⟨meant, hread, h⟩ := Steps.bind_eq_ok_iff.1 h
    rw [← hfits h]
    exact isNameChar_of_readLabel hread fun c hc =>
      of_decide_eq_true (List.all_eq_true.1 hb c hc)
  · obtain ⟨checked, hcheck, h⟩ := Steps.bind_eq_ok_iff.1 h
    rw [← hfits h]
    intro c hc
    rcases List.mem_append.1 hc with hc | hc
    · exact isNameChar_of_mem_mark c hc
    · exact Punycode.isNameChar_of_mem_encode (fun d hd hd128 =>
        isNameChar_of_checkLabel hcheck (List.mem_map_of_mem hd) hd128) c hc

/-- A name in ASCII has no characters but those of names. -/
theorem isNameChar_of_encode {name written : Text} (h : encode name = .ok written) :
    ∀ c ∈ written, isNameChar c = true := by
  rw [encode] at h
  obtain ⟨l, -, h⟩ := Steps.bind_eq_ok_iff.1 h
  obtain ⟨labels, hlabels, h⟩ := Steps.bind_eq_ok_iff.1 h
  by_cases hlong : nameLimit + (if l.pointed then 1 else 0) < (Labels.mk labels l.pointed).join.length
  · rw [if_pos hlong] at h
    cases h
  · rw [if_neg hlong] at h
    rw [← Except.ok.inj h]
    intro c hc
    rcases Text.mem_joinWith hc with hc | ⟨part, hp, hc⟩
    · rw [List.mem_singleton.1 hc]
      rfl
    · rcases List.mem_append.1 hp with hp | hp
      · obtain ⟨label, -, hwrite⟩ := Steps.exists_of_mem_mapM hlabels part hp
        exact isNameChar_of_writeLabel hwrite c hc
      · split at hp
        · rw [List.mem_singleton.1 hp] at hc
          exact absurd hc List.not_mem_nil
        · exact absurd hp List.not_mem_nil

end Domain

end QueryFence
