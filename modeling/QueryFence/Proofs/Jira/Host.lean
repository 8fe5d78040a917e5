import QueryFence.Jira.Host
import QueryFence.Proofs.Domain.Name

/-!
Hosts that are read twice: what is read as a host is read as the same host again, up to the case of its
letters. A host has plain characters only, unless it is a number of eight groups, which stands in
brackets wherever an address is written.
-/

namespace QueryFence

namespace Percent

/-- Text of nothing but allowed characters needs no escapes. -/
theorem escape_eq_self {allowed : Char → Bool} {t : Text} (h : ∀ c ∈ t, allowed c = true) :
    escape allowed t = t := by
  induction t using escape.induct with
  | case1 => rfl
  | case2 a b rest hb ih =>
    rw [escape, if_pos hb, ih fun c hc => h c (by simp [hc])]
  | case3 a b rest hb ih =>
    rw [escape, if_neg hb, if_pos (h _ List.mem_cons_self),
      ih fun c hc => h c (List.mem_cons_of_mem _ hc)]
    rfl
  | case4 c rest hne ih =>
    rw [escape, if_pos (h c List.mem_cons_self), ih fun d hd => h d (List.mem_cons_of_mem _ hd)]
    · rfl
    · exact hne

theorem isAlphanum_of_hexDigit? {c : Char} {d : Nat} (h : Text.hexDigit? c = some d) :
    c.isAlphanum = true := by
  have hc : c.toNat < 128 := by
    rw [Text.hexDigit?] at h
    simp only [Bool.and_eq_true, decide_eq_true_eq, Char.le_def, UInt32.le_iff_toNat_le] at h
    have h9 : '9'.val.toNat = 57 := rfl
    have hf : 'f'.val.toNat = 102 := rfl
    have hF : 'F'.val.toNat = 70 := rfl
    have hv : c.toNat = c.val.toNat := rfl
    split at h
    · omega
    · split at h
      · omega
      · split at h
        · omega
        · cases h
  exact Text.forall_ascii (P := fun c => (Text.hexDigit? c).isSome → c.isAlphanum = true)
    (by decide +kernel) hc (by rw [h]; rfl)

theorem isAlphanum_of_byteOf? {high low : Char} (h : (byteOf? high low).isSome = true) :
    high.isAlphanum = true ∧ low.isAlphanum = true := by
  rw [byteOf?, Option.isSome_map] at h
  obtain ⟨n, hn⟩ := Option.isSome_iff_exists.1 h
  simp only [Text.hexValue?, List.foldl_cons, List.foldl_nil, Option.bind_eq_bind,
    Option.bind_some] at hn
  cases hhigh : Text.hexDigit? high with
  | none => simp [hhigh] at hn
  | some a =>
    cases hlow : Text.hexDigit? low with
    | none => simp [hlow] at hn
    | some b => exact ⟨isAlphanum_of_hexDigit? hhigh, isAlphanum_of_hexDigit? hlow⟩

theorem mem_escapeByte {b : UInt8} : ∀ c ∈ escapeByte b, c = '%' ∨ c.isAlphanum = true := by
  have hall : ∀ n < 256,
      (escapeByte (UInt8.ofNat n)).all (fun c => c == '%' || c.isAlphanum) = true := by
    decide +kernel
  have hb := hall b.toNat (UInt8.toNat_lt b)
  rw [UInt8.ofNat_toNat, List.all_eq_true] at hb
  intro c hc
  have hone := hb c hc
  rwa [Bool.or_eq_true, beq_iff_eq] at hone

/-- An escaped text has no characters but allowed ones and those of escapes. -/
theorem mem_escape {allowed : Char → Bool} {t : Text} :
    ∀ c ∈ escape allowed t, allowed c = true ∨ c = '%' ∨ c.isAlphanum = true := by
  have hchar : ∀ d : Char, ∀ c ∈ (if allowed d then [d] else escapeChar d),
      allowed c = true ∨ c = '%' ∨ c.isAlphanum = true := by
    intro d c hc
    split at hc
    · next hd => exact .inl (List.mem_singleton.1 hc ▸ hd)
    · obtain ⟨b, -, hb⟩ := List.mem_flatMap.1 hc
      exact .inr (mem_escapeByte c hb)
  induction t using escape.induct with
  | case1 => exact fun c hc => absurd hc List.not_mem_nil
  | case2 a b rest hb ih =>
    intro c hc
    rw [escape, if_pos hb] at hc
    obtain ⟨ha, hb⟩ := isAlphanum_of_byteOf? hb
    rcases List.mem_cons.1 hc with rfl | hc
    · exact .inr (.inl rfl)
    rcases List.mem_cons.1 hc with rfl | hc
    · exact .inr (.inr ha)
    rcases List.mem_cons.1 hc with rfl | hc
    · exact .inr (.inr hb)
    · exact ih c hc
  | case3 a b rest hb ih =>
    intro c hc
    rw [escape, if_neg hb] at hc
    rcases List.mem_append.1 hc with hc | hc
    · exact hchar '%' c hc
    · exact ih c hc
  | case4 d rest hne ih =>
    intro c hc
    rw [escape] at hc
    · rcases List.mem_append.1 hc with hc | hc
      · exact hchar d c hc
      · exact ih c hc
    · exact hne

end Percent

namespace Host

variable {host h t : Text} {c : Char}

theorem isPlain_of_isAlphanum (h : c.isAlphanum = true) : isPlain c = true := by
  rw [isPlain, h]
  rfl

theorem isPlain_of_isNameChar (h : Domain.isNameChar c = true) : isPlain c = true := by
  rw [Domain.isNameChar, Bool.or_eq_true, Bool.or_eq_true, beq_iff_eq, beq_iff_eq] at h
  rcases h with (h | rfl) | rfl
  · exact isPlain_of_isAlphanum h
  · rfl
  · rfl

theorem toNat_lt_of_isPlain (h : isPlain c = true) : c.toNat < 128 := by
  rw [isPlain, Bool.or_eq_true, List.contains_iff_mem] at h
  rcases h with h | h
  · have hranges : (c.isUpper || c.isLower || c.isDigit) = true := h
    rw [Bool.or_eq_true, Bool.or_eq_true] at hranges
    rcases hranges with (hupper | hlower) | hdigit
    · have hval : 65 ≤ c.val ∧ c.val ≤ 90 := of_decide_eq_true hupper
      exact Nat.lt_of_le_of_lt hval.2 (by decide)
    · have hval : c.val ≤ 122 := of_decide_eq_true (Bool.and_eq_true_iff.1 hlower).2
      exact Nat.lt_of_le_of_lt hval (by decide)
    · have hval : c.val ≤ 57 := of_decide_eq_true (Bool.and_eq_true_iff.1 hdigit).2
      exact Nat.lt_of_le_of_lt hval (by decide)
  · have hall : List.all ("-._~!$&'()*+,;=\"\x60\x7b\x7d%|\\" : Text) (·.toNat < 128) = true := rfl
    exact of_decide_eq_true (List.all_eq_true.1 hall c h)

theorem isPlain_toLower (h : isPlain c = true) : isPlain c.toLower = true :=
  Text.forall_ascii (P := fun c => isPlain c = true → isPlain c.toLower = true)
    (by decide +kernel) (toNat_lt_of_isPlain h) h

theorem isPlain_of_mem_lowerAscii (h : ∀ c ∈ t, isPlain c = true) :
    ∀ c ∈ Text.lowerAscii t, isPlain c = true := by
  intro d hd
  obtain ⟨c, hc, rfl⟩ := List.mem_map.1 hd
  exact isPlain_toLower (h c hc)

/-- A character of a text stands in one of the parts between points, unless it is a point. -/
theorem mem_of_mem_splitOn {d : Char} (h : c ∈ t) : c = d ∨ ∃ part ∈ t.splitOn d, c ∈ part := by
  induction t with
  | nil => exact absurd h List.not_mem_nil
  | cons e t ih =>
    obtain ⟨first, others, hs⟩ := List.exists_cons_of_ne_nil (List.splitOn_ne_nil d t)
    rw [List.splitOn_cons_eq_if_modifyHead]
    rw [hs] at ih ⊢
    split
    · next he =>
      rcases List.mem_cons.1 h with rfl | h
      · exact .inl (eq_of_beq he)
      · rcases ih h with hd | ⟨part, hp, hc⟩
        · exact .inl hd
        · exact .inr ⟨part, List.mem_cons_of_mem _ hp, hc⟩
    · rw [List.modifyHead_cons]
      rcases List.mem_cons.1 h with rfl | h
      · exact .inr ⟨_, List.mem_cons_self, List.mem_cons_self⟩
      · rcases ih h with hd | ⟨part, hp, hc⟩
        · exact .inl hd
        · rcases List.mem_cons.1 hp with rfl | hp
          · exact .inr ⟨_, List.mem_cons_self, List.mem_cons_of_mem _ hc⟩
          · exact .inr ⟨part, List.mem_cons_of_mem _ hp, hc⟩

theorem isPlain_of_looksNumbered (hn : looksNumbered t = true) : ∀ c ∈ t, isPlain c = true := by
  intro c hc
  rw [looksNumbered, Bool.and_eq_true, List.all_eq_true] at hn
  rcases mem_of_mem_splitOn (d := '.') hc with rfl | ⟨part, hp, hc⟩
  · rfl
  · have hnum := hn.2 part hp
    rw [Text.isNumeral, Bool.and_eq_true, List.all_eq_true] at hnum
    apply isPlain_of_isAlphanum
    rw [Char.isAlphanum, hnum.2 c hc, Bool.or_true]

theorem mem_of_splitGap {before behind : Text} (h : splitGap t = some (before, behind)) :
    ':' ∈ t := by
  induction t using splitGap.induct generalizing before behind with
  | case1 => cases h
  | case2 rest => exact List.mem_cons_self
  | case3 c rest hne ih =>
    rw [splitGap] at h
    · cases hs : splitGap rest with
      | none =>
        rw [hs] at h
        cases h
      | some found => exact List.mem_cons_of_mem c (ih hs)
    · exact hne

/-- A number of eight groups has a colon. -/
theorem mem_of_isEightGroups (h : isEightGroups t = true) : ':' ∈ t := by
  rw [isEightGroups] at h
  split at h
  · apply Classical.byContradiction
    intro hc
    rw [groups] at h
    split at h
    · cases h
    · rw [List.splitOn_eq_singleton hc, countGroups] at h
      split at h
      · cases h
      · split at h
        · cases h
        · cases h
  · next hgap => exact mem_of_splitGap hgap

theorem mem_of_isZonedGroups (h : isZonedGroups t = true) : ':' ∈ t := by
  rw [isZonedGroups, Bool.and_eq_true] at h
  exact (List.takeWhile_sublist _).subset (mem_of_isEightGroups h.1)

/-- A host has plain characters only, or is a number of eight groups that was written in brackets. -/
theorem isPlain_of_read (hr : read host = .ok h) :
    (∀ c ∈ h, isPlain c = true) ∨ (isZonedGroups h = true ∧ host = '[' :: h ++ [']']) := by
  rw [read] at hr
  split at hr
  · next hn =>
    split at hr
    · cases hr
      exact .inl (isPlain_of_looksNumbered hn)
    · cases hr
  · split at hr
    · next hb =>
      dsimp only at hr
      split at hr
      · next hz =>
        cases hr
        refine .inr ⟨hz, ?_⟩
        rw [Bool.and_eq_true, beq_iff_eq, beq_iff_eq] at hb
        obtain ⟨rest, rfl⟩ := List.head?_eq_some_iff.1 hb.1
        -- a single bracket would be the first and the last character at once, but no bracket closes
        cases rest with
        | nil => exact absurd hb.2 (by decide)
        | cons d rest =>
          have hl : (d :: rest).getLast? = some ']' := hb.2
          obtain ⟨front, hf⟩ := List.getLast?_eq_some_iff.1 hl
          rw [hf, List.drop_one, List.tail_cons, List.dropLast_concat]
          rfl
      · cases hr
    · split at hr
      · cases hr
        refine .inl fun c hc => ?_
        rcases Percent.mem_escape c hc with hp | rfl | ha
        · exact hp
        · rfl
        · exact isPlain_of_isAlphanum ha
      · split at hr
        · next hname =>
          cases hr
          exact .inl fun c hc => isPlain_of_isNameChar (Domain.isNameChar_of_encode hname c hc)
        · cases hr

/-- Plain characters are read as they are, or as small letters. -/
theorem lowerAscii_of_read (hp : ∀ c ∈ host, isPlain c = true) (hr : read host = .ok h) :
    Text.lowerAscii h = Text.lowerAscii (Text.lowerAscii host) ∨ h = host := by
  rw [read] at hr
  split at hr
  · split at hr
    · exact .inr (Except.ok.inj hr).symm
    · cases hr
  · split at hr
    · next hb =>
      rw [Bool.and_eq_true, beq_iff_eq] at hb
      exact absurd (hp _ (List.mem_of_mem_head? hb.1)) (by decide)
    · have hbasic : host.all Punycode.isBasic = true :=
        List.all_eq_true.2 fun c hc => decide_eq_true (toNat_lt_of_isPlain (hp c hc))
      rw [if_pos hbasic, Percent.escape_eq_self (isPlain_of_mem_lowerAscii hp)] at hr
      exact .inl (congrArg Text.lowerAscii (Except.ok.inj hr)).symm

/-- A number of eight groups in brackets is read as itself. -/
theorem read_bracketed (hz : isZonedGroups t = true) : read ('[' :: t ++ [']']) = .ok t := by
  have hn : looksNumbered ('[' :: t ++ [']']) = false := by
    rw [Bool.eq_false_iff]
    exact fun hn => absurd (isPlain_of_looksNumbered hn '[' List.mem_cons_self) (by decide)
  have hlast : ('[' :: t ++ [']']).getLast? = some ']' := List.getLast?_concat
  have hinner : (('[' :: t ++ [']']).drop 1).dropLast = t := List.dropLast_concat
  have hb : (('[' :: t ++ [']']).head? == some '[' && ('[' :: t ++ [']']).getLast? == some ']') =
      true := by
    rw [hlast]
    rfl
  rw [read, hn, if_neg Bool.false_ne_true, if_pos hb]
  dsimp only
  rw [hinner, if_pos hz]

end Host

end QueryFence
