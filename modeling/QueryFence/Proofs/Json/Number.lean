import QueryFence.Json.Reader
import QueryFence.Json.Writer
import QueryFence.Proofs.Number.Shortest
import QueryFence.Proofs.Text.Numeral

/-!
Numbers in JSON: integers of any sign and floating-point numbers are read back as they were, with a
point, an exponent or none.
-/

namespace QueryFence.Json

/-- What may follow a value: nothing that would go on with a number. -/
def IsBoundary : Text → Prop
  | [] => True
  | c :: _ => c.isDigit = false ∧ c ≠ '.' ∧ c ≠ 'e' ∧ c ≠ 'E'

section Parts

/-- What ends digits. -/
def EndsDigits : Text → Prop
  | [] => True
  | c :: _ => c.isDigit = false

theorem IsBoundary.endsDigits {rest : Text} (h : IsBoundary rest) : EndsDigits rest := by
  cases rest with
  | nil => trivial
  | cons c more => exact h.1

/-- The whole part of a number: only zero starts with one, and what is too long would not be read. -/
structure IsWhole (whole : Text) : Prop where
  ne_nil : whole ≠ []
  isDigit : ∀ c ∈ whole, c.isDigit = true
  leading : whole = ['0'] ∨ whole.head? ≠ some '0'
  short : whole.length ≤ Text.numeralLimit

variable {digits whole behind rest : Text}

theorem takeWhile_isDigit_append (hd : ∀ c ∈ digits, c.isDigit = true) (hr : EndsDigits rest) :
    (digits ++ rest).takeWhile Char.isDigit = digits := by
  rw [List.takeWhile_append_of_pos hd]
  cases rest with
  | nil => simp
  | cons c more =>
    have hc : c.isDigit = false := hr
    rw [List.takeWhile_cons_of_neg (by simp [hc]), List.append_nil]

theorem dropWhile_isDigit_append (hd : ∀ c ∈ digits, c.isDigit = true) (hr : EndsDigits rest) :
    (digits ++ rest).dropWhile Char.isDigit = rest := by
  rw [List.dropWhile_append_of_pos hd]
  cases rest with
  | nil => rfl
  | cons c more =>
    have hc : c.isDigit = false := hr
    rw [List.dropWhile_cons_of_neg (by simp [hc])]

theorem wholePart_append (hw : IsWhole whole) (hr : EndsDigits rest) :
    wholePart (whole ++ rest) = whole := by
  rcases hw.leading with rfl | hleading
  · rfl
  · obtain ⟨c, more, rfl⟩ := List.exists_cons_of_ne_nil hw.ne_nil
    have hdigits := takeWhile_isDigit_append hw.isDigit hr
    rw [wholePart.eq_def]
    split
    · next h =>
      rw [(List.cons.inj h).1] at hleading
      exact absurd rfl hleading
    · exact hdigits

theorem splitFraction_boundary (h : IsBoundary rest) : splitFraction rest = (none, rest) := by
  rw [splitFraction.eq_def]
  split
  · exact absurd rfl h.2.1
  · rfl

theorem splitFraction_point (hd : ∀ c ∈ behind, c.isDigit = true) (hne : behind ≠ [])
    (hr : EndsDigits rest) : splitFraction ('.' :: (behind ++ rest)) = (some behind, rest) := by
  have hsome : behind.isEmpty = false := List.isEmpty_eq_false_iff.2 hne
  rw [splitFraction, takeWhile_isDigit_append hd hr, dropWhile_isDigit_append hd hr, hsome]
  rfl

theorem splitExponent_boundary (h : IsBoundary rest) : splitExponent rest = (none, rest) := by
  cases rest with
  | nil => rfl
  | cons c more => simp [splitExponent, h.2.2.1, h.2.2.2]

theorem splitExponent_minus (hd : ∀ c ∈ digits, c.isDigit = true) (hne : digits ≠ [])
    (hr : EndsDigits rest) :
    splitExponent ('e' :: '-' :: (digits ++ rest)) =
      (some (-(Text.numeralValue digits : Int)), rest) := by
  have hsome : digits.isEmpty = false := List.isEmpty_eq_false_iff.2 hne
  simp [splitExponent, takeWhile_isDigit_append hd hr, dropWhile_isDigit_append hd hr, hsome]

theorem splitExponent_plus (hd : ∀ c ∈ digits, c.isDigit = true) (hne : digits ≠ [])
    (hr : EndsDigits rest) :
    splitExponent ('e' :: '+' :: (digits ++ rest)) = (some (Text.numeralValue digits : Int), rest) := by
  have hsome : digits.isEmpty = false := List.isEmpty_eq_false_iff.2 hne
  simp [splitExponent, takeWhile_isDigit_append hd hr, dropWhile_isDigit_append hd hr, hsome]

/-- An exponent as it is written. -/
def exponentText (place : Int) : Text :=
  'e' :: (if place < 0 then '-' else '+') :: Text.padded 2 place.natAbs

theorem splitExponent_exponentText (place : Int) (hr : EndsDigits rest) :
    splitExponent (exponentText place ++ rest) = (some place, rest) := by
  have hd : ∀ c ∈ Text.padded 2 place.natAbs, c.isDigit = true := fun c => Text.isDigit_of_mem_padded
  have hne : Text.padded 2 place.natAbs ≠ [] :=
    List.append_ne_nil_of_right_ne_nil _ Nat.toDigits_ne_nil
  have hvalue : Text.numeralValue (Text.padded 2 place.natAbs) = place.natAbs :=
    Text.ofDigitChars_padded 2 place.natAbs
  rw [exponentText, List.cons_append, List.cons_append]
  by_cases hplace : place < 0
  · rw [if_pos hplace, splitExponent_minus hd hne hr, hvalue,
      show -(place.natAbs : Int) = place by omega]
  · rw [if_neg hplace, splitExponent_plus hd hne hr, hvalue,
      show (place.natAbs : Int) = place by omega]

end Parts

section Reading

variable {t whole tail rest : Text} {negative : Bool}

/-- A minus sign or nothing. -/
def signText (negative : Bool) : Text := (if negative then "-" else "" : String).toList

/-- A digit stands first. -/
def StartsDigit (t : Text) : Prop := ∃ c more, t = c :: more ∧ c.isDigit = true

theorem IsWhole.startsDigit (h : IsWhole whole) (rest : Text) : StartsDigit (whole ++ rest) := by
  obtain ⟨c, more, rfl⟩ := List.exists_cons_of_ne_nil h.ne_nil
  exact ⟨c, more ++ rest, rfl, h.isDigit c List.mem_cons_self⟩

theorem splitSign_signText (negative : Bool) (h : StartsDigit t) :
    splitSign (signText negative ++ t) = (negative, t) := by
  cases negative with
  | true => rfl
  | false =>
    obtain ⟨c, more, rfl, hc⟩ := h
    have hne : c ≠ '-' := Text.ne_of_isDigit hc (by decide)
    rw [splitSign.eq_def]
    split
    · next heq => exact absurd (List.cons.inj heq).1 hne
    · rfl

/-- How a number starts. -/
theorem signText_append (negative : Bool) (h : StartsDigit t) :
    ∃ c more, signText negative ++ t = c :: more ∧ (c = '-' ∨ c.isDigit = true) := by
  cases negative with
  | true => exact ⟨'-', t, rfl, .inl rfl⟩
  | false =>
    obtain ⟨c, more, rfl, hc⟩ := h
    exact ⟨c, more, rfl, .inr hc⟩

theorem readScalar_of_startsDigit (negative : Bool) (h : StartsDigit t) :
    readScalar (signText negative ++ t) = readNumber (signText negative ++ t) := by
  obtain ⟨c, more, rfl, hc⟩ := h
  have hne : ∀ d : Char, d.isDigit = false → (d == c) = false :=
    fun d hd => beq_eq_false_iff_ne.2 (Ne.symm (Text.ne_of_isDigit hc hd))
  have hword : literals.find? (fun literal => literal.1.isPrefixOf (signText negative ++ c :: more)) =
      none := by
    cases negative <;> simp [signText, literals, List.isPrefixOf, hne]
  simp only [readScalar, hword]

/-- Where no quote and no bracket stands first, a word or a number is read. -/
theorem readValue_of_ne {c : Char} (hquote : c ≠ '"') (hbrace : c ≠ '\x7b') (hbracket : c ≠ '[')
    (fuel : Nat) (t : Text) : readValue (fuel + 1) (c :: t) = readScalar (c :: t) := by
  rw [readValue.eq_def]
  simp only
  split
  · rename_i heq
    exact absurd (List.cons.inj heq).1 hquote
  · rename_i heq
    exact absurd (List.cons.inj heq).1 hbrace
  · rename_i heq
    exact absurd (List.cons.inj heq).1 hbracket
  · rfl

theorem readValue_of_startsDigit (negative : Bool) (h : StartsDigit t) (fuel : Nat) :
    readValue (fuel + 1) (signText negative ++ t) = readNumber (signText negative ++ t) := by
  rw [← readScalar_of_startsDigit negative h]
  obtain ⟨c, more, heq, hc⟩ := signText_append negative h
  rw [heq]
  rcases hc with rfl | hc
  · exact readValue_of_ne (by decide) (by decide) (by decide) fuel more
  · exact readValue_of_ne (Text.ne_of_isDigit hc (by decide)) (Text.ne_of_isDigit hc (by decide))
      (Text.ne_of_isDigit hc (by decide)) fuel more

theorem readNumber_of_boundary (negative : Bool) (hw : IsWhole whole) (hr : IsBoundary rest) :
    readNumber (signText negative ++ (whole ++ rest)) =
      .ok (.int (if negative then -(Text.numeralValue whole : Int) else Text.numeralValue whole),
        rest) := by
  have hne : whole.isEmpty = false := List.isEmpty_eq_false_iff.2 hw.ne_nil
  have hlimit : ¬ Text.numeralLimit < whole.length := Nat.not_lt.2 hw.short
  rw [readNumber, splitSign_signText negative (hw.startsDigit rest)]
  simp only [wholePart_append hw hr.endsDigits, hne, Bool.false_eq_true, if_false, List.drop_left,
    splitFraction_boundary hr, splitExponent_boundary hr, Option.isNone_none, Bool.and_self,
    if_true, hlimit]

/-- A number with a fraction or an exponent. -/
theorem readNumber_of_split (negative : Bool) (hw : IsWhole whole) (htail : EndsDigits tail)
    {fraction : Option Text} {exponent : Option Int} {after : Text}
    (hfraction : splitFraction tail = (fraction, after))
    (hexponent : splitExponent after = (exponent, rest))
    (hsome : (fraction.isNone && exponent.isNone) = false) :
    readNumber (signText negative ++ (whole ++ tail)) =
      .ok (.float (Binary64.ofDecimal negative (Text.numeralValue (whole ++ fraction.getD []))
        (exponent.getD 0 - (fraction.getD []).length)), rest) := by
  have hne : whole.isEmpty = false := List.isEmpty_eq_false_iff.2 hw.ne_nil
  rw [readNumber, splitSign_signText negative (hw.startsDigit tail)]
  simp only [wholePart_append hw htail, hne, Bool.false_eq_true, if_false, List.drop_left,
    hfraction, hexponent, hsome]

end Reading

section Integers

theorem isWhole_ofNat {n : Nat} (h : (Text.ofNat n).length ≤ Text.numeralLimit) :
    IsWhole (Text.ofNat n) := by
  refine ⟨Nat.toDigits_ne_nil, fun c hc => Text.isDigit_of_mem_ofNat hc, ?_, h⟩
  rcases Nat.eq_zero_or_pos n with rfl | hn
  · exact .inl rfl
  · obtain ⟨c, more, heq, hc⟩ := Text.ofNat_eq_cons_of_pos hn
    rw [heq]
    exact .inr fun hhead => hc (Option.some.inj hhead)

theorem ofInt_eq (n : Int) :
    ∃ negative, Text.ofInt n = signText negative ++ Text.ofNat n.natAbs ∧
      n = if negative then -(n.natAbs : Int) else n.natAbs := by
  cases n with
  | ofNat n => exact ⟨false, rfl, rfl⟩
  | negSucc n => exact ⟨true, rfl, rfl⟩

end Integers

section Fractions

open Binary64 (Decimal)

/-- How a decimal without a sign is written: with a point, with an exponent, or with both. -/
inductive Spells : Text → Decimal → Prop
  | point {whole behind : Text} (hw : IsWhole whole) (hb : Text.isNumeral behind = true) :
    Spells (whole ++ '.' :: behind) ⟨Text.numeralValue (whole ++ behind), -behind.length⟩
  | exponent {whole : Text} (hw : IsWhole whole) (place : Int) :
    Spells (whole ++ exponentText place) ⟨Text.numeralValue whole, place⟩
  | pointExponent {whole behind : Text} (hw : IsWhole whole) (hb : Text.isNumeral behind = true)
    (place : Int) : Spells (whole ++ '.' :: (behind ++ exponentText place))
      ⟨Text.numeralValue (whole ++ behind), place - behind.length⟩

variable {t rest : Text} {d : Decimal}

theorem Spells.startsDigit (h : Spells t d) (rest : Text) : StartsDigit (t ++ rest) := by
  cases h with
  | point hw _ =>
    rw [List.append_assoc]
    exact hw.startsDigit _
  | exponent hw _ =>
    rw [List.append_assoc]
    exact hw.startsDigit _
  | pointExponent hw _ _ =>
    rw [List.append_assoc]
    exact hw.startsDigit _

theorem endsDigits_point (rest : Text) : EndsDigits ('.' :: rest) := rfl

theorem endsDigits_exponentText (place : Int) (rest : Text) :
    EndsDigits (exponentText place ++ rest) := rfl

/-- A decimal is read rounded. -/
theorem Spells.readNumber (h : Spells t d) (negative : Bool) (hr : IsBoundary rest) :
    readNumber (signText negative ++ (t ++ rest)) =
      .ok (.float (Binary64.ofDecimal negative d.digits d.exponent), rest) := by
  cases h with
  | @point whole behind hw hb =>
    obtain ⟨hne, hdigits⟩ := Text.isNumeral_iff.1 hb
    have hfraction := splitFraction_point hdigits hne hr.endsDigits
    rw [List.append_assoc, List.cons_append,
      readNumber_of_split negative hw (endsDigits_point _) hfraction (splitExponent_boundary hr) rfl]
    simp
  | @exponent whole hw place =>
    have hnone : splitFraction (exponentText place ++ rest) = (none, exponentText place ++ rest) := rfl
    have hexponent := splitExponent_exponentText place hr.endsDigits
    rw [List.append_assoc, readNumber_of_split negative hw (endsDigits_exponentText place rest) hnone
      hexponent rfl]
    simp
  | @pointExponent whole behind hw hb place =>
    obtain ⟨hne, hdigits⟩ := Text.isNumeral_iff.1 hb
    have hfraction := splitFraction_point hdigits hne (endsDigits_exponentText place rest)
    have hexponent := splitExponent_exponentText place hr.endsDigits
    rw [List.append_assoc, List.cons_append, List.append_assoc,
      readNumber_of_split negative hw (endsDigits_point _) hfraction hexponent rfl]
    rfl

end Fractions

section Writing

open Binary64 (Decimal)

variable {n : Nat} {place : Int}

/-- The decimal of given digits of which the first stands at a place. -/
def placed (n : Nat) (place : Int) : Decimal := ⟨n, place + 1 - (Text.ofNat n).length⟩

theorem isWhole_zero : IsWhole ['0'] :=
  ⟨List.cons_ne_nil _ _, fun _ hc => List.mem_singleton.1 hc ▸ rfl, .inl rfl, by decide⟩

theorem isWhole_of_prefix {whole digits : Text} (hne : whole ≠ []) (hd : whole <+: digits)
    (hdigits : ∀ c ∈ digits, c.isDigit = true) (hleading : digits.head? ≠ some '0')
    (hshort : whole.length ≤ Text.numeralLimit) : IsWhole whole := by
  refine ⟨hne, fun c hc => hdigits c (hd.subset hc), .inr ?_, hshort⟩
  obtain ⟨c, more, rfl⟩ := List.exists_cons_of_ne_nil hne
  obtain ⟨rest, rfl⟩ := hd
  exact hleading

theorem head?_ofNat (hn : 0 < n) : (Text.ofNat n).head? ≠ some '0' := by
  obtain ⟨c, more, heq, hc⟩ := Text.ofNat_eq_cons_of_pos hn
  rw [heq]
  exact fun hhead => hc (Option.some.inj hhead)

/-- Below one the digits stand behind zeros. -/
theorem spells_small (n : Nat) (hplace : place < 0) :
    Spells (Binary64.positional (Text.ofNat n) place) (placed n place) := by
  have hb : Text.isNumeral (List.replicate (place.natAbs - 1) '0' ++ Text.ofNat n) = true := by
    refine Text.isNumeral_iff.2 ⟨List.append_ne_nil_of_right_ne_nil _ Nat.toDigits_ne_nil, ?_⟩
    intro c hc
    rcases List.mem_append.1 hc with hc | hc
    · rw [List.eq_of_mem_replicate hc]
      rfl
    · exact Text.isDigit_of_mem_ofNat hc
  have htext : Binary64.positional (Text.ofNat n) place =
      ['0'] ++ '.' :: (List.replicate (place.natAbs - 1) '0' ++ Text.ofNat n) := by
    rw [Binary64.positional, if_pos hplace]
    rfl
  have hdecimal : placed n place =
      ⟨Text.numeralValue (['0'] ++ (List.replicate (place.natAbs - 1) '0' ++ Text.ofNat n)),
        -(List.replicate (place.natAbs - 1) '0' ++ Text.ofNat n).length⟩ := by
    rw [← List.replicate_one, Text.numeralValue_zeros_append, Text.numeralValue_zeros_append,
      Text.numeralValue_ofNat, placed, List.length_append, List.length_replicate]
    congr 1
    omega
  rw [htext, hdecimal]
  exact .point isWhole_zero hb

/-- Where the point stands among the digits, they are parted there. -/
theorem spells_parted (hn : 0 < n) (hplace : 0 ≤ place) (hlimit : place < 16)
    (hlength : place.toNat + 1 < (Text.ofNat n).length) :
    Spells (Binary64.positional (Text.ofNat n) place) (placed n place) := by
  have hb : Text.isNumeral ((Text.ofNat n).drop (place.toNat + 1)) = true := by
    refine Text.isNumeral_iff.2 ⟨?_, fun c hc => Text.isDigit_of_mem_ofNat (List.mem_of_mem_drop hc)⟩
    rw [Ne, List.drop_eq_nil_iff]
    omega
  have hw : IsWhole ((Text.ofNat n).take (place.toNat + 1)) := by
    refine isWhole_of_prefix ?_ (List.take_prefix _ _) (fun c hc => Text.isDigit_of_mem_ofNat hc)
      (head?_ofNat hn) ?_
    · rw [Ne, List.take_eq_nil_iff]
      exact fun h => h.elim (Nat.succ_ne_zero _) Nat.toDigits_ne_nil
    · have hle := List.length_take_le (place.toNat + 1) (Text.ofNat n)
      rw [Text.numeralLimit]
      omega
  have htext : Binary64.positional (Text.ofNat n) place =
      (Text.ofNat n).take (place.toNat + 1) ++ '.' :: (Text.ofNat n).drop (place.toNat + 1) := by
    rw [Binary64.positional, if_neg (Int.not_lt.2 hplace)]
    exact if_neg (Nat.not_le.2 hlength)
  have hdecimal : placed n place = ⟨Text.numeralValue ((Text.ofNat n).take (place.toNat + 1) ++
      (Text.ofNat n).drop (place.toNat + 1)), -((Text.ofNat n).drop (place.toNat + 1)).length⟩ := by
    rw [List.take_append_drop, Text.numeralValue_ofNat, placed, List.length_drop]
    congr 1
    omega
  rw [htext, hdecimal]
  exact .point hw hb

/-- Where the point stands behind the digits, zeros stand between. -/
theorem spells_padded (hn : 0 < n) (hplace : 0 ≤ place) (hlimit : place < 16)
    (hlength : (Text.ofNat n).length ≤ place.toNat + 1) :
    ∃ d, Spells (Binary64.positional (Text.ofNat n) place) d ∧ d.worth = (placed n place).worth := by
  have hw : IsWhole (Text.ofNat n ++ List.replicate (place.toNat + 1 - (Text.ofNat n).length) '0') := by
    refine isWhole_of_prefix (List.append_ne_nil_of_left_ne_nil Nat.toDigits_ne_nil _)
      (List.prefix_refl _) ?_ ?_ ?_
    · intro c hc
      rcases List.mem_append.1 hc with hc | hc
      · exact Text.isDigit_of_mem_ofNat hc
      · rw [List.eq_of_mem_replicate hc]
        rfl
    · rw [List.head?_append_of_ne_nil _ (show Text.ofNat n ≠ [] from Nat.toDigits_ne_nil)]
      exact head?_ofNat hn
    · rw [List.length_append, List.length_replicate, Text.numeralLimit]
      omega
  have htext : Binary64.positional (Text.ofNat n) place = Text.ofNat n ++
      List.replicate (place.toNat + 1 - (Text.ofNat n).length) '0' ++ '.' :: ['0'] := by
    rw [Binary64.positional, if_neg (Int.not_lt.2 hplace)]
    exact if_pos hlength
  rw [htext]
  refine ⟨_, .point hw (by decide), ?_⟩
  have hzeros : List.replicate (place.toNat + 1 - (Text.ofNat n).length) '0' ++ ['0'] =
      List.replicate (place.toNat + 1 - (Text.ofNat n).length + 1) '0' := List.replicate_succ'.symm
  rw [List.append_assoc, hzeros, Text.numeralValue_append_zeros, Text.numeralValue_ofNat, placed,
    Decimal.worth, Decimal.worth]
  obtain ⟨k, hk⟩ := Nat.exists_eq_add_of_le hlength
  have hexponent : place + 1 - (Text.ofNat n).length = k := by omega
  have hzeros : place.toNat + 1 - (Text.ofNat n).length = k := by omega
  rw [hexponent, hzeros]
  push_cast
  rw [List.length_singleton, zpow_natCast, pow_succ]
  norm_num
  ring

theorem spells_scientific (hn : 0 < n) (place : Int) :
    Spells (numberFormat.scientific (Text.ofNat n) place) (placed n place) := by
  obtain ⟨c, more, heq, hc⟩ := Text.ofNat_eq_cons_of_pos hn
  have hdigits : ∀ d ∈ c :: more, d.isDigit = true :=
    fun d hd => Text.isDigit_of_mem_ofNat (heq ▸ hd)
  have hvalue : Text.numeralValue (c :: more) = n := heq ▸ Text.numeralValue_ofNat n
  have hw : IsWhole [c] :=
    ⟨List.cons_ne_nil _ _, fun d hd => hdigits d (List.mem_singleton.1 hd ▸ List.mem_cons_self),
      .inr fun hhead => hc (Option.some.inj hhead), show 1 ≤ Text.numeralLimit by decide⟩
  have hplaced : placed n place = ⟨Text.numeralValue (c :: more), place - more.length⟩ := by
    rw [placed, hvalue, heq, List.length_cons]
    congr 1
    omega
  rw [hplaced, heq]
  cases more with
  | nil =>
    rw [List.length_nil, Nat.cast_zero, Int.sub_zero]
    exact .exponent hw place
  | cons d more =>
    have hb : Text.isNumeral (d :: more) = true :=
      Text.isNumeral_iff.2 ⟨List.cons_ne_nil _ _, fun e he => hdigits e (List.mem_cons_of_mem c he)⟩
    exact .pointExponent hw hb place

/-- Digits are written at their place, with an exponent or without. -/
theorem spells_placed (hn : 0 < n) (place : Int) :
    ∃ d, Spells (if place < numberFormat.scientificBelow || numberFormat.scientificFrom ≤ place
        then numberFormat.scientific (Text.ofNat n) place
        else Binary64.positional (Text.ofNat n) place) d ∧ d.worth = (placed n place).worth := by
  split
  · exact ⟨_, spells_scientific hn place, rfl⟩
  · next h =>
    have hlimit : place < 16 := by
      have hbelow : numberFormat.scientificFrom = 16 := rfl
      simp only [Bool.or_eq_true, decide_eq_true_eq] at h
      omega
    rcases lt_or_ge place 0 with hneg | hpos
    · exact ⟨_, spells_small n hneg, rfl⟩
    · rcases Nat.lt_or_ge (place.toNat + 1) (Text.ofNat n).length with hlength | hlength
      · exact ⟨_, spells_parted hn hpos hlimit hlength, rfl⟩
      · exact spells_padded hn hpos hlimit hlength

/-- A positive number is written as a decimal in its rounding range. -/
theorem write_finite {negative : Bool} {m : Nat} {e : Int}
    (hc : (Binary64.finite negative m e).IsCanonical) (hm : 0 < m) :
    ∃ t d, (Binary64.finite negative m e).write numberFormat = signText negative ++ t ∧ Spells t d ∧
      (Binary64.RoundingRange.of m e).Contains d.worth := by
  have hshortest := Binary64.contains_shortest hc hm
  have hworth := Binary64.worth_stripZeros 20 (Binary64.shortest m e)
  obtain ⟨p, rfl⟩ := Nat.exists_eq_add_one.2 hm
  rw [Binary64.write.eq_def]
  simp only
  generalize Binary64.shortest (p + 1) e = d at *
  generalize Binary64.stripZeros 20 d.digits = stripped at *
  obtain ⟨n, zeros⟩ := stripped
  dsimp only at *
  have hn : 0 < n := by
    rcases Nat.eq_zero_or_pos n with rfl | hn
    · have hpos := Binary64.Contains.pos hm hshortest
      rw [← hworth, Decimal.worth, Nat.cast_zero, zero_mul] at hpos
      exact absurd hpos (lt_irrefl _)
    · exact hn
  obtain ⟨spelled, hspells, hspelled⟩ :=
    spells_placed hn (d.exponent + zeros + (Text.ofNat n).length - 1)
  refine ⟨_, spelled, rfl, hspells, ?_⟩
  have hplaced : placed n (d.exponent + zeros + (Text.ofNat n).length - 1) =
      ⟨n, d.exponent + zeros⟩ := by
    rw [placed]
    congr 1
    omega
  rw [hspelled, hplaced, hworth]
  exact hshortest

/-- Every number of the format that is finite is written as a decimal that is read as this number. -/
theorem exists_spells {negative : Bool} {m : Nat} {e : Int}
    (hc : (Binary64.finite negative m e).IsCanonical) :
    ∃ t d, (Binary64.finite negative m e).write numberFormat = signText negative ++ t ∧ Spells t d ∧
      Binary64.ofDecimal negative d.digits d.exponent = .finite negative m e := by
  rcases Nat.eq_zero_or_pos m with rfl | hm
  · have hleast : e = Binary64.leastExponent :=
      hc.2.2.2.resolve_left (by decide)
    have hzero : Spells "0.0" ⟨0, -1⟩ := .point isWhole_zero (by decide : Text.isNumeral ['0'] = true)
    rw [hleast]
    exact ⟨_, _, rfl, hzero, rfl⟩
  · obtain ⟨t, d, htext, hspells, hrange⟩ := write_finite hc hm
    exact ⟨t, d, htext, hspells, Binary64.ofDecimal_of_contains hc hm hrange⟩

example : (Binary64.finite false 7205759403792794 (-56)).write numberFormat = "0.1".toList := by
  decide +kernel

end Writing

end QueryFence.Json
