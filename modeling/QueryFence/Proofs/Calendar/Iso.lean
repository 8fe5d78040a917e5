import QueryFence.Calendar.Iso
import QueryFence.Proofs.Calendar.Date
import QueryFence.Proofs.Text.Numeral
import Mathlib.Data.List.TakeWhile

/-!
The stored form of an instant names that very instant.
-/

namespace QueryFence

/-- An instant of the years 1 to 9999, as every clock shows one. -/
structure Instant.IsTold (t : Instant) : Prop where
  nonneg : 0 ≤ t.micros
  lt_end : t.micros < Instant.endOfTime

instance (t : Instant) : Decidable t.IsTold :=
  decidable_of_iff (0 ≤ t.micros ∧ t.micros < Instant.endOfTime)
    ⟨fun h => ⟨h.1, h.2⟩, fun h => ⟨h.nonneg, h.lt_end⟩⟩

namespace Instant

theorem IsTold.isValid_date {t : Instant} (h : t.IsTold) :
    t.date.isValid = true ∧ t.date.number = t.micros.toNat / microsPerDay + 1 := by
  have hlt : t.micros < 3652059 * 86400000000 := h.lt_end
  have hnumber : t.micros.toNat / microsPerDay + 1 ≤ Date.lastNumber := by
    simp only [microsPerDay, microsPerSecond, Date.lastNumber]
    omega
  exact Date.ofNumber_spec (Nat.le_add_left 1 _) hnumber

theorem timeOfDay_lt (t : Instant) : t.timeOfDay / microsPerSecond < 86400 := by
  simp only [timeOfDay, microsPerDay, microsPerSecond]
  omega

/-- An instant is its date and its time of day. -/
theorem ofParts_parts {t : Instant} (h : t.IsTold) :
    ofParts t.date (t.timeOfDay / microsPerSecond / 3600) (t.timeOfDay / microsPerSecond / 60 % 60)
      (t.timeOfDay / microsPerSecond % 60) (t.timeOfDay % microsPerSecond) = t := by
  obtain ⟨micros⟩ := t
  have hpos : 0 ≤ micros := h.nonneg
  have hnumber := h.isValid_date.2
  simp only [ofParts, hnumber, timeOfDay, microsPerDay, microsPerSecond, Instant.mk.injEq]
  omega

end Instant

namespace Iso

theorem digits_padded {count n : Nat} (hc : 0 < count) (h : n < 10 ^ count) (rest : Text) :
    digits count (Text.padded count n ++ rest) = some (n, rest) := by
  have hlength := Text.length_padded hc h
  have htake : (Text.padded count n ++ rest).take count = Text.padded count n :=
    List.take_left' hlength
  have hdrop : (Text.padded count n ++ rest).drop count = rest :=
    List.drop_left' hlength
  have hdigits : (Text.padded count n).all Char.isDigit = true :=
    List.all_eq_true.2 fun c hc => Text.isDigit_of_mem_padded hc
  simp only [digits, htake, hdrop, hlength, hdigits, and_self, if_true, Text.ofDigitChars_padded]

theorem charAt_append (before rest : Text) (n : Nat) :
    charAt (before ++ rest) (before.length + n) = charAt rest n := by
  rw [charAt, charAt, List.getD_eq_getElem?_getD, List.getD_eq_getElem?_getD,
    List.getElem?_append_right (Nat.le_add_right _ _), Nat.add_sub_cancel_left]

theorem isLast_of_two_le {t : Text} (h : 2 ≤ t.length) : isLast t = false := by
  match t, h with
  | _ :: _ :: _, _ => rfl

theorem charAt_cons_zero (c : Char) (rest : Text) : charAt (c :: rest) 0 = c := rfl

/-- What starts with a number written in digits starts with one of ten characters. -/
theorem charAt_padded_ne {c : Char} (hc : c.isDigit = false) {count n : Nat} (hcount : 0 < count)
    (h : n < 10 ^ count) (rest : Text) : charAt (Text.padded count n ++ rest) 0 ≠ c := by
  have hlength := Text.length_padded hcount h
  cases hp : Text.padded count n with
  | nil =>
    rw [hp] at hlength
    exact absurd hlength.symm (Nat.ne_of_gt hcount)
  | cons d more =>
    have hd : d.isDigit = true := Text.isDigit_of_mem_padded (hp ▸ List.mem_cons_self)
    intro heq
    rw [show charAt (d :: more ++ rest) 0 = d from rfl] at heq
    rw [heq, hc] at hd
    exact Bool.false_ne_true hd

/-- A date as it is stored, before whatever follows it. -/
def dateForm (d : Date) (rest : Text) : Text :=
  Text.padded 4 d.year ++ '-' :: (Text.padded 2 d.month ++ '-' :: (Text.padded 2 d.day ++ rest))

section

variable {d : Date} (hyear : d.year < 10 ^ 4) (hmonth : d.month < 10 ^ 2) (hday : d.day < 10 ^ 2)

include hyear hmonth hday

theorem length_dateForm (rest : Text) : (dateForm d rest).length = rest.length + 10 := by
  have h4 := Text.length_padded (by decide) hyear
  have h2 := Text.length_padded (by decide) hmonth
  have h2' := Text.length_padded (by decide) hday
  simp only [dateForm, List.length_append, List.length_cons, h4, h2, h2']
  omega

theorem drop_dateForm (rest : Text) : (dateForm d rest).drop 10 = rest := by
  have hform : dateForm d rest = (Text.padded 4 d.year ++ '-' :: Text.padded 2 d.month ++
      '-' :: Text.padded 2 d.day) ++ rest := by
    simp only [dateForm, List.append_assoc, List.cons_append]
  rw [hform]
  refine List.drop_left' ?_
  simp only [List.length_append, List.length_cons, Text.length_padded (by decide) hyear,
    Text.length_padded (by decide) hmonth, Text.length_padded (by decide) hday]

theorem dateLength_dateForm (rest : Text) : dateLength (dateForm d rest) = some 10 := by
  have hlength := length_dateForm hyear hmonth hday rest
  have hhyphen : charAt (dateForm d rest) 4 = '-' := by
    have h := charAt_append (Text.padded 4 d.year)
      ('-' :: (Text.padded 2 d.month ++ '-' :: (Text.padded 2 d.day ++ rest))) 0
    rwa [Text.length_padded (by decide) hyear] at h
  have hweek : charAt (dateForm d rest) 5 ≠ 'W' := by
    have h := charAt_append (Text.padded 4 d.year)
      ('-' :: (Text.padded 2 d.month ++ '-' :: (Text.padded 2 d.day ++ rest))) 1
    rw [Text.length_padded (by decide) hyear] at h
    rw [dateForm, h]
    exact charAt_padded_ne (by decide) (by decide) hmonth _
  have h7 : ¬ (dateForm d rest).length < 7 := by omega
  have h7' : ¬ (dateForm d rest).length = 7 := by omega
  simp only [dateLength, h7, h7', hhyphen, hweek, if_true, if_false]

theorem readDate_dateForm (rest : Text) : readDate (dateForm d rest) 10 = some d := by
  have hlength := length_dateForm hyear hmonth hday rest
  have hweek := charAt_padded_ne (c := 'W') (by decide) (by decide) hmonth
    ('-' :: (Text.padded 2 d.day ++ rest))
  have hstop : (dateForm d rest).length - rest.length = 10 := by omega
  rw [readDate]
  rw [dateForm] at hstop ⊢
  simp only [digits_padded (by decide) hyear, digits_padded (by decide) hmonth,
    digits_padded (by decide) hday, Option.bind_eq_bind, Option.bind_some, charAt_cons_zero,
    if_true, List.drop_one, List.tail_cons, hweek, if_false, hstop]

end

/-- A time of day as it is stored, before its fraction. -/
def clockForm (hour minute second : Nat) (fraction : Text) : Text :=
  Text.padded 2 hour ++ ':' :: (Text.padded 2 minute ++ ':' :: (Text.padded 2 second ++ fraction))

/-- The fraction of a second as it is stored. -/
def fractionForm (micro : Nat) : Text := if micro = 0 then [] else '.' :: Text.padded 6 micro

theorem readFraction_padded {micro : Nat} (h : micro < 10 ^ 6) :
    readFraction (Text.padded 6 micro) ending = some (micro, false) := by
  have hdigits := digits_padded (by decide) h []
  rw [List.append_nil] at hdigits
  simp only [readFraction, Text.length_padded (by decide) h, Nat.min_self, hdigits,
    Option.bind_eq_bind, Option.bind_some]
  simp [charAt]

section

variable {hour minute second : Nat} (hhour : hour < 10 ^ 2) (hminute : minute < 10 ^ 2)
  (hsecond : second < 10 ^ 2)

include hhour hminute hsecond

theorem readTime_clockForm {micro : Nat} (hmicro : micro < 10 ^ 6) :
    readTime (clockForm hour minute second (fractionForm micro)) ending =
      some ⟨hour, minute, second, micro, false⟩ := by
  have h2 := Text.length_padded (by decide) hminute
  have h2' := Text.length_padded (by decide) hsecond
  have hlast : isLast (':' :: (Text.padded 2 minute ++
      ':' :: (Text.padded 2 second ++ fractionForm micro))) = false :=
    isLast_of_two_le (by simp only [List.length_cons, List.length_append]; omega)
  have hlast' : isLast (':' :: (Text.padded 2 second ++ fractionForm micro)) = false :=
    isLast_of_two_le (by simp only [List.length_cons, List.length_append]; omega)
  rw [readTime, clockForm]
  simp only [digits_padded (by decide) hhour, digits_padded (by decide) hminute,
    digits_padded (by decide) hsecond, Option.bind_eq_bind, Option.bind_some, charAt_cons_zero,
    List.cons_append, hlast, hlast', List.drop_one, List.tail_cons, ↓reduceIte, Char.reduceEq,
    decide_true, decide_false, Bool.false_eq_true, Bool.or_self, bne_self_eq_false, Bool.and_false]
  by_cases h0 : micro = 0
  · simp [fractionForm, h0, isLast, charAt]
  · have hlast'' : isLast ('.' :: Text.padded 6 micro) = false :=
      isLast_of_two_le (by simp only [List.length_cons, Text.length_padded (by decide) hmicro]; omega)
    simp [fractionForm, h0, hlast'', charAt_cons_zero, readFraction_padded hmicro]

theorem readClock_clockForm {micro : Nat} (hmicro : micro < 10 ^ 6) :
    readClock (clockForm hour minute second (fractionForm micro)) =
      some (⟨hour, minute, second, micro, false⟩, false) := by
  have hplain : ∀ c ∈ clockForm hour minute second (fractionForm micro),
      (!(c = '+' || c = '-' || c = 'Z')) = true := by
    intro c hc
    have hdigit : c.isDigit = true ∨ c = ':' ∨ c = '.' := by
      simp only [clockForm, fractionForm, List.mem_append, List.mem_cons] at hc
      rcases hc with hc | hc | hc | hc | hc | hc
      · exact .inl (Text.isDigit_of_mem_padded hc)
      · exact .inr (.inl hc)
      · exact .inl (Text.isDigit_of_mem_padded hc)
      · exact .inr (.inl hc)
      · exact .inl (Text.isDigit_of_mem_padded hc)
      · split at hc
        · exact absurd hc List.not_mem_nil
        · rcases List.mem_cons.1 hc with hc | hc
          · exact .inr (.inr hc)
          · exact .inl (Text.isDigit_of_mem_padded hc)
    rcases hdigit with h | rfl | rfl
    · have hne : ∀ d : Char, d.isDigit = false → c ≠ d := fun _ => Text.ne_of_isDigit h
      simp [hne '+' rfl, hne '-' rfl, hne 'Z' rfl]
    · rfl
    · rfl
  have htake := List.takeWhile_eq_self_iff.2 hplain
  have hdrop := List.dropWhile_eq_nil_iff.2 hplain
  simp only [readClock, htake, hdrop, readTime_clockForm hhour hminute hsecond hmicro,
    Option.bind_eq_bind, Option.bind_some, Bool.false_eq_true, if_false]

end

theorem isoText_form (t : Instant) :
    t.isoText = dateForm t.date ('T' :: clockForm (t.timeOfDay / Instant.microsPerSecond / 3600)
      (t.timeOfDay / Instant.microsPerSecond / 60 % 60)
      (t.timeOfDay / Instant.microsPerSecond % 60)
      (fractionForm (t.timeOfDay % Instant.microsPerSecond))) := by
  simp only [Instant.isoText, Instant.clockText, dateForm, clockForm, fractionForm,
    List.append_assoc, List.cons_append]

/-- The stored form of an instant is read back as that instant. -/
theorem read_isoText {t : Instant} (h : t.IsTold) : Iso.read t.isoText = some ⟨t, false⟩ := by
  obtain ⟨hvalid, -⟩ := h.isValid_date
  have hsecond := t.timeOfDay_lt
  have hmicro : t.timeOfDay % Instant.microsPerSecond < 10 ^ 6 := Nat.mod_lt _ (by decide)
  have hdays : Date.daysInMonth t.date.year t.date.month ≤ 31 := by
    simp only [Date.daysInMonth]
    split <;> split <;> omega
  simp only [Date.isValid, Bool.and_eq_true, decide_eq_true_eq] at hvalid
  obtain ⟨⟨⟨⟨⟨-, hyear⟩, -⟩, hmonth⟩, -⟩, hday⟩ := hvalid
  have hyear' : t.date.year < 10 ^ 4 := by omega
  have hmonth' : t.date.month < 10 ^ 2 := by omega
  have hday' : t.date.day < 10 ^ 2 := by omega
  have hclock := readClock_clockForm (show t.timeOfDay / Instant.microsPerSecond / 3600 < 10 ^ 2 by
    omega) (show t.timeOfDay / Instant.microsPerSecond / 60 % 60 < 10 ^ 2 by omega)
    (show t.timeOfDay / Instant.microsPerSecond % 60 < 10 ^ 2 by omega) hmicro
  have hhour : t.timeOfDay / Instant.microsPerSecond / 3600 < 24 := by omega
  have hminute : t.timeOfDay / Instant.microsPerSecond / 60 % 60 < 60 := by omega
  have hsecond' : t.timeOfDay / Instant.microsPerSecond % 60 < 60 := by omega
  rw [isoText_form]
  simp only [Iso.read, dateLength_dateForm hyear' hmonth' hday', Option.bind_eq_bind,
    Option.bind_some, readDate_dateForm hyear' hmonth' hday',
    h.isValid_date.1, drop_dateForm hyear' hmonth' hday', hclock, hhour, hminute, hsecond',
    decide_true, Bool.and_self, Bool.not_true, Bool.false_eq_true, if_false, if_true,
    Instant.ofParts_parts h]

end Iso

end QueryFence
