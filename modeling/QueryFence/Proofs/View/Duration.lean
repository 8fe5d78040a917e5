import Mathlib
import QueryFence.Cell
import QueryFence.Proofs.Text.Capital
import QueryFence.Proofs.Text.Numeral
import QueryFence.Proofs.Text.Words

/-!
Shown durations. The parts of a duration are read back, so that its text tells its whole minutes:
two durations have one text exactly when they have the same of these.
-/

namespace QueryFence.Cell

open QueryFence.Text (words joinWith IsWord isNumeral numeralValue)

inductive TimeUnit
  | day
  | hour
  | minute
deriving DecidableEq

namespace TimeUnit

/-- From the longest to the shortest. -/
def all : List TimeUnit := [.day, .hour, .minute]

def letter : TimeUnit → Char
  | .day => 'd'
  | .hour => 'h'
  | .minute => 'm'

/-- A day has eight hours. -/
def minutes : TimeUnit → Int
  | .day => 480
  | .hour => 60
  | .minute => 1

def ofLetter? (c : Char) : Option TimeUnit := all.find? (·.letter = c)

/-- The amounts of a unit that are shown: no zero, and fewer than make a longer unit. -/
def Shows : TimeUnit → Int → Prop
  | .day, n => n ≠ 0
  | .hour, n => 1 ≤ n ∧ n ≤ 7
  | .minute, n => 1 ≤ n ∧ n ≤ 59

theorem ofLetter?_letter (unit : TimeUnit) : ofLetter? unit.letter = some unit := by
  cases unit <;> rfl

end TimeUnit

structure Amount where
  unit : TimeUnit
  count : Int

namespace Amount

def text (a : Amount) : Text := Text.ofInt a.count ++ [a.unit.letter]

def minutes (a : Amount) : Int := a.unit.minutes * a.count

end Amount

def readCount? : Text → Option Int
  | '-' :: digits => if isNumeral digits then some (-numeralValue digits) else none
  | digits => if isNumeral digits then some (numeralValue digits) else none

def readAmount? (t : Text) : Option Amount := do
  let unit ← TimeUnit.ofLetter? (← t.getLast?)
  return ⟨unit, ← readCount? t.dropLast⟩

/-- The minutes of all the amounts that are written in a text. -/
def readMinutes? (t : Text) : Option Int := do
  let amounts ← (words t).mapM readAmount?
  return (amounts.map Amount.minutes).sum

/-- One amount of each unit at most, from the longest unit to the shortest. -/
structure IsBreakdown (amounts : List Amount) : Prop where
  ne_nil : amounts ≠ []
  units : (amounts.map Amount.unit).Sublist TimeUnit.all
  shown : ∀ a ∈ amounts, a.unit.Shows a.count

section Reading

theorem readCount?_ofInt (n : Int) : readCount? (Text.ofInt n) = some n := by
  cases n with
  | ofNat n =>
    obtain ⟨c, more, heq, hc⟩ := Text.ofNat_eq_cons n
    have hn := Text.isNumeral_ofNat n
    have hv := Text.numeralValue_ofNat n
    rw [Text.ofInt]
    rw [heq] at hn hv ⊢
    rw [readCount?.eq_def]
    split
    · next hminus =>
      cases hminus
      cases hc
    · rw [if_pos hn, hv]
      rfl
  | negSucc n =>
    rw [Text.ofInt, readCount?, if_pos (Text.isNumeral_ofNat _), Text.numeralValue_ofNat]
    rfl

theorem readAmount?_text (a : Amount) : readAmount? a.text = some a := by
  rw [readAmount?, Amount.text, List.getLast?_concat, List.dropLast_concat, readCount?_ofInt]
  simp only [Option.bind_eq_bind, Option.bind_some, TimeUnit.ofLetter?_letter]
  rfl

theorem isWord_text (a : Amount) : IsWord a.text where
  ne_nil := List.concat_ne_nil _ _
  solid c hc := by
    have hminus : Text.isBlank '-' = false := rfl
    have hdigits : ∀ n, ∀ c ∈ Text.ofNat n, Text.isBlank c = false := fun _ _ hc =>
      Text.isBlank_of_isDigit (Text.isDigit_of_ascii (Text.isDigit_of_mem_ofNat hc))
    rcases List.mem_append.1 hc with hc | hc
    · cases hn : a.count with
      | ofNat n =>
        rw [hn] at hc
        exact hdigits n c hc
      | negSucc n =>
        rw [hn] at hc
        rcases List.mem_cons.1 hc with rfl | hc
        · exact hminus
        · exact hdigits (n + 1) c hc
    · rw [List.mem_singleton.1 hc]
      cases a.unit <;> rfl

theorem mapM_readAmount? (amounts : List Amount) :
    (amounts.map Amount.text).mapM readAmount? = some amounts := by
  induction amounts with
  | nil => rfl
  | cons a amounts ih =>
    rw [List.map_cons, List.mapM_cons, readAmount?_text, ih]
    rfl

/-- What is written amount by amount is read as all of them together. -/
theorem readMinutes?_joinWith (amounts : List Amount) :
    readMinutes? (joinWith " " (amounts.map Amount.text)) =
      some (amounts.map Amount.minutes).sum := by
  have hwords : words (joinWith " " (amounts.map Amount.text)) = amounts.map Amount.text :=
    Text.words_joinWith (List.forall_mem_map.2 fun a _ => isWord_text a)
  rw [readMinutes?, hwords, mapM_readAmount?]
  rfl

end Reading

section Writing

def amountsOf (minutes : Int) : List Amount :=
  let rest := minutes.fmod 480
  [⟨.day, minutes.fdiv 480⟩, ⟨.hour, rest.fdiv 60⟩, ⟨.minute, rest.fmod 60⟩]

def nonzero (amounts : List Amount) : List Amount := amounts.filter (·.count ≠ 0)

variable {minutes : Int}

theorem joinParts_amounts (amounts : List Amount) :
    joinParts (amounts.map fun a => (amountOfInt a.count, [a.unit.letter])) =
      if nonzero amounts = [] then "0m".toList
      else joinWith " " ((nonzero amounts).map Amount.text) := by
  have hshown : (amounts.map fun a => (amountOfInt a.count, [a.unit.letter])).filterMap
      (fun part => part.1.map (· ++ part.2)) = (nonzero amounts).map Amount.text := by
    rw [List.filterMap_map, nonzero, ← List.filterMap_eq_map, List.filterMap_filter]
    apply List.filterMap_congr
    intro a _
    by_cases h : a.count = 0 <;> simp [amountOfInt, h, Amount.text]
  simp only [joinParts, hshown, List.isEmpty_iff, List.map_eq_nil_iff]

theorem durationText_eq (seconds : Int) :
    durationText seconds = joinParts ((amountsOf (seconds.fdiv 60)).map
      fun a => (amountOfInt a.count, [a.unit.letter])) := rfl

theorem sum_nonzero (amounts : List Amount) :
    ((nonzero amounts).map Amount.minutes).sum = (amounts.map Amount.minutes).sum := by
  induction amounts with
  | nil => rfl
  | cons a amounts ih =>
    rw [nonzero] at ih ⊢
    by_cases h : a.count = 0
    · rw [List.filter_cons_of_neg (by simpa using h), ih, List.map_cons, List.sum_cons]
      rw [Amount.minutes, h, Int.mul_zero, Int.zero_add]
    · rw [List.filter_cons_of_pos (by simpa using h), List.map_cons, List.sum_cons, ih,
        List.map_cons, List.sum_cons]

theorem sum_amountsOf (minutes : Int) : ((amountsOf minutes).map Amount.minutes).sum = minutes := by
  simp only [amountsOf, Amount.minutes, TimeUnit.minutes, List.map_cons, List.map_nil,
    List.sum_cons, List.sum_nil]
  have hday := Int.mul_fdiv_add_fmod minutes 480
  have hhour := Int.mul_fdiv_add_fmod (minutes.fmod 480) 60
  omega

theorem isBreakdown_nonzero (h : nonzero (amountsOf minutes) ≠ []) :
    IsBreakdown (nonzero (amountsOf minutes)) where
  ne_nil := h
  units := List.filter_sublist.map Amount.unit
  shown a ha := by
    obtain ⟨ha, hne⟩ := List.mem_filter.1 ha
    have hne : a.count ≠ 0 := of_decide_eq_true hne
    have hsplit := Int.mul_fdiv_add_fmod (minutes.fmod 480) 60
    have hrest := Int.fmod_nonneg_of_pos minutes (by decide : (0 : Int) < 480)
    have hday := Int.fmod_lt_of_pos minutes (by decide : (0 : Int) < 480)
    have hleft := Int.fmod_nonneg_of_pos (minutes.fmod 480) (by decide : (0 : Int) < 60)
    have hhour := Int.fmod_lt_of_pos (minutes.fmod 480) (by decide : (0 : Int) < 60)
    simp only [amountsOf, List.mem_cons, List.not_mem_nil, or_false] at ha
    rcases ha with rfl | rfl | rfl
    · exact hne
    · simp only [TimeUnit.Shows] at hne ⊢
      omega
    · simp only [TimeUnit.Shows] at hne ⊢
      omega

/-- Amounts that are all zero are shown as no minutes. -/
theorem durationText_cases (seconds : Int) :
    (durationText seconds = "0m".toList ∧ seconds.fdiv 60 = 0) ∨
      ∃ amounts, IsBreakdown amounts ∧
        durationText seconds = joinWith " " (amounts.map Amount.text) ∧
        (amounts.map Amount.minutes).sum = seconds.fdiv 60 := by
  have hsum : ((nonzero (amountsOf (seconds.fdiv 60))).map Amount.minutes).sum = seconds.fdiv 60 :=
    (sum_nonzero _).trans (sum_amountsOf _)
  rw [durationText_eq, joinParts_amounts]
  by_cases h : nonzero (amountsOf (seconds.fdiv 60)) = []
  · rw [if_pos h]
    rw [h] at hsum
    exact .inl ⟨rfl, hsum.symm⟩
  · rw [if_neg h]
    exact .inr ⟨_, isBreakdown_nonzero h, rfl, hsum⟩

theorem readMinutes?_durationText (seconds : Int) :
    readMinutes? (durationText seconds) = some (seconds.fdiv 60) := by
  rcases durationText_cases seconds with ⟨htext, hzero⟩ | ⟨amounts, -, htext, hsum⟩
  · rw [htext, hzero]
    decide
  · rw [htext, readMinutes?_joinWith, hsum]

theorem durationText_eq_iff {seconds other : Int} :
    durationText other = durationText seconds ↔ other.fdiv 60 = seconds.fdiv 60 := by
  constructor
  · intro h
    have hread := congrArg readMinutes? h
    rw [readMinutes?_durationText, readMinutes?_durationText] at hread
    exact Option.some.inj hread
  · intro h
    rw [durationText_eq, durationText_eq, h]

theorem ofDuration_int {seconds : Int} (h : seconds ≠ 0) :
    ofDuration (.int seconds) = .ok (durationText seconds) := by
  have hvoid : (Json.int seconds).isVoid = false := beq_false_of_ne h
  rw [ofDuration, hvoid]
  rfl

end Writing

example : durationText (-61) = "-1d 7h 58m".toList := by decide

end QueryFence.Cell
