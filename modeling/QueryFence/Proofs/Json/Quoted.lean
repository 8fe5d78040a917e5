import QueryFence.Json.Reader
import QueryFence.Json.Writer

/-!
Texts inside JSON: what stands between the quotes is read back character by character.
-/

namespace QueryFence

namespace Wide

theorem ofUnit_toNat (c : Char) : ofUnit c.toNat = c := by
  have hc : ¬ (0xD800 ≤ c.toNat ∧ c.toNat < 0xE000) := by
    have hvalid := c.valid
    simp only [UInt32.isValidChar, Nat.isValidChar] at hvalid
    simp only [Char.toNat]
    omega
  rw [ofUnit, if_neg hc, Char.ofNat_toNat]

/-- The numbers of characters are units that stand each for itself. -/
theorem ofUnits_map_toNat (t : Text) : ofUnits (t.map Char.toNat) = t := by
  match t with
  | [] => rfl
  | [c] => rw [List.map_singleton, ofUnits, ofUnit_toNat]
  | c :: d :: more =>
    have hc : ¬ (0xD800 ≤ c.toNat ∧ c.toNat < 0xDC00 ∧ 0xDC00 ≤ d.toNat ∧ d.toNat < 0xE000) := by
      have hvalid := c.valid
      simp only [UInt32.isValidChar, Nat.isValidChar] at hvalid
      simp only [Char.toNat]
      omega
    have ih := ofUnits_map_toNat (d :: more)
    rw [List.map_cons] at ih
    rw [List.map_cons, List.map_cons, ofUnits, if_neg hc, ofUnit_toNat, ih]

end Wide

namespace Json

theorem hexValue?_hex_of_lt : ∀ n < 0x20, Text.hexValue? (Text.hex 4 n) = some n := by decide

theorem length_hex_of_lt : ∀ n < 0x20, (Text.hex 4 n).length = 4 := by decide

/-- A control character is written with four hexadecimal digits. -/
theorem exists_hex_of_lt {n : Nat} (h : n < 0x20) :
    ∃ a b c d, Text.hex 4 n = [a, b, c, d] ∧ Text.hexValue? [a, b, c, d] = some n := by
  have hlength := length_hex_of_lt n h
  have hvalue := hexValue?_hex_of_lt n h
  match ht : Text.hex 4 n, hlength with
  | [a, b, c, d], _ => exact ⟨a, b, c, d, rfl, ht ▸ hvalue⟩

/-- A unit in front of those that are read behind it. -/
def unitBefore (n : Nat) : Step (List Nat) → Step (List Nat)
  | .ok (units, after) => .ok (n :: units, after)
  | .error stop => .error stop

/-- A letter behind a backslash is read as the character that it stands for. -/
theorem readUnits_simple (opening : Text) {letter c : Char} (hu : letter ≠ 'u')
    (hc : simpleEscape? letter = some c) (more : Text) :
    readUnits opening ('\\' :: letter :: more) = unitBefore c.toNat (readUnits opening more) := by
  rw [readUnits.eq_def]
  split
  · rename_i heq
    cases heq
  · rename_i heq
    cases heq
  · rename_i heq
    cases heq
    split
    · rename_i heq
      cases heq
    · rename_i heq
      cases heq
      exact absurd rfl hu
    · rename_i heq
      cases heq
      simp only [hc]
      rfl
  · rename_i _ hne heq
    cases heq
    exact absurd rfl hne

/-- A character that needs no escape is read as itself. -/
theorem readUnits_plain (opening : Text) {c : Char} (hquote : c ≠ '"') (hback : c ≠ '\\')
    (hplain : ¬ c.toNat < 0x20) (more : Text) :
    readUnits opening (c :: more) = unitBefore c.toNat (readUnits opening more) := by
  rw [readUnits.eq_def]
  split
  · rename_i heq
    cases heq
  · rename_i heq
    cases heq
    exact absurd rfl hquote
  · rename_i heq
    cases heq
    exact absurd rfl hback
  · rename_i heq
    cases heq
    simp only [hplain, if_false]
    rfl

/-- How a character is written inside a string. -/
inductive IsWrittenAs (c : Char) : Text → Prop
  | letter {letter : Char} (hu : letter ≠ 'u') (hc : simpleEscape? letter = some c) :
    IsWrittenAs c ['\\', letter]
  | digits {x y z w : Char} (hvalue : Text.hexValue? [x, y, z, w] = some c.toNat) :
    IsWrittenAs c ['\\', 'u', x, y, z, w]
  | plain (hquote : c ≠ '"') (hback : c ≠ '\\') (hplain : ¬ c.toNat < 0x20) : IsWrittenAs c [c]

theorem isWrittenAs_escapeChar (c : Char) : IsWrittenAs c (escapeChar c) := by
  rw [escapeChar]
  split
  · subst_vars
    exact .letter (by decide) rfl
  split
  · subst_vars
    exact .letter (by decide) rfl
  split
  · subst_vars
    exact .letter (by decide) rfl
  split
  · subst_vars
    exact .letter (by decide) rfl
  split
  · subst_vars
    exact .letter (by decide) rfl
  split
  · subst_vars
    exact .letter (by decide) rfl
  split
  · subst_vars
    exact .letter (by decide) rfl
  split
  · rename_i hcontrol
    obtain ⟨x, y, z, w, hhex, hvalue⟩ := exists_hex_of_lt hcontrol
    rw [hhex]
    exact .digits hvalue
  · rename_i hquote hback _ _ _ _ _ hplain
    exact .plain hquote hback hplain

/-- One written character is read as its number. -/
theorem readUnits_escapeChar (opening : Text) (c e : Char) (more : Text) :
    readUnits opening (escapeChar c ++ e :: more) =
      unitBefore c.toNat (readUnits opening (e :: more)) := by
  obtain ⟨t, ht⟩ : ∃ t, t = escapeChar c := ⟨_, rfl⟩
  have hwritten : IsWrittenAs c t := ht ▸ isWrittenAs_escapeChar c
  rw [← ht]
  cases hwritten with
  | letter hu hc => exact readUnits_simple opening hu hc _
  | digits hvalue =>
    simp only [List.cons_append, List.nil_append]
    rw [readUnits.eq_def]
    simp only [hvalue]
    rfl
  | plain hquote hback hplain => exact readUnits_plain opening hquote hback hplain _

/-- A written text is read back up to its closing quote. -/
theorem readString_writeText (opening t rest : Text) :
    readString opening (t.flatMap escapeChar ++ '"' :: rest) = .ok (t, rest) := by
  have hunits : readUnits opening (t.flatMap escapeChar ++ '"' :: rest) =
      .ok (t.map Char.toNat, rest) := by
    induction t with
    | nil => rfl
    | cons c t ih =>
      rw [List.flatMap_cons, List.append_assoc]
      cases hmore : t.flatMap escapeChar ++ '"' :: rest with
      | nil => exact absurd hmore (by simp)
      | cons e more =>
        rw [hmore] at ih
        rw [readUnits_escapeChar, ih]
        rfl
  rw [readString, hunits]
  simp only [Wide.ofUnits_map_toNat]

end Json

end QueryFence
