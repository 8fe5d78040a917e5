import QueryFence.Proofs.Json.RoundTrip
import QueryFence.Proofs.Text.Cut

/-!
Written JSON that was cut short. A number may then be read as a shorter one, but nothing goes on behind
it; so a list or an object with something missing at its end is never taken for JSON.
-/

namespace QueryFence.Json

open QueryFence.Text (IsCut isCut_nil)

/-- Reading stops at something that is not JSON. -/
def IsBroken {α : Type} : Step α → Prop
  | .error (.malformed _ _) => True
  | _ => False

theorem IsBroken.exists_eq {α : Type} {r : Step α} (h : IsBroken r) :
    ∃ cause rest, r = .error (.malformed cause rest) := by
  rcases r with (⟨cause, rest⟩ | _) | _
  · exact ⟨cause, rest, rfl⟩
  · exact h.elim
  · exact h.elim

/-- Behind what was read no list and no object can go on or end. -/
def IsOpenEnd (rest : Text) : Prop :=
  ∀ c more, skipSpace rest = c :: more → c ≠ ',' ∧ c ≠ ']' ∧ c ≠ '\x7d'

/-- What becomes of a value that was cut short. -/
inductive IsCutShort : Step Json → Prop
  | broken {r : Step Json} (h : IsBroken r) : IsCutShort r
  | openEnd {v : Json} {rest : Text} (h : IsOpenEnd rest) : IsCutShort (.ok (v, rest))

section Strings

theorem isBroken_unitBefore {n : Nat} {r : Step (List Nat)} (h : IsBroken r) :
    IsBroken (unitBefore n r) := by
  obtain ⟨cause, rest, rfl⟩ := h.exists_eq
  trivial

variable (opening : Text) {c : Char}

/-- A character of a string needs something behind it. -/
theorem IsWrittenAs.isBroken {t : Text} (h : IsWrittenAs c t) :
    IsBroken (readUnits opening t) ∧ ∀ p, IsCut p t → IsBroken (readUnits opening p) := by
  cases h with
  | letter hu hc =>
    refine ⟨?_, fun p hp => ?_⟩
    · rw [readUnits_simple opening hu hc]
      trivial
    · rcases hp.cons with rfl | ⟨q, rfl, hq⟩
      · trivial
      · rw [hq.singleton]
        trivial
  | digits hvalue =>
    refine ⟨trivial, fun p hp => ?_⟩
    rcases hp.cons with rfl | ⟨p₁, rfl, hp₁⟩
    · trivial
    rcases hp₁.cons with rfl | ⟨p₂, rfl, hp₂⟩
    · trivial
    rcases hp₂.cons with rfl | ⟨p₃, rfl, hp₃⟩
    · trivial
    rcases hp₃.cons with rfl | ⟨p₄, rfl, hp₄⟩
    · trivial
    rcases hp₄.cons with rfl | ⟨p₅, rfl, hp₅⟩
    · trivial
    rw [hp₅.singleton]
    trivial
  | plain hquote hback hplain =>
    refine ⟨?_, fun p hp => ?_⟩
    · rw [readUnits_plain opening hquote hback hplain]
      trivial
    · rw [hp.singleton]
      trivial

/-- A string without its closing quote is not read. -/
theorem isBroken_readString {t q : Text} (h : IsCut q (t.flatMap escapeChar ++ ['"'])) :
    IsBroken (readString opening q) := by
  have hunits : IsBroken (readUnits opening q) := by
    induction t generalizing q with
    | nil =>
      rw [h.singleton]
      trivial
    | cons c t ih =>
      have hchar := (isWrittenAs_escapeChar c).isBroken opening
      rw [List.flatMap_cons, List.append_assoc] at h
      rcases h.append with hcut | ⟨rest, rfl, hrest⟩
      · exact hchar.2 q hcut
      · cases rest with
        | nil =>
          rw [List.append_nil]
          exact hchar.1
        | cons e more =>
          rw [readUnits_escapeChar]
          exact isBroken_unitBefore (ih hrest)
  obtain ⟨cause, rest, hr⟩ := hunits.exists_eq
  rw [readString, hr]
  trivial

end Strings

section Scalars

/-- The characters of numbers. -/
def isNumeral (c : Char) : Bool :=
  c.isDigit || c = '-' || c = '+' || c = '.' || c = 'e' || c = 'E'

theorem isNumeral_of_isDigit {c : Char} (h : c.isDigit = true) : isNumeral c = true := by
  simp [isNumeral, h]

theorem isNumeral_of_mem_signText {negative : Bool} {c : Char} (h : c ∈ signText negative) :
    isNumeral c = true := by
  cases negative with
  | true =>
    rw [List.mem_singleton.1 h]
    rfl
  | false => exact absurd h List.not_mem_nil

theorem isNumeral_of_mem_exponentText {place : Int} {c : Char} (h : c ∈ exponentText place) :
    isNumeral c = true := by
  rcases List.mem_cons.1 h with rfl | h
  · rfl
  · rcases List.mem_cons.1 h with rfl | h
    · split <;> rfl
    · exact isNumeral_of_isDigit (Text.isDigit_of_mem_padded h)

theorem Spells.isNumeral {t : Text} {d : Binary64.Decimal} (h : Spells t d) :
    ∀ c ∈ t, isNumeral c = true := by
  have hdigits : ∀ {digits : Text}, (∀ c ∈ digits, c.isDigit = true) →
      ∀ c ∈ digits, Json.isNumeral c = true := fun h c hc => isNumeral_of_isDigit (h c hc)
  cases h with
  | point hw hb =>
    simp only [List.forall_mem_append, List.forall_mem_cons]
    exact ⟨hdigits hw.isDigit, rfl, hdigits (Text.isNumeral_iff.1 hb).2⟩
  | exponent hw place =>
    rw [List.forall_mem_append]
    exact ⟨hdigits hw.isDigit, fun c hc => isNumeral_of_mem_exponentText hc⟩
  | pointExponent hw hb place =>
    simp only [List.forall_mem_append, List.forall_mem_cons]
    exact ⟨hdigits hw.isDigit, rfl, hdigits (Text.isNumeral_iff.1 hb).2,
      fun c hc => isNumeral_of_mem_exponentText hc⟩

/-- Behind the whole part of a decimal no digit follows. -/
theorem Spells.exists_whole {t : Text} {d : Binary64.Decimal} (h : Spells t d) :
    ∃ whole tail, t = whole ++ tail ∧ IsWhole whole ∧ EndsDigits tail := by
  cases h with
  | point hw _ => exact ⟨_, _, rfl, hw, rfl⟩
  | exponent hw place => exact ⟨_, _, rfl, hw, rfl⟩
  | pointExponent hw _ place => exact ⟨_, _, rfl, hw, rfl⟩

theorem splitFraction_suffix (t : Text) : (splitFraction t).2 <:+ t := by
  rw [splitFraction.eq_def]
  split
  · split
    · exact List.suffix_refl _
    · exact (List.dropWhile_suffix _).trans (List.suffix_cons _ _)
  · exact List.suffix_refl _

theorem splitExponent_suffix (t : Text) : (splitExponent t).2 <:+ t := by
  rw [splitExponent.eq_def]
  split
  · split
    · next c rest _ =>
      have hdigits : ∀ digits : Text, digits <:+ rest → digits.dropWhile Char.isDigit <:+ c :: rest :=
        fun digits h => ((List.dropWhile_suffix _).trans h).trans (List.suffix_cons _ _)
      have hboth : ∀ (a b : Option Int) (digits : Text), digits <:+ rest →
          (if (digits.takeWhile Char.isDigit).isEmpty then (a, c :: rest)
            else (b, digits.dropWhile Char.isDigit)).2 <:+ c :: rest := by
        intro a b digits h
        split
        · exact List.suffix_refl _
        · exact hdigits digits h
      split
      next negative digits hsign =>
      have hpart : digits <:+ rest := by
        split at hsign
        · cases hsign
          exact List.suffix_cons _ _
        · cases hsign
          exact List.suffix_cons _ _
        · cases hsign
          exact List.suffix_refl _
      exact hboth _ _ digits hpart
    · exact List.suffix_refl _
  · exact List.suffix_refl _

theorem splitSign_suffix (t : Text) : (splitSign t).2 <:+ t := by
  rw [splitSign.eq_def]
  split
  · exact List.suffix_cons _ _
  · exact List.suffix_refl _

theorem length_wholePart_le (t : Text) : (wholePart t).length ≤ t.length := by
  rw [wholePart.eq_def]
  split
  · simp
  · exact (List.takeWhile_prefix _).length_le

/-- The whole part of what is left of a number is a part of its own. -/
theorem length_wholePart_of_isCut {negative : Bool} {whole tail p : Text} (hw : IsWhole whole)
    (htail : EndsDigits tail) (h : IsCut p (signText negative ++ (whole ++ tail))) :
    (wholePart (splitSign p).2).length ≤ Text.numeralLimit := by
  have hunsigned : ∀ q, IsCut q (whole ++ tail) → (wholePart q).length ≤ Text.numeralLimit := by
    intro q hq
    rcases hq.append with hq | ⟨rest, rfl, hrest⟩
    · exact Nat.le_trans (length_wholePart_le q) (Nat.le_trans (Nat.le_of_lt hq.length_lt) hw.short)
    · have hends : EndsDigits rest := by
        cases rest with
        | nil => trivial
        | cons c rest =>
          obtain ⟨more, rfl⟩ := hrest.head
          exact htail
      rw [wholePart_append hw hends]
      exact hw.short
  cases negative with
  | true =>
    rcases IsCut.cons h with rfl | ⟨q, rfl, hq⟩
    · exact Nat.zero_le _
    · exact hunsigned q hq
  | false =>
    cases p with
    | nil => exact Nat.zero_le _
    | cons c q =>
      obtain ⟨more, hmore⟩ := IsCut.head h
      obtain ⟨d, digits, hwhole, hd⟩ := hw.startsDigit tail
      have hstarts : StartsDigit (c :: q) := by
        have hcons : c :: more = d :: digits := hmore.symm.trans hwhole
        exact ⟨c, q, rfl, (List.cons.inj hcons).1 ▸ hd⟩
      have hsplit : splitSign (c :: q) = (false, c :: q) := splitSign_signText false hstarts
      rw [hsplit]
      exact hunsigned _ h

/-- A number leaves a part of what it was read from, unless it is none or has too many digits. -/
theorem readNumber_suffix {t : Text}
    (hwhole : (wholePart (splitSign t).2).length ≤ Text.numeralLimit) :
    IsBroken (readNumber t) ∨ ∃ v rest, readNumber t = .ok (v, rest) ∧ rest <:+ t := by
  have hrest : ∀ n, (splitExponent (splitFraction ((splitSign t).2.drop n)).2).2 <:+ t :=
    fun n => (splitExponent_suffix _).trans ((splitFraction_suffix _).trans
      ((List.drop_suffix n _).trans (splitSign_suffix t)))
  rw [readNumber]
  dsimp only
  split
  · exact .inl trivial
  · split
    · rw [if_neg (Nat.not_lt.2 hwhole)]
      exact .inr ⟨_, _, rfl, hrest _⟩
    · exact .inr ⟨_, _, rfl, hrest _⟩

theorem readValue_of_head {p : Text} (h : ∀ c ∈ p.head?, c ≠ '"' ∧ c ≠ '\x7b' ∧ c ≠ '[')
    (fuel : Nat) : readValue (fuel + 1) p = readScalar p := by
  cases p with
  | nil => rfl
  | cons c t =>
    obtain ⟨hquote, hbrace, hbracket⟩ := h c rfl
    exact readValue_of_ne hquote hbrace hbracket fuel t

/-- Characters of a number are read as a number, or not at all. -/
theorem isCutShort_of_isNumeral {p : Text} (h : ∀ c ∈ p, isNumeral c = true)
    (hwhole : (wholePart (splitSign p).2).length ≤ Text.numeralLimit) (fuel : Nat) :
    IsCutShort (readValue fuel p) := by
  cases fuel with
  | zero => exact .broken trivial
  | succ fuel =>
    have hne : ∀ c ∈ p, ∀ d, isNumeral d = false → c ≠ d := by
      rintro c hc d hd rfl
      rw [h c hc] at hd
      cases hd
    have hopen : ∀ {v : Json} {rest : Text}, rest <:+ p → IsCutShort (.ok (v, rest)) := by
      intro v rest hrest
      refine .openEnd fun c more hc => ?_
      have hm : c ∈ p := by
        refine hrest.subset ((List.dropWhile_suffix isSpace).subset ?_)
        rw [show rest.dropWhile isSpace = c :: more from hc]
        exact List.mem_cons_self
      exact ⟨hne c hm ',' (by decide), hne c hm ']' (by decide), hne c hm '\x7d' (by decide)⟩
    rw [readValue_of_head fun c hc => ?_]
    · rw [readScalar]
      split
      · exact hopen (List.drop_suffix _ _)
      · rcases readNumber_suffix hwhole with hbroken | ⟨v, rest, heq, hrest⟩
        · exact .broken hbroken
        · rw [heq]
          exact hopen hrest
    · have hm := List.mem_of_mem_head? hc
      exact ⟨hne c hm '"' (by decide), hne c hm '\x7b' (by decide), hne c hm '[' (by decide)⟩

instance {α : Type} : (r : Step α) → Decidable (IsBroken r)
  | .error (.malformed _ _) => .isTrue trivial
  | .error (.numeralTooLong _) => .isFalse id
  | .ok _ => .isFalse id

/-- A word that is cut short is none. -/
theorem isBroken_of_literal {literal : Text × Json} (hl : literal ∈ literals) {p : Text}
    (h : IsCut p literal.1) (fuel : Nat) : IsBroken (readValue fuel p) := by
  cases fuel with
  | zero => trivial
  | succ fuel =>
    have hall : literals.all (fun literal => (List.range literal.1.length).all fun n =>
        decide (IsBroken (readScalar (literal.1.take n))) &&
          (literal.1.take n).head?.all fun c => c != '"' && c != '\x7b' && c != '[') = true := by
      decide
    have hone := List.all_eq_true.1 (List.all_eq_true.1 hall literal hl) p.length
      (List.mem_range.2 h.length_lt)
    rw [← List.prefix_iff_eq_take.1 h.isPrefix, Bool.and_eq_true, decide_eq_true_eq,
      Option.all_eq_true] at hone
    rw [readValue_of_head fun c hc => ?_]
    · exact hone.1
    · have hc := hone.2 c hc
      simp only [Bool.and_eq_true, bne_iff_ne, ne_eq] at hc
      exact ⟨hc.1.1, hc.1.2, hc.2⟩

end Scalars

section Brackets

theorem skipSpace_eq_nil {t : Text} (h : ∀ c ∈ t, isSpace c = true) : skipSpace t = [] := by
  have hskip := skipSpace_append h []
  rwa [List.append_nil] at hskip

theorem length_skipSpace_le (t : Text) : (skipSpace t).length ≤ t.length :=
  (List.dropWhile_suffix isSpace).length_le

/-- What does not start with a blank does not when it is cut short. -/
theorem skipSpace_of_isCut {q t : Text} (ht : skipSpace t = t) (h : IsCut q t) : skipSpace q = q := by
  cases q with
  | nil => rfl
  | cons c q =>
    obtain ⟨more, rfl⟩ := h.head
    apply skipSpace_cons
    cases hc : isSpace c with
    | false => rfl
    | true =>
      have hskip : skipSpace (c :: more) = skipSpace more := List.dropWhile_cons_of_pos hc
      have hle := length_skipSpace_le more
      rw [← hskip, ht, List.length_cons] at hle
      omega

/-- Blanks before something that was cut short. -/
theorem isCut_skipSpace {blanks t q : Text} (hb : ∀ c ∈ blanks, isSpace c = true)
    (ht : skipSpace t = t) (hne : t ≠ []) (h : IsCut q (blanks ++ t)) : IsCut (skipSpace q) t := by
  rcases h.append with hcut | ⟨rest, rfl, hrest⟩
  · rw [skipSpace_eq_nil fun c hc => hb c (hcut.subset hc)]
    exact isCut_nil hne
  · rw [skipSpace_append hb, skipSpace_of_isCut ht hrest]
    exact hrest

theorem isOpenEnd_of_blank {t : Text} (h : ∀ c ∈ t, isSpace c = true) : IsOpenEnd t := by
  intro c more hc
  rw [skipSpace_eq_nil h] at hc
  cases hc

/-- Before the closing bracket only blanks are left. -/
theorem isOpenEnd_of_lineBreak {l : Layout} {depth : Nat} {c : Char} {q : Text}
    (h : IsCut q (l.lineBreak depth ++ [c])) : IsOpenEnd q := by
  rcases h.append with hcut | ⟨rest, rfl, hrest⟩
  · exact isOpenEnd_of_blank fun c hc => isSpace_of_mem_lineBreak l depth (hcut.subset hc)
  · rw [hrest.singleton, List.append_nil]
    exact isOpenEnd_of_blank fun c hc => isSpace_of_mem_lineBreak l depth hc

/-- Where something is missing behind a value, it still does not go on like a number. -/
theorem isBoundary_of_isCut {q t : Text} (ht : IsBoundary t) (h : IsCut q t) : IsBoundary q := by
  cases q with
  | nil => trivial
  | cons c q =>
    obtain ⟨more, rfl⟩ := h.head
    exact ht

theorem isBroken_readItems_of_isCutShort {fuel : Nat} {t : Text}
    (h : IsCutShort (readValue fuel t)) : IsBroken (readItems (fuel + 1) t) := by
  rw [readItems]
  generalize readValue fuel t = r at h
  cases h with
  | broken h =>
    obtain ⟨cause, rest, rfl⟩ := h.exists_eq
    trivial
  | openEnd h =>
    dsimp only
    split
    · next heq => exact absurd rfl (h _ _ heq).2.1
    · next heq => exact absurd rfl (h _ _ heq).1
    · trivial

theorem isBroken_readMembers_of_isCutShort {fuel : Nat} {name t : Text} (hspace : skipSpace t = t)
    (h : IsCutShort (readValue fuel t)) : IsBroken (readMembers (fuel + 1) (nameText name ++ t)) := by
  have hcolon : skipSpace (':' :: ' ' :: t) = ':' :: ' ' :: t := rfl
  have hblank : skipSpace (' ' :: t) = t := hspace
  rw [nameText_append, readMembers, readString_writeText]
  simp only [hcolon, hblank]
  generalize readValue fuel t = r at h
  cases h with
  | broken h =>
    obtain ⟨cause, rest, rfl⟩ := h.exists_eq
    trivial
  | openEnd h =>
    dsimp only
    split
    · next heq => exact absurd rfl (h _ _ heq).2.2
    · next heq => exact absurd rfl (h _ _ heq).1
    · trivial

/-- A member whose name is cut short. -/
theorem isBroken_readMembers_name {name q : Text} (h : IsCut q (nameText name)) (fuel : Nat) :
    IsBroken (readMembers fuel q) := by
  cases fuel with
  | zero => trivial
  | succ fuel =>
    rcases h.append with hname | ⟨rest, rfl, hrest⟩
    · rcases hname.cons with rfl | ⟨q, rfl, hq⟩
      · trivial
      · obtain ⟨cause, rest, hr⟩ := (isBroken_readString ('"' :: q) hq).exists_eq
        rw [readMembers, hr]
        trivial
    · have htext : writeText name ++ rest = '"' :: (name.flatMap escapeChar ++ '"' :: rest) := by
        simp only [writeText, List.cons_append, List.append_assoc, List.nil_append]
      rw [htext, readMembers, readString_writeText]
      rcases hrest.cons with rfl | ⟨rest, rfl, hblank⟩
      · trivial
      · rw [hblank.singleton]
        rcases fuel with _ | fuel
        · trivial
        · trivial

theorem writeAt_append_ne_nil (l : Layout) (depth : Nat) {v : Json} (hv : IsExact v) (rest : Text) :
    writeAt l depth v ++ rest ≠ [] := by
  obtain ⟨c, more, hhead, -⟩ := writeAt_head l depth hv
  rw [hhead]
  exact List.cons_ne_nil _ _

/-- However short a value is cut, it is not read as a value with something behind it. -/
def BreaksOff (l : Layout) (v : Json) : Prop :=
  ∀ depth p fuel, IsCut p (writeAt l depth v) → 2 * p.length < fuel → IsCutShort (readValue fuel p)

variable {l : Layout} {depth close fuel : Nat} {v : Json} {q : Text}

/-- The first value of a text that was cut short: it breaks off itself, or it is read and what is behind
it was cut short. -/
theorem read_first {after : Text} (hv : IsExact v) (h : BreaksOff l v) (hafter : IsBoundary after)
    (hq : IsCut q (writeAt l depth v ++ after)) (hf : 2 * q.length < fuel) :
    IsCutShort (readValue fuel q) ∨ ∃ rest, q = writeAt l depth v ++ rest ∧ IsCut rest after ∧
      readValue fuel q = .ok (v, rest) := by
  rcases hq.append with hcut | ⟨rest, rfl, hrest⟩
  · exact .inl (h depth q fuel hcut hf)
  · exact .inr ⟨rest, rfl, hrest,
      readsBack l v hv depth rest fuel (isBoundary_of_isCut hafter hrest) hf⟩

/-- A list breaks off wherever something is missing at its end. -/
theorem isBroken_readItems {items : List Json} (hv : IsExact v) (hitems : ItemsExact items)
    (h : ∀ w ∈ v :: items, BreaksOff l w)
    (hq : IsCut q (writeAt l depth v ++ (writeItems l depth items ++ (l.lineBreak close ++ [']']))))
    (hf : 2 * q.length + 1 < fuel) : IsBroken (readItems fuel q) := by
  induction items generalizing v fuel q with
  | nil =>
    obtain ⟨fuel, rfl⟩ : ∃ k, fuel = k + 1 := ⟨fuel - 1, by omega⟩
    have hfuel : 2 * q.length < fuel := by omega
    apply isBroken_readItems_of_isCutShort
    rcases read_first hv (h v List.mem_cons_self) (isBoundary_writeItems l depth close [] []) hq
      hfuel with hcut | ⟨rest, -, hrest, hvalue⟩
    · exact hcut
    · rw [hvalue]
      exact .openEnd (isOpenEnd_of_lineBreak hrest)
  | cons w items ih =>
    obtain ⟨fuel, rfl⟩ : ∃ k, fuel = k + 1 := ⟨fuel - 1, by omega⟩
    have hfuel : 2 * q.length < fuel := by omega
    rcases read_first hv (h v List.mem_cons_self) (isBoundary_writeItems l depth close (w :: items) [])
      hq hfuel with hcut | ⟨rest, rfl, hrest, hvalue⟩
    · exact isBroken_readItems_of_isCutShort hcut
    obtain ⟨blanks, hblanks, htext⟩ := writeItems_cons l depth w items (l.lineBreak close ++ [']'])
    rw [htext] at hrest
    rcases hrest.cons with rfl | ⟨rest, rfl, hrest'⟩
    · apply isBroken_readItems_of_isCutShort
      rw [hvalue]
      exact .openEnd (isOpenEnd_of_blank fun _ hc => absurd hc List.not_mem_nil)
    · have hnext := isCut_skipSpace hblanks (skipSpace_writeAt l depth hitems.1 _)
        (writeAt_append_ne_nil l depth hitems.1 _) hrest'
      have hle := length_skipSpace_le rest
      have hbroken : IsBroken (readItems fuel (skipSpace rest)) := by
        refine ih hitems.1 hitems.2 (fun u hu => h u (List.mem_cons_of_mem _ hu)) hnext ?_
        simp only [List.length_append, List.length_cons] at hf
        omega
      obtain ⟨cause, left, hr⟩ := hbroken.exists_eq
      rw [readItems, hvalue]
      simp only [skipSpace_cons (c := ',') rfl, hr]
      trivial

/-- An object breaks off wherever something is missing at its end. -/
theorem isBroken_readMembers {name : Text} {members : List (Text × Json)} (hv : IsExact v)
    (hmembers : MembersExact members) (h : ∀ member ∈ (name, v) :: members, BreaksOff l member.2)
    (hq : IsCut q (nameText name ++ (writeAt l depth v ++
      (writeMembers l depth members ++ (l.lineBreak close ++ ['\x7d'])))))
    (hf : 2 * q.length + 1 < fuel) : IsBroken (readMembers fuel q) := by
  induction members generalizing name v fuel q with
  | nil =>
    obtain ⟨fuel, rfl⟩ : ∃ k, fuel = k + 1 := ⟨fuel - 1, by omega⟩
    rcases hq.append with hcut | ⟨t, rfl, ht⟩
    · exact isBroken_readMembers_name hcut _
    apply isBroken_readMembers_of_isCutShort (skipSpace_of_isCut (skipSpace_writeAt l depth hv _) ht)
    rw [List.length_append] at hf
    have hfuel : 2 * t.length < fuel := by omega
    have hfirst : BreaksOff l v := h (name, v) List.mem_cons_self
    rcases read_first hv hfirst (isBoundary_writeMembers l depth close [] []) ht hfuel with
      hcut | ⟨rest, -, hrest, hvalue⟩
    · exact hcut
    · rw [hvalue]
      exact .openEnd (isOpenEnd_of_lineBreak hrest)
  | cons member members ih =>
    obtain ⟨name', w⟩ := member
    obtain ⟨fuel, rfl⟩ : ∃ k, fuel = k + 1 := ⟨fuel - 1, by omega⟩
    rcases hq.append with hcut | ⟨t, rfl, ht⟩
    · exact isBroken_readMembers_name hcut _
    have hspace := skipSpace_of_isCut (skipSpace_writeAt l depth hv _) ht
    rw [List.length_append] at hf
    have hfuel : 2 * t.length < fuel := by omega
    have hfirst : BreaksOff l v := h (name, v) List.mem_cons_self
    rcases read_first hv hfirst (isBoundary_writeMembers l depth close ((name', w) :: members) []) ht
      hfuel with hcut | ⟨rest, rfl, hrest, hvalue⟩
    · exact isBroken_readMembers_of_isCutShort hspace hcut
    obtain ⟨blanks, hblanks, htext⟩ :=
      writeMembers_cons l depth name' w members (l.lineBreak close ++ ['\x7d'])
    rw [htext] at hrest
    rcases hrest.cons with rfl | ⟨rest, rfl, hrest'⟩
    · apply isBroken_readMembers_of_isCutShort hspace
      rw [hvalue]
      exact .openEnd (isOpenEnd_of_blank fun _ hc => absurd hc List.not_mem_nil)
    · have hnext := isCut_skipSpace hblanks (skipSpace_nameText name' _) (List.cons_ne_nil _ _) hrest'
      have hle := length_skipSpace_le rest
      have hbroken : IsBroken (readMembers fuel (skipSpace rest)) := by
        refine ih hmembers.1 hmembers.2 (fun u hu => h u (List.mem_cons_of_mem _ hu)) hnext ?_
        simp only [List.length_append, List.length_cons] at hf
        omega
      obtain ⟨cause, left, hr⟩ := hbroken.exists_eq
      have hcolon : ∀ t, skipSpace (':' :: ' ' :: t) = ':' :: ' ' :: t := fun _ => rfl
      have hblank : ∀ t, skipSpace (' ' :: t) = skipSpace t := fun _ => rfl
      rw [nameText_append, readMembers, readString_writeText]
      simp only [hcolon, hblank, hspace, hvalue, skipSpace_cons (c := ',') rfl, hr]
      trivial

theorem isBroken_list {items : List Json} (hi : ItemsExact items) (h : ∀ v ∈ items, BreaksOff l v)
    (hq : IsCut q (writeAt l depth (.list items))) (hf : 2 * q.length < fuel) :
    IsBroken (readValue fuel q) := by
  obtain ⟨fuel, rfl⟩ : ∃ k, fuel = k + 1 := ⟨fuel - 1, by omega⟩
  cases items with
  | nil =>
    rw [show writeAt l depth (.list []) = ['[', ']'] from rfl] at hq
    rcases hq.cons with rfl | ⟨rest, rfl, hrest⟩
    · trivial
    · rw [hrest.singleton]
      rcases fuel with _ | _ | fuel
      · trivial
      · trivial
      · trivial
  | cons v items =>
    rw [← List.append_nil (writeAt l depth (.list (v :: items))), writeAt_list_cons] at hq
    obtain ⟨c, more, hhead, -, hclose, -⟩ := writeAt_head l (depth + 1) hi.1
    rcases hq.cons with rfl | ⟨rest, rfl, hrest⟩
    · trivial
    · have hinside := isCut_skipSpace (fun _ hc => isSpace_of_mem_lineBreak l (depth + 1) hc)
        (skipSpace_writeAt l (depth + 1) hi.1 _) (writeAt_append_ne_nil l (depth + 1) hi.1 _) hrest
      have hle := length_skipSpace_le rest
      have hbroken : IsBroken (readItems fuel (skipSpace rest)) := by
        refine isBroken_readItems hi.1 hi.2 h hinside ?_
        rw [List.length_cons] at hf
        omega
      obtain ⟨cause, left, hr⟩ := hbroken.exists_eq
      rw [readValue]
      split
      · next heq =>
        rw [heq, hhead] at hinside
        obtain ⟨_, hc⟩ := hinside.head
        exact absurd (List.cons.inj hc).1 hclose
      · rw [hr]
        trivial

theorem isBroken_object {members : List (Text × Json)} (hm : MembersExact members)
    (h : ∀ member ∈ members, BreaksOff l member.2)
    (hq : IsCut q (writeAt l depth (.object members))) (hf : 2 * q.length < fuel) :
    IsBroken (readValue fuel q) := by
  obtain ⟨fuel, rfl⟩ : ∃ k, fuel = k + 1 := ⟨fuel - 1, by omega⟩
  cases members with
  | nil =>
    rw [show writeAt l depth (.object []) = ['\x7b', '\x7d'] from rfl] at hq
    rcases hq.cons with rfl | ⟨rest, rfl, hrest⟩
    · trivial
    · rw [hrest.singleton]
      rcases fuel with _ | fuel
      · trivial
      · trivial
  | cons member members =>
    obtain ⟨name, v⟩ := member
    rw [← List.append_nil (writeAt l depth (.object ((name, v) :: members))), writeAt_object_cons] at hq
    rcases hq.cons with rfl | ⟨rest, rfl, hrest⟩
    · trivial
    · have hinside := isCut_skipSpace (fun _ hc => isSpace_of_mem_lineBreak l (depth + 1) hc)
        (skipSpace_nameText name _) (List.cons_ne_nil _ _) hrest
      have hle := length_skipSpace_le rest
      have hbroken : IsBroken (readMembers fuel (skipSpace rest)) := by
        refine isBroken_readMembers hm.1 hm.2 h hinside ?_
        rw [List.length_cons] at hf
        omega
      obtain ⟨cause, left, hr⟩ := hbroken.exists_eq
      rw [readValue]
      split
      · next heq =>
        rw [heq] at hinside
        obtain ⟨_, hc⟩ := hinside.head
        exact absurd (List.cons.inj hc).1 (by decide)
      · rw [hr]
        trivial

theorem breaksOff_text (l : Layout) (t : Text) : BreaksOff l (.text t) := by
  intro depth p fuel hp hf
  obtain ⟨fuel, rfl⟩ : ∃ k, fuel = k + 1 := ⟨fuel - 1, by omega⟩
  have htext : writeAt l depth (.text t) = '"' :: (t.flatMap escapeChar ++ ['"']) := by
    simp only [writeAt, writeText, List.cons_append]
  rw [htext] at hp
  rcases hp.cons with rfl | ⟨q, rfl, hq⟩
  · exact .broken trivial
  · obtain ⟨cause, rest, hr⟩ := (isBroken_readString ('"' :: q) hq).exists_eq
    rw [readValue, hr]
    exact .broken trivial

/-- A number with something missing is read as another one, or not at all. -/
theorem breaksOff_number (negative : Bool) {whole tail : Text} (hw : IsWhole whole)
    (htail : EndsDigits tail) (hchars : ∀ c ∈ whole ++ tail, isNumeral c = true)
    (htext : ∀ depth, writeAt l depth v = signText negative ++ (whole ++ tail)) : BreaksOff l v := by
  intro depth p fuel hp _
  rw [htext] at hp
  refine isCutShort_of_isNumeral (fun c hc => ?_) (length_wholePart_of_isCut hw htail hp) fuel
  rcases List.mem_append.1 (hp.subset hc) with hc | hc
  · exact isNumeral_of_mem_signText hc
  · exact hchars c hc

theorem breaksOff_int {n : Int} (hn : (Text.ofNat n.natAbs).length ≤ Text.numeralLimit) :
    BreaksOff l (.int n) := by
  obtain ⟨negative, htext, -⟩ := ofInt_eq n
  have htail : EndsDigits [] := trivial
  refine breaksOff_number negative (isWhole_ofNat hn) htail (fun c hc => ?_) fun depth => ?_
  · rw [List.append_nil] at hc
    exact isNumeral_of_isDigit (Text.isDigit_of_mem_ofNat hc)
  · rw [writeAt, htext, List.append_nil]

theorem breaksOff_literal (literal : Text × Json) (hl : literal ∈ literals)
    (h : ∀ depth, writeAt l depth v = literal.1) : BreaksOff l v := by
  intro depth p fuel hp _
  rw [h depth] at hp
  exact .broken (isBroken_of_literal hl hp fuel)

theorem breaksOff_float {x : Binary64} (hx : x.IsCanonical) : BreaksOff l (.float x) := by
  cases x with
  | nan => exact breaksOff_literal ("NaN", .float .nan) (by simp [literals]) fun _ => rfl
  | infinite negative =>
    cases negative with
    | false =>
      exact breaksOff_literal ("Infinity", .float (.infinite false)) (by simp [literals]) fun _ => rfl
    | true =>
      exact breaksOff_literal ("-Infinity", .float (.infinite true)) (by simp [literals]) fun _ => rfl
  | finite negative m e =>
    obtain ⟨t, d, htext, hspells, -⟩ := exists_spells hx
    obtain ⟨whole, tail, rfl, hw, htail⟩ := hspells.exists_whole
    exact breaksOff_number negative hw htail hspells.isNumeral fun depth => by rw [writeAt, htext]

mutual

theorem breaksOff (l : Layout) : ∀ v, IsExact v → BreaksOff l v
  | .null, _ => breaksOff_literal ("null", .null) (by simp [literals]) fun _ => rfl
  | .bool true, _ =>
    breaksOff_literal ("true", .bool true) (by simp [literals]) fun _ => rfl
  | .bool false, _ =>
    breaksOff_literal ("false", .bool false) (by simp [literals]) fun _ => rfl
  | .int _, hn => breaksOff_int hn
  | .float _, hx => breaksOff_float hx
  | .text t, _ => breaksOff_text l t
  | .list items, h => fun _ _ _ hp hf => .broken (isBroken_list h (itemsBreakOff l items h) hp hf)
  | .object members, h =>
    fun _ _ _ hp hf => .broken (isBroken_object h.2 (membersBreakOff l members h.2) hp hf)

theorem itemsBreakOff (l : Layout) : ∀ items, ItemsExact items → ∀ v ∈ items, BreaksOff l v
  | [], _ => fun _ hv => absurd hv List.not_mem_nil
  | v :: items, h => List.forall_mem_cons.2 ⟨breaksOff l v h.1, itemsBreakOff l items h.2⟩

theorem membersBreakOff (l : Layout) :
    ∀ members, MembersExact members → ∀ member ∈ members, BreaksOff l member.2
  | [], _ => fun _ hm => absurd hm List.not_mem_nil
  | (_, v) :: members, h =>
    List.forall_mem_cons.2 ⟨breaksOff l v h.1, membersBreakOff l members h.2⟩

end

/-- An object with anything missing at its end is not JSON. -/
theorem read_of_isCut {members : List (Text × Json)} (h : IsExact (.object members)) {p : Text}
    (hp : IsCut p (Json.object members).writeIndented) :
    ∃ cause line column offset, read p = .error (.malformed cause line column offset) := by
  have hspace : skipSpace p = p := by
    have hskip := skipSpace_writeAt ⟨some 2⟩ 0 h []
    rw [List.append_nil] at hskip
    exact skipSpace_of_isCut hskip hp
  have hbroken : IsBroken (readValue (2 * p.length + 1) p) :=
    isBroken_object h.2 (membersBreakOff ⟨some 2⟩ members h.2) hp (by omega)
  obtain ⟨cause, rest, hr⟩ := hbroken.exists_eq
  rw [read, hspace, hr]
  exact ⟨_, _, _, _, rfl⟩

end Brackets

end QueryFence.Json
