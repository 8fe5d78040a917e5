import QueryFence.Proofs.Assoc
import QueryFence.Proofs.Json.Number
import QueryFence.Proofs.Json.Quoted

/-!
Writing JSON and reading it again, on one line or with indentation: the values come back as they were.
-/

namespace QueryFence

namespace Json

mutual

/-- Values that are read back as they were written: with integers that are not too long to be read, with
floating-point numbers in their only form, and with objects in which no name stands twice. -/
def IsExact : Json → Prop
  | .null => True
  | .bool _ => True
  | .int n => (Text.ofNat n.natAbs).length ≤ Text.numeralLimit
  | .float x => x.IsCanonical
  | .text _ => True
  | .list items => ItemsExact items
  | .object members => Assoc.HasDistinctKeys members ∧ MembersExact members

def ItemsExact : List Json → Prop
  | [] => True
  | v :: rest => IsExact v ∧ ItemsExact rest

def MembersExact : List (Text × Json) → Prop
  | [] => True
  | (_, v) :: rest => IsExact v ∧ MembersExact rest

end

theorem membersExact_iff {members : List (Text × Json)} :
    MembersExact members ↔ ∀ member ∈ members, IsExact member.2 := by
  induction members with
  | nil => simp [MembersExact]
  | cons member rest ih => simp [MembersExact, ih]

/-- An object without some of its members is exact still. -/
theorem IsExact.sublist {members fewer : List (Text × Json)} (h : (Json.object members).IsExact)
    (hf : fewer.Sublist members) : (Json.object fewer).IsExact := by
  obtain ⟨hkeys, hmembers⟩ := h
  rw [membersExact_iff] at hmembers
  refine ⟨hkeys.sublist hf, membersExact_iff.2 ?_⟩
  intro member hm
  exact hmembers member (hf.subset hm)

theorem IsExact.put {members : List (Text × Json)} (h : (Json.object members).IsExact) (name : Text)
    {item : Json} (hi : item.IsExact) : (Json.object (Assoc.put name item members)).IsExact := by
  obtain ⟨hkeys, hmembers⟩ := h
  rw [membersExact_iff] at hmembers
  refine ⟨hkeys.put, membersExact_iff.2 ?_⟩
  intro member hm
  rcases Assoc.mem_of_mem_put hkeys hm with ⟨-, heq⟩ | ⟨-, hold⟩
  · rw [heq]
    exact hi
  · exact hmembers member hold

mutual

def decideExact : (v : Json) → Decidable v.IsExact
  | .null => .isTrue trivial
  | .bool _ => .isTrue trivial
  | .int n => inferInstanceAs (Decidable ((Text.ofNat n.natAbs).length ≤ Text.numeralLimit))
  | .float x => inferInstanceAs (Decidable x.IsCanonical)
  | .text _ => .isTrue trivial
  | .list items => decideItemsExact items
  | .object members =>
    have := decideMembersExact members
    inferInstanceAs (Decidable (Assoc.HasDistinctKeys members ∧ MembersExact members))

def decideItemsExact : (items : List Json) → Decidable (ItemsExact items)
  | [] => .isTrue trivial
  | v :: rest =>
    have := decideExact v
    have := decideItemsExact rest
    inferInstanceAs (Decidable (v.IsExact ∧ ItemsExact rest))

def decideMembersExact : (members : List (Text × Json)) → Decidable (MembersExact members)
  | [] => .isTrue trivial
  | (_, v) :: rest =>
    have := decideExact v
    have := decideMembersExact rest
    inferInstanceAs (Decidable (v.IsExact ∧ MembersExact rest))

end

instance (v : Json) : Decidable v.IsExact := decideExact v

section Blanks

theorem skipSpace_append {blanks : Text} (h : ∀ c ∈ blanks, isSpace c = true) (rest : Text) :
    skipSpace (blanks ++ rest) = skipSpace rest := List.dropWhile_append_of_pos h

theorem skipSpace_cons {c : Char} (h : isSpace c = false) (rest : Text) :
    skipSpace (c :: rest) = c :: rest := List.dropWhile_cons_of_neg (by simp [h])

variable (l : Layout) (depth : Nat)

theorem isSpace_of_mem_lineBreak {c : Char} (h : c ∈ l.lineBreak depth) : isSpace c = true := by
  rw [Layout.lineBreak] at h
  split at h
  · rcases List.mem_cons.1 h with rfl | h
    · rfl
    · rw [List.eq_of_mem_replicate h]
      rfl
  · exact absurd h List.not_mem_nil

theorem skipSpace_lineBreak (rest : Text) : skipSpace (l.lineBreak depth ++ rest) = skipSpace rest :=
  skipSpace_append (fun _ h => isSpace_of_mem_lineBreak l depth h) rest

/-- Between two items stands a comma with blanks behind it. -/
theorem between_eq : ∃ blanks, l.between depth = ',' :: blanks ∧ ∀ c ∈ blanks, isSpace c = true := by
  rw [Layout.between]
  split
  · exact ⟨_, rfl, fun _ h => isSpace_of_mem_lineBreak l depth h⟩
  · exact ⟨" ", rfl, List.all_eq_true.1 rfl⟩

theorem isBoundary_lineBreak {c : Char} {rest : Text} (h : IsBoundary (c :: rest)) :
    IsBoundary (l.lineBreak depth ++ c :: rest) := by
  rw [Layout.lineBreak]
  split
  · exact ⟨by decide, by decide, by decide, by decide⟩
  · exact h

theorem isBoundary_between (rest : Text) : IsBoundary (l.between depth ++ rest) := by
  obtain ⟨blanks, heq, -⟩ := between_eq l depth
  rw [heq]
  exact ⟨by decide, by decide, by decide, by decide⟩

end Blanks

section Values

/-- How a number starts. -/
theorem number_head (negative : Bool) {t : Text} (h : StartsDigit t) :
    ∃ c more, signText negative ++ t = c :: more ∧ isSpace c = false ∧ c ≠ ']' ∧ c ≠ '\x7d' := by
  obtain ⟨c, more, heq, hc⟩ := signText_append negative h
  refine ⟨c, more, heq, ?_⟩
  rcases hc with rfl | hc
  · exact ⟨by decide, by decide, by decide⟩
  · have hne : ∀ d : Char, d.isDigit = false → c ≠ d := fun _ => Text.ne_of_isDigit hc
    refine ⟨?_, hne _ (by decide), hne _ (by decide)⟩
    simp [isSpace, hne ' ' (by decide), hne '\t' (by decide), hne '\n' (by decide),
      hne '\r' (by decide)]

/-- How a value starts: with a word, a number, a quote or a bracket that opens. -/
theorem writeAt_head (l : Layout) (depth : Nat) {v : Json} (hv : IsExact v) :
    ∃ c more, writeAt l depth v = c :: more ∧ isSpace c = false ∧ c ≠ ']' ∧ c ≠ '\x7d' := by
  match v, hv with
  | .null, _ => exact ⟨'n', _, rfl, by decide, by decide, by decide⟩
  | .bool true, _ => exact ⟨'t', _, rfl, by decide, by decide, by decide⟩
  | .bool false, _ => exact ⟨'f', _, rfl, by decide, by decide, by decide⟩
  | .int n, hn =>
    obtain ⟨negative, htext, -⟩ := ofInt_eq n
    have hstarts := (isWhole_ofNat hn).startsDigit []
    rw [List.append_nil] at hstarts
    rw [writeAt, htext]
    exact number_head negative hstarts
  | .float .nan, _ => exact ⟨'N', _, rfl, by decide, by decide, by decide⟩
  | .float (.infinite true), _ => exact ⟨'-', _, rfl, by decide, by decide, by decide⟩
  | .float (.infinite false), _ => exact ⟨'I', _, rfl, by decide, by decide, by decide⟩
  | .float (.finite negative m e), hx =>
    obtain ⟨t, d, htext, hspells, -⟩ := exists_spells hx
    have hstarts := hspells.startsDigit []
    rw [List.append_nil] at hstarts
    rw [writeAt, htext]
    exact number_head negative hstarts
  | .text t, _ => exact ⟨'"', _, rfl, by decide, by decide, by decide⟩
  | .list [], _ => exact ⟨'[', _, rfl, by decide, by decide, by decide⟩
  | .list (_ :: _), _ => exact ⟨'[', _, by rw [writeAt]; rfl, by decide, by decide, by decide⟩
  | .object [], _ => exact ⟨'\x7b', _, rfl, by decide, by decide, by decide⟩
  | .object ((_, _) :: _), _ =>
    exact ⟨'\x7b', _, by rw [writeAt]; rfl, by decide, by decide, by decide⟩

theorem skipSpace_writeAt (l : Layout) (depth : Nat) {v : Json} (hv : IsExact v) (rest : Text) :
    skipSpace (writeAt l depth v ++ rest) = writeAt l depth v ++ rest := by
  obtain ⟨c, more, hhead, hspace, -, -⟩ := writeAt_head l depth hv
  rw [hhead]
  exact skipSpace_cons hspace _

/-- Members whose names are distinct are kept as they were written. -/
theorem membersOf_eq_self {members : List (Text × Json)} (h : Assoc.HasDistinctKeys members) :
    membersOf members = members := by
  have hfold : ∀ before after : List (Text × Json), Assoc.HasDistinctKeys (before ++ after) →
      after.foldl (fun members member => Assoc.put member.1 member.2 members) before =
        before ++ after := by
    intro before after
    induction after generalizing before with
    | nil =>
      intro _
      exact (List.append_nil before).symm
    | cons member after ih =>
      obtain ⟨name, value⟩ := member
      intro hd
      have hnew : name ∉ before.map Prod.fst := by
        rw [Assoc.HasDistinctKeys, List.map_append, List.nodup_append] at hd
        exact fun hm => hd.2.2 name hm name List.mem_cons_self rfl
      rw [List.append_cons] at hd
      have hput : Assoc.put name value before = before ++ [(name, value)] :=
        Assoc.put_of_not_mem hnew value
      rw [List.foldl_cons]
      simp only [hput]
      rw [ih _ hd, ← List.append_cons]
  exact hfold [] members h

/-- A value is read back from its text, whatever follows that does not go on with a number. -/
def ReadsBack (l : Layout) (v : Json) : Prop :=
  ∀ depth rest fuel, IsBoundary rest → 2 * (writeAt l depth v ++ rest).length < fuel →
    readValue fuel (writeAt l depth v ++ rest) = .ok (v, rest)

/-- What follows an item does not go on with a number. -/
theorem isBoundary_writeItems (l : Layout) (depth close : Nat) (items : List Json) (rest : Text) :
    IsBoundary (writeItems l depth items ++ (l.lineBreak close ++ ']' :: rest)) := by
  cases items with
  | nil => exact isBoundary_lineBreak l close ⟨by decide, by decide, by decide, by decide⟩
  | cons v items =>
    rw [writeItems, List.append_assoc, List.append_assoc]
    exact isBoundary_between l depth _

/-- The text of the items after the first. -/
theorem writeItems_cons (l : Layout) (depth : Nat) (v : Json) (items : List Json) (rest : Text) :
    ∃ blanks, (∀ c ∈ blanks, isSpace c = true) ∧ writeItems l depth (v :: items) ++ rest =
      ',' :: (blanks ++ (writeAt l depth v ++ (writeItems l depth items ++ rest))) := by
  obtain ⟨blanks, hbetween, hblanks⟩ := between_eq l depth
  refine ⟨blanks, hblanks, ?_⟩
  simp only [writeItems, hbetween, List.cons_append, List.append_assoc]

/-- The text of a list with items. -/
theorem writeAt_list_cons (l : Layout) (depth : Nat) (v : Json) (items : List Json) (rest : Text) :
    writeAt l depth (.list (v :: items)) ++ rest = '[' :: (l.lineBreak (depth + 1) ++
      (writeAt l (depth + 1) v ++ (writeItems l (depth + 1) items ++
        (l.lineBreak depth ++ ']' :: rest)))) := by
  simp only [writeAt, List.cons_append, List.append_assoc]
  rfl

theorem readItems_writeItems (l : Layout) (depth close : Nat) {v : Json} {items : List Json}
    (hv : IsExact v) (hitems : ItemsExact items) (h : ∀ w ∈ v :: items, ReadsBack l w)
    (rest : Text) (fuel : Nat)
    (hf : 2 * (writeAt l depth v ++
      (writeItems l depth items ++ (l.lineBreak close ++ ']' :: rest))).length + 1 < fuel) :
    readItems fuel (writeAt l depth v ++
      (writeItems l depth items ++ (l.lineBreak close ++ ']' :: rest))) =
      .ok (v :: items, rest) := by
  induction items generalizing v fuel with
  | nil =>
    obtain ⟨fuel, rfl⟩ : ∃ k, fuel = k + 1 := ⟨fuel - 1, by omega⟩
    have hvalue := h v List.mem_cons_self depth _ fuel (isBoundary_writeItems l depth close [] rest)
      (by omega)
    rw [readItems, hvalue]
    simp only [writeItems, List.nil_append, skipSpace_lineBreak, skipSpace_cons (c := ']') rfl]
  | cons w items ih =>
    obtain ⟨fuel, rfl⟩ : ∃ k, fuel = k + 1 := ⟨fuel - 1, by omega⟩
    have hvalue := h v List.mem_cons_self depth _ fuel
      (isBoundary_writeItems l depth close (w :: items) rest) (by omega)
    obtain ⟨blanks, hblanks, htext⟩ := writeItems_cons l depth w items
      (l.lineBreak close ++ ']' :: rest)
    have hnext := ih hitems.1 hitems.2 (fun u hu => h u (List.mem_cons_of_mem _ hu)) fuel (by
      rw [htext] at hf
      simp only [List.length_append, List.length_cons] at hf ⊢
      omega)
    rw [readItems, hvalue, htext]
    simp only [skipSpace_cons (c := ',') rfl, skipSpace_append hblanks,
      skipSpace_writeAt l depth hitems.1, hnext]

theorem isBoundary_writeMembers (l : Layout) (depth close : Nat) (members : List (Text × Json))
    (rest : Text) :
    IsBoundary (writeMembers l depth members ++ (l.lineBreak close ++ '\x7d' :: rest)) := by
  cases members with
  | nil => exact isBoundary_lineBreak l close ⟨by decide, by decide, by decide, by decide⟩
  | cons member members =>
    obtain ⟨name, v⟩ := member
    rw [writeMembers]
    simp only [List.append_assoc]
    exact isBoundary_between l depth _

/-- The text of a member before that of its value. -/
def nameText (name : Text) : Text := writeText name ++ ": "

theorem nameText_append (name t : Text) :
    nameText name ++ t = '"' :: (name.flatMap escapeChar ++ '"' :: ':' :: ' ' :: t) := by
  simp only [nameText, writeText, List.append_assoc, List.cons_append]
  rfl

/-- The text of an object with members. -/
theorem writeAt_object_cons (l : Layout) (depth : Nat) (name : Text) (v : Json)
    (members : List (Text × Json)) (rest : Text) :
    writeAt l depth (.object ((name, v) :: members)) ++ rest =
      '\x7b' :: (l.lineBreak (depth + 1) ++ (nameText name ++ (writeAt l (depth + 1) v ++
        (writeMembers l (depth + 1) members ++ (l.lineBreak depth ++ '\x7d' :: rest))))) := by
  simp only [writeAt, nameText, List.cons_append, List.append_assoc]
  rfl

/-- The text of the members after the first. -/
theorem writeMembers_cons (l : Layout) (depth : Nat) (name : Text) (v : Json)
    (members : List (Text × Json)) (rest : Text) :
    ∃ blanks, (∀ c ∈ blanks, isSpace c = true) ∧
      writeMembers l depth ((name, v) :: members) ++ rest = ',' :: (blanks ++ (nameText name ++
        (writeAt l depth v ++ (writeMembers l depth members ++ rest)))) := by
  obtain ⟨blanks, hbetween, hblanks⟩ := between_eq l depth
  refine ⟨blanks, hblanks, ?_⟩
  simp only [writeMembers, hbetween, nameText, List.cons_append, List.append_assoc]

section Members

variable {name t after rest : Text} {v : Json} {fuel : Nat}

/-- The last member is followed by the closing brace. -/
theorem readMembers_last (hspace : skipSpace t = t) (hvalue : readValue fuel t = .ok (v, after))
    (hclose : skipSpace after = '\x7d' :: rest) :
    readMembers (fuel + 1) (nameText name ++ t) = .ok ([(name, v)], rest) := by
  have hcolon : skipSpace (':' :: ' ' :: t) = ':' :: ' ' :: t := rfl
  have hblank : skipSpace (' ' :: t) = t := hspace
  rw [nameText_append, readMembers, readString_writeText]
  simp only [hcolon, hblank, hvalue, hclose]

/-- Every other member is followed by a comma and by the members behind it. -/
theorem readMembers_more (hspace : skipSpace t = t) (hvalue : readValue fuel t = .ok (v, after))
    {next : Text} (hcomma : skipSpace after = ',' :: next) {members : List (Text × Json)}
    (hnext : readMembers fuel (skipSpace next) = .ok (members, rest)) :
    readMembers (fuel + 1) (nameText name ++ t) = .ok ((name, v) :: members, rest) := by
  have hcolon : skipSpace (':' :: ' ' :: t) = ':' :: ' ' :: t := rfl
  have hblank : skipSpace (' ' :: t) = t := hspace
  rw [nameText_append, readMembers, readString_writeText]
  simp only [hcolon, hblank, hvalue, hcomma, hnext]

end Members

theorem skipSpace_nameText (name rest : Text) :
    skipSpace (nameText name ++ rest) = nameText name ++ rest := rfl

theorem readMembers_writeMembers (l : Layout) (depth close : Nat) {name : Text} {v : Json}
    {members : List (Text × Json)} (hv : IsExact v) (hmembers : MembersExact members)
    (h : ∀ member ∈ (name, v) :: members, ReadsBack l member.2) (rest : Text) (fuel : Nat)
    (hf : 2 * (nameText name ++ (writeAt l depth v ++
      (writeMembers l depth members ++ (l.lineBreak close ++ '\x7d' :: rest)))).length + 1 < fuel) :
    readMembers fuel (nameText name ++ (writeAt l depth v ++
      (writeMembers l depth members ++ (l.lineBreak close ++ '\x7d' :: rest)))) =
      .ok ((name, v) :: members, rest) := by
  induction members generalizing name v fuel with
  | nil =>
    obtain ⟨fuel, rfl⟩ : ∃ k, fuel = k + 1 := ⟨fuel - 1, by omega⟩
    have hfirst : ReadsBack l v := h (name, v) List.mem_cons_self
    have hvalue := hfirst depth _ fuel (isBoundary_writeMembers l depth close [] rest) (by
      rw [List.length_append] at hf
      omega)
    refine readMembers_last (skipSpace_writeAt l depth hv _) hvalue ?_
    rw [writeMembers, List.nil_append, skipSpace_lineBreak, skipSpace_cons (c := '\x7d') rfl]
  | cons member members ih =>
    obtain ⟨name', w⟩ := member
    obtain ⟨fuel, rfl⟩ : ∃ k, fuel = k + 1 := ⟨fuel - 1, by omega⟩
    have hfirst : ReadsBack l v := h (name, v) List.mem_cons_self
    have hvalue := hfirst depth _ fuel
      (isBoundary_writeMembers l depth close ((name', w) :: members) rest) (by
        rw [List.length_append] at hf
        omega)
    obtain ⟨blanks, hblanks, htext⟩ := writeMembers_cons l depth name' w members
      (l.lineBreak close ++ '\x7d' :: rest)
    have hnext := ih hmembers.1 hmembers.2 (fun u hu => h u (List.mem_cons_of_mem _ hu)) fuel (by
      rw [htext] at hf
      simp only [List.length_append, List.length_cons] at hf ⊢
      omega)
    rw [htext] at hvalue ⊢
    have hcomma := skipSpace_cons (c := ',') rfl (blanks ++ (nameText name' ++ (writeAt l depth w ++
      (writeMembers l depth members ++ (l.lineBreak close ++ '\x7d' :: rest)))))
    refine readMembers_more (skipSpace_writeAt l depth hv _) hvalue hcomma ?_
    rw [skipSpace_append hblanks, skipSpace_nameText, hnext]

theorem readsBack_list {l : Layout} {items : List Json} (hi : ItemsExact items)
    (h : ∀ v ∈ items, ReadsBack l v) : ReadsBack l (.list items) := by
  intro depth rest fuel hr hf
  obtain ⟨fuel, rfl⟩ : ∃ k, fuel = k + 1 := ⟨fuel - 1, by omega⟩
  cases items with
  | nil => rfl
  | cons v items =>
    rw [writeAt_list_cons] at hf ⊢
    have hitems := readItems_writeItems l (depth + 1) depth hi.1 hi.2 h rest fuel (by
      simp only [List.length_cons, List.length_append] at hf ⊢
      omega)
    obtain ⟨c, more, hhead, hspace, hclose, -⟩ := writeAt_head l (depth + 1) hi.1
    have hinside : skipSpace (l.lineBreak (depth + 1) ++ (writeAt l (depth + 1) v ++
        (writeItems l (depth + 1) items ++ (l.lineBreak depth ++ ']' :: rest)))) = c :: (more ++
          (writeItems l (depth + 1) items ++ (l.lineBreak depth ++ ']' :: rest))) := by
      rw [skipSpace_lineBreak, skipSpace_writeAt l _ hi.1, hhead, List.cons_append]
    rw [hhead, List.cons_append] at hitems
    simp only [readValue, hinside]
    split
    · rename_i heq
      exact absurd (List.cons.inj heq).1 hclose
    · rw [hitems]

theorem readsBack_object {l : Layout} {members : List (Text × Json)}
    (hd : Assoc.HasDistinctKeys members) (hm : MembersExact members)
    (h : ∀ member ∈ members, ReadsBack l member.2) : ReadsBack l (.object members) := by
  intro depth rest fuel hr hf
  obtain ⟨fuel, rfl⟩ : ∃ k, fuel = k + 1 := ⟨fuel - 1, by omega⟩
  cases members with
  | nil => rfl
  | cons member members =>
    obtain ⟨name, v⟩ := member
    rw [writeAt_object_cons] at hf ⊢
    have hmembers := readMembers_writeMembers l (depth + 1) depth hm.1 hm.2 h rest fuel (by
      simp only [List.length_cons, List.length_append] at hf ⊢
      omega)
    have hinside : ∀ t, skipSpace (l.lineBreak (depth + 1) ++ (nameText name ++ t)) =
        nameText name ++ t := fun t => by rw [skipSpace_lineBreak, skipSpace_nameText]
    simp only [readValue, hinside]
    split
    · rename_i heq
      exact absurd (List.cons.inj heq).1 (by decide)
    · simp only [hmembers, membersOf_eq_self hd]

theorem readsBack_int {l : Layout} {n : Int}
    (hn : (Text.ofNat n.natAbs).length ≤ Text.numeralLimit) : ReadsBack l (.int n) := by
  intro depth rest fuel hr hf
  obtain ⟨fuel, rfl⟩ : ∃ k, fuel = k + 1 := ⟨fuel - 1, by omega⟩
  obtain ⟨negative, htext, hsigned⟩ := ofInt_eq n
  have hw := isWhole_ofNat hn
  rw [writeAt, htext, List.append_assoc, readValue_of_startsDigit negative (hw.startsDigit rest),
    readNumber_of_boundary negative hw hr, Text.numeralValue_ofNat, ← hsigned]

theorem readsBack_float {l : Layout} {x : Binary64} (hx : x.IsCanonical) :
    ReadsBack l (.float x) := by
  intro depth rest fuel hr hf
  obtain ⟨fuel, rfl⟩ : ∃ k, fuel = k + 1 := ⟨fuel - 1, by omega⟩
  cases x with
  | nan => rfl
  | infinite negative => cases negative <;> rfl
  | finite negative m e =>
    obtain ⟨t, d, htext, hspells, hvalue⟩ := exists_spells hx
    rw [writeAt, htext, List.append_assoc,
      readValue_of_startsDigit negative (hspells.startsDigit rest), hspells.readNumber negative hr,
      hvalue]

theorem readsBack_text (l : Layout) (t : Text) : ReadsBack l (.text t) := by
  intro depth rest fuel _ hf
  obtain ⟨fuel, rfl⟩ : ∃ k, fuel = k + 1 := ⟨fuel - 1, by omega⟩
  have htext : writeAt l depth (.text t) ++ rest = '"' :: (t.flatMap escapeChar ++ '"' :: rest) := by
    simp only [writeAt, writeText, List.cons_append, List.append_assoc, List.nil_append]
  rw [htext, readValue, readString_writeText]

/-- A word is read back whatever follows. -/
theorem readsBack_word {l : Layout} {v : Json}
    (h : ∀ depth fuel rest, readValue (fuel + 1) (writeAt l depth v ++ rest) = .ok (v, rest)) :
    ReadsBack l v := by
  intro depth rest fuel _ hf
  obtain ⟨fuel, rfl⟩ : ∃ k, fuel = k + 1 := ⟨fuel - 1, by omega⟩
  exact h depth fuel rest

mutual

theorem readsBack (l : Layout) : ∀ v, IsExact v → ReadsBack l v
  | .null, _ => readsBack_word fun _ _ _ => rfl
  | .bool true, _ => readsBack_word fun _ _ _ => rfl
  | .bool false, _ => readsBack_word fun _ _ _ => rfl
  | .int _, hn => readsBack_int hn
  | .float _, hx => readsBack_float hx
  | .text t, _ => readsBack_text l t
  | .list items, h => readsBack_list h (itemsReadBack l items h)
  | .object members, h => readsBack_object h.1 h.2 (membersReadBack l members h.2)

theorem itemsReadBack (l : Layout) : ∀ items, ItemsExact items → ∀ v ∈ items, ReadsBack l v
  | [], _ => fun _ hv => absurd hv List.not_mem_nil
  | v :: items, h => List.forall_mem_cons.2 ⟨readsBack l v h.1, itemsReadBack l items h.2⟩

theorem membersReadBack (l : Layout) :
    ∀ members, MembersExact members → ∀ member ∈ members, ReadsBack l member.2
  | [], _ => fun _ hm => absurd hm List.not_mem_nil
  | (_, v) :: members, h =>
    List.forall_mem_cons.2 ⟨readsBack l v h.1, membersReadBack l members h.2⟩

end

/-- What is written exactly is read back as it was. -/
theorem read_writeAt (l : Layout) {v : Json} (hv : IsExact v) : read (writeAt l 0 v) = .ok v := by
  have hvalue := readsBack l v hv 0 [] (2 * (writeAt l 0 v).length + 1) trivial (by simp)
  have hskip := skipSpace_writeAt l 0 hv []
  rw [List.append_nil] at hvalue hskip
  simp only [read, hskip, hvalue]
  rfl

theorem read_writeIndented {v : Json} (hv : IsExact v) : read v.writeIndented = .ok v :=
  read_writeAt _ hv

end Values

end Json

end QueryFence
