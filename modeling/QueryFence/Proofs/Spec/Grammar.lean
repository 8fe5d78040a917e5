import QueryFence.Proofs.Spec.RoundTrip
import QueryFence.Proofs.Text.SmallLetter

/-!
Which texts are search blocks. A block is read exactly when each of its lines is a query or an entry with
a value that its key takes, and every part of the specification is what the last line about it says.
-/

namespace QueryFence

namespace Mode

theorem ofWord?_eq_some_iff {word : Text} {mode : Mode} :
    ofWord? word = some mode ↔ word = mode.word := by
  constructor
  · intro h
    have hw := List.find?_some h
    exact (of_decide_eq_true hw).symm
  · rintro rfl
    exact mode.ofWord?_word

end Mode

theorem Limit.eq_of_value {a b : Limit} (h : a.value = b.value) : a = b := by
  obtain ⟨value, positive⟩ := a
  cases h
  rfl

theorem Limit.read_eq_ok_iff {value : Text} {limit : Limit}
    (h : Text.isNumeral value = true → value.length ≤ Text.numeralLimit) :
    Limit.read value = .ok limit ↔
      Text.isNumeral value = true ∧ limit.value = Text.numeralValue value := by
  rw [Limit.read]
  constructor
  · intro hr
    split at hr
    · next hn =>
      rw [if_neg (Nat.not_lt.2 (h hn))] at hr
      split at hr
      · cases hr
        exact ⟨hn, rfl⟩
      · cases hr
    · cases hr
  · rintro ⟨hn, hv⟩
    have hp := limit.positive
    rw [hv] at hp
    rw [if_pos hn, if_neg (Nat.not_lt.2 (h hn)), dif_pos hp, Except.ok.injEq]
    exact Limit.eq_of_value hv.symm

namespace Spec

/-- What stands before the first colon of a line, in small letters. -/
def keyOf (line : Text) : Text := Text.lower (Text.trim (Text.partition ':' line).1)

/-- What stands behind the first colon of a line. -/
def valueOf (line : Text) : Text := Text.trim (Text.partition ':' line).2

/-- The values that a key takes. -/
inductive Takes (settings : Settings) (key value : Text) : Prop
  | type {mode : Mode} (hk : key = "type") (h : Text.upper value = mode.word)
  | query (hk : key = "query")
  | limit (hk : key = "limit") (hd : Text.isNumeral value = true) (hp : 0 < Text.numeralValue value)
  | columns (hk : key = "columns") (h : ∀ token ∈ value.splitOn ',',
      Text.isBlankText token = false → ∃ c, Column.read settings token = .ok c)

/-- A line of a block: a query, or a key with a value. -/
def IsLine (settings : Settings) (line : Text) : Prop :=
  valueOf line = [] ∨ Takes settings (keyOf line) (valueOf line)

/-- The value of the last line with a key. -/
def lastValue? (key : Text) (lines : List Text) : Option Text :=
  (lines.filter fun line => valueOf line ≠ [] ∧ keyOf line = key).getLast?.map valueOf

/-- The query of the last line that is one or has one for its value. -/
def lastQuery? (lines : List Text) : Option Text :=
  (lines.filter fun line => valueOf line = [] ∨ keyOf line = "query").getLast?.map fun line =>
    if valueOf line = [] then line else valueOf line

def modeOf (lines : List Text) : Mode :=
  ((lastValue? "type" lines).bind fun value => Mode.ofWord? (Text.upper value)).getD .table

def limitOf (lines : List Text) : Option Limit :=
  (lastValue? "limit" lines).bind fun value =>
    if h : 0 < Text.numeralValue value then some ⟨Text.numeralValue value, h⟩ else none

def columnsOf (settings : Settings) (lines : List Text) : List Column :=
  ((lastValue? "columns" lines).map fun value =>
    (Column.tokens value).filterMap fun token => (Column.read settings token).toOption).getD []

/-- What the last lines about each part say, and the default of a part that no line is about. -/
def lastWords (settings : Settings) (lines : List Text) : Spec where
  mode := modeOf lines
  query := (lastQuery? lines).getD []
  limit := limitOf lines
  columns := columnsOf settings lines

section Last

theorem getLast?_filter_concat (p : Text → Bool) (lines : List Text) (line : Text) :
    ((lines ++ [line]).filter p).getLast? =
      if p line then some line else (lines.filter p).getLast? := by
  rw [List.filter_append]
  split
  · next h => rw [List.filter_cons_of_pos h, List.filter_nil, List.getLast?_concat]
  · next h => rw [List.filter_cons_of_neg h, List.filter_nil, List.append_nil]

variable (lines : List Text) {line : Text}

theorem lastValue?_concat_self {key : Text} (hv : valueOf line ≠ []) (hk : keyOf line = key) :
    lastValue? key (lines ++ [line]) = some (valueOf line) := by
  rw [lastValue?, getLast?_filter_concat, if_pos (decide_eq_true ⟨hv, hk⟩)]
  rfl

theorem lastValue?_concat_other {key : Text} (h : valueOf line = [] ∨ keyOf line ≠ key) :
    lastValue? key (lines ++ [line]) = lastValue? key lines := by
  have hn : ¬(valueOf line ≠ [] ∧ keyOf line = key) := by
    rintro ⟨hv, hk⟩
    exact h.elim hv fun hne => hne hk
  rw [lastValue?, getLast?_filter_concat, if_neg (fun hd => hn (of_decide_eq_true hd))]
  rfl

theorem lastQuery?_concat_self (h : valueOf line = [] ∨ keyOf line = "query") :
    lastQuery? (lines ++ [line]) = some (if valueOf line = [] then line else valueOf line) := by
  rw [lastQuery?, getLast?_filter_concat, if_pos (decide_eq_true h)]
  rfl

theorem lastQuery?_concat_other (hv : valueOf line ≠ []) (hk : keyOf line ≠ "query") :
    lastQuery? (lines ++ [line]) = lastQuery? lines := by
  have hn : ¬(valueOf line = [] ∨ keyOf line = "query") := by
    rintro (h | h)
    · exact hv h
    · exact hk h
  rw [lastQuery?, getLast?_filter_concat, if_neg (fun hd => hn (of_decide_eq_true hd))]
  rfl

end Last

section Line

variable {settings : Settings} {s : Spec} {line : Text}

/-- A key is known by its small form. -/
theorem applyEntry_congr {key word value : Text} (h : Text.lower key = word) (hw : word ∈ keys) :
    s.applyEntry settings key value = s.applyEntry settings word value := by
  have hplain : ∀ word ∈ keys, Text.IsPlainWord word ∧ Text.lowerAscii word = word := by decide
  obtain ⟨hp, hself⟩ := hplain word hw
  have hkey := (Text.lower_eq_iff hp).1 h
  have hcases : word = "type" ∨ word = "query" ∨ word = "limit" ∨ word = "columns" := by
    simpa [keys] using hw
  rw [applyEntry, applyEntry, hkey, hself]
  rcases hcases with rfl | rfl | rfl | rfl <;> rfl

theorem applyLine_bare (h : valueOf line = []) :
    s.applyLine settings line = .ok { s with query := line } := by
  have hb : Text.isBlankText (Text.partition ':' line).2 = true := Text.trim_eq_nil_iff.1 h
  rw [applyLine, BlockLine.of]
  simp only [hb, if_true]

theorem applyLine_entry (h : valueOf line ≠ []) :
    s.applyLine settings line =
      s.applyEntry settings (Text.trim (Text.partition ':' line).1) (valueOf line) := by
  have hb : Text.isBlankText (Text.partition ':' line).2 = false :=
    Bool.eq_false_iff.2 fun hb => h (Text.trim_eq_nil_iff.2 hb)
  rw [applyLine, BlockLine.of]
  simp only [hb, Bool.false_eq_true, if_false]
  rfl

theorem applyLine_key {word : Text} (h : valueOf line ≠ []) (hk : keyOf line = word)
    (hw : word ∈ keys) :
    s.applyLine settings line = s.applyEntry settings word (valueOf line) := by
  rw [applyLine_entry h, applyEntry_congr hk hw]

/-- An entry whose key is none is no line of a block. -/
theorem applyLine_no_key (h : valueOf line ≠ []) (hk : keyOf line ∉ keys) (s' : Spec) :
    s.applyLine settings line ≠ .ok s' := by
  have hword : ∀ word ∈ keys,
      Text.lowerAscii (Text.trim (Text.partition ':' line).1) ≠ word := by
    intro word hw he
    have hplain : ∀ word ∈ keys, Text.IsPlainWord word := by decide
    have hkey := (Text.lower_eq_iff (hplain word hw)).2 he
    rw [keyOf, hkey] at hk
    exact hk hw
  rw [applyLine_entry h, applyEntry, if_neg (hword _ (by decide)), if_neg (hword _ (by decide)),
    if_neg (hword _ (by decide)), if_neg (hword _ (by decide))]
  rintro ⟨⟩

theorem takes_type_iff {value : Text} :
    Takes settings "type" value ↔ ∃ mode : Mode, Text.upper value = mode.word := by
  constructor
  · rintro (⟨-, h⟩ | hk | ⟨hk, -, -⟩ | ⟨hk, -⟩)
    · exact ⟨_, h⟩
    all_goals exact absurd hk (by decide)
  · rintro ⟨mode, h⟩
    exact .type rfl h

theorem takes_limit_iff {value : Text} : Takes settings "limit" value ↔
    Text.isNumeral value = true ∧ 0 < Text.numeralValue value := by
  constructor
  · rintro (⟨hk, -⟩ | hk | ⟨-, hd, hp⟩ | ⟨hk, -⟩)
    · exact absurd hk (by decide)
    · exact absurd hk (by decide)
    · exact ⟨hd, hp⟩
    · exact absurd hk (by decide)
  · rintro ⟨hd, hp⟩
    exact .limit rfl hd hp

theorem takes_columns_iff {value : Text} : Takes settings "columns" value ↔
    ∀ token ∈ Column.tokens value, ∃ c, Column.read settings token = .ok c := by
  constructor
  · rintro (⟨hk, -⟩ | hk | ⟨hk, -, -⟩ | ⟨-, h⟩)
    · exact absurd hk (by decide)
    · exact absurd hk (by decide)
    · exact absurd hk (by decide)
    · intro token ht
      obtain ⟨hm, hb⟩ := List.mem_filter.1 ht
      exact h token hm (by simpa using hb)
  · intro h
    refine .columns rfl fun token hm hb => h token (List.mem_filter.2 ⟨hm, ?_⟩)
    rw [hb]
    rfl

theorem Takes.key_mem {key value : Text} (h : Takes settings key value) : key ∈ keys := by
  rcases h with ⟨rfl, -⟩ | rfl | ⟨rfl, -, -⟩ | ⟨rfl, -⟩ <;> decide

end Line

section Step

variable {settings : Settings} {lines : List Text} {line : Text} {s : Spec}

theorem step_bare (hv : valueOf line = []) :
    (lastWords settings lines).applyLine settings line =
      .ok (lastWords settings (lines ++ [line])) := by
  have hother : ∀ key, lastValue? key (lines ++ [line]) = lastValue? key lines :=
    fun key => lastValue?_concat_other lines (.inl hv)
  rw [applyLine_bare hv]
  simp only [lastWords, modeOf, limitOf, columnsOf, hother, lastQuery?_concat_self lines (.inl hv),
    hv, if_true, Option.getD_some]

theorem step_type (hv : valueOf line ≠ []) (hk : keyOf line = "type") :
    (lastWords settings lines).applyLine settings line = .ok s ↔
      Takes settings "type" (valueOf line) ∧ s = lastWords settings (lines ++ [line]) := by
  have hother : ∀ key, ("type" : Text) ≠ key →
      lastValue? key (lines ++ [line]) = lastValue? key lines :=
    fun key hne => lastValue?_concat_other lines (.inr (hk ▸ hne))
  have hself := lastValue?_concat_self lines hv hk
  have hquery := lastQuery?_concat_other lines hv (hk ▸ by decide)
  rw [applyLine_key hv hk (by decide), applyEntry, if_pos (by decide), takes_type_iff]
  simp only [lastWords, modeOf, limitOf, columnsOf, hself, hquery, hother "limit" (by decide),
    hother "columns" (by decide), Option.bind_some]
  cases hm : Mode.ofWord? (Text.upper (valueOf line)) with
  | none =>
    constructor
    · rintro ⟨⟩
    · rintro ⟨⟨mode, h⟩, -⟩
      cases (Mode.ofWord?_eq_some_iff.2 h).symm.trans hm
  | some mode =>
    constructor
    · rintro ⟨⟩
      exact ⟨⟨mode, Mode.ofWord?_eq_some_iff.1 hm⟩, rfl⟩
    · rintro ⟨-, rfl⟩
      rfl

theorem step_query (hv : valueOf line ≠ []) (hk : keyOf line = "query") :
    (lastWords settings lines).applyLine settings line =
      .ok (lastWords settings (lines ++ [line])) := by
  have hother : ∀ key, ("query" : Text) ≠ key →
      lastValue? key (lines ++ [line]) = lastValue? key lines :=
    fun key hne => lastValue?_concat_other lines (.inr (hk ▸ hne))
  rw [applyLine_key hv hk (by decide), applyEntry_query]
  simp only [lastWords, modeOf, limitOf, columnsOf, hother "type" (by decide),
    hother "limit" (by decide), hother "columns" (by decide),
    lastQuery?_concat_self lines (.inr hk), hv, if_false, Option.getD_some]

theorem step_limit (hv : valueOf line ≠ []) (hk : keyOf line = "limit")
    (hl : Text.isNumeral (valueOf line) = true → (valueOf line).length ≤ Text.numeralLimit) :
    (lastWords settings lines).applyLine settings line = .ok s ↔
      Takes settings "limit" (valueOf line) ∧ s = lastWords settings (lines ++ [line]) := by
  have hother : ∀ key, ("limit" : Text) ≠ key →
      lastValue? key (lines ++ [line]) = lastValue? key lines :=
    fun key hne => lastValue?_concat_other lines (.inr (hk ▸ hne))
  have hself := lastValue?_concat_self lines hv hk
  have hquery := lastQuery?_concat_other lines hv (hk ▸ by decide)
  rw [applyLine_key hv hk (by decide), applyEntry, if_neg (by decide), if_neg (by decide),
    if_pos (by decide), takes_limit_iff]
  simp only [lastWords, modeOf, limitOf, columnsOf, hself, hquery, hother "type" (by decide),
    hother "columns" (by decide), Option.bind_some]
  cases hr : Limit.read (valueOf line) with
  | error failure =>
    constructor
    · rintro ⟨⟩
    · rintro ⟨⟨hd, hp⟩, -⟩
      have hread : Limit.read (valueOf line) = .ok ⟨_, hp⟩ :=
        (Limit.read_eq_ok_iff hl).2 ⟨hd, rfl⟩
      cases hr.symm.trans hread
  | ok limit =>
    obtain ⟨hd, hvalue⟩ := (Limit.read_eq_ok_iff hl).1 hr
    have hp := limit.positive
    rw [hvalue] at hp
    have hlimit : limit = ⟨Text.numeralValue (valueOf line), hp⟩ := Limit.eq_of_value hvalue
    rw [dif_pos hp, ← hlimit]
    constructor
    · rintro ⟨⟩
      exact ⟨⟨hd, hp⟩, rfl⟩
    · rintro ⟨-, rfl⟩
      rfl

theorem step_columns (hv : valueOf line ≠ []) (hk : keyOf line = "columns") :
    (lastWords settings lines).applyLine settings line = .ok s ↔
      Takes settings "columns" (valueOf line) ∧ s = lastWords settings (lines ++ [line]) := by
  have hother : ∀ key, ("columns" : Text) ≠ key →
      lastValue? key (lines ++ [line]) = lastValue? key lines :=
    fun key hne => lastValue?_concat_other lines (.inr (hk ▸ hne))
  have hself := lastValue?_concat_self lines hv hk
  have hquery := lastQuery?_concat_other lines hv (hk ▸ by decide)
  rw [applyLine_key hv hk (by decide), applyEntry, if_neg (by decide), if_neg (by decide),
    if_neg (by decide), if_pos (by decide), takes_columns_iff, ← Steps.exists_mapM_eq_ok_iff]
  simp only [lastWords, modeOf, limitOf, columnsOf, hself, hquery, hother "type" (by decide),
    hother "limit" (by decide), Option.map_some, Option.getD_some, Column.readList]
  cases hr : (Column.tokens (valueOf line)).mapM (Column.read settings) with
  | error failure =>
    constructor
    · rintro ⟨⟩
    · rintro ⟨⟨columns, h⟩, -⟩
      cases h
  | ok columns =>
    have hcolumns : (Column.tokens (valueOf line)).filterMap
        (fun token => (Column.read settings token).toOption) = columns := by
      have hmap := Steps.mapM_eq_ok_iff.1 hr
      have hcomp : (fun token => (Column.read settings token).toOption) =
          Except.toOption ∘ Column.read settings := rfl
      rw [hcomp, ← List.filterMap_map, hmap, List.filterMap_map]
      exact List.filterMap_some
    rw [hcolumns]
    constructor
    · rintro ⟨⟩
      exact ⟨⟨columns, rfl⟩, rfl⟩
    · rintro ⟨-, rfl⟩
      rfl

/-- A further line is read exactly when it is one of a block, and then it has the last word. -/
theorem applyLine_lastWords_iff
    (hl : keyOf line = "limit" → Text.isNumeral (valueOf line) = true →
      (valueOf line).length ≤ Text.numeralLimit) :
    (lastWords settings lines).applyLine settings line = .ok s ↔
      IsLine settings line ∧ s = lastWords settings (lines ++ [line]) := by
  by_cases hv : valueOf line = []
  · rw [step_bare hv, Except.ok.injEq, eq_comm]
    exact ⟨fun h => ⟨.inl hv, h⟩, fun h => h.2⟩
  have hline : IsLine settings line ↔ Takes settings (keyOf line) (valueOf line) :=
    or_iff_right hv
  rw [hline]
  by_cases hk : keyOf line ∈ keys
  · have hcases : keyOf line = "type" ∨ keyOf line = "query" ∨ keyOf line = "limit" ∨
        keyOf line = "columns" := by
      simpa [keys] using hk
    rcases hcases with h | h | h | h
    · rw [step_type hv h, h]
    · rw [step_query hv h, Except.ok.injEq, eq_comm]
      exact ⟨fun hs => ⟨.query h, hs⟩, fun hs => hs.2⟩
    · rw [step_limit hv h (hl h), h]
    · rw [step_columns hv h, h]
  · exact ⟨fun h => absurd h (applyLine_no_key hv hk s), fun h => absurd h.1.key_mem hk⟩

/-- Lines are read one after the other exactly when each is one of a block. -/
theorem foldlM_applyLine_iff
    (hl : ∀ line ∈ lines, keyOf line = "limit" → Text.isNumeral (valueOf line) = true →
      (valueOf line).length ≤ Text.numeralLimit) (s : Spec) :
    lines.foldlM (applyLine settings) empty = .ok s ↔
      (∀ line ∈ lines, IsLine settings line) ∧ s = lastWords settings lines := by
  induction lines using List.reverseRecOn generalizing s with
  | nil =>
    rw [List.foldlM_nil]
    constructor
    · rintro ⟨⟩
      exact ⟨fun line h => absurd h List.not_mem_nil, rfl⟩
    · rintro ⟨-, rfl⟩
      rfl
  | append_singleton lines line ih =>
    have hlast := hl line (List.mem_append_right _ (List.mem_singleton_self line))
    have hbefore := ih (fun l hm => hl l (List.mem_append_left _ hm))
    rw [List.foldlM_append, Steps.bind_eq_ok_iff]
    constructor
    · rintro ⟨s', hs', h⟩
      obtain ⟨hlines, rfl⟩ := (hbefore s').1 hs'
      rw [List.foldlM_cons, Steps.bind_eq_ok_iff] at h
      obtain ⟨s'', hs'', h⟩ := h
      cases h
      obtain ⟨hline, rfl⟩ := (applyLine_lastWords_iff hlast).1 hs''
      refine ⟨fun l hm => ?_, rfl⟩
      rcases List.mem_append.1 hm with hm | hm
      · exact hlines l hm
      · rwa [List.mem_singleton.1 hm]
    · rintro ⟨hlines, rfl⟩
      refine ⟨_, (hbefore _).2 ⟨fun l hm => hlines l (List.mem_append_left _ hm), rfl⟩, ?_⟩
      have hline := hlines line (List.mem_append_right _ (List.mem_singleton_self line))
      rw [List.foldlM_cons, (applyLine_lastWords_iff hlast).2 ⟨hline, rfl⟩]
      rfl

end Step

end Spec

end QueryFence
