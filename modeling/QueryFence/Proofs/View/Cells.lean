import QueryFence.Proofs.Text.Bars
import QueryFence.Proofs.View.Shape

/-!
What the cells of a table hold. Whatever is escaped stays in its cell, and so do numbers; of the issues
that Jira sends only a date can leave it, when it names no day and is shown as it is.
-/

namespace QueryFence

open QueryFence.Steps

open QueryFence.Text (IsBare IsPlain IsOneLine isBare_append_iff)

theorem Text.isBare_cons_iff {c : Char} {t : Text} :
    IsBare (c :: t) ↔ (c ≠ '|' ∧ isLineEnd c = false) ∧ IsBare t := List.forall_mem_cons

theorem Date.isBare_text (d : Date) : IsBare d.text := by
  have hhyphen : '-' ≠ '|' ∧ Text.isLineEnd '-' = false := by decide
  simp only [Date.text, isBare_append_iff, Text.isBare_cons_iff, hhyphen, Text.isBare_ofNat,
    Text.isBare_padded, ne_eq, not_false_eq_true, and_self]

namespace Binary64

variable {digits : Text}

theorem isBare_scientific (f : Format) (hd : IsBare digits) (place : Int) :
    IsBare (f.scientific digits place) := by
  have hexponent : IsBare ('e' :: (if place < 0 then '-' else '+') ::
      Text.padded f.exponentWidth place.natAbs) := by
    rw [Text.isBare_cons_iff, Text.isBare_cons_iff]
    refine ⟨by decide, ?_, Text.isBare_padded _ _⟩
    split <;> decide
  cases digits with
  | nil => exact hexponent
  | cons d more =>
    cases more with
    | nil => exact isBare_append_iff.2 ⟨hd, hexponent⟩
    | cons c more =>
      obtain ⟨hfirst, hmore⟩ := Text.isBare_cons_iff.1 hd
      have hpoint : IsBare ('.' :: c :: more) := Text.isBare_cons_iff.2 ⟨by decide, hmore⟩
      exact isBare_append_iff.2 ⟨Text.isBare_cons_iff.2 ⟨hfirst, hpoint⟩, hexponent⟩

theorem isBare_positional (hd : IsBare digits) (place : Int) : IsBare (positional digits place) := by
  have hzeros : ∀ n, IsBare (List.replicate n '0') := fun n c hc =>
    List.eq_of_mem_replicate hc ▸ by decide
  have hpoint : '.' ≠ '|' ∧ Text.isLineEnd '.' = false := by decide
  rw [positional]
  split
  · rw [isBare_append_iff, Text.isBare_cons_iff, Text.isBare_cons_iff]
    exact ⟨⟨by decide, hpoint, hzeros _⟩, hd⟩
  · dsimp only
    split
    · rw [isBare_append_iff, isBare_append_iff]
      exact ⟨⟨hd, hzeros _⟩, by decide⟩
    · rw [isBare_append_iff, Text.isBare_cons_iff]
      exact ⟨fun c hc => hd c (List.mem_of_mem_take hc), hpoint,
        fun c hc => hd c (List.mem_of_mem_drop hc)⟩

theorem isBare_text (x : Binary64) : IsBare x.text := by
  have hsign : ∀ negative : Bool, IsBare (if negative then "-" else "" : String).toList := by decide
  cases x with
  | nan => decide
  | infinite negative => exact isBare_append_iff.2 ⟨hsign negative, by decide⟩
  | finite negative m e =>
    cases m with
    | zero => exact isBare_append_iff.2 ⟨hsign negative, by decide⟩
    | succ m =>
      rw [text, write.eq_def]
      simp only
      generalize stripZeros 20 (shortest (m + 1) e).digits = stripped
      obtain ⟨n, zeros⟩ := stripped
      refine isBare_append_iff.2 ⟨hsign negative, ?_⟩
      split
      · exact isBare_scientific _ (Text.isBare_ofNat _) _
      · exact isBare_positional (Text.isBare_ofNat _) _

end Binary64

namespace Json

variable {v m : Json} {P Q : Json → Prop} {name : Text}

theorem eq_object_of_member? (h : v.member? name = some m) :
    ∃ members, v = .object members ∧ members.lookup name = some m := by
  cases v with
  | object members => exact ⟨members, rfl, h⟩
  | _ => cases h

theorem item_of_member? (h : v.member? name = some m) : v.item name = .ok m := by
  obtain ⟨members, rfl, hlookup⟩ := eq_object_of_member? h
  rw [item, hlookup]

theorem HasMember.imp (h : v.HasMember P name) (hpq : ∀ v, P v → Q v) : v.HasMember Q name := by
  obtain ⟨members, hv, hm⟩ := h
  exact ⟨members, hv, hm.imp_right (hpq _)⟩

theorem HasMember.isObject (h : v.HasMember P name) : v.IsObject := by
  obtain ⟨members, hv, -⟩ := h
  exact ⟨members, hv⟩

theorem HasMember.isVoidOr (h : v.HasMember P name) (hm : v.getD name .null = .ok m) :
    IsVoidOr P m := by
  obtain ⟨members, rfl, hp⟩ := h
  cases hm
  exact hp

/-- A void value is taken for another one. -/
theorem IsVoidOr.orElse (h : IsVoidOr P v) (other : Json) :
    v.orElse other = other ∨ v.orElse other = v ∧ P v := by
  rw [Json.orElse]
  split
  · exact .inl rfl
  · next hv => exact .inr ⟨rfl, h.resolve_left hv⟩

theorem isBare_display_of_isNumber (h : v.IsNumber) : IsBare v.display := by
  cases v with
  | bool b => cases b <;> decide
  | int n => exact Text.isBare_ofInt n
  | float x => exact x.isBare_text
  | _ => exact h.elim

theorem isBare_display_of_isVoid (h : v.isVoid = true) : IsBare v.display := by
  cases v with
  | null => decide
  | bool b => exact isBare_display_of_isNumber trivial
  | int n => exact isBare_display_of_isNumber trivial
  | float x => exact isBare_display_of_isNumber trivial
  | text t =>
    rw [isVoid, List.isEmpty_iff] at h
    rw [h]
    decide
  | list items =>
    rw [isVoid, List.isEmpty_iff] at h
    rw [h]
    decide
  | object members =>
    rw [isVoid, List.isEmpty_iff] at h
    rw [h]
    decide

end Json

namespace Cell

open Json

theorem isPlain_escape (t : Text) : IsPlain (escape t) :=
  ⟨(Text.isOneLine_squeeze t).replaceChar (by decide), Text.openBarsBehind_replaceChar _ _⟩

theorem isPlain_escapeValue (v : Json) : IsPlain (escapeValue v) := isPlain_escape _

theorem isPlain_joinWith_comma {parts : List Text} (h : ∀ part ∈ parts, IsPlain part) :
    IsPlain (Text.joinWith ", " parts) :=
  .joinWith Text.isDivider_comma (by decide) h

mutual

/-- A value of whatever shape stays in its cell. -/
theorem isPlain_ofValue : ∀ v, IsPlain (ofValue v)
  | .null => by decide
  | .bool b => isPlain_escapeValue (.bool b)
  | .int n => isPlain_escapeValue (.int n)
  | .float x => isPlain_escapeValue (.float x)
  | .text t => isPlain_escapeValue (.text t)
  | .list items => by
    rw [ofValue]
    exact isPlain_joinWith_comma (isPlain_ofValues items)
  | .object members => by
    rw [ofValue]
    split
    · exact isPlain_escapeValue _
    · decide

theorem isPlain_ofValues : ∀ items, ∀ part ∈ ofValues items, IsPlain part
  | [] => fun _ h => absurd h List.not_mem_nil
  | v :: rest => by
    rw [ofValues]
    exact List.forall_mem_cons.2 ⟨isPlain_ofValue v, isPlain_ofValues rest⟩

end

theorem ofCustom_cons (id : Text) (v : Json) (others : List (Text × Json)) :
    ofCustom (.object ((customName id, v) :: others)) id = .ok (ofValue v) := by
  apply bind_eq_ok_iff.2
  refine ⟨v, ?_, rfl⟩
  apply getD_eq_ok_iff.2
  exact ⟨_, rfl, by rw [List.lookup_cons_self, Option.getD_some]⟩

/-- Whether a time stamp is shown as a day. -/
def IsDay (t : Text) : Prop := (Iso.read (t.take 10)).isSome = true

instance (t : Text) : Decidable (IsDay t) := inferInstanceAs (Decidable (_ = true))

theorem isPlain_dateText_iff {t : Text} : IsPlain (dateText t) ↔ IsDay t ∨ IsPlain t := by
  rw [dateText, IsDay]
  split
  · next moment hread =>
    rw [hread]
    exact iff_of_true (Date.isBare_text _).isPlain (.inl rfl)
  · next hread =>
    rw [hread]
    exact (or_iff_right nofun).symm

theorem isBare_joinParts {parts : List (Option Text × Text)}
    (h : ∀ part ∈ parts, (∀ amount ∈ part.1, IsBare amount) ∧ IsBare part.2) :
    IsBare (joinParts parts) := by
  rw [joinParts]
  split
  · decide
  · refine .joinWith (by decide) fun shown hs => ?_
    obtain ⟨⟨amount, unit⟩, hp, hs⟩ := List.mem_filterMap.1 hs
    obtain ⟨text, htext, rfl⟩ := Option.map_eq_some_iff.1 hs
    exact isBare_append_iff.2 ⟨(h _ hp).1 text htext, (h _ hp).2⟩

theorem isBare_durationText (seconds : Int) : IsBare (durationText seconds) := by
  have hamount : ∀ n, ∀ amount ∈ amountOfInt n, IsBare amount := by
    intro n amount h
    rw [amountOfInt] at h
    split at h
    · cases h
    · cases h
      exact Text.isBare_ofInt n
  refine isBare_joinParts ?_
  simp only [List.forall_mem_cons]
  exact ⟨⟨hamount _, by decide⟩, ⟨hamount _, by decide⟩, ⟨hamount _, by decide⟩,
    fun _ h => absurd h List.not_mem_nil⟩

theorem isBare_floatDurationText (seconds : Binary64) : IsBare (floatDurationText seconds) := by
  have hamount : ∀ x, ∀ amount ∈ amountOfFloat x, IsBare amount := by
    intro x amount h
    rw [amountOfFloat] at h
    split at h
    · cases h
    · cases h
      exact x.isBare_text
  refine isBare_joinParts ?_
  simp only [List.forall_mem_cons]
  exact ⟨⟨hamount _, by decide⟩, ⟨hamount _, by decide⟩, ⟨hamount _, by decide⟩,
    fun _ h => absurd h List.not_mem_nil⟩

theorem isPlain_of_ofDuration {v : Json} {t : Text} (h : ofDuration v = .ok t) : IsPlain t := by
  unfold ofDuration at h
  split at h
  · cases h
    decide
  · cases v with
    | bool b =>
      cases h
      exact (isBare_durationText 1).isPlain
    | int n =>
      cases h
      exact (isBare_durationText n).isPlain
    | float x =>
      cases h
      exact (isBare_floatDurationText x).isPlain
    | _ => cases h

/-- What Jira sends for a plain field, if anything: a text, a number, an object with a name or a number in
it, or a list of names. -/
def SourceIsUsual (fields : Json) : Source → Prop
  | .key | .storyPoints | .absent => True
  | .text field | .date field => fields.HasMember IsText field
  | .named field shown => fields.HasMember (HasMember IsText shown) field
  | .duration field => fields.HasMember IsNumber field
  | .progress field => fields.HasMember (HasMember IsNumber "percent") field
  | .names field =>
    fields.HasMember (fun v => ∃ items, v = .list items ∧ ∀ i ∈ items, i.HasMember IsText "name") field
  | .labels => fields.HasMember (fun v => ∃ items, v = .list items ∧ ∀ i ∈ items, i.IsText) "labels"

/-- Whether a date that names no day stays in its cell as it is. -/
def SourceIsPlain (fields : Json) : Source → Prop
  | .date field => ∀ t, fields.member? field = some (.text t) → IsDay t ∨ IsPlain t
  | _ => True

variable {settings : Settings} {fields issue : Json} {kind : FieldKind} {t : Text}

theorem isPlain_of_ofProgress {v : Json} (h : ofProgress v = .ok t)
    (hv : v.HasMember IsNumber "percent") : IsPlain t := by
  obtain ⟨found, hfound, h⟩ := bind_eq_ok_iff.1 h
  split at h
  · obtain ⟨percent, hpercent, h⟩ := bind_eq_ok_iff.1 h
    cases h
    have hbare : IsBare percent.display := by
      obtain ⟨members, rfl, hp⟩ := hv
      rw [item] at hpercent
      split at hpercent
      · next m hlookup =>
        cases hpercent
        rw [hlookup, Option.getD_some] at hp
        exact hp.elim isBare_display_of_isVoid isBare_display_of_isNumber
      · cases hpercent
    exact (isBare_append_iff.2 ⟨hbare, by decide⟩).isPlain
  · cases h
    decide

theorem isPlain_of_ofDate {members : List (Text × Json)} {field : Text}
    (h : ofDate ((members.lookup field).getD .null) = .ok t) :
    IsPlain t ↔ ∀ t, members.lookup field = some (.text t) → IsDay t ∨ IsPlain t := by
  unfold ofDate at h
  split at h
  · next hvoid =>
    cases h
    refine iff_of_true (by decide) fun t ht => ?_
    rw [ht, Option.getD_some, isVoid, List.isEmpty_iff] at hvoid
    rw [hvoid]
    exact .inr (by decide)
  · next hvoid =>
    cases hlookup : members.lookup field with
    | none =>
      rw [hlookup] at hvoid
      exact absurd rfl hvoid
    | some v =>
      rw [hlookup, Option.getD_some] at h
      cases v with
      | text stamp =>
        cases h
        rw [isPlain_dateText_iff]
        constructor
        · rintro hp t ht
          cases ht
          exact hp
        · exact fun hp => hp stamp rfl
      | _ => cases h

/-- Of what Jira sends, only dates that name no day can leave their cells. -/
theorem isPlain_of_ofField (h : ofField settings issue fields kind = .ok t)
    (hu : SourceIsUsual fields (sourceOf kind)) :
    IsPlain t ↔ SourceIsPlain fields (sourceOf kind) := by
  rw [ofField] at h
  generalize sourceOf kind = source at h hu
  cases source with
  | key =>
    obtain ⟨v, -, h⟩ := bind_eq_ok_iff.1 h
    cases h
    exact iff_of_true (isPlain_escapeValue v) trivial
  | text field =>
    obtain ⟨v, -, h⟩ := bind_eq_ok_iff.1 h
    cases h
    exact iff_of_true (isPlain_escapeValue _) trivial
  | named field shown =>
    obtain ⟨v, -, h⟩ := bind_eq_ok_iff.1 h
    obtain ⟨m, -, h⟩ := bind_eq_ok_iff.1 h
    cases h
    exact iff_of_true (isPlain_escapeValue m) trivial
  | date field =>
    obtain ⟨v, hv, h⟩ := bind_eq_ok_iff.1 h
    obtain ⟨members, rfl, rfl⟩ := getD_eq_ok_iff.1 hv
    exact isPlain_of_ofDate h
  | duration field =>
    obtain ⟨v, -, h⟩ := bind_eq_ok_iff.1 h
    exact iff_of_true (isPlain_of_ofDuration h) trivial
  | progress field =>
    obtain ⟨v, hv, h⟩ := bind_eq_ok_iff.1 h
    refine iff_of_true (isPlain_of_ofProgress h ?_) trivial
    rcases (hu.isVoidOr hv).orElse (.object []) with he | ⟨he, hp⟩
    · rw [he]
      exact ⟨[], rfl, .inl rfl⟩
    · rw [he]
      exact hp
  | names field =>
    obtain ⟨v, -, h⟩ := bind_eq_ok_iff.1 h
    obtain ⟨items, -, h⟩ := bind_eq_ok_iff.1 h
    obtain ⟨names, -, h⟩ := bind_eq_ok_iff.1 h
    cases h
    refine iff_of_true (isPlain_joinWith_comma ?_) trivial
    exact List.forall_mem_map.2 fun name _ => isPlain_escapeValue name
  | labels =>
    obtain ⟨v, -, h⟩ := bind_eq_ok_iff.1 h
    obtain ⟨labels, -, h⟩ := bind_eq_ok_iff.1 h
    cases h
    refine iff_of_true (isPlain_joinWith_comma ?_) trivial
    exact List.forall_mem_map.2 fun label _ => isPlain_escapeValue label
  | storyPoints =>
    obtain ⟨found, -, h⟩ := bind_eq_ok_iff.1 h
    cases found with
    | none =>
      cases h
      exact iff_of_true (by decide) trivial
    | some id =>
      obtain ⟨v, -, h⟩ := bind_eq_ok_iff.1 h
      cases h
      exact iff_of_true (isPlain_ofValue v) trivial
  | absent =>
    cases h
    exact iff_of_true (by decide) trivial

/-- What Jira sends can be shown, but for story points under a table of custom fields that cannot be
searched for a name. -/
theorem sourceFits_iff {source : Source} (hobject : fields.IsObject)
    (hu : SourceIsUsual fields source) : SourceFits settings fields source ↔
      (source = .storyPoints → EndsWell (settings.customFields.idOf? storyPointsName)) := by
  cases source with
  | key => exact iff_of_true trivial nofun
  | text field => exact iff_of_true hobject nofun
  | named field shown => exact iff_of_true (hu.imp fun v hv => hv.isObject) nofun
  | date field => exact iff_of_true hu nofun
  | duration field => exact iff_of_true hu nofun
  | progress field =>
    refine iff_of_true (hu.imp fun v hv => ?_) nofun
    obtain ⟨members, rfl⟩ := hv.isObject
    trivial
  | names field =>
    refine iff_of_true (hu.imp fun v hv => ?_) nofun
    obtain ⟨items, rfl, hitems⟩ := hv
    exact ⟨items, rfl, fun i hi => (hitems i hi).isObject⟩
  | labels =>
    refine iff_of_true (hu.imp fun v hv => ?_) nofun
    obtain ⟨items, rfl, -⟩ := hv
    exact ⟨items, rfl⟩
  | storyPoints =>
    constructor
    · rintro ⟨found, hfound, -⟩ -
      exact ⟨found, hfound⟩
    · intro h
      obtain ⟨found, hfound⟩ := h rfl
      exact ⟨found, hfound, fun _ => hobject⟩
  | absent => exact iff_of_true trivial nofun

/-- What Jira sends for a column. -/
def ContentIsUsual (fields : Json) : Content → Prop
  | .field kind => SourceIsUsual fields (sourceOf kind)
  | .notes _ | .custom _ => True

/-- Whether what a column shows of an issue stays in its cell. -/
def ContentIsPlain (fields : Json) : Content → Prop
  | .field kind => SourceIsPlain fields (sourceOf kind)
  | .notes _ | .custom _ => True

theorem sourceOf_eq_storyPoints_iff : sourceOf kind = .storyPoints ↔ kind = .storyPoints := by
  cases kind <;> simp [sourceOf]

theorem isPlain_of_write {column : Column} (h : write settings column issue = .ok t)
    (hfields : issue.member? "fields" = some fields) (hu : ContentIsUsual fields column.content) :
    IsPlain t ↔ ContentIsPlain fields column.content := by
  obtain ⟨members, rfl, hlookup⟩ := eq_object_of_member? hfields
  obtain ⟨found, hfound, h⟩ := bind_eq_ok_iff.1 h
  obtain ⟨_, hm, rfl⟩ := getD_eq_ok_iff.1 hfound
  cases hm
  rw [hlookup, Option.getD_some] at h
  cases hcontent : column.content with
  | field kind =>
    rw [hcontent] at h hu
    exact isPlain_of_ofField h hu
  | notes path =>
    rw [hcontent] at h
    cases h
    exact iff_of_true (by decide) trivial
  | custom id =>
    rw [hcontent] at h
    obtain ⟨v, -, h⟩ := bind_eq_ok_iff.1 h
    cases h
    exact iff_of_true (isPlain_ofValue v) trivial

theorem fits_iff {column : Column} (hfields : issue.member? "fields" = some fields)
    (hobject : fields.IsObject) (hu : ContentIsUsual fields column.content) :
    Fits settings column issue ↔ (column.content = .field .storyPoints →
      EndsWell (settings.customFields.idOf? storyPointsName)) := by
  obtain ⟨members, rfl, hlookup⟩ := eq_object_of_member? hfields
  have hown : fieldsOf members = fields := by rw [fieldsOf, hlookup, Option.getD_some]
  have hfits : Fits settings column (.object members) ↔
      ContentFits settings fields column.content := by
    constructor
    · rintro ⟨_, hm, h⟩
      cases hm
      rwa [hown] at h
    · intro h
      exact ⟨members, rfl, hown.symm ▸ h⟩
  rw [hfits]
  cases hcontent : column.content with
  | field kind =>
    rw [hcontent] at hu
    rw [ContentFits, sourceFits_iff hobject hu, sourceOf_eq_storyPoints_iff, Content.field.injEq]
  | notes path => exact iff_of_true trivial nofun
  | custom id => exact iff_of_true hobject nofun

end Cell

end QueryFence
