import QueryFence.Proofs.Steps
import QueryFence.View

/-!
The shapes that a view can show: which values a header, a cell, the line of an issue and a whole table or
list are written for, told by the kinds of the values alone.
-/

namespace QueryFence

open QueryFence.Steps

namespace Json

variable {v d m : Json} {name : Text}

def IsObject (v : Json) : Prop := ∃ members, v = .object members

/-- Void, or of some kind. -/
def IsVoidOr (P : Json → Prop) (v : Json) : Prop := v.isVoid = true ∨ P v

/-- An object whose member of a name is void, missing or of some kind. -/
def HasMember (P : Json → Prop) (name : Text) (v : Json) : Prop :=
  ∃ members, v = .object members ∧ IsVoidOr P ((members.lookup name).getD .null)

/-- A text, a list of texts or the like that starts with something to be written in capitals. -/
def HasInitial : Json → Prop
  | .text (_ :: _) => True
  | .list (.text _ :: _) => True
  | _ => False

/-- Whether a duration can be told from it. -/
def IsNumber : Json → Prop
  | .bool _ | .int _ | .float _ => True
  | _ => False

def IsText (v : Json) : Prop := ∃ t, v = .text t

/-- Whether it consists of items. -/
def IsIterable (v : Json) : Prop := EndsWell v.items

/-- Whether a percentage can be looked for in it: where it is found outside an object, it cannot be
taken. -/
def IsProgress : Json → Prop
  | .object _ => True
  | .list items => Json.text "percent" ∉ items
  | .text t => Text.occursIn "percent" t = false
  | _ => False

theorem getD_eq_ok_iff :
    v.getD name d = .ok m ↔ ∃ members, v = .object members ∧ m = (members.lookup name).getD d := by
  cases v with
  | object members =>
    constructor
    · intro h
      exact ⟨members, rfl, (Except.ok.inj h).symm⟩
    · rintro ⟨members', h, rfl⟩
      cases h
      rfl
  | _ => exact ⟨nofun, by rintro ⟨members, h, -⟩; cases h⟩

theorem endsWell_getD_iff : EndsWell (v.getD name d) ↔ v.IsObject := by
  constructor
  · rintro ⟨m, h⟩
    obtain ⟨members, hv, -⟩ := getD_eq_ok_iff.1 h
    exact ⟨members, hv⟩
  · rintro ⟨members, rfl⟩
    exact ⟨_, getD_eq_ok_iff.2 ⟨members, rfl, rfl⟩⟩

theorem contains_list (items : List Json) (name : Text) :
    ∃ found, (Json.list items).contains name = .ok found ∧
      (found = true ↔ Json.text name ∈ items) := by
  refine ⟨_, rfl, ?_⟩
  rw [List.any_eq_true]
  constructor
  · rintro ⟨item, hi, h⟩
    cases item with
    | text t => exact eq_of_beq h ▸ hi
    | _ => cases h
  · intro h
    exact ⟨_, h, beq_self_eq_true _⟩

/-- What is asked of the member of an object, and of another value where the member is void. -/
theorem endsWell_member_iff {α : Type} {P : Json → Prop} {f : Json → Except Fault α} {other : Json}
    (hother : EndsWell (f other)) (h : ∀ v, EndsWell (f v) → v.isVoid = true ∨ P v)
    (h' : ∀ v, P v → EndsWell (f v)) :
    EndsWell (v.getD name .null >>= fun found => f (found.orElse other)) ↔
      HasMember P name v := by
  have hiff : ∀ found : Json, EndsWell (f (found.orElse other)) ↔ IsVoidOr P found := by
    intro found
    rw [orElse]
    by_cases hv : found.isVoid = true
    · rw [if_pos hv]
      exact ⟨fun _ => .inl hv, fun _ => hother⟩
    · rw [if_neg hv]
      exact ⟨h found, fun hp => h' found (hp.resolve_left hv)⟩
  rw [endsWell_bind_iff]
  constructor
  · rintro ⟨found, hfound, hnext⟩
    obtain ⟨members, hv, rfl⟩ := getD_eq_ok_iff.1 hfound
    exact ⟨members, hv, (hiff _).1 hnext⟩
  · rintro ⟨members, hv, hm⟩
    exact ⟨_, getD_eq_ok_iff.2 ⟨members, hv, rfl⟩, (hiff _).2 hm⟩

end Json

namespace Cell

open Json

variable {settings : Settings} {v fields : Json}

theorem endsWell_ofDate_iff : EndsWell (ofDate v) ↔ IsVoidOr IsText v := by
  unfold ofDate IsVoidOr
  by_cases hv : v.isVoid = true
  · rw [if_pos hv]
    exact ⟨fun _ => .inl hv, fun _ => endsWell_ok _⟩
  · rw [if_neg hv]
    constructor
    · intro h
      cases v with
      | text t => exact .inr ⟨t, rfl⟩
      | _ => exact absurd h (not_endsWell_error _)
    · rintro (h | ⟨t, rfl⟩)
      · exact absurd h hv
      · exact endsWell_ok _

theorem endsWell_ofDuration_iff : EndsWell (ofDuration v) ↔ IsVoidOr IsNumber v := by
  unfold ofDuration IsVoidOr
  by_cases hv : v.isVoid = true
  · rw [if_pos hv]
    exact ⟨fun _ => .inl hv, fun _ => endsWell_ok _⟩
  · rw [if_neg hv]
    cases v with
    | bool b => exact ⟨fun _ => .inr trivial, fun _ => endsWell_ok _⟩
    | int n => exact ⟨fun _ => .inr trivial, fun _ => endsWell_ok _⟩
    | float x => exact ⟨fun _ => .inr trivial, fun _ => endsWell_ok _⟩
    | _ => exact ⟨fun h => absurd h (not_endsWell_error _), fun h => (h.resolve_left hv).elim⟩

theorem endsWell_ofProgress_iff : EndsWell (ofProgress v) ↔ IsProgress v := by
  rw [ofProgress, endsWell_bind_iff]
  cases v with
  | object members =>
    refine ⟨fun _ => trivial, fun _ => ⟨_, rfl, ?_⟩⟩
    cases hm : members.lookup ("percent" : Text) with
    | none => exact endsWell_ok _
    | some percent =>
      rw [Option.isSome_some, if_pos rfl, endsWell_bind_pure_iff, item, hm]
      exact endsWell_ok _
  | list items =>
    obtain ⟨found, hfound, hiff⟩ := contains_list items "percent"
    rw [IsProgress, ← hiff]
    constructor
    · rintro ⟨found', hfound', h⟩ rfl
      rw [hfound] at hfound'
      cases hfound'
      obtain ⟨_, h, -⟩ := endsWell_bind_iff.1 h
      cases h
    · intro h
      refine ⟨found, hfound, ?_⟩
      rw [if_neg h]
      exact endsWell_ok _
  | text t =>
    rw [IsProgress]
    constructor
    · rintro ⟨found, hfound, h⟩
      cases hfound
      apply Bool.eq_false_iff.2
      intro ho
      rw [if_pos ho] at h
      obtain ⟨_, h, -⟩ := endsWell_bind_iff.1 h
      cases h
    · intro h
      refine ⟨_, rfl, ?_⟩
      rw [h, if_neg Bool.false_ne_true]
      exact endsWell_ok _
  | _ =>
    constructor
    · rintro ⟨_, h, -⟩
      cases h
    · exact False.elim

/-- The kinds of values that a field of an issue is shown for. -/
def SourceFits (settings : Settings) (fields : Json) : Source → Prop
  | .key | .absent => True
  | .text _ => fields.IsObject
  | .named field _ => fields.HasMember IsObject field
  | .date field => fields.HasMember IsText field
  | .duration field => fields.HasMember IsNumber field
  | .progress field => fields.HasMember IsProgress field
  | .names field => fields.HasMember (fun v => ∃ items, v = .list items ∧ ∀ i ∈ items, i.IsObject) field
  | .labels => fields.HasMember IsIterable "labels"
  | .storyPoints => ∃ found, settings.customFields.idOf? storyPointsName = .ok found ∧
      (found.isSome = true → fields.IsObject)

/-- The kinds of values that a column is shown for. -/
def ContentFits (settings : Settings) (fields : Json) : Content → Prop
  | .field kind => SourceFits settings fields (sourceOf kind)
  | .notes _ => True
  | .custom _ => fields.IsObject

/-- The fields of an issue. -/
def fieldsOf (members : List (Text × Json)) : Json :=
  (members.lookup ("fields" : Text)).getD (.object [])

/-- Whether a column can be shown for an issue. -/
def Fits (settings : Settings) (column : Column) (issue : Json) : Prop :=
  ∃ members, issue = .object members ∧ ContentFits settings (fieldsOf members) column.content

theorem endsWell_ofNames_iff {items : List Json} :
    EndsWell (ofNames items) ↔ ∀ i ∈ items, i.IsObject := by
  rw [ofNames, endsWell_bind_pure_iff, endsWell_mapM_iff]
  exact ⟨fun h i hi => endsWell_getD_iff.1 (h i hi), fun h i hi => endsWell_getD_iff.2 (h i hi)⟩

/-- Names are read out of a list of objects, or of nothing. -/
theorem isVoid_or_of_names (v : Json) (h : EndsWell (v.items >>= ofNames)) :
    v.isVoid = true ∨ ∃ items, v = .list items ∧ ∀ i ∈ items, i.IsObject := by
  obtain ⟨items, hitems, h⟩ := endsWell_bind_iff.1 h
  have hobjects := endsWell_ofNames_iff.1 h
  cases v with
  | list items' =>
    cases hitems
    exact .inr ⟨items, rfl, hobjects⟩
  | object members =>
    cases hitems
    cases members with
    | nil => exact .inl rfl
    | cons member members =>
      obtain ⟨_, h⟩ := hobjects _ List.mem_cons_self
      cases h
  | text t =>
    cases hitems
    cases t with
    | nil => exact .inl rfl
    | cons c t =>
      obtain ⟨_, h⟩ := hobjects _ List.mem_cons_self
      cases h
  | _ => cases hitems

theorem endsWell_named {shown : Text} {v : Json} :
    EndsWell (do return escapeValue (← v.getD shown (.text [])) : Except Fault Text) ↔ v.IsObject :=
  endsWell_bind_pure_iff.trans endsWell_getD_iff

theorem endsWell_ofCustom_iff {id : Text} : EndsWell (ofCustom fields id) ↔ fields.IsObject := by
  rw [ofCustom, endsWell_bind_pure_iff, endsWell_getD_iff]

/-- A plain field is shown where its value is of the right kind. -/
theorem endsWell_ofField_iff {members : List (Text × Json)} {kind : FieldKind} :
    EndsWell (ofField settings (.object members) fields kind) ↔
      SourceFits settings fields (sourceOf kind) := by
  have hmember : ∀ {P : Json → Prop} {check : Json → Except Fault Text} {field : Text},
      (∀ v, EndsWell (check v) ↔ IsVoidOr P v) →
        (EndsWell (fields.getD field .null >>= check) ↔ fields.HasMember P field) := by
    intro P check field h
    rw [endsWell_bind_iff]
    constructor
    · rintro ⟨found, hfound, hc⟩
      obtain ⟨members, hv, rfl⟩ := getD_eq_ok_iff.1 hfound
      exact ⟨members, hv, (h _).1 hc⟩
    · rintro ⟨members, hv, hm⟩
      exact ⟨_, getD_eq_ok_iff.2 ⟨members, hv, rfl⟩, (h _).2 hm⟩
  rw [ofField]
  cases sourceOf kind with
  | key => exact ⟨fun _ => trivial, fun _ => endsWell_bind_pure_iff.2 (endsWell_getD_iff.2 ⟨_, rfl⟩)⟩
  | text field => exact endsWell_bind_pure_iff.trans endsWell_getD_iff
  | named field shown =>
    exact endsWell_member_iff (f := fun v => do return escapeValue (← v.getD shown (.text [])))
      (endsWell_named.2 ⟨[], rfl⟩) (fun v h => .inr (endsWell_named.1 h))
      fun v h => endsWell_named.2 h
  | date field => exact hmember fun v => endsWell_ofDate_iff
  | duration field => exact hmember fun v => endsWell_ofDuration_iff
  | progress field =>
    exact endsWell_member_iff (endsWell_ofProgress_iff.2 trivial)
      (fun v h => .inr (endsWell_ofProgress_iff.1 h)) fun v h => endsWell_ofProgress_iff.2 h
  | names field =>
    refine endsWell_member_iff (f := fun v => v.items >>= ofNames) ?_ isVoid_or_of_names ?_
    · exact endsWell_bind_iff.2 ⟨[], rfl, endsWell_ofNames_iff.2 fun i hi =>
        absurd hi List.not_mem_nil⟩
    · rintro v ⟨items, rfl, h⟩
      exact endsWell_bind_iff.2 ⟨items, rfl, endsWell_ofNames_iff.2 h⟩
  | labels =>
    refine endsWell_member_iff (f := fun v => v.items >>= fun labels =>
      pure (Text.joinWith ", " (labels.map escapeValue))) ?_ (fun v h => ?_) (fun v h => ?_)
    · exact endsWell_bind_pure_iff.2 (endsWell_ok [])
    · exact .inr (endsWell_bind_pure_iff.1 h)
    · exact endsWell_bind_pure_iff.2 h
  | storyPoints =>
    rw [SourceFits, endsWell_bind_iff]
    constructor
    · rintro ⟨found, hfound, h⟩
      refine ⟨found, hfound, fun hs => ?_⟩
      cases found with
      | none => cases hs
      | some id => exact endsWell_ofCustom_iff.1 h
    · rintro ⟨found, hfound, h⟩
      refine ⟨found, hfound, ?_⟩
      cases found with
      | none => exact endsWell_ok []
      | some id => exact endsWell_ofCustom_iff.2 (h rfl)
  | absent => exact ⟨fun _ => trivial, fun _ => endsWell_ok []⟩

theorem endsWell_write_iff {column : Column} {issue : Json} :
    EndsWell (write settings column issue) ↔ Fits settings column issue := by
  have hcontent : ∀ members, EndsWell (match column.content with
        | .field kind => ofField settings (.object members) (fieldsOf members) kind
        | .notes _ => return []
        | .custom id => ofCustom (fieldsOf members) id) ↔
      ContentFits settings (fieldsOf members) column.content := by
    intro members
    cases column.content with
    | field kind => exact endsWell_ofField_iff
    | notes path => exact ⟨fun _ => trivial, fun _ => endsWell_ok []⟩
    | custom id => exact endsWell_ofCustom_iff
  rw [write, endsWell_bind_iff]
  constructor
  · rintro ⟨fields, hfields, h⟩
    obtain ⟨members, rfl, rfl⟩ := getD_eq_ok_iff.1 hfields
    exact ⟨members, rfl, (hcontent members).1 h⟩
  · rintro ⟨members, rfl, h⟩
    exact ⟨_, getD_eq_ok_iff.2 ⟨members, rfl, rfl⟩, (hcontent members).2 h⟩

end Cell

namespace Column

/-- Whether a column has a header: a compact one needs a first letter. -/
def HasHeader (settings : Settings) (c : Column) : Prop :=
  c.compact = true → (c.name settings).HasInitial

theorem endsWell_firstCapital_iff {v : Json} : EndsWell (firstCapital v) ↔ v.HasInitial := by
  cases v with
  | text t =>
    cases t with
    | nil => exact ⟨fun h => absurd h (not_endsWell_error _), False.elim⟩
    | cons c t => exact ⟨fun _ => trivial, fun _ => endsWell_ok _⟩
  | list items =>
    cases items with
    | nil => exact ⟨fun h => absurd h (not_endsWell_error _), False.elim⟩
    | cons item items =>
      cases item with
      | text t => exact ⟨fun _ => trivial, fun _ => endsWell_ok _⟩
      | _ => exact ⟨fun h => absurd h (not_endsWell_error _), False.elim⟩
  | _ => exact ⟨fun h => absurd h (not_endsWell_error _), False.elim⟩

theorem endsWell_header_iff {settings : Settings} {c : Column} :
    EndsWell (c.header settings) ↔ c.HasHeader settings := by
  rw [header, HasHeader]
  cases c.compact with
  | true =>
    rw [if_pos rfl, endsWell_firstCapital_iff]
    exact ⟨fun h _ => h, fun h => h rfl⟩
  | false => exact ⟨nofun, fun _ => endsWell_ok _⟩

end Column

/-- Results with issues of a kind. -/
def Json.HasIssues (P : Json → Prop) (results : Json) : Prop :=
  ∃ issues, (results.item "issues" >>= Json.items) = .ok issues ∧ ∀ issue ∈ issues, P issue

namespace Table

/-- Whether a table can be written: every column has a header, and can be shown for every issue. -/
structure Fits (settings : Settings) (columns : List Column) (results : Json) : Prop where
  headers : ∀ c ∈ columns, c.HasHeader settings
  issues : results.HasIssues fun issue => ∀ c ∈ columns, Cell.Fits settings c issue

variable {settings : Settings} {columns : List Column} {results : Json}

theorem endsWell_issueRow_iff {issue : Json} : EndsWell (issueRow settings columns issue) ↔
    ∀ c ∈ columns, Cell.Fits settings c issue := by
  rw [issueRow, endsWell_bind_pure_iff, endsWell_mapM_iff]
  exact ⟨fun h c hc => Cell.endsWell_write_iff.1 (h c hc),
    fun h c hc => Cell.endsWell_write_iff.2 (h c hc)⟩

theorem endsWell_writeUpToTime_iff (htotal : EndsWell (totalLine settings results)) :
    EndsWell (writeUpToTime settings columns results) ↔ Fits settings columns results := by
  obtain ⟨total, htotal⟩ := htotal
  rw [writeUpToTime]
  constructor
  · intro h
    obtain ⟨headers, hheaders, h⟩ := endsWell_bind_iff.1 h
    obtain ⟨issues, hissues, h⟩ := endsWell_bind_iff.1 h
    obtain ⟨items, hitems, h⟩ := endsWell_bind_iff.1 h
    obtain ⟨rows, hrows, -⟩ := endsWell_bind_iff.1 h
    refine ⟨fun c hc => ?_, items, bind_eq_ok_iff.2 ⟨issues, hissues, hitems⟩, fun i hi => ?_⟩
    · exact Column.endsWell_header_iff.1 (endsWell_mapM_iff.1 ⟨_, hheaders⟩ c hc)
    · exact endsWell_issueRow_iff.1 (endsWell_mapM_iff.1 ⟨_, hrows⟩ i hi)
  · rintro ⟨hheaders, items, hitems, hrows⟩
    obtain ⟨issues, hissues, hitems⟩ := bind_eq_ok_iff.1 hitems
    obtain ⟨headers, hheaders⟩ := endsWell_mapM_iff.2 fun c hc =>
      Column.endsWell_header_iff.2 (hheaders c hc)
    obtain ⟨rows, hrows⟩ := endsWell_mapM_iff.2 fun i hi => endsWell_issueRow_iff.2 (hrows i hi)
    exact endsWell_bind_iff.2 ⟨headers, hheaders, endsWell_bind_iff.2 ⟨issues, hissues,
      endsWell_bind_iff.2 ⟨items, hitems, endsWell_bind_iff.2 ⟨rows, hrows,
        endsWell_bind_iff.2 ⟨total, htotal, endsWell_ok _⟩⟩⟩⟩⟩

end Table

namespace IssueList

open Json

/-- Whether an issue has a line in a list: its status must have a name, if it is not void. -/
def Fits (issue : Json) : Prop :=
  ∃ members, issue = .object members ∧ (Cell.fieldsOf members).HasMember IsObject "status"

theorem endsWell_line_iff {issue : Json} : EndsWell (line issue) ↔ Fits issue := by
  rw [line, endsWell_bind_iff]
  constructor
  · rintro ⟨fields, hfields, h⟩
    obtain ⟨members, rfl, rfl⟩ := getD_eq_ok_iff.1 hfields
    obtain ⟨summary, -, h⟩ := endsWell_bind_iff.1 h
    obtain ⟨status, hstatus, h⟩ := endsWell_bind_iff.1 h
    obtain ⟨named, hnamed, -⟩ := endsWell_bind_iff.1 h
    obtain ⟨own, hown, rfl⟩ := getD_eq_ok_iff.1 hstatus
    refine ⟨members, rfl, own, hown, ?_⟩
    have hobject := endsWell_getD_iff.1 ⟨named, hnamed⟩
    rw [orElse] at hobject
    split at hobject
    · next hvoid => exact .inl hvoid
    · exact .inr hobject
  · rintro ⟨members, rfl, own, hown, hstatus⟩
    have hobject : (((own.lookup ("status" : Text)).getD .null).orElse (.object [])).IsObject := by
      rw [orElse]
      split
      · exact ⟨[], rfl⟩
      · next hvoid => exact hstatus.resolve_left hvoid
    obtain ⟨named, hnamed⟩ : EndsWell (getD _ "name" (.text [])) := endsWell_getD_iff.2 hobject
    exact ⟨_, getD_eq_ok_iff.2 ⟨members, rfl, rfl⟩,
      endsWell_bind_iff.2 ⟨_, getD_eq_ok_iff.2 ⟨own, hown, rfl⟩,
      endsWell_bind_iff.2 ⟨_, getD_eq_ok_iff.2 ⟨own, hown, rfl⟩,
      endsWell_bind_iff.2 ⟨named, hnamed,
      endsWell_bind_iff.2 ⟨_, getD_eq_ok_iff.2 ⟨members, rfl, rfl⟩, endsWell_ok _⟩⟩⟩⟩⟩

theorem endsWell_write_iff {results : Json} :
    EndsWell (write results) ↔ results.HasIssues Fits := by
  rw [write]
  constructor
  · intro h
    obtain ⟨issues, hissues, h⟩ := endsWell_bind_iff.1 h
    obtain ⟨items, hitems, h⟩ := endsWell_bind_iff.1 h
    exact ⟨items, bind_eq_ok_iff.2 ⟨issues, hissues, hitems⟩, fun i hi =>
      endsWell_line_iff.1 (endsWell_mapM_iff.1 (endsWell_bind_pure_iff.1 h) i hi)⟩
  · rintro ⟨items, hitems, h⟩
    obtain ⟨issues, hissues, hitems⟩ := bind_eq_ok_iff.1 hitems
    exact endsWell_bind_iff.2 ⟨issues, hissues, endsWell_bind_iff.2 ⟨items, hitems,
      endsWell_bind_pure_iff.2 (endsWell_mapM_iff.2 fun i hi => endsWell_line_iff.2 (h i hi))⟩⟩

end IssueList

end QueryFence
