import QueryFence.Proofs.Settings.Grammar
import QueryFence.Proofs.View.Values

/-!
Nulls in issues. A null should be shown like a member that is not there. It is for most of what columns
read, but not where the member of an object is asked for with a value to take in its place, nor where an
object is shown by the first of some members that it has.
-/

namespace QueryFence

open QueryFence.Steps

namespace Json

variable {v : Json} {P : Json → Prop}

theorem IsText.hasNoNull (h : v.IsText) : v.HasNoNull := by
  obtain ⟨t, rfl⟩ := h
  exact fun _ _ => nofun

theorem IsNumber.hasNoNull (h : v.IsNumber) : v.HasNoNull := by
  intro name path hnull
  cases hnull <;> exact h

theorem IsVoidOr.hasNoNull (h : IsVoidOr P v) (hp : ∀ v, P v → v.HasNoNull) : v.HasNoNull :=
  h.elim hasNoNull_of_isVoid (hp v)

end Json

namespace Cell

open Json

variable {settings : Settings} {name a : Text} {path : List PathStep} {v fields : Json}
  {members rest : List (Text × Json)}

section Members

/-- The text of an attribute of an object, which is empty where there is none. -/
def attributeText (a : Text) (v : Json) : Text := escapeValue ((v.member? a).getD (.text []))

theorem attributeText_without_eq_iff (h : HasNullAt name path (.object members))
    (hv : ((members.lookup a).getD .null).HasNoNull) : ∃ rest,
    (Json.object members).without name path = .object rest ∧
      (attributeText a (.object rest) = attributeText a (.object members) ↔
        ¬ (path = [] ∧ name = a)) := by
  obtain ⟨rest, hrest, hchange⟩ := h.exists_members_of_hasNoNull hv
  refine ⟨rest, hrest, ?_⟩
  rw [attributeText, attributeText, member?, member?]
  rcases hchange with ⟨hpath, hname, hbefore, hafter⟩ | ⟨hnot, hsame⟩
  · rw [hbefore, hafter]
    exact iff_of_false (by decide) (not_not_intro ⟨hpath, hname⟩)
  · rw [hsame]
    exact iff_of_true rfl hnot

/-- Of the members of an object, the one on the way to a null can change, and no other does for those who
take a missing one for a null. -/
theorem getD_without (h : HasNullAt name path fields) (hu : fields.HasMember P a) :
    ((fields.without name path).getD a .null = fields.getD a .null ∧
        ∀ rest, path ≠ .name a :: rest) ∨
      ∃ v rest, path = .name a :: rest ∧ HasNullAt name rest v ∧ P v ∧
        fields.getD a .null = .ok v ∧
        (fields.without name path).getD a .null = .ok (v.without name rest) := by
  obtain ⟨members, rfl, hp⟩ := hu
  obtain ⟨rest, hrest, hchange⟩ := h.exists_members
  have hread (members : List (Text × Json)) :
      (Json.object members).getD a .null = .ok ((members.lookup a).getD .null) := rfl
  rw [hrest, hread, hread]
  have hone := hchange a
  generalize members.lookup a = before, rest.lookup a = after at hp hone ⊢
  cases hone with
  | kept _ hpath => exact .inl ⟨rfl, hpath⟩
  | gone hpath _ => exact .inl ⟨rfl, fun _ => hpath ▸ nofun⟩
  | @within path v hpath h =>
    have hv : P v := hp.resolve_left fun hvoid => hasNoNull_of_isVoid hvoid _ _ h
    exact .inr ⟨v, path, hpath, h, hv, rfl, rfl⟩

theorem getD_without_of_hasNoNull (h : HasNullAt name path fields) (hu : fields.HasMember P a)
    (hp : ∀ v, P v → v.HasNoNull) :
    (fields.without name path).getD a .null = fields.getD a .null := by
  rcases getD_without h hu with ⟨hsame, -⟩ | ⟨v, rest, -, hnull, hv, -⟩
  · exact hsame
  · exact absurd hnull (hp v hv _ _)

end Members

section Fields

variable {issue : Json} {kind : FieldKind} {field shown : Text}

/-- What is shown of an object among the fields of an issue. -/
def ofNamed (fields : Json) (field shown : Text) : Except Fault Text := do
  let holder := (← fields.getD field .null).orElse (.object [])
  return escapeValue (← holder.getD shown (.text []))

def ofProgressIn (fields : Json) (field : Text) : Except Fault Text := do
  ofProgress ((← fields.getD field .null).orElse (.object []))

def ofNamesIn (fields : Json) (field : Text) : Except Fault Text := do
  ofNames (← ((← fields.getD field .null).orElse (.list [])).items)

theorem ofNamed_eq_ok (h : fields.getD field .null = .ok (.object members)) :
    ofNamed fields field shown = .ok (attributeText shown (.object members)) := by
  rw [ofNamed, h]
  cases members <;> rfl

theorem ofProgressIn_eq_ok (h : fields.getD field .null = .ok (.object members)) :
    ofProgressIn fields field = .ok (match members.lookup ("percent" : Text) with
      | some percent => percent.display ++ "%"
      | none => []) := by
  have hread : ofProgressIn fields field = ofProgress (.object members) := by
    rw [ofProgressIn, h]
    cases members <;> rfl
  rw [hread]
  apply bind_eq_ok_iff.2
  refine ⟨(members.lookup ("percent" : Text)).isSome, rfl, ?_⟩
  cases hfound : members.lookup ("percent" : Text) with
  | none => rfl
  | some percent =>
    rw [Option.isSome_some, if_pos rfl]
    apply bind_eq_ok_iff.2
    exact ⟨percent, by rw [item, hfound], rfl⟩

theorem ofNamesIn_eq_ok {items : List Json} (h : fields.getD field .null = .ok (.list items))
    (hitems : ∀ v ∈ items, v.IsObject) : ofNamesIn fields field =
      .ok (Text.joinWith ", " (items.map (attributeText "name"))) := by
  have hread : ofNamesIn fields field = ofNames items := by
    rw [ofNamesIn, h]
    cases items <;> rfl
  have hnames : items.mapM (fun v => v.getD "name" (.text [])) =
      .ok (items.map fun v => (v.member? "name").getD (.text [])) := by
    rw [mapM_eq_ok_iff, List.map_map]
    refine List.map_congr_left fun v hv => ?_
    obtain ⟨members, rfl⟩ := hitems v hv
    rfl
  have hmap : items.map (attributeText "name") =
      (items.map fun v => (v.member? "name").getD (.text [])).map escapeValue := by
    rw [List.map_map]
    rfl
  rw [hread, ofNames, hnames, hmap]
  rfl

theorem ofNamed_without_eq_iff (h : HasNullAt name path fields)
    (hu : fields.HasMember (HasMember IsText shown) field) :
    ofNamed (fields.without name path) field shown = ofNamed fields field shown ↔
      ¬ (path = [.name field] ∧ name = shown) := by
  rcases getD_without h hu with ⟨hsame, hpath⟩ | ⟨v, rest, rfl, hnull, hv, hbefore, hafter⟩
  · rw [ofNamed, ofNamed, hsame]
    exact iff_of_true rfl fun hshows => hpath [] hshows.1
  · obtain ⟨members, rfl, hattribute⟩ := hv
    obtain ⟨others, hothers, hiff⟩ :=
      attributeText_without_eq_iff hnull (hattribute.hasNoNull fun _ => IsText.hasNoNull)
    rw [hothers] at hafter
    rw [ofNamed_eq_ok hafter, ofNamed_eq_ok hbefore, Except.ok.injEq, hiff]
    simp

theorem ofProgressIn_without_eq_iff (h : HasNullAt name path fields)
    (hu : fields.HasMember (HasMember IsNumber "percent") field) :
    ofProgressIn (fields.without name path) field = ofProgressIn fields field ↔
      ¬ (path = [.name field] ∧ name = "percent") := by
  rcases getD_without h hu with ⟨hsame, hpath⟩ | ⟨v, rest, rfl, hnull, hv, hbefore, hafter⟩
  · rw [ofProgressIn, ofProgressIn, hsame]
    exact iff_of_true rfl fun hshows => hpath [] hshows.1
  · obtain ⟨members, rfl, hpercent⟩ := hv
    obtain ⟨others, hothers, hchange⟩ :=
      hnull.exists_members_of_hasNoNull (hpercent.hasNoNull fun _ => IsNumber.hasNoNull)
    rw [hothers] at hafter
    rw [ofProgressIn_eq_ok hafter, ofProgressIn_eq_ok hbefore, Except.ok.injEq]
    rcases hchange with ⟨rfl, hname, hnone, hgone⟩ | ⟨hnot, hsame⟩
    · rw [hnone, hgone]
      exact iff_of_false (by decide) (not_not_intro ⟨rfl, hname⟩)
    · rw [hsame]
      refine iff_of_true rfl fun hshows => hnot ?_
      exact ⟨(List.cons.inj hshows.1).2, hshows.2⟩

theorem ofNamesIn_without_eq_iff (h : HasNullAt name path fields)
    (hu : fields.HasMember
      (fun v => ∃ items, v = .list items ∧ ∀ i ∈ items, i.HasMember IsText "name") field) :
    ofNamesIn (fields.without name path) field = ofNamesIn fields field ↔
      ¬ ∃ n, path = [.name field, .index n] ∧ name = "name" := by
  rcases getD_without h hu with ⟨hsame, hpath⟩ | ⟨v, rest, rfl, hnull, hv, hbefore, hafter⟩
  · rw [ofNamesIn, ofNamesIn, hsame]
    refine iff_of_true rfl ?_
    rintro ⟨n, hshows, -⟩
    exact hpath _ hshows
  · obtain ⟨items, rfl, hitems⟩ := hv
    cases hnull with
    | @item _ n i path hitem hnull =>
      have hobjects : ∀ v ∈ items, v.IsObject := fun v hv => (hitems v hv).isObject
      obtain ⟨before, behind, rfl, hwithout⟩ := exists_without_item hitem
      obtain ⟨members, rfl, hname⟩ := hitems i (List.mem_append_right _ List.mem_cons_self)
      obtain ⟨others, hothers, hiff⟩ :=
        attributeText_without_eq_iff hnull (hname.hasNoNull fun _ => IsText.hasNoNull)
      obtain ⟨hfirst, hlast⟩ := List.forall_mem_append.1 hobjects
      have hkept : ∀ v ∈ before ++ .object others :: behind, v.IsObject :=
        List.forall_mem_append.2
          ⟨hfirst, List.forall_mem_cons.2 ⟨⟨others, rfl⟩, (List.forall_mem_cons.1 hlast).2⟩⟩
      rw [hwithout, hothers] at hafter
      rw [ofNamesIn_eq_ok hafter hkept, ofNamesIn_eq_ok hbefore hobjects, Except.ok.injEq,
        List.map_append, List.map_append, List.map_cons, List.map_cons,
        Text.joinWith_append_cons_inj, hiff]
      simp

/-- The nulls that a plain field shows among the fields of an issue: those of the attributes for which
another value stands in where they are missing. -/
def SourceShowsNull (settings : Settings) (fields : Json) (name : Text) (path : List PathStep) :
    Source → Prop
  | .named field shown => path = [.name field] ∧ name = shown
  | .progress field => path = [.name field] ∧ name = "percent"
  | .names field => ∃ n, path = [.name field, .index n] ∧ name = "name"
  | .storyPoints => ∃ id, settings.customFields.idOf? storyPointsName = .ok (some id) ∧
      CustomShowsNull fields id name path
  | .key | .text _ | .date _ | .duration _ | .labels | .absent => False

/-- A plain field looks the same without a null that it does not show. -/
theorem ofField_without_eq_iff (h : HasNullAt name path fields)
    (hu : SourceIsUsual fields (sourceOf kind)) (hkey : sourceOf kind ≠ .key) :
    ofField settings issue (fields.without name path) kind = ofField settings issue fields kind ↔
      ¬ SourceShowsNull settings fields name path (sourceOf kind) := by
  rw [ofField, ofField]
  generalize sourceOf kind = source at hu hkey
  cases source with
  | key => exact absurd rfl hkey
  | text field =>
    dsimp only
    rw [getD_without_of_hasNoNull h hu fun _ => IsText.hasNoNull]
    exact iff_of_true rfl id
  | date field =>
    dsimp only
    rw [getD_without_of_hasNoNull h hu fun _ => IsText.hasNoNull]
    exact iff_of_true rfl id
  | duration field =>
    dsimp only
    rw [getD_without_of_hasNoNull h hu fun _ => IsNumber.hasNoNull]
    exact iff_of_true rfl id
  | named field shown => exact ofNamed_without_eq_iff h hu
  | progress field => exact ofProgressIn_without_eq_iff h hu
  | names field => exact ofNamesIn_without_eq_iff h hu
  | labels =>
    have hsame : (fields.without name path).getD "labels" .null = fields.getD "labels" .null := by
      refine getD_without_of_hasNoNull h hu ?_
      rintro v ⟨items, rfl, hitems⟩
      exact hasNoNull_list fun i hi => (hitems i hi).hasNoNull
    dsimp only
    rw [hsame]
    exact iff_of_true rfl id
  | storyPoints =>
    dsimp only
    rw [SourceShowsNull]
    cases settings.customFields.idOf? storyPointsName with
    | error fault => exact iff_of_true rfl (by rintro ⟨id, hid, -⟩; cases hid)
    | ok found =>
      cases found with
      | none => exact iff_of_true rfl (by rintro ⟨id, hid, -⟩; cases hid)
      | some id =>
        refine (ofCustom_without_eq_iff h).trans (not_congr ⟨fun hshows => ⟨id, rfl, hshows⟩, ?_⟩)
        rintro ⟨_, hid, hshows⟩
        cases hid
        exact hshows
  | absent => exact iff_of_true rfl id

end Fields

section Issues

/-- Whether a column looks at the fields of an issue. -/
def ContentReadsFields (settings : Settings) : Content → Prop
  | .field kind =>
    match sourceOf kind with
    | .key | .absent => False
    | .storyPoints => ∃ id, settings.customFields.idOf? storyPointsName = .ok (some id)
    | _ => True
  | .notes _ => False
  | .custom _ => True

/-- The nulls among the fields of an issue that a column shows. -/
def ContentShowsNull (settings : Settings) (fields : Json) (name : Text) (path : List PathStep) :
    Content → Prop
  | .field kind => SourceShowsNull settings fields name path (sourceOf kind)
  | .notes _ => False
  | .custom id => CustomShowsNull fields id name path

/-- The nulls of an issue that a column shows. -/
inductive ShowsNull (settings : Settings) (content : Content) (issue : Json) (name : Text) :
    List PathStep → Prop
  | key (hcontent : content = .field .key) (hname : name = "key") :
    ShowsNull settings content issue name []
  | fields (hreads : ContentReadsFields settings content) (hname : name = "fields") :
    ShowsNull settings content issue name []
  | within {fields : Json} {path : List PathStep} (hfields : issue.member? "fields" = some fields)
    (h : ContentShowsNull settings fields name path content) :
    ShowsNull settings content issue name (.name "fields" :: path)

/-- An issue whose members have the types that a column reads, or are void. -/
structure IssueIsUsual (content : Content) (issue : Json) : Prop where
  fields : issue.HasMember (fun fields => ContentIsUsual fields content) "fields"
  key : content = .field .key → issue.HasMember IsText "key"

variable {content : Content} {issue : Json}

/-- What is shown of the fields of an issue. -/
def ofContent (settings : Settings) (issue fields : Json) : Content → Except Fault Text
  | .field kind => ofField settings issue fields kind
  | .notes _ => .ok []
  | .custom id => ofCustom fields id

theorem write_object (column : Column) : write settings column (.object members) =
    ofContent settings (.object members) (fieldsOf members) column.content := by
  obtain ⟨compact, content⟩ := column
  cases content <;> rfl

theorem sourceOf_eq_key_iff {kind : FieldKind} : sourceOf kind = .key ↔ kind = .key := by
  cases kind <;> simp [sourceOf]

theorem ofContent_key (fields : Json) : ofContent settings (.object members) fields (.field .key) =
    .ok (attributeText "key" (.object members)) := rfl

theorem ofContent_without_eq_iff (h : HasNullAt name path fields) (hu : ContentIsUsual fields content)
    (hkey : content ≠ .field .key) : ofContent settings issue (fields.without name path) content =
        ofContent settings issue fields content ↔
      ¬ ContentShowsNull settings fields name path content := by
  cases content with
  | field kind =>
    refine ofField_without_eq_iff h hu fun hsource => hkey ?_
    rw [sourceOf_eq_key_iff.1 hsource]
  | notes path => exact iff_of_true rfl id
  | custom id => exact ofCustom_without_eq_iff h

/-- Only the key of an issue stands outside its fields. -/
theorem ofContent_congr (hkey : content ≠ .field .key) (issue other : Json) :
    ofContent settings issue fields content = ofContent settings other fields content := by
  cases content with
  | notes path => rfl
  | custom id => rfl
  | field kind =>
    have hsource : sourceOf kind ≠ .key := by
      rw [Ne, sourceOf_eq_key_iff]
      rintro rfl
      exact hkey rfl
    rw [ofContent, ofContent, ofField, ofField]
    generalize sourceOf kind = source at hsource
    cases source with
    | key => exact absurd rfl hsource
    | _ => rfl

theorem endsWell_ofContent_iff : EndsWell (ofContent settings (.object members) fields content) ↔
    ContentFits settings fields content := by
  cases content with
  | field kind => exact endsWell_ofField_iff
  | notes path => exact iff_of_true (endsWell_ok []) trivial
  | custom id => exact endsWell_ofCustom_iff

/-- Where fields are looked at, none is no fault, and a null in their place is one. -/
theorem contentFits_of_readsFields (h : ContentReadsFields settings content) :
    ContentFits settings (.object []) content ∧ ¬ ContentFits settings .null content := by
  have hobject : ¬ Json.null.IsObject := by
    rintro ⟨members, hsame⟩
    cases hsame
  have hempty (P : Json → Prop) (a : Text) : (Json.object []).HasMember P a := ⟨[], rfl, .inl rfl⟩
  have hnull (P : Json → Prop) (a : Text) : ¬ Json.null.HasMember P a := fun h => hobject h.isObject
  cases content with
  | notes path => exact h.elim
  | custom id => exact ⟨⟨[], rfl⟩, hobject⟩
  | field kind =>
    rw [ContentReadsFields] at h
    rw [ContentFits, ContentFits]
    generalize sourceOf kind = source at h
    cases source with
    | key => exact h.elim
    | absent => exact h.elim
    | text field => exact ⟨⟨[], rfl⟩, hobject⟩
    | storyPoints =>
      obtain ⟨id, hid⟩ := h
      refine ⟨⟨some id, hid, fun _ => ⟨[], rfl⟩⟩, ?_⟩
      rintro ⟨found, hfound, hfits⟩
      cases hid.symm.trans hfound
      exact hobject (hfits rfl)
    | _ => exact ⟨hempty _ _, hnull _ _⟩

theorem ofContent_of_not_readsFields (h : ¬ ContentReadsFields settings content)
    (fields other : Json) :
    ofContent settings issue fields content = ofContent settings issue other content := by
  cases content with
  | notes path => rfl
  | custom id => exact absurd trivial h
  | field kind =>
    rw [ContentReadsFields] at h
    rw [ofContent, ofContent, ofField, ofField]
    generalize sourceOf kind = source at h
    cases source with
    | key => rfl
    | absent => rfl
    | storyPoints =>
      dsimp only at h ⊢
      cases hid : settings.customFields.idOf? storyPointsName with
      | error fault => rfl
      | ok found =>
        cases found with
        | none => rfl
        | some id => exact absurd ⟨id, hid⟩ h
    | _ => exact absurd trivial h

theorem ofContent_empty_eq_null_iff :
    ofContent settings (.object members) (.object []) content =
        ofContent settings (.object members) .null content ↔
      ¬ ContentReadsFields settings content := by
  constructor
  · intro hsame hreads
    obtain ⟨hempty, hnull⟩ := contentFits_of_readsFields hreads
    exact hnull (endsWell_ofContent_iff.1 (hsame ▸ endsWell_ofContent_iff.2 hempty))
  · exact fun hreads => ofContent_of_not_readsFields hreads _ _

theorem showsNull_key_iff :
    ShowsNull settings (.field .key) issue name path ↔ path = [] ∧ name = "key" := by
  constructor
  · intro h
    cases h with
    | key _ hname => exact ⟨rfl, hname⟩
    | fields hreads _ => exact hreads.elim
    | within _ h => exact h.elim
  · rintro ⟨rfl, hname⟩
    exact .key rfl hname

/-- A column shows the same for an issue without a null, but for the nulls that it shows. -/
theorem write_without_eq_iff {column : Column} (hu : IssueIsUsual column.content issue)
    (h : HasNullAt name path issue) :
    write settings column (issue.without name path) = write settings column issue ↔
      ¬ ShowsNull settings column.content issue name path := by
  obtain ⟨members, rfl, hfields⟩ := hu.fields
  generalize hcontent : column.content = content at hu hfields
  by_cases hkey : content = .field .key
  · obtain ⟨_, hsame, husual⟩ := hu.key hkey
    cases hsame
    obtain ⟨rest, hrest, hiff⟩ :=
      attributeText_without_eq_iff h (husual.hasNoNull fun _ => IsText.hasNoNull)
    rw [hrest, write_object, write_object, hcontent, hkey, ofContent_key, ofContent_key,
      Except.ok.injEq, hiff, showsNull_key_iff]
  · obtain ⟨rest, hrest, hchange⟩ := h.exists_members
    -- what is shown depends on the fields alone, which are kept, gone or have lost a null themselves
    rw [hrest, write_object, write_object, hcontent,
      ofContent_congr hkey (.object rest) (.object members), fieldsOf, fieldsOf]
    have hone := hchange "fields"
    generalize hbefore : members.lookup ("fields" : Text) = before at hfields hone ⊢
    generalize rest.lookup ("fields" : Text) = after at hone ⊢
    cases hone with
    | kept hname hpath =>
      refine iff_of_true rfl fun hshows => ?_
      cases hshows with
      | key hcontent _ => exact hkey hcontent
      | fields _ hsame => exact hname rfl hsame.symm
      | within _ _ => exact hpath _ rfl
    | gone hpath hname =>
      subst hpath
      refine ofContent_empty_eq_null_iff.trans (not_congr ⟨fun h => .fields h hname.symm, ?_⟩)
      intro hshows
      cases hshows with
      | key hcontent _ => exact absurd hcontent hkey
      | fields hreads _ => exact hreads
    | @within path fields hpath hnull =>
      subst hpath
      have husual := hfields.resolve_left fun hvoid => hasNoNull_of_isVoid hvoid _ _ hnull
      refine (ofContent_without_eq_iff hnull husual hkey).trans (not_congr ⟨.within hbefore, ?_⟩)
      intro hshows
      cases hshows with
      | within hfound hshows =>
        cases hbefore.symm.trans hfound
        exact hshows

/-- An issue whose assignee has a null for a name. -/
def unnamedAssignee : Json :=
  .object [("fields", .object [("assignee", .object [("displayName", .null)])])]

/-- Without the null no name is shown, and with it that of the null. -/
theorem not_write_without_eq_of_null_name :
    IssueIsUsual (.field .assignee) unnamedAssignee ∧
      HasNullAt "displayName" [.name "fields", .name "assignee"] unnamedAssignee ∧
      write Settings.standard ⟨false, .field .assignee⟩
          (unnamedAssignee.without "displayName" [.name "fields", .name "assignee"]) ≠
        write Settings.standard ⟨false, .field .assignee⟩ unnamedAssignee := by
  have husual : IssueIsUsual (.field .assignee) unnamedAssignee :=
    ⟨⟨_, rfl, .inr ⟨_, rfl, .inr ⟨_, rfl, .inl rfl⟩⟩⟩, nofun⟩
  have hnull : HasNullAt "displayName" [.name "fields", .name "assignee"] unnamedAssignee :=
    .member rfl (.member rfl (.here rfl))
  refine ⟨husual, hnull, fun hsame => ?_⟩
  exact (write_without_eq_iff husual hnull).1 hsame (.within rfl ⟨rfl, rfl⟩)

end Issues

end Cell

end QueryFence
