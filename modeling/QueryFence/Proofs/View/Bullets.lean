import QueryFence.Cache.Memory
import QueryFence.Proofs.Document.Blocks
import QueryFence.Proofs.Rounds.Ending
import QueryFence.Proofs.Settings.Grammar
import QueryFence.Proofs.Text.Joined
import QueryFence.Proofs.View.Cells

/-!
When a list has one line for each issue: a summary is put on one line, but a key and the name of a status
are written as they are, so the end of a line in one of them breaks the bullet.
-/

namespace QueryFence

open QueryFence.Steps

open QueryFence.Text (IsOneLine IsUnended)

theorem Text.IsOneLine.isUnended {t : Text} (h : IsOneLine t) (hne : t ≠ []) : IsUnended t :=
  ⟨t.getLast hne, List.getLast?_eq_some_getLast hne, h _ (List.getLast_mem hne)⟩

namespace Document

theorem blocks_eq_nil {document : Text} (h : ∀ line ∈ rawLines document, isOpening line = false) :
    blocks document = [] := by
  have hfrom : ∀ (lines : List Text) (start : Nat), (∀ line ∈ lines, isOpening line = false) →
      blocksFrom start (segmentsFrom none lines) = [] := by
    intro lines
    induction lines with
    | nil => exact fun _ _ => rfl
    | cons line lines ih =>
      intro start hlines
      obtain ⟨hline, hlines⟩ := List.forall_mem_cons.1 hlines
      rw [segmentsFrom_line hline, blocksFrom]
      exact ih _ hlines
  exact hfrom _ 0 h

theorem forall_rawLines_joinWith {P : Text → Prop} {lines : List Text}
    (h : ∀ l ∈ lines, l ≠ [] ∧ '\n' ∉ l ∧ P l ∧ P (l ++ ['\n'])) :
    ∀ line ∈ rawLines (Text.joinWith "\n" lines), P line := by
  cases lines with
  | nil => exact fun _ hm => absurd hm List.not_mem_nil
  | cons l lines =>
    induction lines generalizing l with
    | nil =>
      obtain ⟨hne, hn, hp, -⟩ := h l List.mem_cons_self
      rw [Text.joinWith, List.intercalate_singleton, rawLines_of_not_mem hn hne]
      exact List.forall_mem_singleton.2 hp
    | cons next lines ih =>
      obtain ⟨⟨-, hn, -, hp⟩, hlines⟩ := List.forall_mem_cons.1 h
      have hrest := ih next hlines
      rw [Text.joinWith] at hrest ⊢
      have hended : IsEnded (l ++ "\n".toList) := ⟨l, hn, rfl⟩
      rw [List.intercalate_cons_cons, rawLines_append hended]
      exact List.forall_mem_cons.2 ⟨hp, hrest⟩

end Document

namespace IssueList

open Json

/-- An issue as Jira sends it: with a key, and with a status that has a name, if it has one. -/
structure IsUsualIssue (issue : Json) : Prop where
  key : ∃ key, issue.member? "key" = some (.text key)
  fields : ∃ own, issue.member? "fields" = some (.object own) ∧
    HasMember (HasMember IsText "name") "status" (.object own)

/-- The name of the status of an issue, if it has one. -/
def statusName? (issue : Json) : Option Json :=
  ((issue.member? "fields").bind (Json.member? "status")).bind (Json.member? "name")

/-- Whether the key of an issue and the name of its status are on one line. -/
structure IsLevel (issue : Json) : Prop where
  key : ∀ key, issue.member? "key" = some (.text key) → IsOneLine key
  status : ∀ name, statusName? issue = some (.text name) → IsOneLine name

/-- A list: for each issue its line, which starts as a bullet, and no search block. -/
def IsBulletList (issues : List Json) (t : Text) : Prop :=
  List.Forall₂ (fun l issue => "- `".toList <+: l ∧ line issue = .ok l) (Text.lines t) issues ∧
    Document.blocks t = []

variable {key summary status issue : Json} {issues : List Json}

theorem isOneLine_lineText_iff : IsOneLine (lineText key summary status) ↔
    IsOneLine key.display ∧ (status.isVoid = true ∨ IsOneLine status.display) := by
  have hstatus : IsOneLine (statusText status) ↔ status.isVoid = true ∨ IsOneLine status.display := by
    rw [statusText]
    split
    · next hvoid => exact iff_of_true (by decide) (.inl hvoid)
    · next hvoid =>
      rw [or_iff_right hvoid, Text.isOneLine_append_iff, Text.isOneLine_append_iff,
        and_iff_left (by decide), and_iff_right (by decide)]
  rw [← hstatus, lineText]
  simp only [Text.isOneLine_append_iff]
  constructor
  · exact fun h => ⟨h.1.1.1.2, h.2⟩
  · exact fun h => ⟨⟨⟨⟨by decide, h.1⟩, by decide⟩, Text.isOneLine_squeeze _⟩, h.2⟩

theorem isUnended_lineText : IsUnended (lineText key summary status) := by
  have hmiddle : IsUnended ("` ".toList ++ Text.squeeze summary.display) :=
    Text.IsOneLine.isUnended (.append (by decide) (Text.isOneLine_squeeze _))
      (List.append_ne_nil_of_left_ne_nil (by decide) _)
  rw [lineText, statusText]
  split
  · rw [List.append_nil, List.append_assoc]
    exact Text.isUnended_append hmiddle
  · rw [← List.append_assoc]
    exact Text.isUnended_append ⟨')', rfl, by decide⟩

/-- A name that is void or a text takes no line more than the text. -/
theorem isOneLine_name_iff {found : Option Json} (h : IsVoidOr IsText (found.getD .null)) :
    ((found.getD (.text [])).isVoid = true ∨ IsOneLine (found.getD (.text [])).display) ↔
      ∀ t, found = some (.text t) → IsOneLine t := by
  cases found with
  | none => exact iff_of_true (.inl rfl) nofun
  | some v =>
    rw [Option.getD_some] at h ⊢
    constructor
    · rintro hv t ht
      cases ht
      rcases hv with hv | hv
      · rw [isVoid, List.isEmpty_iff] at hv
        rw [hv]
        exact fun _ hc => absurd hc List.not_mem_nil
      · exact hv
    · intro ht
      rcases h with hv | ⟨t, rfl⟩
      · exact .inl hv
      · exact .inr (ht t rfl)

/-- The name of a status, as the line of an issue reads it off the fields. -/
theorem exists_status_iff {own : List (Text × Json)}
    (hfields : issue.member? "fields" = some (.object own))
    (hstatus : HasMember (HasMember IsText "name") "status" (.object own)) :
    ∃ name, (((own.lookup ("status" : Text)).getD .null).orElse (.object [])).getD "name" (.text []) =
      .ok name ∧ ((name.isVoid = true ∨ IsOneLine name.display) ↔
        ∀ t, statusName? issue = some (.text t) → IsOneLine t) := by
  obtain ⟨_, hown, hstatus⟩ := hstatus
  cases hown
  have hnamed : statusName? issue = (own.lookup ("status" : Text)).bind (member? "name") := by
    rw [statusName?, hfields, Option.bind_some]
    rfl
  rw [hnamed, orElse]
  split
  · next hvoid =>
    -- a void status has no name
    have hnone : (own.lookup ("status" : Text)).bind (member? "name") = none := by
      cases hlookup : own.lookup ("status" : Text) with
      | none => rfl
      | some status =>
        rw [hlookup, Option.getD_some] at hvoid
        cases status with
        | object members =>
          rw [isVoid, List.isEmpty_iff] at hvoid
          rw [hvoid]
          rfl
        | _ => rfl
    rw [hnone]
    exact ⟨_, rfl, iff_of_true (.inl rfl) fun _ h => absurd h.symm (Option.some_ne_none _)⟩
  · next hvoid =>
    obtain ⟨members, hobject, hname⟩ := hstatus.resolve_left hvoid
    have hlookup : own.lookup ("status" : Text) = some (.object members) := by
      cases hl : own.lookup ("status" : Text) with
      | none =>
        rw [hl] at hvoid
        exact absurd rfl hvoid
      | some status =>
        rw [hl] at hobject
        exact congrArg some hobject
    rw [hlookup]
    exact ⟨_, rfl, isOneLine_name_iff hname⟩

/-- A usual issue has a line, which starts as a bullet and stays one line where key and status do. -/
theorem exists_line_iff (h : IsUsualIssue issue) : ∃ l, line issue = .ok l ∧ "- `".toList <+: l ∧
    IsUnended l ∧ (IsOneLine l ↔ IsLevel issue) := by
  obtain ⟨⟨key, hkey⟩, own, hfields, hstatus⟩ := h
  obtain ⟨name, hname, hlevel⟩ := exists_status_iff hfields hstatus
  obtain ⟨members, rfl, hlookup⟩ := eq_object_of_member? hfields
  refine ⟨lineText (.text key) (((own.lookup ("summary" : Text)).getD .null).orElse (.text [])) name,
    ?_, ?_, isUnended_lineText, ?_⟩
  · have hown : (Json.object members).getD "fields" (.object []) = .ok (.object own) :=
      getD_eq_ok_iff.2 ⟨members, rfl, by rw [hlookup, Option.getD_some]⟩
    have hkeyed : (Json.object members).getD "key" (.text []) = .ok (.text key) :=
      getD_eq_ok_iff.2 ⟨members, rfl, by rw [show members.lookup _ = _ from hkey, Option.getD_some]⟩
    exact bind_eq_ok_iff.2 ⟨_, hown, bind_eq_ok_iff.2 ⟨_, rfl, bind_eq_ok_iff.2 ⟨_, rfl,
      bind_eq_ok_iff.2 ⟨name, hname, bind_eq_ok_iff.2 ⟨_, hkeyed, rfl⟩⟩⟩⟩⟩
  · rw [lineText, List.append_assoc, List.append_assoc, List.append_assoc]
    exact List.prefix_append _ _
  · rw [isOneLine_lineText_iff, hlevel]
    constructor
    · rintro ⟨hk, hs⟩
      refine ⟨fun key' hkey' => ?_, hs⟩
      cases hkey.symm.trans hkey'
      exact hk
    · rintro ⟨hk, hs⟩
      exact ⟨hk key hkey, hs⟩

theorem isOpening_of_bullet {l : Text} (h : "- `".toList <+: l) : Document.isOpening l = false := by
  obtain ⟨rest, rfl⟩ := h
  rfl

theorem forall₂_of_mapM {lines : List Text} (h : issues.mapM line = .ok lines) :
    List.Forall₂ (fun l issue => line issue = .ok l) lines issues := by
  have heq : List.Forall₂ (· = ·) (lines.map Except.ok) (issues.map line) := by
    rw [List.forall₂_eq_eq_eq]
    exact (mapM_eq_ok_iff.1 h).symm
  rw [List.forall₂_map_left_iff, List.forall₂_map_right_iff] at heq
  exact heq.imp fun _ _ => Eq.symm

theorem exists_isBulletList_iff {results : Json}
    (hissues : (results.item "issues" >>= Json.items) = .ok issues)
    (husual : ∀ issue ∈ issues, IsUsualIssue issue) :
    (∃ t, write results = .ok t ∧ IsBulletList issues t) ↔ ∀ issue ∈ issues, IsLevel issue := by
  have hends : ∀ issue ∈ issues, ∃ l, line issue = .ok l ∧ "- `".toList <+: l ∧ IsUnended l :=
    fun issue hi => by
      obtain ⟨l, hl, hbullet, hunended, -⟩ := exists_line_iff (husual issue hi)
      exact ⟨l, hl, hbullet, hunended⟩
  have hlevel : ∀ issue ∈ issues, ∀ l, line issue = .ok l → (IsOneLine l ↔ IsLevel issue) :=
    fun issue hi l hl => by
      obtain ⟨l', hl', -, -, hiff⟩ := exists_line_iff (husual issue hi)
      cases hl.symm.trans hl'
      exact hiff
  obtain ⟨lines, hlines, hforms⟩ := exists_mapM_forall_iff.2 hends
  have hunended : ∀ l ∈ lines, IsUnended l := fun l hl => (hforms l hl).2
  have hwrite : ∀ t, write results = .ok t ↔ t = Text.joinWith "\n" lines := by
    intro t
    obtain ⟨items, hitems, hissues⟩ := bind_eq_ok_iff.1 hissues
    have hw : write results = .ok (Text.joinWith "\n" lines) :=
      bind_eq_ok_iff.2 ⟨items, hitems, bind_eq_ok_iff.2 ⟨issues, hissues,
        bind_eq_ok_iff.2 ⟨lines, hlines, rfl⟩⟩⟩
    rw [hw]
    exact ⟨fun h => (Except.ok.inj h).symm, fun h => congrArg _ h.symm⟩
  constructor
  · rintro ⟨t, ht, hbullets, -⟩ issue hi
    -- as many lines as issues, so none of them is cut
    have hlength := hbullets.length_eq
    rw [(hwrite t).1 ht, ← length_of_mapM hlines] at hlength
    have hone := Text.isOneLine_of_length_lines hunended hlength
    obtain ⟨l, hl, hp⟩ := exists_mapM_forall_iff.1 ⟨lines, hlines, hone⟩ issue hi
    exact (hlevel issue hi l hl).1 hp
  · intro h
    have hone : ∀ l ∈ lines, IsOneLine l := by
      intro l hl
      obtain ⟨issue, hi, he⟩ := exists_of_mem_mapM hlines l hl
      exact (hlevel issue hi l he).2 (h issue hi)
    refine ⟨_, (hwrite _).2 rfl, ?_, ?_⟩
    · rw [Text.lines_joinWith_eq hunended hone]
      exact (List.forall₂_and_left _ _).2 ⟨fun l hl => (hforms l hl).1, forall₂_of_mapM hlines⟩
    · refine Document.blocks_eq_nil (Document.forall_rawLines_joinWith fun l hl => ?_)
      obtain ⟨hbullet, hu⟩ := hforms l hl
      exact ⟨hu.ne_nil, fun hm => absurd (hone l hl _ hm) (by decide), isOpening_of_bullet hbullet,
        isOpening_of_bullet (hbullet.trans (List.prefix_append _ _))⟩

end IssueList

namespace Cycle

variable {σ : Type} [ResultCache σ] {hub : Hub} {now : Instant} {spec : Spec} {results : Json}
  {issues : List Json} {s : Scene σ}

/-- The results of a search are shown as a list with one bullet for each issue exactly when every key
and every name of a status is on one line. -/
theorem showsBullets_iff_isLevel (hmode : spec.mode = .list) (hopen : s.display.closed = false)
    (hissues : results.member? "issues" = some (.list issues))
    (husual : ∀ issue ∈ issues, IssueList.IsUsualIssue issue) :
    (∃ t, shown ((showResults hub now spec results).run.run s) = .ok t ∧
      IssueList.IsBulletList issues t) ↔ ∀ issue ∈ issues, IssueList.IsLevel issue := by
  have hitems : (results.item "issues" >>= Json.items) = .ok issues :=
    bind_eq_ok_iff.2 ⟨_, Json.item_of_member? hissues, rfl⟩
  rw [shown_showResults hopen, textOfResults, hmode]
  exact IssueList.exists_isBulletList_iff hitems husual

/-- A key with the end of a line in it breaks its bullet. -/
theorem not_showsBullets_of_broken_key :
    let hub : Hub := ⟨Settings.standard, []⟩
    let spec : Spec := ⟨.list, "a", none, []⟩
    let issue : Json := .object [("key", .text "A\nB"), ("fields", .object [])]
    let results : Json := .object [("issues", .list [issue])]
    let scene : Scene MemoryCache := ⟨.blank, .empty ⟨0⟩⟩
    Spec.read hub.settings "type: LIST\nquery: a" = .ok spec ∧
      (spec.mode = .list ∧ scene.display.closed = false ∧
        results.member? "issues" = some (.list [issue]) ∧
        ∀ i ∈ [issue], IssueList.IsUsualIssue i) ∧
      ¬ ∃ t, shown ((showResults hub ⟨0⟩ spec results).run.run scene) = .ok t ∧
        IssueList.IsBulletList [issue] t := by
  intro hub spec issue results scene
  have hread : Spec.read hub.settings "type: LIST\nquery: a" = .ok spec := by decide +kernel
  have hissue : IssueList.IsUsualIssue issue :=
    ⟨⟨_, rfl⟩, [], rfl, [], rfl, .inl rfl⟩
  have husual : ∀ i ∈ [issue], IssueList.IsUsualIssue i := List.forall_mem_singleton.2 hissue
  refine ⟨hread, ⟨rfl, rfl, rfl, husual⟩, fun h => ?_⟩
  have hlevel := (showsBullets_iff_isLevel rfl rfl rfl husual).1 h issue List.mem_cons_self
  exact absurd (hlevel.key "A\nB" rfl) (by decide)

end Cycle

end QueryFence
