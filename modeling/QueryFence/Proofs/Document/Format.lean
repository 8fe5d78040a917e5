import QueryFence.Proofs.Document.Blocks
import QueryFence.Proofs.Spec.RoundTrip
import QueryFence.Proofs.Steps

/-!
Formatting a document. The valid fences are exchanged for canonical ones, which are fences again: so
the formatted document has a block for each block and the same text outside them, and formatting it
again changes only what a query still loses at its ends.
-/

namespace QueryFence

variable {settings : Settings}

namespace Spec

variable {s : Spec}

/-- The canonical text tells whether white space stands at the ends of the query. -/
theorem IsSound.write_trim_eq_iff (h : s.IsSound settings) :
    write settings { s with query := Text.trim s.query } = s.write settings ↔
      Text.trim s.query = s.query := by
  constructor
  · intro he
    rcases h.query_blank with hq | hb
    · rw [hq]
      rfl
    · have ht : (Text.trim s.query).isEmpty = false := by
        rw [Bool.eq_false_iff, Ne, List.isEmpty_iff, Text.trim_eq_nil_iff, hb]
        exact Bool.false_ne_true
      have hq : s.query.isEmpty = false := by
        rw [Bool.eq_false_iff, Ne, List.isEmpty_iff]
        intro hn
        rw [hn] at hb
        cases hb
      rw [write, write] at he
      dsimp only at he
      rw [ht, hq, if_neg Bool.false_ne_true, if_neg Bool.false_ne_true] at he
      have hl := List.append_cancel_left
        (List.append_cancel_right (List.append_cancel_right he))
      rw [entryLine, entryLine] at hl
      exact List.append_cancel_left (List.append_cancel_right hl)
  · intro hq
    rw [hq]

/-- Entries that are lines of their own cannot close a fence around the canonical text. -/
theorem isInside_write_of_isOneLine
    (h : ∀ entry ∈ s.entries settings, Text.IsOneLine (entryText entry)) :
    Document.IsInside (s.write settings) := by
  have hk : ∀ key ∈ keys, key.head?.any (· ≠ '`') = true := by decide
  refine ⟨(s.entries settings).map fun entry => entryText entry ++ ['\n'], ?_, ?_⟩
  · rw [write_eq_flatMap, List.flatMap_def]
  · intro line hl
    obtain ⟨entry, he, rfl⟩ := List.mem_map.1 hl
    constructor
    · exact ⟨entryText entry, fun hm => absurd (h entry he _ hm) (by decide), rfl⟩
    · -- A key does not start with the mark of a fence.
      obtain ⟨c, hc, hn⟩ := (Option.any_eq_true _ _).1 (hk _ (key_mem_keys entry he))
      obtain ⟨rest, hr⟩ := List.head?_eq_some_iff.1 hc
      have hb : ('`' == c) = false := beq_eq_false_iff_ne.2 (Ne.symm (of_decide_eq_true hn))
      rw [Document.isClosing_append_lineFeed, Document.isClosing, entryText, hr]
      simp [fenceMark, List.isPrefixOf, hb]

theorem isInside_write (hs : settings.HasUsualGrammar) (h : s.IsSound settings) :
    Document.IsInside (s.write settings) :=
  isInside_write_of_isOneLine
    (isOneLine_entryText hs.hasPlainSymbol (h.isWritable hs) h.query_line)

end Spec

namespace Document

/-- A fence in canonical form, when it is valid. -/
def canonical (settings : Settings) (f : Fence) : Fence :=
  match Spec.read settings f.source with
  | .ok spec => ⟨fenceMark ++ fenceLanguage ++ "\n", spec.write settings, fenceMark⟩
  | .error _ => f

theorem canonical_of_read {f : Fence} {spec : Spec} (h : Spec.read settings f.source = .ok spec) :
    canonical settings f =
      ⟨fenceMark ++ fenceLanguage ++ "\n", spec.write settings, fenceMark⟩ := by
  rw [canonical, h]

theorem canonical_of_error {f : Fence} {e : SpecFailure}
    (h : Spec.read settings f.source = .error e) : canonical settings f = f := by
  rw [canonical, h]

theorem canonical_isProper (hs : settings.HasUsualGrammar) {f : Fence} (h : f.IsProper) :
    (canonical settings f).IsProper := by
  cases hr : Spec.read settings f.source with
  | error e =>
    rw [canonical_of_error hr]
    exact h
  | ok spec =>
    rw [canonical_of_read hr]
    have ho : isOpening (fenceMark ++ fenceLanguage ++ "\n") = true := by decide
    have hc : isClosing fenceMark = true := by decide
    have hn : '\n' ∉ fenceMark := by decide
    exact ⟨ho, Spec.isInside_write hs (Spec.read_isSound hr).1, hc, hn⟩

/-- A canonical fence is valid when the fence was, with the query trimmed. -/
theorem read_canonical (hs : settings.HasUsualGrammar) (f : Fence) :
    Spec.read settings (canonical settings f).source =
      (Spec.read settings f.source).map fun spec => { spec with query := Text.trim spec.query } := by
  cases hr : Spec.read settings f.source with
  | error e =>
    rw [canonical_of_error hr, hr]
    rfl
  | ok spec =>
    obtain ⟨hsound, hlc⟩ := Spec.read_isSound hr
    rw [canonical_of_read hr]
    exact hsound.read_write hs hlc

theorem canonical_canonical_eq_iff (hs : settings.HasUsualGrammar) (f : Fence) :
    canonical settings (canonical settings f) = canonical settings f ↔
      ∀ spec, Spec.read settings f.source = .ok spec → Text.trim spec.query = spec.query := by
  cases hr : Spec.read settings f.source with
  | error e =>
    rw [canonical_of_error hr, canonical_of_error hr]
    exact ⟨fun _ => nofun, fun _ => rfl⟩
  | ok spec =>
    have hc := read_canonical hs f
    rw [hr] at hc
    rw [canonical_of_read hc, canonical_of_read hr, Fence.mk.injEq]
    simp only [true_and, and_true, Except.ok.injEq, forall_eq']
    exact (Spec.read_isSound hr).1.write_trim_eq_iff

/-- No fault comes out of reading the sources of fences. -/
def ReadsWell (settings : Settings) (fs : List Fence) : Prop :=
  ∀ f ∈ fs, ∀ fault, Spec.read settings f.source ≠ .error (.fault fault)

theorem ReadsWell.canonical (hs : settings.HasUsualGrammar) {fs : List Fence}
    (h : ReadsWell settings fs) : ReadsWell settings (fs.map (canonical settings)) := by
  intro f hf fault
  obtain ⟨g, hg, rfl⟩ := List.mem_map.1 hf
  rw [read_canonical hs]
  intro he
  cases hr : Spec.read settings g.source with
  | ok spec =>
    rw [hr] at he
    cases he
  | error e =>
    rw [hr] at he
    cases he
    exact h g hg fault hr

theorem normalizeSegment_eq_ok {s : Segment} (h : ReadsWell settings (fences [s])) :
    normalizeSegment settings s = .ok (exchange (canonical settings) s).text := by
  cases s with
  | plain t => rfl
  | fence opening source closing =>
    rw [normalizeSegment, exchange, canonical]
    dsimp only
    cases hr : Spec.read settings source with
    | ok spec => rfl
    | error e =>
      cases e with
      | rejected e => rfl
      | fault fault => exact absurd hr (h _ List.mem_cons_self fault)

/-- Formatting exchanges every fence for its canonical form. -/
theorem normalize_eq_ok {document : Text}
    (h : ReadsWell settings (fences (segments document))) :
    normalize settings document =
      .ok (textOf ((segments document).map (exchange (canonical settings)))) := by
  have hm : (segments document).mapM (normalizeSegment settings) =
      .ok (((segments document).map (exchange (canonical settings))).map Segment.text) := by
    rw [Steps.mapM_eq_ok_iff, List.map_map, List.map_map]
    apply List.map_congr_left
    intro s hs
    apply normalizeSegment_eq_ok
    intro f hf
    apply h f
    rw [fences, List.mem_filterMap] at hf ⊢
    obtain ⟨s', hs', hf⟩ := hf
    rw [List.mem_singleton.1 hs'] at hf
    exact ⟨s, hs, hf⟩
  rw [normalize, hm, textOf, List.flatMap_def]

/-- What formatting makes of the text and the source of a block: an invalid one stays as it is, and a
valid one becomes the canonical fence, whose source says the same with the query trimmed. -/
structure IsFormatted (settings : Settings) (text source text' source' : Text) : Prop where
  invalid : ∀ e, Spec.read settings source = .error e → text' = text ∧ source' = source
  valid : ∀ spec, Spec.read settings source = .ok spec →
    text' = spec.fence settings ∧ source' = spec.write settings ∧
      Spec.read settings source' = .ok { spec with query := Text.trim spec.query }

theorem canonical_isFormatted (hs : settings.HasUsualGrammar) (f : Fence) :
    IsFormatted settings f.text f.source (canonical settings f).text
      (canonical settings f).source where
  invalid e he := by
    rw [canonical_of_error he]
    exact ⟨rfl, rfl⟩
  valid spec hr := by
    have hc := read_canonical hs f
    rw [hr] at hc
    refine ⟨?_, ?_, hc⟩ <;> rw [canonical_of_read hr]
    rfl

/-- A document whose blocks are all read or rejected is formatted block by block, with the same text
outside the blocks. It can be formatted again, and stays as it is then exactly when the query of every
valid block was trimmed. -/
theorem normalize_blocks (hs : settings.HasUsualGrammar) {document : Text}
    (h : ∀ b ∈ blocks document, ∀ fault, Spec.read settings b.source ≠ .error (.fault fault)) :
    ∃ formatted, normalize settings document = .ok formatted ∧
      outside formatted = outside document ∧
      List.Forall₂ (fun b b' => IsFormatted settings (b.text document) b.source
        (b'.text formatted) b'.source) (blocks document) (blocks formatted) ∧
      ∃ again, normalize settings formatted = .ok again ∧
        (again = formatted ↔ ∀ b ∈ blocks document, ∀ spec,
          Spec.read settings b.source = .ok spec → Text.trim spec.query = spec.query) := by
  have hread : ReadsWell settings (fences (segments document)) :=
    (forall_mem_blocks (P := fun _ source =>
      ∀ fault, Spec.read settings source ≠ .error (.fault fault))).1 h
  have hproper : ∀ f : Fence, f.IsProper → (canonical settings f).IsProper :=
    fun f hf => canonical_isProper hs hf
  obtain ⟨formatted, hd⟩ : ∃ formatted, formatted =
    textOf ((segments document).map (exchange (canonical settings))) := ⟨_, rfl⟩
  have hsegs : segments formatted = (segments document).map (exchange (canonical settings)) := by
    rw [hd]
    exact segments_exchange hproper document
  have hfences : fences (segments formatted) =
      (fences (segments document)).map (canonical settings) := by
    rw [hsegs, fences_exchange]
  refine ⟨formatted, by rw [normalize_eq_ok hread, hd], ?_, ?_, ?_⟩
  · rw [outside_eq_gapsFrom, outside_eq_gapsFrom, hsegs, gapsFrom_exchange]
  · exact forall₂_blocks hfences fun f => canonical_isFormatted hs f
  · have hread' : ReadsWell settings (fences (segments formatted)) := by
      rw [hfences]
      exact hread.canonical hs
    refine ⟨_, normalize_eq_ok hread', ?_⟩
    rw [textOf_exchange_eq_self_iff hproper, hfences, List.forall_mem_map,
      forall_mem_blocks (P := fun _ source => ∀ spec, Spec.read settings source = .ok spec →
        Text.trim spec.query = spec.query)]
    exact forall₂_congr fun f _ => canonical_canonical_eq_iff hs f

/-- A padded query behind padded marks, a block with an unusable limit, and a fence that stays open. -/
theorem normalize_blocks_of_mixed_document :
    let settings := Settings.standard
    let document : Text :=
      "x\n```jira-search \n a = b \n```\t\n```jira-search\nlimit: 0\n```\n```jira-search\ny"
    settings.HasUsualGrammar ∧
      (∀ b ∈ blocks document, ∀ fault, Spec.read settings b.source ≠ .error (.fault fault)) ∧
      ∃ formatted, normalize settings document = .ok formatted ∧
        outside formatted = outside document ∧
        List.Forall₂ (fun b b' => IsFormatted settings (b.text document) b.source
          (b'.text formatted) b'.source) (blocks document) (blocks formatted) ∧
        ∃ again, normalize settings formatted = .ok again ∧
          (again = formatted ↔ ∀ b ∈ blocks document, ∀ spec,
            Spec.read settings b.source = .ok spec → Text.trim spec.query = spec.query) := by
  intro settings document
  have hs : settings.HasUsualGrammar := ⟨rfl, rfl, by decide⟩
  have hb : blocks document = [⟨2, 30, " a = b \n"⟩, ⟨31, 58, "limit: 0\n"⟩] := by decide +kernel
  have hpadded : Spec.read settings " a = b \n" = .ok ⟨.table, " a = b ", none, []⟩ := by
    decide +kernel
  have hinvalid : Spec.read settings "limit: 0\n" = .error (.rejected (.invalidLimit "0")) := by
    decide +kernel
  have h : ∀ b ∈ blocks document, ∀ fault,
      Spec.read settings b.source ≠ .error (.fault fault) := by
    rw [hb]
    intro b hm fault
    rcases List.mem_cons.1 hm with rfl | hm
    · rw [hpadded]
      nofun
    · rw [List.mem_singleton.1 hm, hinvalid]
      nofun
  exact ⟨hs, h, normalize_blocks hs h⟩

end Document

end QueryFence
