import Mathlib
import QueryFence.Command.Run
import QueryFence.Proofs.Document.Fill
import QueryFence.Proofs.Document.Format
import QueryFence.Proofs.Files.Change
import QueryFence.Proofs.Files.Home

/-!
Formatting a file in place. The command leaves every text outside the valid fences as it reads it; but it
reads every line as ended by a line feed alone, so a file with other line ends is not left as it was.
-/

namespace QueryFence

namespace Workplace

theorem not_mem_unifyLineEnds (t : Text) : '\r' ∉ unifyLineEnds t := by
  fun_induction unifyLineEnds t with
  | case1 => exact List.not_mem_nil
  | case2 rest ih | case3 rest _ ih => exact List.not_mem_cons_of_ne_of_not_mem (by decide) ih
  | case4 c rest hcrlf hcr ih =>
    refine List.not_mem_cons_of_ne_of_not_mem ?_ ih
    rintro rfl
    exact hcr rfl

theorem unifyLineEnds_eq_self {t : Text} (h : '\r' ∉ t) : unifyLineEnds t = t := by
  fun_induction unifyLineEnds t with
  | case1 => rfl
  | case2 rest ih | case3 rest _ ih => exact absurd List.mem_cons_self h
  | case4 c rest hcrlf hcr ih => rw [ih fun hm => h (List.mem_cons_of_mem c hm)]

/-- Just the texts without carriage returns are read as they are. -/
theorem unifyLineEnds_eq_self_iff {t : Text} : unifyLineEnds t = t ↔ '\r' ∉ t := by
  constructor
  · intro h
    rw [← h]
    exact not_mem_unifyLineEnds t
  · exact unifyLineEnds_eq_self

end Workplace

namespace Document

variable {settings : Settings} {document formatted : Text}

/-- What formatting puts in the place of a block, by its text and its source. -/
def formattedBlock (settings : Settings) (text source : Text) : Text :=
  match Spec.read settings source with
  | .ok spec => spec.fence settings
  | .error _ => text

theorem text_canonical (settings : Settings) (f : Fence) :
    (canonical settings f).text = formattedBlock settings f.text f.source := by
  rw [canonical, formattedBlock]
  cases Spec.read settings f.source <;> rfl

/-- A document that can be formatted has no block at which reading breaks down. -/
theorem readsWell_of_normalize (h : normalize settings document = .ok formatted) :
    ReadsWell settings (fences (segments document)) := by
  rw [normalize] at h
  split at h
  · next texts hm =>
    intro f hf fault hread
    obtain ⟨s, hs, hsf⟩ := List.mem_filterMap.1 hf
    cases s with
    | plain t => cases hsf
    | fence opening source closing =>
      cases hsf
      obtain ⟨t, ht⟩ := Steps.exists_mapM_eq_ok_iff.1 ⟨texts, hm⟩ _ hs
      rw [normalizeSegment, hread] at ht
      cases ht
  · cases h

/-- A document that cannot be formatted has a block at which reading breaks down. -/
theorem exists_of_normalize_eq_error {fault : Fault} (h : normalize settings document = .error fault) :
    ∃ b ∈ blocks document, Spec.read settings b.source = .error (.fault fault) := by
  by_contra hnone
  have hread : ∀ f ∈ fences (segments document),
      Spec.read settings f.source ≠ .error (.fault fault) := by
    refine (forall_mem_blocks (P := fun _ source => Spec.read settings source ≠ .error (.fault fault))).1 ?_
    exact fun b hb hb' => hnone ⟨b, hb, hb'⟩
  rw [normalize] at h
  split at h
  · cases h
  · next hm =>
    cases h
    obtain ⟨s, hs, hf⟩ := Steps.exists_of_mapM_eq_error hm
    cases s with
    | plain t => cases hf
    | fence opening source closing =>
      refine hread ⟨opening, source, closing⟩ (List.mem_filterMap.2 ⟨_, hs, rfl⟩) ?_
      rw [normalizeSegment] at hf
      dsimp only at hf ⊢
      split at hf
      · cases hf
      · cases hf
      · next hread =>
        cases hf
        exact hread

/-- Formatting puts the formatted blocks in the gaps between the texts outside. -/
theorem normalize_eq_fill (h : normalize settings document = .ok formatted) :
    formatted = fill (outside document)
      ((blocks document).map fun b => formattedBlock settings (b.text document) b.source) := by
  have hblocks := congrArg (List.map fun p => formattedBlock settings p.1 p.2) (map_blocks document)
  rw [List.map_map, List.map_map] at hblocks
  have htexts : ((blocks document).map fun b => formattedBlock settings (b.text document) b.source) =
      (fences (segments document)).map fun f => (canonical settings f).text :=
    hblocks.trans (List.map_congr_left fun f _ => (text_canonical settings f).symm)
  have hlength : ((fences (segments document)).map fun f => (canonical settings f).text).length =
      (blocks document).length := by
    rw [← htexts, List.length_map]
  rw [htexts, fill_outside hlength, replaceFences_exchange]
  exact Except.ok.inj (h.symm.trans (normalize_eq_ok (readsWell_of_normalize h)))

/-- A document without a valid block is formatted as it stands. -/
theorem normalize_of_invalid (h : normalize settings document = .ok formatted)
    (hinvalid : ∀ b ∈ blocks document, ∀ spec, Spec.read settings b.source ≠ .ok spec) :
    formatted = document := by
  have htexts : ((blocks document).map fun b => formattedBlock settings (b.text document) b.source) =
      (blocks document).map (·.text document) := by
    refine List.map_congr_left fun b hb => ?_
    rw [formattedBlock]
    split
    · next spec hread => exact absurd hread (hinvalid b hb spec)
    · rfl
  rw [normalize_eq_fill h, htexts, fill_outside_blocks]

end Document

namespace FileCache

variable {steps : List Text} {content : Text}

theorem read_of_prepare {disk : Disk} (h : disk.tree.read steps = .ok content) :
    (Disk.run prepare disk).2.tree.read steps = .ok content := by
  rw [prepare, Disk.run_bind, Disk.run_exists, Disk.answer]
  dsimp only
  split
  · exact h
  · next habsent =>
    rw [saveIndex, Disk.run_bind, Disk.run_write, Disk.answer]
    cases hwrite : disk.tree.write (disk.steps indexName) (Json.object []).writeIndented with
    | error e => exact h
    | ok after => exact FileTree.read_of_write_absent h (Bool.eq_false_iff.2 habsent) hwrite

/-- Opening a cache leaves every file as it is. -/
theorem read_of_attach {disk : Disk} (h : disk.tree.read steps = .ok content) (ttl : Span) :
    (attach ttl disk).2.disk.tree.read steps = .ok content := by
  have hmade : disk.make.2.tree.read steps = .ok content := FileTree.read_of_makeFolders h disk.home
  rw [attach]
  split
  · next hmake =>
    rw [hmake] at hmade
    exact read_of_prepare hmade
  · next hmake =>
    rw [hmake] at hmade
    exact hmade

end FileCache

namespace Command

open Document Workplace

variable {ε : Type} {answer : (q : Jira.Action) → ε → q.Reply × ε}
  {environment : List (Text × Text)} {now : Instant} {arguments : List Text} {w : Workplace}
  {world : ε} {file content : Text}

/-- The settings that documents are formatted with, or what ends the command before it reads any. -/
def settingsAtHand (answer : (q : Jira.Action) → ε → q.Reply × ε)
    (environment : List (Text × Text)) (w : Workplace) (world : ε) : Except Failure Settings :=
  match readSettings w environment with
  | .error failure => .error (.settings failure)
  | .ok settings =>
    match Span.ofHours (.float settings.cacheHours) with
    | .error fault => .error (.fault fault)
    | .ok ttl =>
      match (FileCache.attach ttl (w.disk settings.cacheFolder)).1 with
      | .error e => .error (.fault (.storage e))
      | .ok () =>
        match ((Jira.discover settings).run answer world).1 with
        | .error failure => .error (.ofSearch failure)
        | .ok found => .ok (Jira.complete settings found)

/-- How the content of a file and the text that is written for it go together. Every line end becomes a
line feed; outside the blocks that are then found, and in those that are not valid, nothing else changes. -/
structure IsFormattedInPlace (settings : Settings) (content after : Text) : Prop where
  reads : ∀ b ∈ blocks (unifyLineEnds content), ∀ fault,
    Spec.read settings b.source ≠ .error (.fault fault)
  filled : after = fill (outside (unifyLineEnds content)) ((blocks (unifyLineEnds content)).map
    fun b => formattedBlock settings (b.text (unifyLineEnds content)) b.source)
  invalid : (∀ b ∈ blocks (unifyLineEnds content), ∀ spec, Spec.read settings b.source ≠ .ok spec) →
    after = unifyLineEnds content ∧ (after = content ↔ '\r' ∉ content)

/-- How formatting a file in place ends, with the text that is then in the file. A command that fails
leaves the file as it was. -/
inductive EndsInPlace (file content : Text) : Except Failure Settings → CommandResult → Text → Prop
  | unready {failure : Failure} : EndsInPlace file content (.error failure) (.failed failure) content
  | unread {settings : Settings} {b : SearchBlock} {fault : Fault}
      (hb : b ∈ blocks (unifyLineEnds content))
      (hread : Spec.read settings b.source = .error (.fault fault)) :
    EndsInPlace file content (.ok settings) (.failed (.fault fault)) content
  | formatted {settings : Settings} {after : Text} (h : IsFormattedInPlace settings content after) :
    EndsInPlace file content (.ok settings)
      (.finished 0 ("✨ Formatted " ++ file ++ "\n") []) after

theorem isFormattedInPlace_of_normalize {settings : Settings} {after : Text}
    (h : normalize settings (unifyLineEnds content) = .ok after) :
    IsFormattedInPlace settings content after := by
  refine ⟨?_, normalize_eq_fill h, fun hinvalid => ?_⟩
  · exact (forall_mem_blocks (P := fun _ source =>
      ∀ fault, Spec.read settings source ≠ .error (.fault fault))).2 (readsWell_of_normalize h)
  · rw [normalize_of_invalid h hinvalid]
    exact ⟨rfl, unifyLineEnds_eq_self_iff⟩

/-- What formatting a document in place comes to, once the settings are read. -/
theorem runFormat_endsInPlace (d : Desk) (hfile : w.find file = .ok content) :
    ∃ after, (runFormat answer d file true w world).2.1.find file = .ok after ∧
      EndsInPlace file content
        (match ((Jira.discover d.settings).run answer world).1 with
          | .error failure => .error (.ofSearch failure)
          | .ok found => .ok (Jira.complete d.settings found))
        (runFormat answer d file true w world).1 after := by
  have hdocument : w.readDocument file = .ok (unifyLineEnds content) := by
    rw [readDocument, hfile]
  rw [runFormat]
  rcases (Jira.discover d.settings).run answer world with ⟨_ | found, world'⟩
  · exact ⟨content, hfile, .unready⟩
  · simp only [hdocument]
    cases hnormal : normalize (Jira.complete d.settings found) (unifyLineEnds content) with
    | error fault =>
      obtain ⟨b, hb, hread⟩ := exists_of_normalize_eq_error hnormal
      exact ⟨content, hfile, .unread hb hread⟩
    | ok after =>
      obtain ⟨t, hwrite⟩ := FileTree.write_of_read hfile after
      refine ⟨after, ?_, .formatted (isFormattedInPlace_of_normalize hnormal)⟩
      have hleft : (w.write file after).find file = .ok after := by
        rw [Workplace.write, hwrite]
        exact FileTree.read_of_write hwrite
      exact hleft

/-- Formatting a file in place leaves everything outside the valid blocks as it is read, and so leaves a
file without a valid block as it was just when no carriage return stands in it. -/
theorem run_endsInPlace (hread : read arguments = some (.format file true))
    (hfile : w.find file = .ok content) :
    ∃ after, (run answer environment now arguments w world).2.1.find file = .ok after ∧
      EndsInPlace file content (settingsAtHand answer environment w world)
        (run answer environment now arguments w world).1 after := by
  rw [run, hread, settingsAtHand]
  dsimp only
  cases readSettings w environment with
  | error failure => exact ⟨content, hfile, .unready⟩
  | ok settings =>
    dsimp only
    cases Span.ofHours (.float settings.cacheHours) with
    | error fault => exact ⟨content, hfile, .unready⟩
    | ok ttl =>
      dsimp only
      have hread : (w.disk settings.cacheFolder).tree.read (FileTree.steps file) = .ok content := hfile
      have hkept := FileCache.read_of_attach hread ttl
      rcases hattach : FileCache.attach ttl (w.disk settings.cacheFolder) with ⟨_ | _, cache⟩
      · rw [hattach] at hkept
        exact ⟨content, hkept, .unready⟩
      · rw [hattach] at hkept
        exact runFormat_endsInPlace ⟨settings, ttl, now⟩ hkept

/-- A file of one line that a carriage return and a line feed end: without any block, it is written back
without the carriage return. -/
theorem run_endsInPlace_of_carriage_return :
    let w := Workplace.ofFiles [("a.md", "x\r\n")]
    let answer : (q : Jira.Action) → Unit → q.Reply × Unit
      | .pause _, _ => ((), ())
      | .send _, _ => (.answered 200 [], ())
    let arguments : List Text := ["format", "a.md", "--write"]
    (read arguments = some (.format "a.md" true) ∧ w.find "a.md" = .ok "x\r\n") ∧
      (run answer [] ⟨0⟩ arguments w ()).1 = .finished 0 "✨ Formatted a.md\n" [] ∧
      (run answer [] ⟨0⟩ arguments w ()).2.1.find "a.md" = .ok "x\n" := by
  intro w answer arguments
  have hread : read arguments = some (.format "a.md" true) := by decide
  have hfile : w.find "a.md" = .ok "x\r\n" := by cbv
  have hmissing : w.find variablesFile = .error .missing := by cbv
  have hsettings : readSettings w [] = .ok Settings.standard := by
    rw [readSettings, hmissing]
    rfl
  have hspan : Span.ofHours (.float Settings.standard.cacheHours) = .ok ⟨900000000⟩ := by
    decide +kernel
  have hfolder : Settings.standard.cacheFolder = "cache" := rfl
  have hmade : (w.disk "cache").make.1 = .ok () := by cbv
  have hattached : (FileCache.attach ⟨900000000⟩ (w.disk Settings.standard.cacheFolder)).1 =
      .ok () := by
    rw [hfolder, FileCache.attach]
    split
    · rfl
    · next hmake =>
      rw [hmake] at hmade
      cases hmade
  have hhand : settingsAtHand answer [] w () = .ok Settings.standard := by
    rw [settingsAtHand, hsettings]
    simp only [hspan, hattached]
    rfl
  obtain ⟨after, hafter, hends⟩ :
      ∃ after, (run answer [] ⟨0⟩ arguments w ()).2.1.find "a.md" = .ok after ∧
        EndsInPlace "a.md" "x\r\n" (settingsAtHand answer [] w ())
          (run answer [] ⟨0⟩ arguments w ()).1 after :=
    run_endsInPlace hread hfile
  have hblocks : blocks (unifyLineEnds "x\r\n") = [] := by decide
  rw [hhand] at hends
  generalize (run answer [] ⟨0⟩ arguments w ()).1 = result at hends
  cases hends with
  | unread hb _ =>
    rw [hblocks] at hb
    cases hb
  | formatted h =>
    obtain ⟨rfl, -⟩ := h.invalid (by rw [hblocks]; exact fun _ hb => absurd hb List.not_mem_nil)
    exact ⟨⟨hread, hfile⟩, rfl, hafter⟩

end Command

end QueryFence
