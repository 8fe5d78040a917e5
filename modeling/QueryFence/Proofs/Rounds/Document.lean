import Mathlib
import QueryFence.Proofs.Cache.FolderCalls
import QueryFence.Proofs.Document.Fill
import QueryFence.Proofs.Rounds.Client
import QueryFence.Proofs.Rounds.Crew
import QueryFence.Proofs.Rounds.FolderSharing
import QueryFence.Proofs.Rounds.MemorySharing
import QueryFence.Proofs.Rounds.Orders
import QueryFence.Proofs.Spec.Key

/-!
Rendering a document is compositional: whether its blocks are rendered side by side, one after the other
or with their searches answered in any order, every fence comes to what its block shows alone, and
everything outside the fences stays as it is.
-/

namespace QueryFence

open QueryFence.Cycle QueryFence.Traffic

namespace Document

/-- A specification that one of the blocks of a document is read as. -/
def Reads (hub : Hub) (document : Text) (spec : Spec) : Prop :=
  ∃ source ∈ (blocks document).map (·.source), Spec.read hub.settings source = .ok spec

end Document

/-- All cycles of a document have ended, and this is the document with what they show. -/
def Progress.HasRendered {σ : Type} (document rendered : Text) (s : Progress σ) : Prop :=
  ∃ texts, s.traffic.errands.map Errand.shown? = texts.map (fun t => some (.ok t)) ∧
    rendered = Document.replaceFences (Document.segments document) texts

namespace Document

variable {σ ε : Type} [ResultCache σ]

/-- The texts that the blocks of a document show, each rendered by itself on a cache. -/
def ShowAlone (service : Service ε) (hub : Hub) (now : Instant) (document : Text) (cache : σ)
    (world : ε) (texts : List Text) : Prop :=
  List.Forall₂ (fun source t => (BlockRun.alone service hub now source cache world).shown = .ok t)
    ((blocks document).map (·.source)) texts

/-- What a document is rendered to on a cache, whichever way its blocks are rendered. -/
structure RendersTo (service : Service ε) (outcome : Text → Int → Except SearchFailure Json)
    (hub : Hub) (now : Instant) (document : Text) (cache : σ) (world : ε) (rendered : Text) : Prop where
  sideBySide : (render service hub now false document cache world).1 = .ok rendered
  inTurn : (BlockRun.inTurn service hub now ((blocks document).map (·.source)) cache world).map
    (fill (outside document)) = .ok rendered
  inAnyOrder : AlwaysEnds (Progress.Advances hub now outcome) (Progress.HasRendered document rendered)
    (Progress.start ((blocks document).map (·.source)) cache)

variable {service : Service ε} {outcome : Text → Int → Except SearchFailure Json} {hub : Hub}
  {now : Instant} {cache : σ} {world : ε}

/-- Where blocks may share a cache, a document is rendered to what they show alone. -/
theorem ShowAlone.rendersTo (S : Sharing σ now (Reads hub document) (answerTo hub outcome) cache)
    (hs : service.Answers outcome) (h : ShowAlone service hub now document cache world texts) :
    RendersTo service outcome hub now document cache world (fill (outside document) texts) := by
  have hlength : texts.length = (blocks document).length := by
    rw [← h.length_eq, List.length_map]
  have hshows : List.Forall₂ (S.Shows hub) ((blocks document).map (·.source)) texts := by
    rw [ShowAlone, List.forall₂_iff_get] at h
    rw [List.forall₂_iff_get]
    refine ⟨h.1, fun i hi hi' => S.shows_of_alone hs (fun spec hread => ?_) (h.2 i hi hi')⟩
    exact ⟨_, List.get_mem _ _, hread⟩
  rw [fill_outside hlength]
  constructor
  · rw [map_source_blocks] at hshows
    exact S.render_eq_ok hs hshows world
  · rw [S.inTurn_eq_ok hs hshows S.initial world]
    exact congrArg Except.ok (fill_outside hlength)
  · exact (S.alwaysEnds hshows).imp fun s hs => ⟨texts, hs, rfl⟩

/-- Blocks of one key search for the same, so they get the same answer. -/
theorem answerTo_eq (hdigests : Spec.HaveOwnDigests (Reads hub document)) {x y : Spec}
    (hx : Reads hub document x) (hy : Reads hub document y) (hkey : x.cacheKey = y.cacheKey) :
    answerTo hub outcome x = answerTo hub outcome y := by
  obtain ⟨hquery, hlimit⟩ := hdigests.haveOwnKeys x y hx hy hkey
  rw [answerTo, answerTo, effectiveLimit, effectiveLimit, hquery, hlimit]

/-- The answers to the searches of a document are read back from their files, and each key has a file
of its own. -/
structure IsStorable (outcome : Text → Int → Except SearchFailure Json) (hub : Hub) (now : Instant)
    (document : Text) : Prop where
  digests : ∀ x y, Reads hub document x → Reads hub document y →
    FileCache.fileKey x.cacheKey = FileCache.fileKey y.cacheKey → x.cacheKey = y.cacheKey
  read_back : ∀ spec, Reads hub document spec →
    Json.read (FileCache.entryText (entryOf now (answerTo hub outcome spec))) =
      .ok (entryOf now (answerTo hub outcome spec)).toJson

theorem IsStorable.own (h : IsStorable outcome hub now document)
    (hdigests : Spec.HaveOwnDigests (Reads hub document)) (x y : Spec) (hx : Reads hub document x)
    (hy : Reads hub document y) (hfile : FileCache.fileKey x.cacheKey = FileCache.fileKey y.cacheKey) :
    answerTo hub outcome x = answerTo hub outcome y ∧ x.cacheKey = y.cacheKey := by
  have hkey := h.digests x y hx hy hfile
  exact ⟨answerTo_eq hdigests hx hy hkey, hkey⟩

/-- A block for which nothing is found in a folder that can be used shows the answer to its search. -/
theorem IsStorable.shown_alone (h : IsStorable outcome hub now document)
    (hs : service.Answers outcome) (hnow : now.IsTold)
    (hdigests : Spec.HaveOwnDigests (Reads hub document)) {cache : FileCache} (hc : cache.IsUsable)
    {source t : Text} {spec : Spec} (hk : Reads hub document spec)
    (hread : Spec.read hub.settings source = .ok spec)
    (hmissing : (ResultCache.get cache now spec.cacheKey).1 = .ok none)
    (ho : IsSearchOutcome (answerTo hub outcome spec))
    (ht : textOfAnswer hub spec (answerTo hub outcome spec) (.ok (if 0 ≤ cache.ttl.micros then
      some (entryOf now (answerTo hub outcome spec)).toJson else none)) = .ok t) (world : ε) :
    (BlockRun.alone service hub now source cache world).shown = .ok t := by
  obtain ⟨folder, records, hopens⟩ := hc
  have hsearches := FileCache.searches_of_missing hopens hnow (h.own hdigests) h.read_back hk hmissing ho ht
  exact ((Sharing.Shows.searched hread hsearches).alone hs (Sharing.initial _) world).1

end Document

end QueryFence
