import QueryFence.Proofs.Document.Fenced
import QueryFence.Proofs.Rounds.Logging
import QueryFence.Proofs.Rounds.Single
import QueryFence.Proofs.Settings.Grammar
import QueryFence.Tools

/-!
The tools of a server on a single block, against the functions on documents. A block that is put into a
fence is rendered, refreshed and formatted as it is by itself.
-/

namespace QueryFence

open QueryFence.Cycle

namespace Cycle

variable {σ : Type} [ResultCache σ] {hub : Hub}

/-- A cycle sees nothing of its block but how it is read. -/
theorem startBlock_congr {source source' : Text}
    (h : Spec.read hub.settings source = Spec.read hub.settings source') (now : Instant)
    (refresh : Bool) :
    (startBlock hub now refresh source : CycleM σ Begun) = startBlock hub now refresh source' := by
  simp only [startBlock, start, h]

end Cycle

/-- A document that is one fence comes to what its block comes to by itself, with any cache and any search
service that waits no more often than it says. -/
theorem Document.render_fenced {σ ε : Type} [ResultCache σ] {service : Service ε}
    (hpatient : service.IsPatient) {source : Text} (h : LeavesOpen source) (hub : Hub) (now : Instant)
    (refresh : Bool) (cache : σ) (world : ε) :
    render service hub now refresh (fenced source) cache world =
      (BlockRun.follow service hub now false (startBlock hub now refresh source) cache world).remains := by
  have hread := Spec.read_concat_lineFeed hub.settings source
  rw [Document.render_fence hpatient (segments_fenced h), startBlock_congr hread]

namespace ToolServer

variable {ε : Type}

/-- Renders a whole document on the cache of a server, refreshing its blocks when asked to. -/
def renderAll (answer : (q : Jira.Action) → ε → q.Reply × ε) (server : ToolServer)
    (shared : SharedHub) (now : Instant) (refresh : Bool) (document : Text) (world : ε) :
    Except Fault Text × ToolServer × ε :=
  let service := Jira.service (Jira.Client.of shared.hub.settings Jira.usualBackoff) answer
  let run := Document.render service shared.hub now refresh document (server.cache shared) world
  (run.1, { server with disk := run.2.1.disk }, run.2.2)

theorem renderDocument_eq (answer : (q : Jira.Action) → ε → q.Reply × ε) (server : ToolServer)
    (shared : SharedHub) (now : Instant) (document : Text) (world : ε) :
    server.renderDocument answer shared now document world =
      server.renderAll answer shared now false document world := rfl

theorem renderBlock_eq (answer : (q : Jira.Action) → ε → q.Reply × ε) (server : ToolServer)
    (shared : SharedHub) (now : Instant) (refresh : Bool) (source : Text) (world : ε) :
    server.renderBlock answer shared now refresh source world =
      let service := Jira.service (Jira.Client.of shared.hub.settings Jira.usualBackoff) answer
      let run := (BlockRun.follow service shared.hub now false
        (startBlock shared.hub now refresh source) (server.cache shared) world).remains
      (run.1, { server with disk := run.2.1.disk }, run.2.2) := by
  simp only [renderBlock, BlockRun.remains, BlockRun.shown]
  cases (BlockRun.follow (Jira.service (Jira.Client.of shared.hub.settings Jira.usualBackoff) answer)
    shared.hub now false (startBlock shared.hub now refresh source) (server.cache shared)
    world).result with
  | error fault => rfl
  | ok outcome => rfl

theorem renderAll_fenced {source : Text} (h : Document.LeavesOpen source)
    (answer : (q : Jira.Action) → ε → q.Reply × ε) (server : ToolServer) (shared : SharedHub)
    (now : Instant) (refresh : Bool) (world : ε) :
    server.renderAll answer shared now refresh (Document.fenced source) world =
      server.renderBlock answer shared now refresh source world := by
  rw [renderAll, renderBlock_eq, Document.render_fenced (Jira.service_isPatient _ _) h]

/-- A block comes to the same by itself and as the only fence of a document. -/
structure AgreesFenced (source : Text) : Prop where
  /-- On any cache and with any service: the text or the fault, the cache, the world and the searches that
  were written down. -/
  run : ∀ {σ ε : Type} [ResultCache σ] (service : Service ε), service.IsPatient →
    ∀ (hub : Hub) (now : Instant) (refresh : Bool) (cache : σ) (world : ε)
      (calls : List (Text × Int)),
      Document.render service.logged hub now refresh (Document.fenced source) cache (world, calls) =
        (BlockRun.follow service.logged hub now false (startBlock hub now refresh source) cache
          (world, calls)).remains
  /-- On the cache of a server, as its tools render and refresh a block. -/
  render : ∀ {ε : Type} (answer : (q : Jira.Action) → ε → q.Reply × ε) (server : ToolServer)
    (shared : SharedHub) (now : Instant) (refresh : Bool) (world : ε),
      server.renderAll answer shared now refresh (Document.fenced source) world =
        server.renderBlock answer shared now refresh source world
  /-- Through the tools, the first of which makes the shared hub. -/
  call : ∀ {ε : Type} (answer : (q : Jira.Action) → ε → q.Reply × ε) (server : ToolServer)
    (now : Instant) (world : ε),
      server.call answer now .renderDocument (Document.fenced source) world =
        server.call answer now .renderBlock source world
  /-- In canonical form, where the block is read; a fence that is refused stays. -/
  format : ∀ settings : Settings, Document.normalize settings (Document.fenced source) =
    match Spec.read settings source with
    | .ok _ => formatBlock settings source
    | .error (.rejected _) => .ok (Document.fenced source)
    | .error (.fault fault) => .error fault

theorem agreesFenced_of_leavesOpen {source : Text} (h : Document.LeavesOpen source) :
    AgreesFenced source where
  run service hpatient hub now refresh cache world calls :=
    Document.render_fenced hpatient.logged h hub now refresh cache (world, calls)
  render answer server shared now refresh world :=
    renderAll_fenced h answer server shared now refresh world
  call answer server now world := by
    rw [call, call]
    rcases server.enter answer world with ⟨failure | shared, entered, after⟩
    · rfl
    · dsimp only
      rw [renderDocument_eq, renderAll_fenced h]
  format settings := by
    rw [Document.normalize_fenced settings h, formatBlock]
    rcases Spec.read settings source with (error | fault) | spec
    · rfl
    · rfl
    · rfl

/-- A block that opens a fence again, with a query behind it. -/
theorem agreesFenced_of_opening_line :
    let source : Text := "```jira-search\nquery: a\n``` more"
    Document.LeavesOpen source ∧ AgreesFenced source := by
  intro source
  have h : Document.LeavesOpen source := by decide +kernel
  exact ⟨h, agreesFenced_of_leavesOpen h⟩

end ToolServer

end QueryFence
