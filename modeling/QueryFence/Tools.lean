import QueryFence.Cache.File
import QueryFence.Failure
import QueryFence.Rounds

/-!
The tools that a server offers: rendering, refreshing and formatting a search block, and rendering a
document. They share one hub, which is made at the first call.
-/

namespace QueryFence

inductive Tool
  | renderBlock
  | refreshBlock
  | renderDocument
  | formatBlock
deriving DecidableEq, Repr

/-- What the tools share once it is made. -/
structure SharedHub where
  hub : Hub
  ttl : Span

structure ToolServer where
  /-- The settings without the fields that are found later. -/
  settings : Settings
  shared : Option SharedHub
  /-- The folder of the cache. -/
  disk : Disk

namespace ToolServer

def fresh (settings : Settings) : ToolServer :=
  ⟨settings, none, ⟨FileTree.steps settings.cacheFolder, []⟩⟩

/-- Makes the shared hub of completed settings. The folder of the cache is made first, and stays
when the settings are refused. -/
def install (server : ToolServer) (settings : Settings) : Except Failure SharedHub × ToolServer :=
  match Span.ofHours (.float settings.cacheHours) with
  | .error fault => (.error (.fault fault), server)
  | .ok ttl =>
    match FileCache.attach ttl server.disk with
    | (.error e, cache) => (.error (.fault (.storage e)), { server with disk := cache.disk })
    | (.ok (), cache) =>
      let server := { server with disk := cache.disk }
      match Hub.of settings with
      | .error failure => (.error (.ofSpec failure), server)
      | .ok hub => (.ok ⟨hub, ttl⟩, { server with shared := some ⟨hub, ttl⟩ })

variable {ε : Type}

/-- The shared hub; the first call completes the settings and makes it. -/
def enter (answer : (q : Jira.Action) → ε → q.Reply × ε) (server : ToolServer) (world : ε) :
    Except Failure SharedHub × ToolServer × ε :=
  match server.shared with
  | some shared => (.ok shared, server, world)
  | none =>
    match (Jira.discover server.settings).run answer world with
    | (.error failure, world) => (.error (.ofSearch failure), server, world)
    | (.ok found, world) =>
      let (result, server) := server.install (Jira.complete server.settings found)
      (result, server, world)

/-- The canonical fence of a block, or why it has none. -/
def formatBlock (settings : Settings) (source : Text) : Except Fault Text :=
  match Spec.read settings source with
  | .ok spec => .ok (spec.fence settings)
  | .error (.rejected error) => .ok ("❌ Invalid search block: " ++ error.message)
  | .error (.fault fault) => .error fault

/-- The cache of the server. -/
def cache (server : ToolServer) (shared : SharedHub) : FileCache := ⟨shared.ttl, server.disk⟩

/-- Renders a block by itself. -/
def renderBlock (answer : (q : Jira.Action) → ε → q.Reply × ε) (server : ToolServer)
    (shared : SharedHub) (now : Instant) (refresh : Bool) (source : Text) (world : ε) :
    Except Fault Text × ToolServer × ε :=
  let service := Jira.service (Jira.Client.of shared.hub.settings Jira.usualBackoff) answer
  let run := BlockRun.follow service shared.hub now false
    (Cycle.startBlock shared.hub now refresh source) (server.cache shared) world
  let result := match run.result with
    | .ok _ => .ok run.scene.display.output
    | .error fault => .error fault
  (result, { server with disk := run.scene.cache.disk }, run.world)

/-- Renders a whole document. -/
def renderDocument (answer : (q : Jira.Action) → ε → q.Reply × ε) (server : ToolServer)
    (shared : SharedHub) (now : Instant) (document : Text) (world : ε) :
    Except Fault Text × ToolServer × ε :=
  let service := Jira.service (Jira.Client.of shared.hub.settings Jira.usualBackoff) answer
  let (result, cache, world) := Document.render service shared.hub now false document
    (server.cache shared) world
  (result, { server with disk := cache.disk }, world)

/-- Uses a tool on a text. -/
def call (answer : (q : Jira.Action) → ε → q.Reply × ε) (server : ToolServer) (now : Instant)
    (tool : Tool) (argument : Text) (world : ε) : Except Failure Text × ToolServer × ε :=
  match server.enter answer world with
  | (.error failure, server, world) => (.error failure, server, world)
  | (.ok shared, server, world) =>
    let (result, server, world) := match tool with
      | .renderBlock => server.renderBlock answer shared now false argument world
      | .refreshBlock => server.renderBlock answer shared now true argument world
      | .renderDocument => server.renderDocument answer shared now argument world
      | .formatBlock => (formatBlock shared.hub.settings argument, server, world)
    (result.mapError .fault, server, world)

end ToolServer

end QueryFence
