import RecordMapper.Engine.Location
import RecordMapper.Engine.World

/-! An engine: its settings, the keys it generates and its databases. Units of work are begun here. -/

namespace RecordMapper

structure Engine where
  settings : Settings
  keys : KeySource
  world : World

namespace Engine

/-- What answers at a URL: tables in memory, or the scripted server at its own URL. -/
def backendAt? (server url : String) : Option Backend :=
  if url = server then some .scripted
  else (Location.ofUrl? url).map fun location => .tables { readOnly := location.readOnly }

/-- The link to a datasource. -/
def connectTo (server : String) (datasource : Datasource) : Outcome Link := do
  let dialect ← Dialect.ofUrl datasource.url
  match backendAt? server datasource.url with
  | some backend => return ⟨datasource.name, dialect, backend, .idle, false⟩
  | none => throw (.connection (datasource.name ++ ": nothing answers"))

/-- Connects to every datasource. -/
def connect (server : String) (now : Int) (settings : Settings) : Outcome Engine := do
  let links ← settings.datasources.mapM (connectTo server)
  return ⟨settings, ← KeySource.make settings.node, { links := links, now := now }⟩

def link (engine : Engine) (name : String) : Outcome Link :=
  match engine.world.link? name with
  | some link => .ok link
  | none => .error (.datasourceNotFound name)

/-- Why a link that is held or lost cannot be had: the shorter of the two waiting times tells. -/
def waited (engine : Engine) (timeout : Duration) : Failure :=
  if timeout.nanoseconds < engine.settings.pool.acquireTimeout.nanoseconds then .timeout timeout
  else .sql "pool timed out"

/-- Takes a link. A transaction that was left open on it is rolled back first. -/
def takeLink (engine : Engine) (timeout : Duration) (link : Link) : Outcome Link × World :=
  match link.state with
  | .shut => (.error (.sql "pool closed"), engine.world)
  | .busy | .lost => (.error (engine.waited timeout), engine.world)
  | .idle =>
    if link.transactional then
      let (reply, link, world) :=
        World.command .rollback Database.rollback Script.onRollback link engine.world
      match reply with
      | .silent => (.error (engine.waited timeout), world.setLink link)
      | _ => (.ok { link with state := .busy, transactional := false }, world)
    else (.ok { link with state := .busy }, engine.world)

/-- Begins a transaction on a link that has been taken. -/
def beginOn (timeout : Duration) (link : Link) (world : World) : Outcome Unit × World :=
  let (reply, link, world) := World.command .begin Database.begin Script.onBegin link world
  match Work.ofReply timeout reply with
  | .ok () => (.ok (), world.setLink { link with transactional := true })
  | .error failure => (.error failure, world.setLink (link.returned))

/-- Begins a unit of work. -/
def acquire (engine : Engine) (options : WorkOptions) : Outcome Work × Engine :=
  let timeout := options.timeout.getD engine.settings.timeout
  match engine.link options.datasource with
  | .error failure => (.error failure, engine)
  | .ok link =>
    match engine.takeLink timeout link with
    | (.error failure, world) => (.error failure, { engine with world := world })
    | (.ok link, world) =>
      let work (hold : Hold) : Work := { dialect := link.dialect, options, timeout, hold := some hold }
      if options.transactional then
        match beginOn timeout link world with
        | (.ok (), world) => (.ok (work .transaction), { engine with world := world })
        | (.error failure, world) => (.error failure, { engine with world := world })
      else (.ok (work .connection), { engine with world := world.setLink link })

/-- What a unit of work has around it. -/
def surroundings (engine : Engine) (registry : Registry) (options : WorkOptions) : Surroundings World :=
  World.surroundings registry engine.world.hasStore options.datasource

/-- Runs a call on a unit of work. -/
def run (engine : Engine) (work : Work) (call : Act World α) : α × Work × Engine :=
  let (result, scene) := call ⟨work, engine.keys, engine.world⟩
  (result, scene.work, { engine with keys := scene.keys, world := scene.world })

/-- Closes all pools. -/
def close (engine : Engine) : Engine :=
  { engine with
    world := { engine.world with links := engine.world.links.map fun link => { link with state := .shut } } }

end Engine

end RecordMapper
