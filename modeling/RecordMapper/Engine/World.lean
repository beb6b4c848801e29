import RecordMapper.Engine.Script
import RecordMapper.Relational.Raw

/-! The databases of an engine, each behind a single connection, with everything they have been sent. -/

namespace RecordMapper

/-- What answers at the other end of a connection. -/
inductive Backend where
  /-- Tables kept in memory. -/
  | tables (database : Database)
  /-- A server that answers from the script. -/
  | scripted

/-- Where a connection is. -/
inductive LinkState where
  | idle
  /-- Held by a unit of work. -/
  | busy
  /-- The server has stopped answering on it. -/
  | lost
  /-- The pool has been closed. -/
  | shut
  deriving DecidableEq

/-- A datasource with its connection. -/
structure Link where
  name : String
  dialect : Dialect
  backend : Backend
  state : LinkState := .idle
  /-- Whether a transaction is open on it. -/
  transactional : Bool := false

/-- A link that a unit of work gives back. -/
def Link.returned (link : Link) : Link := if link.state = .lost then link else { link with state := .idle }

/-- What a server is sent. -/
inductive Request where
  | statement (text : String) (params : List Value)
  | begin
  | commit
  | rollback

structure World where
  links : List Link
  script : Script := {}
  /-- Requests that have reached a server, in order. -/
  sent : List Request := []
  events : List Event := []
  hasStore : Bool := false
  /-- Writes that the second store refuses. -/
  refusedKinds : List WriteKind := []
  /-- Writes that the second store was handed, in order. -/
  taken : List QueuedWrite := []
  /-- The clock, in milliseconds since the start of 2020. -/
  now : Int

namespace World

def link? (world : World) (name : String) : Option Link := world.links.find? fun link => link.name = name

/-- Replaces a link by the changed one. -/
def setLink (world : World) (link : Link) : World :=
  { world with links := world.links.map fun old => if old.name = link.name then link else old }

def record (world : World) (request : Request) : World := { world with sent := world.sent ++ [request] }

/-- What a database of tables answers, and its link afterwards. -/
def runTables (link : Link) (database : Database) (statement : Statement) : Reply Answer × Link :=
  let (result, database) := database.run statement
  let link := { link with backend := .tables database }
  match result with
  | .error fault => (.refused fault.text, link)
  | .ok (.touched count) => (.done (.touched (UInt64.ofNat count)), link)
  | .ok (.rows rows) => (.done (.rows rows), link)
  | .ok .done => (.done (.touched 0), link)

/-- What a server reads of a statement: as many parameters as the text has places for. -/
def received (dialect : Dialect) (statement : Statement) : Request :=
  let text := statement.text dialect
  .statement text (statement.params.take (text.toList.count '?'))

/-- Runs a statement over a link. Nothing reaches a server that has stopped answering. -/
def run (name : String) (statement : Statement) (world : World) : Reply Answer × World :=
  match world.link? name with
  | none => (.silent, world)
  | some link =>
    if link.state = .lost then (.silent, world)
    else
      match link.backend with
      | .tables database =>
        let (reply, link) := runTables link database statement
        (reply, world.setLink link)
      | .scripted =>
        let world := world.record (received link.dialect statement)
        let (reply, script) := world.script.next
        let world := { world with script := script }
        match reply with
        | .silent => (.silent, world.setLink { link with state := .lost })
        | reply => (reply, world)

def execute (name : String) (statement : Statement) (world : World) : Reply UInt64 × World :=
  match run name statement world with
  | (.done answer, world) => (answer.toTouched, world)
  | (.refused text, world) => (.refused text, world)
  | (.silent, world) => (.silent, world)

def fetch (name : String) (statement : Statement) (world : World) : Reply (List Row) × World :=
  match run name statement world with
  | (.done answer, world) => (.done answer.toRows, world)
  | (.refused text, world) => (.refused text, world)
  | (.silent, world) => (.silent, world)

/-- Sends a command of a transaction over a link that answers. -/
def command (request : Request) (onTables : Database → Database) (onScript : Script → Reply Unit) (link : Link)
    (world : World) : Reply Unit × Link × World :=
  let world := world.record request
  match link.backend with
  | .tables database => (.done (), { link with backend := .tables (onTables database) }, world)
  | .scripted =>
    match onScript world.script with
    | .silent => (.silent, { link with state := .lost }, world)
    | reply => (reply, link, world)

/-- Ends the transaction of a link and gives the link back. If the command fails, the transaction stays open on
it until the link is taken again. -/
def finish (name : String) (request : Request) (onTables : Database → Database)
    (onScript : Script → Reply Unit) (world : World) : Reply Unit × World :=
  match world.link? name with
  | none => (.silent, world)
  | some link =>
    if link.state = .lost then (.silent, world)
    else
      let (reply, link, world) := command request onTables onScript link world
      let link := match reply with
        | .done () => { link with transactional := false }
        | _ => link
      (reply, world.setLink (link.returned))

def commit (name : String) : World → Reply Unit × World := finish name .commit Database.commit Script.onCommit

def rollback (name : String) : World → Reply Unit × World :=
  finish name .rollback Database.rollback Script.onRollback

/-- Gives a link back as it is. -/
def giveBack (name : String) (world : World) : World :=
  match world.link? name with
  | none => world
  | some link => world.setLink (link.returned)

/-- Hands a write to the second store. -/
def take (queued : QueuedWrite) (world : World) : Outcome Unit × World :=
  let answer := if world.refusedKinds.contains queued.write.kind then .error (.mirror "store refused") else .ok ()
  (answer, { world with taken := world.taken ++ [queued] })

/-- The surroundings of a unit of work that holds the link of the given name. -/
def surroundings (registry : Registry) (hasStore : Bool) (name : String) : Surroundings World where
  registry := registry
  execute := execute name
  fetch := fetch name
  commit := commit name
  rollback := rollback name
  release := giveBack name
  abandon := giveBack name
  reading world := (world.now, world)
  note event world := { world with events := world.events ++ [event] }
  store := if hasStore then some ⟨take⟩ else none

end World

end RecordMapper
