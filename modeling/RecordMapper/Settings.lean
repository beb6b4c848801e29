import RecordMapper.Failure
import RecordMapper.Text.Outline

/-! Settings of an engine, given step by step or as environment variables, and the options of one unit of work. -/

namespace RecordMapper

/-- A named database and the URL that leads to it. -/
structure Datasource where
  name : String
  url : String
  deriving DecidableEq

/-- The datasource that is used if none is named. -/
def defaultDatasource : String := "MASTER"

/-- Sizes and waiting times of each datasource's connection pool. -/
structure PoolSettings where
  maxConnections : Nat := 10
  minConnections : Nat := 0
  acquireTimeout : Duration := .ofMilliseconds 30000
  /-- How long an unused connection is kept; `none` keeps it for good. -/
  idleTimeout : Option Duration := some (.ofMilliseconds 600000)
  deriving DecidableEq

structure Settings where
  datasources : List Datasource := []
  pool : PoolSettings := {}
  /-- The node of generated keys if a unit of work names none. -/
  node : Nat := 0
  /-- The time a statement may take if a unit of work sets none. -/
  timeout : Duration := .ofMilliseconds 10000
  deriving DecidableEq

namespace Settings

/-- One step of giving settings. -/
inductive Step where
  | datasource (name url : String)
  | maxConnections (n : Nat)
  | minConnections (n : Nat)
  | acquireTimeout (limit : Duration)
  | idleTimeout (limit : Option Duration)
  | node (n : Nat)
  | timeout (limit : Duration)

/-- A datasource given again moves to the end; every other setting is replaced. -/
def apply (settings : Settings) : Step → Settings
  | .datasource name url =>
    { settings with datasources := settings.datasources.filter (·.name ≠ name) ++ [⟨name, url⟩] }
  | .maxConnections n => { settings with pool := { settings.pool with maxConnections := n } }
  | .minConnections n => { settings with pool := { settings.pool with minConnections := n } }
  | .acquireTimeout limit => { settings with pool := { settings.pool with acquireTimeout := limit } }
  | .idleTimeout limit => { settings with pool := { settings.pool with idleTimeout := limit } }
  | .node n => { settings with node := n }
  | .timeout limit => { settings with timeout := limit }

/-- The settings, if they can be used. -/
def check (settings : Settings) : Outcome Settings :=
  if settings.datasources.isEmpty then .error (.validation .noDatasource)
  else if settings.pool.maxConnections = 0 then .error (.validation .noConnections)
  else if settings.pool.maxConnections < settings.pool.minConnections then
    .error (.validation .tooFewConnections)
  else if greatestNode < settings.node then .error (.validation (.settingNodeTooLarge settings.node))
  else .ok settings

/-- Settings given step by step, checked at the end. -/
def build (steps : List Step) : Outcome Settings := check (steps.foldl apply {})

def urlVariable : String := "RELSTORE_DATABASE_URL"

def connectionsVariable : String := "RELSTORE_MAX_CONNECTIONS"

def nodeVariable : String := "RELSTORE_NODE_ID"

/-- The step that a variable of an unsigned number stands for; no step if it is not set. -/
def variableStep (environment : String → Option String) (name : String) (greatest : Nat) (step : Nat → Step) :
    Outcome (List Step) :=
  match environment name with
  | none => .ok []
  | some raw =>
    match Text.readUnsigned greatest raw with
    | .ok n => .ok [step n]
    | .error fault => .error (.validation (.setting name raw fault))

/-- Settings from environment variables: one datasource, and as options the size of its pool and the node. -/
def ofVariables (environment : String → Option String) : Outcome Settings := do
  match environment urlVariable with
  | none => throw (.connection (urlVariable ++ " is not set"))
  | some url =>
    let connections ← variableStep environment connectionsVariable (UInt32.size - 1) .maxConnections
    let node ← variableStep environment nodeVariable (UInt16.size - 1) .node
    build (.datasource defaultDatasource url :: (connections ++ node))

def datasource? (settings : Settings) (name : String) : Option Datasource :=
  settings.datasources.find? fun datasource => datasource.name = name

end Settings

/-- What one unit of work asks for. -/
structure WorkOptions where
  datasource : String := defaultDatasource
  /-- The database to name before every table. -/
  database : Option String := none
  /-- Whether everything happens in one transaction. -/
  transactional : Bool := false
  /-- The time a statement may take. -/
  timeout : Option Duration := none
  /-- Whether writes of mirrored models are repeated in the second store. -/
  mirrored : Bool := false
  /-- The node of generated keys. -/
  node : Option Nat := none
  deriving DecidableEq

namespace WorkOptions

open Text in
def outline (options : WorkOptions) : Outline :=
  .group "ManagerOptions" [
    ("ds_name", .text options.datasource),
    ("database", .optional .text options.database),
    ("open_tx", .flag options.transactional),
    ("timeout", .optional (fun limit => .word limit.text) options.timeout),
    ("mirror_to_secondary", .flag options.mirrored),
    ("node", .optional .number options.node)]

end WorkOptions

end RecordMapper
