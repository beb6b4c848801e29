import RecordMapper.Json.Access
import RecordMapper.Settings

/-! Documents of settings and options: the steps that give them, each a list of a word and its arguments, and the
whole of them. Times are in milliseconds. -/

namespace RecordMapper

def Duration.ofDocument (json : Json) : Duration := .ofMilliseconds json.asNat

def Duration.document (limit : Duration) : Json := .int limit.milliseconds

def Settings.Step.ofDocument (json : Json) : Settings.Step :=
  let first := json.item 1
  match (json.item 0).asText with
  | "datasource" => .datasource first.asText (json.item 2).asText
  | "max" => .maxConnections first.asNat
  | "min" => .minConnections first.asNat
  | "acquire_ms" => .acquireTimeout (.ofDocument first)
  | "idle_ms" => .idleTimeout (first.optional Duration.ofDocument)
  | "node_id" => .node first.asNat
  | _ => .timeout (.ofDocument first)

/-- The document of settings by name. -/
def Settings.document (settings : Settings) : Record := [
  ("datasources", .list (settings.datasources.map fun datasource => .ofTexts [datasource.name, datasource.url])),
  ("max", .int settings.pool.maxConnections),
  ("min", .int settings.pool.minConnections),
  ("acquire_ms", settings.pool.acquireTimeout.document),
  ("idle_ms", .ofOption Duration.document settings.pool.idleTimeout),
  ("node_id", .int settings.node),
  ("timeout_ms", settings.timeout.document)]

/-- Options with one of them replaced as a step's document says. -/
def WorkOptions.applyDocument (options : WorkOptions) (json : Json) : WorkOptions :=
  let first := json.item 1
  match (json.item 0).asText with
  | "ds_name" => { options with datasource := first.asText }
  | "database" => { options with database := some first.asText }
  | "open_tx" => { options with transactional := first.isTrue }
  | "mirror" => { options with mirrored := first.isTrue }
  | "timeout_ms" => { options with timeout := some (.ofDocument first) }
  | _ => { options with node := some first.asNat }

def WorkOptions.ofDocument (json : Json) : WorkOptions := json.items.foldl WorkOptions.applyDocument {}

def WorkOptions.document (options : WorkOptions) : Json :=
  .fields [
    ("ds_name", .text options.datasource),
    ("database", .ofOption .text options.database),
    ("open_tx", .bool options.transactional),
    ("timeout_ms", .ofOption Duration.document options.timeout),
    ("mirror", .bool options.mirrored),
    ("node", .ofOption (fun (n : Nat) => .int n) options.node)]

end RecordMapper
