import RecordMapper.SecondStore
import RecordMapper.Sql.Command

/-! What a unit of work reports besides its results: statements, warnings and errors, by cause, with their wording. -/

namespace RecordMapper

inductive Severity where
  | debug
  | warning
  | error
  deriving DecidableEq

def Severity.title : Severity → String
  | .debug => "DEBUG"
  | .warning => "WARN"
  | .error => "ERROR"

inductive Event where
  /-- A statement is about to be run. -/
  | sending (dialect : Dialect) (statement : Statement)
  /-- A write has changed no row. -/
  | untouched (operation table : String)
  | commitFailed (failure : Failure)
  | rollingBack (errors : Nat)
  | rollbackFailed (failure : Failure)
  | abandoned (transactional : Bool) (pending : Nat)
  | replayFailed (kind : WriteKind) (table : String) (failure : Failure)
  | replayFinished (applied failed : Nat)

/-- A detail of an event. -/
inductive Detail where
  | text (text : String)
  | number (n : Nat)
  | flag (value : Bool)
  | failure (failure : Failure)

namespace Event

def severity : Event → Severity
  | .sending .. => .debug
  | .untouched .. | .rollingBack _ | .abandoned .. | .replayFinished .. => .warning
  | .commitFailed _ | .rollbackFailed _ | .replayFailed .. => .error

def message : Event → String
  | .sending .. => "execute"
  | .untouched .. => "statement affected no rows"
  | .commitFailed _ => "commit failed"
  | .rollingBack _ => "rolling back unit of work"
  | .rollbackFailed _ => "rollback failed"
  | .abandoned .. => "manager dropped without close; open transaction rolls back"
  | .replayFailed .. => "secondary store replay failed"
  | .replayFinished .. => "secondary store replay finished with failures"

/-- The details by name. -/
def details : Event → List (String × Detail)
  | .sending dialect statement => [("sql", .text (statement.text dialect))]
  | .untouched operation table => [("op", .text operation), ("table", .text table)]
  | .commitFailed failure => [("error", .failure failure)]
  | .rollingBack errors => [("errors", .number errors)]
  | .rollbackFailed failure => [("error", .failure failure)]
  | .abandoned transactional pending => [("transactional", .flag transactional), ("pending", .number pending)]
  | .replayFailed kind table failure =>
    [("kind", .text kind.title), ("table", .text table), ("error", .failure failure)]
  | .replayFinished applied failed => [("applied", .number applied), ("failed", .number failed)]

end Event

/-- What is reported after the queued writes have been repeated: each failure, and the counts if there is one. -/
def ReplayReport.events (report : ReplayReport) : List Event :=
  report.failures.map (fun (queued, failure) =>
      .replayFailed queued.write.kind queued.metadata.table failure) ++
    if report.failures.isEmpty then [] else [.replayFinished report.applied report.failed]

end RecordMapper
