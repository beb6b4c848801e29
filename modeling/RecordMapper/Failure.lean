import RecordMapper.Duration
import RecordMapper.Kind
import RecordMapper.Name
import RecordMapper.Json.Printer
import RecordMapper.Text.Numeral

/-! Everything that can go wrong, by cause, with the wording in one place. -/

namespace RecordMapper

/-- What a call was asked to do that it refuses before any statement is sent. -/
inductive Complaint where
  | badName (fault : Name.Fault)
  /-- An ordering comparison, named by its operator, against NULL. -/
  | orderedNull (operator key : String)
  /-- A comparison has another number of values than its operator takes. -/
  | wrongNumber (operator key : String) (count : Nat)
  | kindMismatch (expected : Kind) (found : Json)
  | inColumn (table column : String) (cause : Complaint)
  | emptyInsert
  | updateWithoutKey (table : String)
  | nothingToUpdate (table : String)
  | deleteWithoutKey (table : String)
  | findWithoutKey (table : String)
  | unknownColumn (table column : String)
  | keyUpdate (table column : String)
  | noUpset
  | noFrom
  | noJoinTable
  | joinTableShape (table : String)
  | noJoinExpression
  | noProjection
  | countUnbound
  | emptyBatch (operation : String)
  | unbound (operation : String)
  | boundElsewhere (bound read : String)
  | foreignModel (described used : String)
  | notAStruct (typeName : String)
  | noCountRow
  | fractionalInt (found : Double)
  | nodeTooLarge (node : Nat)
  | noDatasource
  | noConnections
  | tooFewConnections
  | settingNodeTooLarge (node : Nat)
  | setting (name raw : String) (fault : Text.NumeralFault)
  | other (text : String)

/-- Why a model type cannot be registered. -/
inductive Unfit where
  | badName (typeName : String) (fault : Name.Fault)
  | notAStruct (typeName : String)
  | noKind (typeName column : String)
  | keyMissing (typeName key : String)
  | keyIgnored (typeName key : String)
  | keyKind (typeName key : String) (found : Kind)
  | keyTooNarrow (typeName key reason : String)
  | duplicate (typeName : String)
  | installed
  | other (text : String)

inductive Failure where
  | notRegistered (typeName : String)
  | registration (cause : Unfit)
  | validation (cause : Complaint)
  | batchTooLarge (size greatest : Nat)
  /-- A statement of the given verb that would touch every row. -/
  | unsafeWhere (verb : String)
  | upsetMismatch (keys values : Nat)
  | datasourceNotFound (name : String)
  | connection (text : String)
  | timeout (limit : Duration)
  | closed
  | sql (text : String)
  | json (text : String)
  | mirror (text : String)

/-- Highest node that fits the ten bits a generated key has for it. -/
def greatestNode : Nat := 1023

def Complaint.message : Complaint → String
  | .badName fault => fault.message
  | .orderedNull operator key => operator ++ " on '" ++ key ++ "' cannot compare against NULL"
  | .wrongNumber operator key count =>
    operator ++ " on '" ++ key ++ "' requires exactly " ++ toString count ++ if count = 1 then " value" else " values"
  | .kindMismatch expected found => "Type mismatch: expected " ++ expected.title ++ ", got " ++ found.compact
  | .inColumn table column cause => table ++ "." ++ column ++ ": Validation error: " ++ cause.message
  | .emptyInsert => "insert requires at least one record"
  | .updateWithoutKey table => table ++ ": update requires a primary key on every object"
  | .nothingToUpdate table => table ++ ": no columns to update besides the primary key"
  | .deleteWithoutKey table => table ++ ": delete requires a primary key on every object"
  | .findWithoutKey table => table ++ ": find by id requires a primary key"
  | .unknownColumn table column => table ++ " has no column '" ++ column ++ "'"
  | .keyUpdate table column => table ++ ": the primary key '" ++ column ++ "' cannot be updated"
  | .noUpset => "update by condition requires an Upset"
  | .noFrom => "complex query requires a FROM table and alias"
  | .noJoinTable => "join table cannot be empty"
  | .joinTableShape table => "join table '" ++ table ++ "' must be `table` or `table alias`"
  | .noJoinExpression => "join requires an ON expression"
  | .noProjection => "complex query requires at least one projected field"
  | .countUnbound => "count requires a condition bound to a model or a FROM clause"
  | .emptyBatch operation => operation ++ " requires at least one object"
  | .unbound operation => operation ++ " requires a condition bound to a model (Condition::model::<T>())"
  | .boundElsewhere bound read => "condition bound to " ++ bound ++ " used to read " ++ read
  | .foreignModel described used => "metadata for " ++ described ++ " used with " ++ used
  | .notAStruct typeName => typeName ++ " did not serialize to a struct"
  | .noCountRow => "count returned no row"
  | .fractionalInt found => "expected an integer column value, found " ++ found.text .plain
  | .nodeTooLarge node => "node id " ++ toString node ++ " exceeds the maximum of " ++ toString greatestNode
  | .noDatasource => "at least one datasource is required"
  | .noConnections => "max_connections must be at least 1"
  | .tooFewConnections => "min_connections cannot exceed max_connections"
  | .settingNodeTooLarge node => "node_id " ++ toString node ++ " exceeds the maximum of " ++ toString greatestNode
  | .setting name raw fault => name ++ " '" ++ raw ++ "': " ++ fault.message
  | .other text => text

def Unfit.message : Unfit → String
  | .badName typeName fault => typeName ++ ": " ++ fault.message
  | .notAStruct typeName => typeName ++ " must serialize to a struct"
  | .noKind typeName column =>
    typeName ++ ": cannot infer a kind for field '" ++ column ++ "'; declare it in Model::KINDS"
  | .keyMissing typeName key => typeName ++ ": primary key '" ++ key ++ "' is not a serialized field"
  | .keyIgnored typeName key => typeName ++ ": primary key '" ++ key ++ "' cannot be ignored"
  | .keyKind typeName key found =>
    typeName ++ ": primary key '" ++ key ++ "' must be a 64-bit integer or a string, found " ++ found.title
  | .keyTooNarrow typeName key reason =>
    typeName ++ ": primary key '" ++ key ++ "' must be a 64-bit integer or a string: " ++ reason
  | .duplicate typeName => typeName ++ " is already registered"
  | .installed => "model registry is already installed"
  | .other text => text

def Failure.message : Failure → String
  | .notRegistered typeName => "Type not registered: " ++ typeName
  | .registration cause => "Registration error: " ++ cause.message
  | .validation cause => "Validation error: " ++ cause.message
  | .batchTooLarge size greatest =>
    "Batch of " ++ toString size ++ " objects exceeds the limit of " ++ toString greatest
  | .unsafeWhere verb => "Refusing " ++ verb ++ " without a WHERE clause"
  | .upsetMismatch keys values => "Upset has " ++ toString keys ++ " columns but " ++ toString values ++ " values"
  | .datasourceNotFound name => "Datasource not found: " ++ name
  | .connection text => "Connection error: " ++ text
  | .timeout limit => "Statement timed out after " ++ limit.text
  | .closed => "Manager already closed"
  | .sql text => "SQL error: " ++ text
  | .json text => "JSON serialization error: " ++ text
  | .mirror text => "Mirror error: " ++ text

/-- The name of a failure's kind. -/
def Failure.name : Failure → String
  | .notRegistered _ => "NotRegistered"
  | .registration _ => "Registration"
  | .validation _ => "Validation"
  | .batchTooLarge .. => "BatchTooLarge"
  | .unsafeWhere _ => "UnsafeWhere"
  | .upsetMismatch .. => "UpsetMismatch"
  | .datasourceNotFound _ => "DatasourceNotFound"
  | .connection _ => "Connection"
  | .timeout _ => "Timeout"
  | .closed => "Closed"
  | .sql _ => "Sql"
  | .json _ => "Json"
  | .mirror _ => "Mirror"

/-- Failures that are detected before any statement is sent. -/
def Failure.isValidation : Failure → Bool
  | .notRegistered _ | .validation _ | .batchTooLarge .. | .unsafeWhere _ | .upsetMismatch .. => true
  | _ => false

/-- A result or the failure that stood in its way. -/
abbrev Outcome := Except Failure

/-- Turns a refused name into a failure. -/
def checkedName (result : Except Name.Fault Unit) : Outcome Unit :=
  match result with
  | .ok () => .ok ()
  | .error fault => .error (.validation (.badName fault))

end RecordMapper
