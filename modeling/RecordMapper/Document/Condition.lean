import RecordMapper.Criterion
import RecordMapper.Document.Tagged

/-! Documents of conditions: the steps that build one, each a list of a word and its arguments, and a condition's
whole state. -/

namespace RecordMapper

def JoinKind.ofWord : String → JoinKind
  | "left" => .left
  | "right" => .right
  | _ => .inner

/-- The integers from the first up to, but without, the last. -/
def Condition.intRange (first last : Int) : List Value :=
  (List.range (last - first).toNat).map fun (i : Nat) => .int (Int64.ofInt (first + i))

/-- The comparison of a step's document, whose values are decoded by `value`. -/
def Comparison.ofDocument? (value : Json → Value) (json : Json) : Option Comparison :=
  let key := (json.item 1).asText
  let first := value (json.item 2)
  let second := value (json.item 3)
  let values := (json.item 2).items.map value
  match (json.item 0).asText with
  | "eq" => some (.eq key first)
  | "not_eq" => some (.notEq key first)
  | "lt" => some (.lt key first)
  | "lte" => some (.lte key first)
  | "gt" => some (.gt key first)
  | "gte" => some (.gte key first)
  | "like" => some (.like key first)
  | "not_like" => some (.notLike key first)
  | "between" => some (.between key first second)
  | "not_between" => some (.notBetween key first second)
  | "in" => some (.inList key values)
  | "not_in" => some (.notInList key values)
  | "in_range" => some (.inList key (Condition.intRange (json.item 2).asInt (json.item 3).asInt))
  | "is_null" => some (.isNull key)
  | "is_not_null" => some (.isNotNull key)
  | _ => none

namespace Condition

/-- The step of a document that holds no other conditions. -/
def Step.ofDocument? (value : Json → Value) (json : Json) : Option Step :=
  match Comparison.ofDocument? value json with
  | some comparison => comparison.test?.map (.test comparison.key)
  | none =>
    let key := (json.item 1).asText
    match (json.item 0).asText with
    | "order" => some (.orderBy key (if (json.item 2).asText = "desc" then .desc else .asc))
    | "group" => some (.groupBy (json.item 1).asTexts)
    | "fields" => some (.project (json.item 1).asTexts)
    | "from" => some (.source key (json.item 2).asText)
    | "join" => some (.join (.ofWord key) (json.item 2).asText (json.item 3).asText)
    | "limit" => some (.page (json.item 1).asWord (json.item 2).asWord)
    | "offset" => some (.offset (json.item 1).asWord (json.item 2).asWord)
    | "upset" => some (.upset (json.item 1).asTexts ((json.item 2).items.map value))
    | _ => none

end Condition

namespace Predicate

mutual
def document : Predicate → Json
  | .compare key test =>
    .fields [("key", .text key), ("op", .text test.operator.title), ("values", .list (test.values.map Value.tagged))]
  | .any branches => .fields [("or", .list (branchDocuments branches))]

def branchDocuments : List (List Predicate) → List Json
  | [] => []
  | branch :: rest => .list (documents branch) :: branchDocuments rest

def documents : List Predicate → List Json
  | [] => []
  | predicate :: rest => document predicate :: documents rest
end

end Predicate

/-- What a page asks for, what is known of the total, and the rows to read. -/
def Paging.document (paging : Paging) : Json :=
  .fields [
    ("no", Json.ofWord paging.number),
    ("size", Json.ofWord paging.size),
    ("total", .ofOption Json.ofWord paging.total),
    ("count", .ofOption Json.ofWord paging.pages),
    ("is_offset", .bool paging.isOffset),
    ("plan", .ofOption (fun plan : PagePlan => .list [Json.ofWord plan.offset, Json.ofWord plan.count])
      paging.plan?)]

def Condition.document (condition : Condition) : Json :=
  .fields [
    ("model", .ofOption .text condition.model),
    ("predicates", .list (Predicate.documents condition.predicates)),
    ("sorts", .list (condition.sorts.map fun sort => .ofTexts [sort.key, sort.order.keyword])),
    ("groups", .ofTexts condition.groups),
    ("fields", .ofTexts condition.fields),
    ("from", .ofOption (fun source : Source => .ofTexts [source.table, source.aliasName]) condition.source),
    ("join", .ofOption (fun join : Join => .ofTexts [join.kind.keyword, join.table, join.expression])
      condition.join),
    ("page", condition.paging.document),
    ("upset", .ofOption (fun upset : Upset =>
      .fields [("keys", .ofTexts upset.keys), ("values", .list (upset.values.map Value.tagged))]) condition.upset),
    ("has_predicates", .bool condition.hasPredicates),
    ("restricts_rows", .bool condition.restrictsRows),
    ("is_complex", .bool condition.isComplex)]

end RecordMapper
