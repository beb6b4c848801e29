import RecordMapper.Name
import RecordMapper.Relational.Expression
import RecordMapper.Relational.Token

/-! Reading expressions and queries. Operators bind the stronger the higher their level: OR (0), AND (1), equality
and what is like it (3), order (4), bits (5), sums (6), products (7), the joining of texts and the arrows into documents
(8), collations (9). A sign binds strongest; NOT takes everything from equality on. -/

namespace RecordMapper

namespace Reader

open Reading

def equality? : Token → Option Relation
  | .mark "=" | .mark "==" => some .eq
  | .mark "<>" | .mark "!=" => some .notEq
  | _ => none

def inequality? : Token → Option Relation
  | .mark "<" => some .lt
  | .mark "<=" => some .lte
  | .mark ">" => some .gt
  | .mark ">=" => some .gte
  | _ => none

/-- Operators of data with their level. -/
def operator? : Token → Option (Nat × Operator)
  | .mark "&" => some (5, .bitAnd)
  | .mark "|" => some (5, .bitOr)
  | .mark "<<" => some (5, .shiftLeft)
  | .mark ">>" => some (5, .shiftRight)
  | .mark "+" => some (6, .add)
  | .mark "-" => some (6, .subtract)
  | .mark "*" => some (7, .multiply)
  | .mark "/" => some (7, .divide)
  | .mark "%" => some (7, .remainder)
  | .mark "||" => some (8, .join)
  | _ => none

/-- An operator that stands between two operands of a higher level: its level, and what it makes of them. -/
def infix? (token : Token) : Option (Nat × (Expression → Expression → Expression)) :=
  if token.isKeyword "OR" then some (0, .or)
  else if token.isKeyword "AND" then some (1, .and)
  else
    match equality? token, inequality? token, operator? token with
    | some relation, _, _ => some (3, .versus relation)
    | _, some relation, _ => some (4, .versus relation)
    | _, _, some (level, operator) => some (level, .operate operator)
    | _, _, _ =>
      match token with
      | .mark "->" => some (8, fun left right => .applied "->" [left, right])
      | .mark "->>" => some (8, fun left right => .applied "->>" [left, right])
      | _ => none

/-- The tests by pattern, which are functions of the pattern and the text. -/
def patternTests : List String := ["LIKE", "GLOB", "REGEXP", "MATCH"]

/-- The negation of an expression if one is asked for. -/
def negatedIf (negated : Bool) (inside : Expression) : Expression := if negated then .not inside else inside

/-- A number after a minus sign. The least integer is one; zero is not what is written. -/
def negativeLiteral : Datum → Expression
  | .int n => if n = 0 then .bare (.literal (.int 0)) else .literal (.int (-n))
  | .real x =>
    if x = Double.ofNat Word.signedBound then .literal (.int (Int64.ofInt (-Word.signedBound)))
    else .literal (.real x.negated)
  | datum => .negate (.literal datum)

/-- An expression without collations around it. -/
def plain : Expression → Expression
  | .collate _ inside => plain inside
  | expression => expression

/-- The test whether two expressions are the same, or different. Beside a word for a truth value it asks for that. -/
def sameness (negated : Bool) (left right : Expression) : Expression :=
  match plain right with
  | .literal .null => .null negated left
  | .name [word] false =>
    if Name.alike word "TRUE" then .holds negated true left
    else if Name.alike word "FALSE" then .holds negated false left
    else .same negated left right
  | _ => .same negated left right

def isQuoted : List Token → Bool
  | .quoted _ :: _ => true
  | _ => false

/-- A column's name of up to three parts. -/
def readName : Reading Expression := do
  let quoted := isQuoted (← get)
  let first ← nameOrString
  if !(← passMark ".") then return .name [first] quoted
  let second ← nameOrString
  if !(← passMark ".") then return .name [first, second] quoted
  return .name [first, second, ← nameOrString] quoted

/-- A number with or without a sign. -/
def readSigned : Reading Unit := do
  if !(← passMark "+") then discard (passMark "-")
  match ← get with
  | .datum (.blob _) _ :: _ => refuse
  | .datum .. :: _ => skip
  | _ => refuse

/-- Names and texts in a row, at most `fuel` of them. -/
def readWords : Nat → Reading (List String)
  | 0 => return []
  | fuel + 1 => do
    match ← take? Token.bareAlias? with
    | some word => return word :: (← readWords fuel)
    | none => return []

/-- The name of a type, with the sizes that can follow it left out. -/
def readType : Reading String := do
  let words ← readWords (← get).length
  if !words.isEmpty && (← passMark "(") then
    readSigned
    if ← passMark "," then readSigned
    expectMark ")"
  return " ".intercalate words

/-- A call of a function by its name. -/
def called (name : String) (distinct : Bool) (arguments : List Expression) (sorts : List Sorting)
    (test : Option Expression) (window : Option Window) : Expression :=
  match Token.capitals name, arguments, test, window with
  | "IIF", [condition, yes, no], none, none => .branch condition yes no
  | _, _, _, _ => .call name distinct arguments sorts test window

/-- A kind of join: which rows stay without a partner, and whether equal names go together. -/
structure JoinKind where
  keepsLeft : Bool := false
  keepsRight : Bool := false
  natural : Bool := false

/-- What words before JOIN ask for; not all words go together. -/
def joinKind? (words : List String) : Option JoinKind :=
  let has (word : String) : Bool := words.contains word
  let outer := has "LEFT" || has "RIGHT" || has "FULL" || has "OUTER"
  let inner := has "INNER" || has "CROSS"
  if words.any (fun word => !Token.joinWords.contains word) || inner && outer ||
      has "OUTER" && !(has "LEFT" || has "RIGHT" || has "FULL") then none
  else some ⟨has "LEFT" || has "FULL", has "RIGHT" || has "FULL", has "NATURAL"⟩

/-- Names before JOIN, at most `fuel` of them. -/
def readJoinNames : Nat → Reading (List String)
  | 0 => return []
  | fuel + 1 => do
    if ← sees "JOIN" then return []
    let first ← name
    return first :: (← readJoinNames fuel)

/-- What stands between two origins; nothing if no further one comes. -/
def readJoinKind : Reading (Option JoinKind) := do
  if (← passMark ",") || (← pass "JOIN") then return some {}
  match ← get with
  | .word first :: rest =>
    if !Token.joinWords.contains (Token.capitals first) then return none
    set rest
    let words := first :: (← readJoinNames 2)
    expect "JOIN"
    match joinKind? (words.map Token.capitals) with
    | some kind => return some kind
    | none => fail ("unknown join type: " ++ " ".intercalate words)
  | _ => return none

/-- A table, in a database if one is named. -/
def readTable : Reading TableRef := do
  let first ← nameOrString
  if ← passMark "." then return ⟨some first, ← nameOrString⟩ else return ⟨none, first⟩

/-- The operation that puts another query's result to one. -/
def readOperation : Reading (Option SetOperation) := do
  if ← pass "UNION" then
    if ← pass "ALL" then return some .unionAll else return some .union
  else if ← pass "EXCEPT" then return some .except
  else if ← pass "INTERSECT" then return some .intersect
  else return none

/-- The columns of listed values are named by their places. -/
def listed (values : List Expression) : Select where
  columns := values.zipIdx.map fun (value, index) => .one value (some ("column" ++ toString (index + 1))) ""

/-- The query of listed rows. -/
def rows (first : List Expression) (others : List (List Expression)) : Compound where
  first := listed first
  additions := others.map fun row => ⟨.unionAll, listed row⟩

/-- Whether an expression is one of others. For a row those are rows of a query, if they are as long as it is. -/
def amongListed (negated : Bool) (inside : Expression) (others : List Expression) : Expression :=
  let itemsOf (expression : Expression) : List Expression := match expression with
    | .row items => items
    | _ => []
  match inside, others.map itemsOf with
  | .row items, first :: rest =>
    if (first :: rest).all fun row => row.length = items.length then .amongRows negated inside (rows first rest)
    else .among negated inside others
  | _, _ => .among negated inside others

/-- A query as one part of another. -/
def single (query : Compound) : Select :=
  if query.additions.isEmpty then query.first else { columns := [.all], origin := some (.query query none) }

/-- The rows of a frame that are left out. -/
def readExclusion : Reading Exclusion := do
  if ← pass "EXCLUDE" then
    if ← pass "NO" then
      expect "OTHERS"
      return .nothing
    if ← pass "CURRENT" then
      expect "ROW"
      return .current
    if ← pass "GROUP" then return .group
    expect "TIES"
    return .ties
  else return .unsaid

/-- Whether a frame would end before it starts, by the words for its bounds. -/
def endsEarly (first last : Bound) : Bool :=
  match first, last with
  | .here, .before _ | .after _, .before _ | .after _, .here => true
  | _, _ => false

/-- The name of a column of a query with a name. -/
def readColumnName : Reading String := do
  let found ← name
  if ← pass "COLLATE" then discard nameOrString
  if !(← pass "ASC") then discard (pass "DESC")
  return found

/-- A test by pattern that comes next. -/
def readPatternTest : Reading (Option String) := do
  let next := (← get).head?
  match patternTests.find? fun word => next.any (Token.isKeyword word) with
  | some word =>
    skip
    return some word
  | none => return none

/-- Refuses to go on after what has to come at the end of a chain. -/
def checkPrior (operation : SetOperation) (before : Compound) : Reading Unit := do
  if !before.sorts.isEmpty then fail ("ORDER BY clause should come after " ++ operation.name ++ " not before")
  if before.limit.isSome then fail ("LIMIT clause should come after " ++ operation.name ++ " not before")

/-- Whether something that comes next starts a query. -/
def seesSelect : Reading Bool := return (← sees "SELECT") || (← sees "VALUES") || (← sees "WITH")

mutual
/-- An expression whose operators have at least the given level. -/
def readAt : Nat → Nat → Reading Expression
  | 0, _ => refuse
  | fuel + 1, level => do
    if 10 ≤ level then readPrimary fuel
    else
      let left ← readAt fuel (level + 1)
      readMore fuel level left

/-- What follows a first operand on one level. -/
def readMore : Nat → Nat → Expression → Reading Expression
  | 0, _, _ => refuse
  | fuel + 1, level, left => do
    match (← get).head?.bind infix? with
    | some (own, make) =>
      if own = level then
        skip
        let right ← readAt fuel (level + 1)
        readMore fuel level (make left right)
      else return left
    | none =>
      if level = 9 then
        if ← pass "COLLATE" then
          let name ← nameOrString
          readMore fuel level (.collate name left)
        else return left
      else if level = 3 then
        match ← readTest fuel left with
        | none => return left
        | some test =>
          let left ← readDown fuel 9 test
          readMore fuel level left
      else return left

/-- What follows a test that is complete: operators of any level above its own, from the highest down. -/
def readDown : Nat → Nat → Expression → Reading Expression
  | 0, _, _ => refuse
  | fuel + 1, level, left => do
    if level ≤ 3 then return left
    else
      let left ← readMore fuel level left
      readDown fuel (level - 1) left

/-- A test on the level of equality that is written in words; nothing if none follows. -/
def readTest : Nat → Expression → Reading (Option Expression)
  | 0, _ => refuse
  | fuel + 1, left => do
    if ← pass "IS" then return some (← readIs fuel left)
    if ← pass "ISNULL" then return some (.null false left)
    if ← pass "NOTNULL" then return some (.null true left)
    let negated ← pass "NOT"
    if negated && (← pass "NULL") then return some (.null true left)
    if ← pass "BETWEEN" then return some (← readBetween fuel negated left)
    if ← pass "IN" then return some (← readIn fuel negated left)
    match ← readPatternTest with
    | some word => return some (← readPattern fuel negated word left)
    | none => if negated then refuse else return none

def readIs : Nat → Expression → Reading Expression
  | 0, _ => refuse
  | fuel + 1, left => do
    let negated ← pass "NOT"
    if ← pass "DISTINCT" then
      expect "FROM"
      let right ← readAt fuel 4
      return sameness (!negated) left right
    else
      let right ← readAt fuel 4
      return sameness negated left right

def readBetween : Nat → Bool → Expression → Reading Expression
  | 0, _, _ => refuse
  | fuel + 1, negated, left => do
    let low ← readAt fuel 2
    expect "AND"
    let high ← readAt fuel 4
    return .between negated left low high

def readIn : Nat → Bool → Expression → Reading Expression
  | 0, _, _ => refuse
  | fuel + 1, negated, left => do
    if ← passMark "(" then
      if ← seesSelect then
        let query ← readQuery fuel
        expectMark ")"
        return .amongRows negated left query
      else
        let others ← if ← seesMark ")" then pure [] else items (readAt fuel 0)
        expectMark ")"
        match others with
        | [.first query] => return .amongRows negated left query
        | others => return amongListed negated left others
    else
      let table ← readTable
      let origin ← if ← passMark "(" then do
          let arguments ← if ← seesMark ")" then pure [] else items (readAt fuel 0)
          expectMark ")"
          pure (Origin.call table.name arguments none)
        else pure (.table table none)
      return .amongRows negated left origin.everything

def readPattern : Nat → Bool → String → Expression → Reading Expression
  | 0, _, _, _ => refuse
  | fuel + 1, negated, name, left => do
    let pattern ← readAt fuel 4
    let escape ← after ["ESCAPE"] (readAt fuel 4)
    return negatedIf negated (.applied name ([pattern, left] ++ escape.toList))

/-- An expression that no operator takes apart. -/
def readPrimary : Nat → Reading Expression
  | 0 => refuse
  | fuel + 1 => do
    match ← get with
    | [] => refuse
    | .datum datum _ :: _ =>
      skip
      return .literal datum
    | .mark "-" :: .datum datum _ :: rest =>
      set rest
      return negativeLiteral datum
    | .mark "-" :: _ =>
      skip
      return .negate (← readPrimary fuel)
    | .mark "+" :: _ =>
      skip
      return .bare (← readPrimary fuel)
    | .mark "~" :: _ =>
      skip
      return .complement (← readPrimary fuel)
    | .mark "(" :: _ =>
      skip
      readBrackets fuel
    | .string text :: rest =>
      if rest.head? = some (.mark ".") then readName
      else
        skip
        return .literal (.text text)
    | _ => readWord fuel

/-- What starts with a word that is no operator. -/
def readWord : Nat → Reading Expression
  | 0 => refuse
  | fuel + 1 => do
    if ← pass "NOT" then return .not (← readAt fuel 3)
    if ← pass "NULL" then return Expression.nothing
    if ← pass "CASE" then return ← readCase fuel
    if ← pass "EXISTS" then
      expectMark "("
      let query ← readQuery fuel
      expectMark ")"
      return .exists query
    if ← passAll ["CURRENT_DATE"] then return .applied "current_date" []
    if ← passAll ["CURRENT_TIME"] then return .applied "current_time" []
    if ← passAll ["CURRENT_TIMESTAMP"] then return .applied "current_timestamp" []
    match ← get with
    | first :: .mark "(" :: rest =>
      match first.isKeyword "CAST", Token.name? [first] with
      | true, _ =>
        set rest
        readCast fuel
      | _, some (name, _) =>
        set rest
        readCall fuel name
      | _, none => readName
    | _ => readName

/-- What follows an opening bracket: a query, an expression, or several as a row. -/
def readBrackets : Nat → Reading Expression
  | 0 => refuse
  | fuel + 1 => do
    if ← seesSelect then
      let query ← readQuery fuel
      expectMark ")"
      return .first query
    else
      let inside ← items (readAt fuel 0)
      expectMark ")"
      match inside with
      | [one] => return one
      | several => return .row several

/-- What follows CASE. With a datum to begin with, each test is whether it equals that. -/
def readCase : Nat → Reading Expression
  | 0 => refuse
  | fuel + 1 => do
    let base ← if ← sees "WHEN" then pure none else some <$> readAt fuel 0
    let arms ← readArms fuel base
    let otherwise ← after ["ELSE"] (readAt fuel 0)
    expect "END"
    return .choice arms (otherwise.getD Expression.nothing)

def readArms : Nat → Option Expression → Reading (List (Expression × Expression))
  | 0, _ => refuse
  | fuel + 1, base => do
    expect "WHEN"
    let test ← readAt fuel 0
    expect "THEN"
    let result ← readAt fuel 0
    let test := base.elim test fun base => .versus .eq base test
    if ← sees "WHEN" then return (test, result) :: (← readArms fuel base) else return [(test, result)]

/-- What follows CAST and a bracket. -/
def readCast : Nat → Reading Expression
  | 0 => refuse
  | fuel + 1 => do
    let inside ← readAt fuel 0
    expect "AS"
    let type ← readType
    expectMark ")"
    return .cast (Affinity.ofTypeName type) inside

/-- What follows a function's name and a bracket. -/
def readCall : Nat → String → Reading Expression
  | 0, _ => refuse
  | fuel + 1, name => do
    let isStar ← passMark "*"
    let distinct ← if isStar then pure false else pass "DISTINCT"
    if !isStar && !distinct then discard (pass "ALL")
    let arguments ← if isStar || (← seesMark ")") || (← sees "ORDER") then pure [] else items (readAt fuel 0)
    let sorts ← if isStar then pure [] else listAfter ["ORDER", "BY"] (readSorting fuel)
    expectMark ")"
    let test ← readFilter fuel
    let window ← readOver fuel
    return called name distinct arguments sorts test window

/-- A test of the rows that a summary is made of. -/
def readFilter : Nat → Reading (Option Expression)
  | 0 => refuse
  | fuel + 1 => do
    match ← get with
    | word :: .mark "(" :: rest =>
      if word.isKeyword "FILTER" then
        set rest
        expect "WHERE"
        let test ← readAt fuel 0
        expectMark ")"
        return some test
      else return none
    | _ => return none

/-- The window of rows that a function is of. -/
def readOver : Nat → Reading (Option Window)
  | 0 => refuse
  | fuel + 1 => do
    match ← get with
    | word :: .mark "(" :: rest =>
      if word.isKeyword "OVER" then
        set rest
        return some (← readWindow fuel)
      else return none
    | word :: rest =>
      if word.isKeyword "OVER" then
        match Token.name? rest with
        | some (name, after) =>
          set after
          return some { base := some name, isPlain := true }
        | none => return none
      else return none
    | [] => return none

/-- A window up to its closing bracket. -/
def readWindow : Nat → Reading Window
  | 0 => refuse
  | fuel + 1 => do
    let next := (← get).head?
    let opens := ["PARTITION", "ORDER", "RANGE", "ROWS", "GROUPS"].any fun word => next.any (Token.isKeyword word)
    let base ← if opens || (← seesMark ")") then pure none else some <$> name
    let partitions ← listAfter ["PARTITION", "BY"] (readAt fuel 0)
    let sorts ← listAfter ["ORDER", "BY"] (readSorting fuel)
    let extent ← readExtent fuel
    expectMark ")"
    return { base, partitions, sorts, extent }

def readExtent : Nat → Reading (Option Extent)
  | 0 => refuse
  | fuel + 1 => do
    let unit : Option FrameUnit ←
      if ← pass "RANGE" then pure (some .range)
      else if ← pass "ROWS" then pure (some .rows)
      else if ← pass "GROUPS" then pure (some .groups)
      else pure none
    match unit with
    | none => return none
    | some unit =>
      let isBetween ← pass "BETWEEN"
      let first ← readBound fuel true
      let last ← if isBetween then do
          expect "AND"
          readBound fuel false
        else pure .here
      let exclusion ← readExclusion
      if endsEarly first last then fail "unsupported frame specification"
      return some ⟨unit, first, last, exclusion⟩

/-- A bound of a frame; one that is unbounded starts it, or ends it. -/
def readBound : Nat → Bool → Reading Bound
  | 0, _ => refuse
  | fuel + 1, isFirst => do
    if ← pass "UNBOUNDED" then
      expect (if isFirst then "PRECEDING" else "FOLLOWING")
      return if isFirst then .start else .finish
    if ← pass "CURRENT" then
      expect "ROW"
      return .here
    let count ← readAt fuel 0
    if ← pass "PRECEDING" then return .before count
    expect "FOLLOWING"
    return .after count

def readColumn : Nat → Reading ResultColumn
  | 0 => refuse
  | fuel + 1 => do
    match ← get with
    | .mark "*" :: _ =>
      skip
      return .all
    | tokens =>
      match Token.nameOrString? tokens with
      | some (owner, .mark "." :: .mark "*" :: rest) =>
        set rest
        return .allOf owner
      | _ =>
        let expression ← readAt fuel 0
        let source := "".intercalate ((tokens.take (tokens.length - (← get).length)).map Token.source)
        return .one expression (← aliasName) source

/-- A table, the rows of a function, or a query or joins in brackets. -/
def readOrigin : Nat → Reading Origin
  | 0 => refuse
  | fuel + 1 => do
    if ← passMark "(" then
      if ← seesSelect then
        let query ← readQuery fuel
        expectMark ")"
        return .query query (← aliasName)
      else
        let first ← readOrigin fuel
        let origin ← readJoins fuel first
        expectMark ")"
        let label ← aliasName
        match label with
        | none => return origin
        | some _ => return .query origin.everything label
    else
      let table ← readTable
      if ← passMark "(" then
        let arguments ← if ← seesMark ")" then pure [] else items (readAt fuel 0)
        expectMark ")"
        return .call table.name arguments (← aliasName)
      else
        let label ← aliasName
        if ← passAll ["INDEXED", "BY"] then discard name
        else discard (passAll ["NOT", "INDEXED"])
        return .table table label

/-- Joins that follow an origin. -/
def readJoins : Nat → Origin → Reading Origin
  | 0, _ => refuse
  | fuel + 1, left => do
    match ← readJoinKind with
    | none => return left
    | some kind =>
      let right ← readOrigin fuel
      let test ← after ["ON"] (readAt fuel 0)
      let names ← if test.isNone then after ["USING"] (bracketed name) else pure none
      if kind.natural && (test.isSome || names.isSome) then
        fail "a NATURAL join may not have an ON or USING clause"
      let rule := match test, names with
        | some test, _ => JoinRule.on test
        | _, some names => .sharing names
        | none, none => if kind.natural then .natural else .free
      readJoins fuel (.join kind.keepsLeft kind.keepsRight left right rule)

def readSorting : Nat → Reading Sorting
  | 0 => refuse
  | fuel + 1 => do
    let expression ← readAt fuel 0
    let isDown ← pass "DESC"
    if !isDown then discard (pass "ASC")
    let nullsLast ← if ← pass "NULLS" then
        if ← pass "FIRST" then pure (some false)
        else do
          expect "LAST"
          pure (some true)
      else pure none
    return ⟨expression, if isDown then .desc else .asc, nullsLast⟩

/-- A query with the queries that it reads by name. -/
def readQuery : Nat → Reading Compound
  | 0 => refuse
  | fuel + 1 => do
    let common ← if ← pass "WITH" then do
        discard (pass "RECURSIVE")
        items (readCommon fuel)
      else pure []
    let first ← readOne fuel
    return { (← readChain fuel first) with common }

def readCommon : Nat → Reading CommonTable
  | 0 => refuse
  | fuel + 1 => do
    let name ← name
    let columns ← if ← seesMark "(" then some <$> bracketed readColumnName else pure none
    expect "AS"
    if ← pass "NOT" then expect "MATERIALIZED" else discard (pass "MATERIALIZED")
    expectMark "("
    let query ← readQuery fuel
    expectMark ")"
    return ⟨name, columns, query⟩

/-- Queries that follow one in a chain. -/
def readChain : Nat → Compound → Reading Compound
  | 0, _ => refuse
  | fuel + 1, before => do
    match ← readOperation with
    | none => return before
    | some operation =>
      let next ← readOne fuel
      checkPrior operation before
      readChain fuel
        { next with first := before.first, additions := before.additions ++ [⟨operation, single next⟩] }

/-- One query, or lists of values. -/
def readOne : Nat → Reading Compound
  | 0 => refuse
  | fuel + 1 => do
    if ← pass "VALUES" then
      let first ← bracketed (readAt fuel 0)
      let others ← if ← passMark "," then items (bracketed (readAt fuel 0)) else pure []
      if others.any fun row => row.length ≠ first.length then fail "all VALUES must have the same number of terms"
      return rows first others
    expect "SELECT"
    let distinct ← pass "DISTINCT"
    if !distinct then discard (pass "ALL")
    let columns ← items (readColumn fuel)
    let origin ← after ["FROM"] (readOrigins fuel)
    let filter ← after ["WHERE"] (readAt fuel 0)
    let groups ← listAfter ["GROUP", "BY"] (readAt fuel 0)
    let having ← after ["HAVING"] (readAt fuel 0)
    let windows ← if (← sees "WINDOW") then listAfter ["WINDOW"] (readNamedWindow fuel) else pure []
    let sorts ← listAfter ["ORDER", "BY"] (readSorting fuel)
    let first ← after ["LIMIT"] (readAt fuel 0)
    let second ← if first.isNone then pure none
      else if ← passMark "," then pure (some (← readAt fuel 0, true))
      else do pure ((← after ["OFFSET"] (readAt fuel 0)).map fun second => (second, false))
    let (limit, offset) := match second with
      | none => (first, none)
      | some (second, true) => (some second, first)
      | some (second, false) => (first, some second)
    return { first := { distinct, columns, origin, filter, groups, having, windows }, sorts, limit, offset }

def readOrigins : Nat → Reading Origin
  | 0 => refuse
  | fuel + 1 => do
    let first ← readOrigin fuel
    readJoins fuel first

def readNamedWindow : Nat → Reading NamedWindow
  | 0 => refuse
  | fuel + 1 => do
    let name ← name
    expect "AS"
    expectMark "("
    let window ← readWindow fuel
    return ⟨name, window⟩
end

/-- The depth of calls that one token can need. -/
def callsPerToken : Nat := 40

/-- Reads with as much fuel as the tokens can need. -/
def fuelled (item : Nat → Reading α) : Reading α := do item (callsPerToken * ((← get).length + 1))

def expression : Reading Expression := fuelled fun fuel => readAt fuel 0

def query : Reading Compound := fuelled readQuery

def columns : Reading (List ResultColumn) := items (fuelled readColumn)

end Reader

end RecordMapper
