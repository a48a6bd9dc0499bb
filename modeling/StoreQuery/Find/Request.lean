import StoreQuery.Backend
import StoreQuery.Find.Match
import StoreQuery.Find.Offset

/-! # Find requests — queries as filter documents with find options

    The predicate is assembled as text, with keys and values written as
    JSON, and read back as the filter document when the query is finished.
    Text, filter and options are only ever set together. -/

namespace StoreQuery.Find

/-- How matching documents are ordered and cut. -/
structure Options where
  sort : List SortKey := []
  limit : Option UInt64 := none
  skip : Option UInt64 := none
deriving DecidableEq

/-- A find request: the predicate text, the filter document it holds, and the options. -/
structure Request where
  text : String := ""
  filter : Json := .obj []
  options : Options := {}

/-- An optional number for a log line. -/
def inspectOptional : Option UInt64 → String
  | some n => "Some(" ++ toString n.toNat ++ ")"
  | none => "None"

/-- A sort key for a log line. -/
def SortKey.inspect (key : SortKey) : String :=
  "(" ++ Text.quoted key.field ++ ", " ++ toString key.direction ++ ")"

/-- Options for a log line. -/
def Options.inspect (o : Options) : String :=
  "FindOptions \x7b sort: [" ++ String.intercalate ", " (o.sort.map SortKey.inspect) ++
    "], limit: " ++ inspectOptional o.limit ++ ", skip: " ++ inspectOptional o.skip ++ " \x7d"

namespace Request

/-! ## Leaves -/

/-- A string as JSON text. -/
def quote (s : String) : String :=
  (Json.str s).compact

/-- A value as JSON text; a double that is not finite has none. -/
def literal (key : String) : Value → Except QueryError String
  | .float (.infinite _) => .error (.unsupportedValue key "float")
  | .float .nan => .error (.unsupportedValue key "float")
  | value => .ok value.toJson.compact

/-- The literals of values, from left to right. -/
def literals (key : String) : List Value → Except QueryError (List String)
  | [] => .ok []
  | value :: rest => do
      let text ← literal key value
      let texts ← literals key rest
      .ok (text :: texts)

/-- An object with one member. -/
def clause (key content : String) : String :=
  "\x7b " ++ quote key ++ ": " ++ content ++ " \x7d"

/-- An array of texts. -/
def bracketed (items : List String) : String :=
  "[ " ++ String.intercalate ", " items ++ " ]"

/-- An equality. -/
def renderEq (key : String) (value : Value) : Except QueryError String := do
  let text ← literal key value
  .ok (clause key text)

/-- A membership. -/
def renderIn (key : String) (values : List Value) : Except QueryError String :=
  if values.isEmpty then .error (.emptyInList key)
  else do
    let texts ← literals key values
    .ok (clause key (clause inClause (bracketed texts)))

/-- A compound. -/
def combine (op : String) (children : List Fragment) : String :=
  clause op (bracketed (children.map Fragment.text))

/-! ## The whole request -/

/-- The filter document that a predicate text holds; the empty text holds the empty one. -/
def readFilter (predicate : String) : Except QueryError Json :=
  if predicate = "" then .ok (.obj [])
  else
    match Json.parse predicate with
    | .ok (.obj members) => .ok (.obj members)
    | .ok _ => .error (.malformedPredicate (.notDocument predicate))
    | .error why => .error (.malformedPredicate (.notJson why))

/-- A sort key as a find option. -/
def sortKey (s : Sorting) : SortKey :=
  ⟨s.key, match s.order with | .asc => 1 | .desc => -1⟩

/-- The options of a query. -/
def optionsOf (q : Query) : Except QueryError Options := do
  let skip ← parseOffset q.page.token
  .ok ⟨q.sort.map sortKey, if q.page.limit = 0 then none else some q.page.limit, skip⟩

/-- Sets text, filter and options. -/
def finish (predicate : String) (q : Query) : Act QueryError Request Unit := do
  let filter ← Act.ofExcept (readFilter predicate)
  let options ← Act.ofExcept (optionsOf q)
  Act.emit .debug ("Generated document filter: " ++ filter.compact)
  Act.emit .debug ("Find options: " ++ options.inspect)
  Act.set ⟨predicate, filter, options⟩

/-- The backend that renders find requests. -/
def backend : Backend Request where
  eq key value := Act.ofExcept (renderEq key value)
  isIn key values := Act.ofExcept (renderIn key values)
  all children := return combine andClause children
  any children := return combine orClause children
  finish := finish

/-- Renders a query on a fresh request. -/
def compile {σ : Type} (q : Query) : Act QueryError σ Request :=
  Act.within {} (backend.build q)

end Request

end StoreQuery.Find
