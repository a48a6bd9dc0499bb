import StoreQuery.Backend
import StoreQuery.Sql.Dialect

/-! # SQL statements — queries as SQL text with bound parameters

    Values never enter the text: each is bound to a placeholder, numbered
    by the parameters bound before it.  Only texts can be bound.  The
    statement's text and options are set when the query is finished. -/

namespace StoreQuery.Sql

/-- A value bound to a placeholder. -/
structure Parameter where
  name : String
  value : Value

/-- What is sent beside the text: a bound on the page, and where to go on. -/
structure Options where
  maxItemCount : Option UInt64 := none
  continuation : Option String := none
deriving DecidableEq

/-- A SQL statement, as far as it is rendered. -/
structure Statement where
  collection : String
  text : String := ""
  parameters : List Parameter := []
  options : Options := {}

/-- A parameter for a log line. -/
def Parameter.inspect (p : Parameter) : String :=
  "Parameter \x7b name: " ++ Text.quoted p.name ++ ", value: " ++ p.value.inspect ++ " \x7d"

namespace Statement

/-! ## Leaves -/

/-- Only texts can be bound. -/
def checkBindable (key : String) : Value → Except QueryError Unit
  | .text _ => .ok ()
  | other => .error (.unsupportedValue key other.typeName)

/-- Checks values from left to right. -/
def checkAllBindable (key : String) : List Value → Except QueryError Unit
  | [] => .ok ()
  | value :: rest => do
      checkBindable key value
      checkAllBindable key rest

/-- Binds a value and gives its placeholder. -/
def bindValue (d : Dialect) (value : Value) : Act QueryError Statement String := do
  let s ← Act.get
  let name := d.placeholder s.parameters.length
  Act.set { s with parameters := s.parameters ++ [⟨name, value⟩] }
  return name

/-- Binds values from left to right and gives their placeholders. -/
def bindAll (d : Dialect) : List Value → Act QueryError Statement (List String)
  | [] => return []
  | value :: rest => do
      let name ← bindValue d value
      let names ← bindAll d rest
      return name :: names

/-- An equality with a placeholder. -/
def renderEq (d : Dialect) (key : String) (value : Value) : Act QueryError Statement String := do
  Act.ofExcept (checkBindable key value)
  let name ← bindValue d value
  return d.field key ++ " = " ++ name

/-- A membership in a list of placeholders. -/
def renderIn (d : Dialect) (key : String) (values : List Value) :
    Act QueryError Statement String := do
  if values.isEmpty then Act.fail (.emptyInList key)
  else
    Act.ofExcept (checkAllBindable key values)
    let names ← bindAll d values
    return d.field key ++ " IN (" ++ String.intercalate ", " names ++ ")"

/-! ## Compounds -/

/-- A child within a compound: compounds stand in parentheses. -/
def operand (f : Fragment) : String :=
  if f.isCompound then "(" ++ f.text ++ ")" else f.text

/-- Children joined by a connective. -/
def join (connective : String) (children : List Fragment) : String :=
  String.intercalate connective (children.map operand)

/-! ## The whole statement -/

/-- A sort key. -/
def sortText (d : Dialect) (s : Sorting) : String :=
  d.field s.key ++ " " ++ s.order.name

/-- The text of a statement with the given predicate. -/
def selectText (d : Dialect) (collection predicate : String) (sort : List Sorting) : String :=
  "SELECT * FROM " ++ d.source collection ++
    (if predicate = "" then "" else " WHERE " ++ predicate) ++
    (if sort.isEmpty then ""
      else " ORDER BY " ++ String.intercalate ", " (sort.map (sortText d)))

/-- The options of a page request. -/
def optionsOf (page : Pagination) : Options where
  maxItemCount := if page.limit = 0 then none else some page.limit
  continuation := if page.token = "" then none else some page.token

/-- Sets text and options. -/
def finish (d : Dialect) (predicate : String) (q : Query) : Act QueryError Statement Unit := do
  let s ← Act.get
  let text := selectText d s.collection predicate q.sort
  Act.emit .debug ("Generated " ++ d.name ++ " query: " ++ text)
  Act.emit .debug
    ("Parameters: [" ++ String.intercalate ", " (s.parameters.map Parameter.inspect) ++ "]")
  Act.set { s with text := text, options := optionsOf q.page }

/-- The backend that renders statements. -/
def backend (d : Dialect) : Backend Statement where
  eq := renderEq d
  isIn := renderIn d
  all children := return join " AND " children
  any children := return join " OR " children
  finish := finish d

/-- Renders a query on a fresh statement. -/
def compile {σ : Type} (d : Dialect) (collection : String) (q : Query) :
    Act QueryError σ Statement :=
  Act.within { collection } ((backend d).build q)

end Statement

end StoreQuery.Sql
