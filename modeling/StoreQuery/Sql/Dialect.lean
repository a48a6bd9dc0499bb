/-! # SQL dialects — how placeholders, fields and sources are written -/

namespace StoreQuery.Sql

/-- The spelling of a SQL dialect. -/
structure Dialect where
  /-- The name of the dialect. -/
  name : String
  /-- The placeholder of the parameter with that index. -/
  placeholder : Nat → String
  /-- A dotted path. -/
  field : String → String
  /-- What a collection is selected from; it names every alias that `field` uses. -/
  source : String → String := id

/-- SQL over documents with named parameters, in which fields may be qualified by an alias. -/
structure Named where
  qualifier : Option String
deriving DecidableEq

namespace Named

/-- A dotted path, behind the qualifier if there is one. -/
def field (n : Named) (key : String) : String :=
  match n.qualifier with
  | some name => name ++ "." ++ key
  | none => key

/-- The collection, and the qualifier unless it is the collection's own name. -/
def source (n : Named) (collection : String) : String :=
  match n.qualifier with
  | some name => if name = collection then collection else collection ++ " " ++ name
  | none => collection

/-- The dialect. -/
def dialect (n : Named) : Dialect where
  name := "CosmosSQL"
  placeholder index := "@p" ++ toString index
  field := n.field
  source := n.source

end Named

end StoreQuery.Sql
