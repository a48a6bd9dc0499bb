import StoreQuery.Find.Request
import StoreQuery.Sql.Statement
import StoreQuery.Store.Settings

/-! # Compiled queries — the native query of whichever store is set -/

namespace StoreQuery

/-- A query in the form of a store. -/
inductive Compiled where
  | sql (statement : Sql.Statement)
  | find (request : Find.Request)

namespace Compiled

/-- The text of a compiled query. -/
def text : Compiled → String
  | .sql s => s.text
  | .find r => r.text

/-- The parameters of a compiled query; a find request has none. -/
def parameters : Compiled → List Sql.Parameter
  | .sql s => s.parameters
  | .find _ => []

/-- Renders a query with the backend of the given kind. -/
def render {σ : Type} (settings : Settings) (q : Query) : Act QueryError σ Compiled :=
  match settings.kind with
  | .sql => do
      let dialect : Sql.Named := ⟨settings.qualifier⟩
      let statement ← Sql.Statement.compile dialect.dialect settings.collection q
      return .sql statement
  | .find => do
      let request ← Find.Request.compile q
      return .find request

/-- Renders a query for the store that settings name. -/
def compile {σ : Type} (settings : Settings) (q : Query) : Act StoreError σ Compiled := do
  let compiled ← (render settings q).mapError .query
  Act.emit .info ("Compiled " ++ settings.kind.name ++ " query: " ++ compiled.text)
  return compiled

end Compiled

end StoreQuery
