import StoreQuery.Filter.Generic
import StoreQuery.Page
import StoreQuery.Sorting

/-! # Queries — filter, sort keys and paging, free of any store

    A query is read from an object with the members `filter`, `sort` and
    `pagination` (or `page`), checked in that order; members that are not
    there mean no filter, no sort keys and the whole result. -/

namespace StoreQuery

/-- A request for records, free of any store. -/
structure Query where
  filter : Option Filter := none
  sort : List Sorting := []
  page : Pagination := {}

namespace Query

/-! ## Reading -/

/-- The filter section: `null` reads like no filter. -/
def filterOfJson : Option Json → Except QueryError (Option Filter)
  | none => .ok none
  | some .null => .ok none
  | some j => some <$> Filter.ofJson j

/-- Decodes the sort keys from left to right. -/
def sortingsOfJson : List Json → Except Json.Mismatch (List Sorting)
  | [] => .ok []
  | item :: rest => do
      let key ← Sorting.decoder.ofJson item
      let keys ← sortingsOfJson rest
      .ok (key :: keys)

/-- The sort section. -/
def sortOfJson : Option Json → Except QueryError (List Sorting)
  | none => .ok []
  | some (.arr items) =>
      match sortingsOfJson items with
      | .ok keys => .ok keys
      | .error why => .error (.malformedQuery (.sort why))
  | some _ => .error (.malformedQuery .sortNotArray)

/-- The paging section. -/
def pageOfJson : Option Json → Except QueryError Pagination
  | none => .ok {}
  | some (.obj members) =>
      match Pagination.decoder.ofJson (.obj members) with
      | .ok page => .ok page
      | .error why => .error (.malformedQuery (.page why))
  | some _ => .error (.malformedQuery .pageNotMap)

/-- Reads a query from a JSON value. -/
def ofJson (j : Json) : Except QueryError Query :=
  if j.isObject then do
    let filter ← filterOfJson (j.get? "filter")
    let sort ← sortOfJson (j.get? "sort")
    let page ← pageOfJson ((j.get? "pagination").or (j.get? "page"))
    .ok ⟨filter, sort, page⟩
  else .error (.malformedQuery .notMap)

/-- Reads a query from JSON text. -/
def parse (text : String) : Except QueryError Query :=
  match Json.parse text with
  | .ok j => ofJson j
  | .error why => .error (.malformedQuery (.notJson why))

/-! ## Writing -/

/-- The JSON form; a filter and sort keys that are not there are left out. -/
def toJson (q : Query) : Json :=
  let filter :=
    match q.filter with
    | some f => [("filter", f.toJson)]
    | none => []
  let sort := if q.sort.isEmpty then [] else [("sort", .arr (q.sort.map Sorting.toJson))]
  .obj (filter ++ ("pagination", q.page.toJson) :: sort)

/-- Equality of queries, with filters compared by `Filter.same`. -/
def same (p q : Query) : Bool :=
  (match p.filter, q.filter with
    | some f, some g => f.same g
    | none, none => true
    | _, _ => false) &&
  p.sort == q.sort && p.page == q.page

end Query

end StoreQuery
