import StoreQuery.Json.Printer
import StoreQuery.Json.Record
import StoreQuery.Text.Case

/-! # Sorting — the keys that order a result -/

namespace StoreQuery

/-- The direction of a sort key. -/
inductive SortOrder where
  | asc
  | desc
deriving DecidableEq

/-- The upper-cased name of an order that does not exist. -/
structure UnknownOrder where
  name : String

/-- The wording of an unknown order. -/
def UnknownOrder.message (e : UnknownOrder) : String :=
  "Unknown sort order: " ++ e.name

namespace SortOrder

/-- The name of an order. -/
def name : SortOrder → String
  | .asc => "ASC"
  | .desc => "DESC"

/-- The order that a text names in letters of either case; no name means ascending. -/
def ofText (s : String) : Except UnknownOrder SortOrder :=
  let upper := Text.toUpper s
  if upper = "" ∨ upper = SortOrder.asc.name then .ok .asc
  else if upper = SortOrder.desc.name then .ok .desc
  else .error ⟨upper⟩

/-- Decodes an order from its name; `null` reads like no name. -/
def decoder : Json.Decoder SortOrder :=
  .scalar fun
    | .null => accept ""
    | .str s => accept s
    | found => .error (.wrongType found .text)
where
  /-- The named order, or the mismatch that refuses the name. -/
  accept (s : String) : Except Json.Mismatch SortOrder :=
    match ofText s with
    | .ok order => .ok order
    | .error e => .error (.refused e.message)

end SortOrder

/-- One sort key: a dotted path and a direction. -/
structure Sorting where
  key : String
  order : SortOrder
deriving DecidableEq

namespace Sorting

/-- The JSON form of a sort key. -/
def toJson (s : Sorting) : Json :=
  .obj [("key", .str s.key), ("order", .str s.order.name)]

/-- The fields of a sort key; the order may be absent. -/
def record : Json.Record Sorting where
  name := "Sorting"
  blank := ⟨"", .asc⟩
  fields := [
    { name := "key", required := true
      update := Json.Decoder.text.map fun key s => { s with key } },
    { name := "order", update := SortOrder.decoder.map fun order s => { s with order } }]

/-- Decodes a sort key. -/
def decoder : Json.Decoder Sorting :=
  record.decoder

end Sorting

end StoreQuery
