import StoreQuery.Find.Path

/-! # The order of documents

    Values of different types are ordered by type: `null`, numbers, texts,
    objects, arrays, truth values.  Numbers are ordered as doubles, texts
    by code point, `false` before `true`; objects are all equal, and so are
    arrays. -/

namespace StoreQuery.Find

/-- The place of a value's type. -/
def typeRank : Json → Nat
  | .null => 0
  | .num _ => 1
  | .str _ => 2
  | .obj _ => 3
  | .arr _ => 4
  | .bool _ => 5

/-- Compares two values. -/
def compareValues : Json → Json → Ordering
  | .num a, .num b => a.toDouble.compare b.toDouble
  | .str a, .str b => compare a b
  | .bool a, .bool b => compare a b
  | a, b => compare (typeRank a) (typeRank b)

/-- A sort key of a find request: descending if the direction is negative. -/
structure SortKey where
  field : String
  direction : Int
deriving DecidableEq

/-- Compares two documents by one key. -/
def SortKey.compare (key : SortKey) (a b : Json) : Ordering :=
  let ordering := compareValues (resolve a key.field) (resolve b key.field)
  if key.direction < 0 then ordering.swap else ordering

/-- Compares two documents by keys, the first one that tells them apart deciding. -/
def compareBy : List SortKey → Json → Json → Ordering
  | [], _, _ => .eq
  | key :: rest, a, b => (key.compare a b).then (compareBy rest a b)

/-- Documents in the order of the keys; equal ones keep their order. -/
def sortBy (keys : List SortKey) (docs : List Json) : List Json :=
  docs.mergeSort fun a b => compareBy keys a b != .gt

end StoreQuery.Find
