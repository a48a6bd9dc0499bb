import StoreQuery.Json.Basic

/-! # Paths — looking a field up in a document

    A path is a list of member names joined by dots.  Each name is looked
    up in the object that the names before it lead to; where a member is
    missing or there is no object, the path leads to `null`. -/

namespace StoreQuery.Find

/-- The segments of a dotted path. -/
def segments : List Char → List (List Char)
  | [] => [[]]
  | '.' :: rest => [] :: segments rest
  | c :: rest =>
      match segments rest with
      | [] => [[c]]
      | segment :: others => (c :: segment) :: others

/-- Follows member names through nested objects. -/
def follow : List String → Json → Json
  | [], doc => doc
  | name :: rest, doc =>
      match doc.get? name with
      | some inner => follow rest inner
      | none => .null

/-- The value at a dotted path. -/
def resolve (doc : Json) (path : String) : Json :=
  follow ((segments path.toList).map String.ofList) doc

end StoreQuery.Find
