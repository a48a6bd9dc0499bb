import StoreQuery.Find.Order

/-! # Matching — whether a document satisfies a filter document

    A filter document is an object of clauses, all of which must hold.  The
    clauses `$and` and `$or` join filter documents; every other clause
    names a path, whose value must equal the condition or, under `$in`, one
    of several candidates.  A field that holds an array also matches when
    one of its elements does. -/

namespace StoreQuery.Find

/-- The clause that joins filter documents of which all must hold. -/
def andClause : String := "$and"

/-- The clause that joins filter documents of which one must hold. -/
def orClause : String := "$or"

/-- The condition that lists candidates. -/
def inClause : String := "$in"

/-- Equality of values, in which numbers are compared as doubles. -/
def equals : Json → Json → Bool
  | .num a, .num b => compareValues (.num a) (.num b) == .eq
  | a, b => a.same b

/-- Whether a field's value, or an element of it, equals the expected value. -/
def valueMatches (actual expected : Json) : Bool :=
  equals actual expected ||
    match actual with
    | .arr items => items.any fun item => equals item expected
    | _ => false

/-- Whether a field's value satisfies a condition. -/
def fieldMatches (actual : Json) : Json → Bool
  | .obj [(op, .arr candidates)] =>
      if op = inClause then candidates.any fun c => valueMatches actual c
      else valueMatches actual (.obj [(op, .arr candidates)])
  | condition => valueMatches actual condition

mutual

/-- Whether a document satisfies a filter document. -/
def satisfies (doc : Json) : Json → Bool
  | .obj clauses => clausesHold doc clauses
  | _ => false

/-- Whether all clauses hold. -/
def clausesHold (doc : Json) : List (String × Json) → Bool
  | [] => true
  | (key, condition) :: rest =>
      (if key = andClause then branchesAll doc condition
        else if key = orClause then branchesAny doc condition
        else fieldMatches (resolve doc key) condition) &&
      clausesHold doc rest

/-- Whether a condition is a list of filter documents that all hold. -/
def branchesAll (doc : Json) : Json → Bool
  | .arr filters => allSatisfied doc filters
  | _ => false

/-- Whether a condition is a list of filter documents of which one holds. -/
def branchesAny (doc : Json) : Json → Bool
  | .arr filters => anySatisfied doc filters
  | _ => false

/-- Whether all filter documents hold. -/
def allSatisfied (doc : Json) : List Json → Bool
  | [] => true
  | filter :: rest => satisfies doc filter && allSatisfied doc rest

/-- Whether one of the filter documents holds. -/
def anySatisfied (doc : Json) : List Json → Bool
  | [] => false
  | filter :: rest => satisfies doc filter || anySatisfied doc rest

end

end StoreQuery.Find
