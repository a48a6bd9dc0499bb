import StoreQuery.Error
import StoreQuery.Value

/-! # Filters — conditions on records

    A leaf compares the field at a dotted path with one value or with
    several; compound filters join others.  The checked constructors `mkIn`,
    `mkAll` and `mkAny` refuse a list of values without values and a
    compound with fewer than two children; the plain constructors build any
    filter. -/

namespace StoreQuery

/-- A condition on records. -/
inductive Filter where
  /-- The field equals the value. -/
  | eq (key : String) (value : Value)
  /-- The field equals one of the values. -/
  | isIn (key : String) (values : List Value)
  /-- All children hold. -/
  | all (children : List Filter)
  /-- At least one child holds. -/
  | any (children : List Filter)

namespace Filter

/-- The operator at the root. -/
def operator : Filter → Operator
  | .eq _ _ => .eq
  | .isIn _ _ => .isIn
  | .all _ => .all
  | .any _ => .any

/-! ## Checked constructors -/

/-- Membership in a list that is not empty. -/
def mkIn (key : String) (values : List Value) : Except QueryError Filter :=
  if values.isEmpty then .error (.emptyInList key) else .ok (.isIn key values)

/-- Refuses a compound with fewer than two children. -/
def checkArity {α : Type} (op : Operator) (children : List α) : Except QueryError Unit :=
  if children.length < 2 then .error (.malformedFilter (.compoundTooShort op)) else .ok ()

/-- Conjunction of at least two filters. -/
def mkAll (children : List Filter) : Except QueryError Filter := do
  checkArity .all children
  .ok (.all children)

/-- Disjunction of at least two filters. -/
def mkAny (children : List Filter) : Except QueryError Filter := do
  checkArity .any children
  .ok (.any children)

/-! ## Equality -/

/-- Equality of lists of values. -/
def sameValues : List Value → List Value → Bool
  | [], [] => true
  | a :: as, b :: bs => a.same b && sameValues as bs
  | _, _ => false

mutual

/-- Equality of filters, with values compared by `Value.same`. -/
def same : Filter → Filter → Bool
  | .eq k a, .eq l b => k == l && a.same b
  | .isIn k as, .isIn l bs => k == l && sameValues as bs
  | .all as, .all bs => sameChildren as bs
  | .any as, .any bs => sameChildren as bs
  | _, _ => false

/-- Equality of lists of filters. -/
def sameChildren : List Filter → List Filter → Bool
  | [], [] => true
  | a :: as, b :: bs => same a b && sameChildren as bs
  | _, _ => false

end

end Filter

end StoreQuery
