import StoreQuery.Json.Fault

/-! # Query errors — why a query could not be read or rendered

    Every error is a cause, and many name the operator of a filter; the
    wording of all of them is in the `message` functions. -/

namespace StoreQuery

/-- The operator at the root of a filter. -/
inductive Operator where
  | eq
  | isIn
  | all
  | any
deriving DecidableEq

/-- The name of an operator. -/
def Operator.name : Operator → String
  | .eq => "EQ"
  | .isIn => "IN"
  | .all => "AND"
  | .any => "OR"

/-- Why a filter is malformed. -/
inductive FilterFault where
  | notMap
  | notSingle
  | unknownOperator (name : String)
  | leafNotMap (op : Operator)
  | leafNotSingle (op : Operator)
  | eqNotScalar (key : String)
  | inNotArray
  | inNotScalar (key : String)
  | compoundNotArray (op : Operator)
  | compoundTooShort (op : Operator)

/-- Why a rendered predicate is refused by its own backend. -/
inductive PredicateFault where
  /-- The text is not JSON. -/
  | notJson (why : Json.ReadError)
  /-- The text is JSON, but not an object. -/
  | notDocument (predicate : String)
  /-- A reason of the backend. -/
  | refused (reason : String)

/-- Why a query is malformed outside its filter. -/
inductive QueryFault where
  | notJson (why : Json.ReadError)
  | notMap
  | sortNotArray
  | sort (why : Json.Mismatch)
  | pageNotMap
  | page (why : Json.Mismatch)

/-- Why a query could not be read or rendered. -/
inductive QueryError where
  | malformedFilter (why : FilterFault)
  | emptyInList (key : String)
  | unsupportedValue (key : String) (typeName : String)
  | malformedPredicate (why : PredicateFault)
  | invalidToken (token : String)
  | unsupportedFilter (op : Operator)
  | malformedQuery (why : QueryFault)

/-- The wording of a filter fault. -/
def FilterFault.message : FilterFault → String
  | .notMap => "Filter unit must be a map"
  | .notSingle => "Filter unit must have a single element"
  | .unknownOperator name => "Unsupported filter operator " ++ Text.quoted name
  | .leafNotMap op => op.name ++ " filter must be a map"
  | .leafNotSingle op => op.name ++ " filter must contain a single key/value pair"
  | .eqNotScalar key => "EQ filter value for key " ++ Text.quoted key ++ " must be a scalar"
  | .inNotArray => "IN filter value must be an array"
  | .inNotScalar key => "IN filter values for key " ++ Text.quoted key ++ " must be scalars"
  | .compoundNotArray op => op.name ++ " filter must be an array"
  | .compoundTooShort op => op.name ++ " filter must contain at least two entries"

/-- The wording of a query fault. -/
def QueryFault.message : QueryFault → String
  | .notJson _ => "invalid JSON"
  | .notMap => "query must be a map"
  | .sortNotArray => "\"sort\" must be an array"
  | .sort why => "\"sort\": " ++ why.message
  | .pageNotMap => "\"pagination\" must be a map"
  | .page why => "\"pagination\": " ++ why.message

/-- The wording of a predicate fault. -/
def PredicateFault.message : PredicateFault → String
  | .notJson _ => "Malformed predicate"
  | .notDocument predicate =>
      "Malformed predicate: predicate is not a document: " ++ predicate
  | .refused reason => "Malformed predicate: " ++ reason

/-- The wording of a query error. -/
def QueryError.message : QueryError → String
  | .malformedFilter why => "Malformed filter: " ++ why.message
  | .emptyInList key => "Empty IN operator for key " ++ Text.quoted key
  | .unsupportedValue key typeName =>
      "Unsupported value type " ++ typeName ++ " for key " ++ Text.quoted key
  | .malformedPredicate why => why.message
  | .invalidToken token => "Invalid continuation token " ++ Text.quoted token
  | .unsupportedFilter op => "Unsupported filter type: " ++ op.name
  | .malformedQuery why => "Malformed query: " ++ why.message

end StoreQuery
