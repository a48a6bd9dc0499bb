import StoreQuery.Filter.Basic

/-! # The generic form of filters

    In its generic form every filter is an object with one member, from the
    operator's name to its body: an object from key to value for a leaf, an
    array of filters for a compound.  `toJson` writes that form and `ofJson`
    reads it, checking each node before its children and the children from
    left to right. -/

namespace StoreQuery.Filter

/-! ## Writing -/

mutual

/-- The generic form of a filter. -/
def toJson : Filter → Json
  | .eq key value => .obj [(Operator.eq.name, .obj [(key, value.toJson)])]
  | .isIn key values => .obj [(Operator.isIn.name, .obj [(key, .arr (values.map Value.toJson))])]
  | .all children => .obj [(Operator.all.name, .arr (childrenToJson children))]
  | .any children => .obj [(Operator.any.name, .arr (childrenToJson children))]

/-- The generic forms of several filters. -/
def childrenToJson : List Filter → List Json
  | [] => []
  | child :: rest => toJson child :: childrenToJson rest

end

/-! ## Reading -/

/-- Reads the body of an equality. -/
def eqOfJson : Json → Except QueryError Filter
  | .obj [(key, j)] =>
      match Value.ofJson? j with
      | some value => .ok (.eq key value)
      | none => .error (.malformedFilter (.eqNotScalar key))
  | .obj _ => .error (.malformedFilter (.leafNotSingle .eq))
  | _ => .error (.malformedFilter (.leafNotMap .eq))

/-- The values of JSON scalars; `none` if one of them is a container. -/
def valuesOfJson? : List Json → Option (List Value)
  | [] => some []
  | j :: rest => do
      let value ← Value.ofJson? j
      let values ← valuesOfJson? rest
      return value :: values

/-- Reads the body of a membership. -/
def isInOfJson : Json → Except QueryError Filter
  | .obj [(key, .arr [])] => .error (.emptyInList key)
  | .obj [(key, .arr items)] =>
      match valuesOfJson? items with
      | some values => .ok (.isIn key values)
      | none => .error (.malformedFilter (.inNotScalar key))
  | .obj [_] => .error (.malformedFilter .inNotArray)
  | .obj _ => .error (.malformedFilter (.leafNotSingle .isIn))
  | _ => .error (.malformedFilter (.leafNotMap .isIn))

mutual

/-- Reads the generic form of a filter. -/
def ofJson : Json → Except QueryError Filter
  | .obj [(op, body)] =>
      if op = Operator.eq.name then eqOfJson body
      else if op = Operator.isIn.name then isInOfJson body
      else if op = Operator.all.name then do
        let children ← compoundOfJson .all body
        .ok (.all children)
      else if op = Operator.any.name then do
        let children ← compoundOfJson .any body
        .ok (.any children)
      else .error (.malformedFilter (.unknownOperator op))
  | .obj _ => .error (.malformedFilter .notSingle)
  | _ => .error (.malformedFilter .notMap)

/-- Reads the body of a compound filter. -/
def compoundOfJson (op : Operator) : Json → Except QueryError (List Filter)
  | .arr items => do
      checkArity op items
      childrenOfJson items
  | _ => .error (.malformedFilter (.compoundNotArray op))

/-- Reads filters from left to right. -/
def childrenOfJson : List Json → Except QueryError (List Filter)
  | [] => .ok []
  | item :: rest => do
      let child ← ofJson item
      let children ← childrenOfJson rest
      .ok (child :: children)

end

end StoreQuery.Filter
