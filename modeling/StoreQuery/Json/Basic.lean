import StoreQuery.Number.Double

/-! # JSON values

    A JSON number is an integer between `-2^63` and `2^64 - 1`, or a finite
    double.  The members of an object are kept as a list: `insertMember`
    keeps such a list sorted by key, with one member for each key, and
    `get?` looks a key up.

    Equality of values is by structure, but doubles are equal by value, so
    that both zeros are equal; an integer never equals a double. -/

namespace StoreQuery

/-- An integer that a JSON number can hold. -/
structure Integer where
  val : Int
  low : -2 ^ 63 ≤ val
  high : val < 2 ^ 64
deriving DecidableEq

namespace Integer

/-- The integer of that value, if a JSON number can hold it. -/
def ofInt? (n : Int) : Option Integer :=
  if h : -2 ^ 63 ≤ n ∧ n < 2 ^ 64 then some ⟨n, h.1, h.2⟩ else none

/-- A signed word as an integer. -/
def ofInt64 (n : Int64) : Integer :=
  ⟨n.toInt, by have := n.le_toInt; omega, by have := n.toInt_lt; omega⟩

/-- An unsigned word as an integer. -/
def ofUInt64 (n : UInt64) : Integer :=
  ⟨n.toNat, by omega, by have := n.toNat_lt; omega⟩

end Integer

/-- A JSON number. -/
inductive Number where
  | int (n : Integer)
  | double (d : FiniteDouble)
deriving DecidableEq

namespace Number

/-- The nearest double. -/
def toDouble : Number → FiniteDouble
  | .int n => .ofInt n.val
  | .double d => d

/-- Equality of numbers of one kind, by value. -/
def same : Number → Number → Bool
  | .int a, .int b => a.val == b.val
  | .double a, .double b => a.sameValue b
  | _, _ => false

end Number

/-- A JSON value. -/
inductive Json where
  | null
  | bool (b : Bool)
  | num (n : Number)
  | str (s : String)
  | arr (items : List Json)
  | obj (members : List (String × Json))

namespace Json

instance : Inhabited Json := ⟨.null⟩

/-- Puts a member into a list of members sorted by key, in place of the one with that key. -/
def insertMember (key : String) (value : Json) : List (String × Json) → List (String × Json)
  | [] => [(key, value)]
  | (k, v) :: rest =>
      match compare key k with
      | .lt => (key, value) :: (k, v) :: rest
      | .eq => (key, value) :: rest
      | .gt => (k, v) :: insertMember key value rest

/-- The member of an object with the given key. -/
def get? : Json → String → Option Json
  | .obj members, key => members.lookup key
  | _, _ => none

/-- Whether a value is an object. -/
def isObject : Json → Bool
  | .obj _ => true
  | _ => false

mutual

/-- Equality of values. -/
def same : Json → Json → Bool
  | .null, .null => true
  | .bool a, .bool b => a == b
  | .num a, .num b => a.same b
  | .str a, .str b => a == b
  | .arr as, .arr bs => sameItems as bs
  | .obj as, .obj bs => sameMembers as bs
  | _, _ => false

/-- Equality of lists of values. -/
def sameItems : List Json → List Json → Bool
  | [], [] => true
  | a :: as, b :: bs => same a b && sameItems as bs
  | _, _ => false

/-- Equality of lists of members. -/
def sameMembers : List (String × Json) → List (String × Json) → Bool
  | [], [] => true
  | (k, a) :: as, (l, b) :: bs => k == l && same a b && sameMembers as bs
  | _, _ => false

end

end Json

end StoreQuery
