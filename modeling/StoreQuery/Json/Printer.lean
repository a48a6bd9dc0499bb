import StoreQuery.Json.Quotation
import StoreQuery.Number.Layout

/-! # Writing JSON text

    The compact form has no white space and keeps the members of an object
    in the order of the list. -/

namespace StoreQuery.Json

/-- An integer as JSON text. -/
def integerChars (n : Int) : List Char :=
  if n < 0 then '-' :: Nat.toDigits 10 n.natAbs else Nat.toDigits 10 n.natAbs

/-- A number as JSON text. -/
def numberChars : Number → List Char
  | .int n => integerChars n.val
  | .double d => Layout.json.chars d

mutual

/-- A value as JSON text. -/
def chars : Json → List Char
  | .null => ['n', 'u', 'l', 'l']
  | .bool true => ['t', 'r', 'u', 'e']
  | .bool false => ['f', 'a', 'l', 's', 'e']
  | .num n => numberChars n
  | .str s => quotation s
  | .arr items => '[' :: (itemsChars items ++ [']'])
  | .obj members => '\x7b' :: (membersChars members ++ ['\x7d'])

/-- Items, separated by commas. -/
def itemsChars : List Json → List Char
  | [] => []
  | item :: rest => chars item ++ itemsTail rest

/-- Items that follow another one. -/
def itemsTail : List Json → List Char
  | [] => []
  | item :: rest => ',' :: (chars item ++ itemsTail rest)

/-- Members, separated by commas. -/
def membersChars : List (String × Json) → List Char
  | [] => []
  | (key, value) :: rest => quotation key ++ ':' :: (chars value ++ membersTail rest)

/-- Members that follow another one. -/
def membersTail : List (String × Json) → List Char
  | [] => []
  | (key, value) :: rest => ',' :: (quotation key ++ ':' :: (chars value ++ membersTail rest))

end

/-- The compact text of a value. -/
def compact (j : Json) : String :=
  String.ofList j.chars

end StoreQuery.Json
