import StoreQuery.Json.Basic
import StoreQuery.Number.Layout
import StoreQuery.Text.Characters

/-! # Reading faults — why a text or a value could not be read

    A text can end too early, be malformed, or be well formed so far and
    hold something other than what was expected: a mismatch.  A mismatch
    also arises from a value that is already read. -/

namespace StoreQuery.Json

/-- What stands where a scalar was expected: a scalar, or the start of a container. -/
inductive Found where
  | null
  | bool (b : Bool)
  | num (n : Number)
  | str (s : String)
  | sequence
  | map

/-- What was expected. -/
inductive Expected where
  | text
  | unsigned
  | signed
  | double
  | boolean
  | unit
  | record (name : String)

/-- Why something well formed is not what was expected. -/
inductive Mismatch where
  /-- Something of another type. -/
  | wrongType (found : Found) (expected : Expected)
  /-- An integer out of the range of the expected type. -/
  | outOfRange (n : Integer) (expected : Expected)
  /-- A required field that is not there. -/
  | missing (field : String)
  /-- A field that is given twice. -/
  | duplicate (field : String)
  /-- A record given by position, with `count` fields before a required one that is not there. -/
  | tooFew (count : Nat) (record : String) (size : Nat)
  /-- A record given by position, with more elements than fields. -/
  | tooMany (count : Nat)
  /-- A tag that is none of the known ones. -/
  | unknownTag (tag : String) (known : List String)
  /-- A tag that needs a value, given without one. -/
  | bareTag
  /-- A text that the expected type refuses, for a reason of its own. -/
  | refused (reason : String)

/-- Why a text could not be read. -/
inductive ReadError where
  | endOfText
  | malformed
  | mismatch (why : Mismatch)

namespace Found

/-- What was found, in words. -/
def describe : Found → String
  | .null => "null"
  | .bool b => "boolean `" ++ (if b then "true" else "false") ++ "`"
  | .num (.int n) => "integer `" ++ toString n.val ++ "`"
  | .num (.double d) => "floating point `" ++ String.ofList (Layout.json.chars d) ++ "`"
  | .str s => "string " ++ Text.quoted s
  | .sequence => "sequence"
  | .map => "map"

/-- A value that is already read, as it would be met in a text. -/
def ofJson : Json → Found
  | .null => .null
  | .bool b => .bool b
  | .num n => .num n
  | .str s => .str s
  | .arr _ => .sequence
  | .obj _ => .map

end Found

/-- What was expected, in words. -/
def Expected.describe : Expected → String
  | .text => "a string"
  | .unsigned => "u64"
  | .signed => "i64"
  | .double => "f64"
  | .boolean => "a boolean"
  | .unit => "unit"
  | .record name => "struct " ++ name

/-- The wording of a mismatch. -/
def Mismatch.message : Mismatch → String
  | .wrongType found expected =>
      "invalid type: " ++ found.describe ++ ", expected " ++ expected.describe
  | .outOfRange n expected =>
      "invalid value: integer `" ++ toString n.val ++ "`, expected " ++ expected.describe
  | .missing field => "missing field `" ++ field ++ "`"
  | .duplicate field => "duplicate field `" ++ field ++ "`"
  | .tooFew count record size =>
      "invalid length " ++ toString count ++ ", expected struct " ++ record ++ " with " ++
        toString size ++ " elements"
  | .tooMany count =>
      "invalid length " ++ toString count ++ ", expected fewer elements in array"
  | .unknownTag tag known =>
      "unknown variant `" ++ tag ++ "`, expected one of " ++
        String.intercalate ", " (known.map fun k => "`" ++ k ++ "`")
  | .bareTag => "invalid type: unit variant, expected newtype variant"
  | .refused reason => reason

end StoreQuery.Json
