import StoreQuery.Json.Decoder
import StoreQuery.Json.Printer

/-! # Values — the scalars that filters compare with

    A value is read from a JSON scalar: integers that fit a signed word are
    `int`, larger ones `uint`, and other numbers `float`.  Values of
    different kinds are never equal.  Doubles that are not finite have no
    JSON form and are written as `null`. -/

namespace StoreQuery

open Json (ReadError Mismatch Reader)

/-- A scalar value. -/
inductive Value where
  | text (s : String)
  | int (n : Int64)
  | uint (n : UInt64)
  | float (d : Double)
  | bool (b : Bool)
  | null
deriving DecidableEq

namespace Value

/-- The name of a value's kind. -/
def typeName : Value → String
  | .text _ => "string"
  | .int _ => "int"
  | .uint _ => "uint"
  | .float _ => "float"
  | .bool _ => "boolean"
  | .null => "null"

/-- The text of a value that is one. -/
def text? : Value → Option String
  | .text s => some s
  | _ => none

/-- The value of a JSON scalar. -/
def ofJson? : Json → Option Value
  | .null => some .null
  | .bool b => some (.bool b)
  | .str s => some (.text s)
  | .num (.int n) =>
      if n.val < 2 ^ 63 then some (.int (Int64.ofInt n.val))
      else some (.uint (UInt64.ofNat n.val.toNat))
  | .num (.double d) => some (.float (.finite d))
  | .arr _ => none
  | .obj _ => none

/-- The JSON scalar of a value. -/
def toJson : Value → Json
  | .text s => .str s
  | .int n => .num (.int (.ofInt64 n))
  | .uint n => .num (.int (.ofUInt64 n))
  | .float (.finite d) => .num (.double d)
  | .float _ => .null
  | .bool b => .bool b
  | .null => .null

/-- Equality of values: doubles by value, all else by structure. -/
def same : Value → Value → Bool
  | .float a, .float b => a.sameValue b
  | a, b => a == b

/-- A value for a reader: text in quotes, numbers in plain decimals. -/
def display : Value → String
  | .text s => Text.quoted s
  | .int n => toString n.toInt
  | .uint n => toString n.toNat
  | .float d => Layout.plain.text d
  | .bool b => if b then "true" else "false"
  | .null => "null"

/-- A value for a log line: its kind and its content. -/
def inspect : Value → String
  | .text s => "String(" ++ Text.quoted s ++ ")"
  | .int n => "Int(" ++ toString n.toInt ++ ")"
  | .uint n => "Uint(" ++ toString n.toNat ++ ")"
  | .float d => "Float(" ++ Layout.inspected.text d ++ ")"
  | .bool b => "Boolean(" ++ (if b then "true" else "false") ++ ")"
  | .null => "Null"

/-! ## Tagged form -/

/-- The tags of the tagged form. -/
def tags : List String := ["String", "Int", "Uint", "Float", "Boolean", "Null"]

/-- The tagged form: an object from the tag to the scalar, or the bare tag of `null`. -/
def toTagged : Value → Json
  | .text s => .obj [("String", .str s)]
  | .int n => .obj [("Int", .num (.int (.ofInt64 n)))]
  | .uint n => .obj [("Uint", .num (.int (.ofUInt64 n)))]
  | .float d => .obj [("Float", (Value.float d).toJson)]
  | .bool b => .obj [("Boolean", .bool b)]
  | .null => .str "Null"

/-- How the content of a tag is decoded. -/
def content? (tag : String) : Option (Json.Decoder Value) :=
  if tag = "String" then some (Json.Decoder.text.map .text)
  else if tag = "Int" then some (Json.Decoder.signed.map .int)
  else if tag = "Uint" then some (Json.Decoder.unsigned.map .uint)
  else if tag = "Float" then some (Json.Decoder.double.map fun d => .float (.finite d))
  else if tag = "Boolean" then some (Json.Decoder.boolean.map .bool)
  else if tag = "Null" then some (Json.Decoder.unit.map fun _ => .null)
  else none

/-- Reads the object form of a tagged value, whose opening bracket is already read. -/
def readTaggedObject : Reader Value := fun cs => do
  let (tag, rest) ← Json.readKey cs
  match content? tag with
  | none => .error (.mismatch (.unknownTag tag tags))
  | some content => do
      let rest ← Json.readColon rest
      let (value, rest) ← content.read rest
      match Json.skipSpace rest with
      | [] => .error .endOfText
      | c :: rest => if c = '\x7d' then .ok (value, rest) else .error .malformed

/-- The value of a bare tag. -/
def ofBareTag (tag : String) : Except Mismatch Value :=
  if tag = "Null" then .ok .null
  else if tag ∈ tags then .error .bareTag
  else .error (.unknownTag tag tags)

/-- Reads a value in its tagged form. -/
def readTagged : Reader Value := fun cs =>
  match Json.skipSpace cs with
  | [] => .error .endOfText
  | c :: rest =>
      if c = '\x7b' then readTaggedObject rest
      else if c = '"' then do
        let (tag, rest) ← Json.readQuotation rest
        match ofBareTag tag with
        | .ok value => .ok (value, rest)
        | .error why => .error (.mismatch why)
      else .error .malformed

/-- The value whose tagged form a whole text holds. -/
def parseTagged (text : String) : Except ReadError Value :=
  Json.readWhole readTagged text

end Value

end StoreQuery
