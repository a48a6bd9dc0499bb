import StoreQuery.Json.Reader

/-! # Decoders — reading what is expected

    A decoder reads a value of a known type, either from text or from a
    JSON value that is already read.  From text a scalar is read to its end
    before its type is looked at, while the opening bracket of a container
    is refused at once. -/

namespace StoreQuery.Json

variable {α β : Type}

/-- Reads values of one type, from text or from a value that is already read. -/
structure Decoder (α : Type) where
  read : Reader α
  ofJson : Json → Except Mismatch α

namespace Decoder

/-- Decodes what a scalar is accepted as. -/
def scalar (accept : Found → Except Mismatch α) : Decoder α where
  read cs := do
    let (found, rest) ← readFound cs
    match accept found with
    | .ok x => .ok (x, rest)
    | .error why => .error (.mismatch why)
  ofJson j := accept (.ofJson j)

/-- Decodes and then applies a function. -/
def map (f : α → β) (d : Decoder α) : Decoder β where
  read cs := do
    let (x, rest) ← d.read cs
    .ok (f x, rest)
  ofJson j := f <$> d.ofJson j

/-- The value that a whole text holds. -/
def parse (d : Decoder α) (text : String) : Except ReadError α :=
  readWhole d.read text

/-- Strings. -/
def text : Decoder String :=
  scalar fun
    | .str s => .ok s
    | found => .error (.wrongType found .text)

/-- Strings, or `null` for none. -/
def optionalText : Decoder (Option String) :=
  scalar fun
    | .null => .ok none
    | .str s => .ok (some s)
    | found => .error (.wrongType found .text)

/-- Unsigned words; only an integer is one. -/
def unsigned : Decoder UInt64 :=
  scalar fun
    | .num (.int n) =>
        if 0 ≤ n.val then .ok (UInt64.ofNat n.val.toNat) else .error (.outOfRange n .unsigned)
    | found => .error (.wrongType found .unsigned)

/-- Signed words; only an integer is one. -/
def signed : Decoder Int64 :=
  scalar fun
    | .num (.int n) =>
        if n.val < 2 ^ 63 then .ok (Int64.ofInt n.val) else .error (.outOfRange n .signed)
    | found => .error (.wrongType found .signed)

/-- Doubles; an integer is taken as the nearest one. -/
def double : Decoder FiniteDouble :=
  scalar fun
    | .num n => .ok n.toDouble
    | found => .error (.wrongType found .double)

/-- Truth values. -/
def boolean : Decoder Bool :=
  scalar fun
    | .bool b => .ok b
    | found => .error (.wrongType found .boolean)

/-- The value `null`. -/
def unit : Decoder Unit :=
  scalar fun
    | .null => .ok ()
    | found => .error (.wrongType found .unit)

end Decoder

end StoreQuery.Json
