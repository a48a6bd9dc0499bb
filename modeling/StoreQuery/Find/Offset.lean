import StoreQuery.Error

/-! # Offsets — tokens that count the records to skip -/

namespace StoreQuery.Find

/-- The number that decimal digits write, if there is at least one and an unsigned word holds
    it. -/
def digitsToWord? (ds : List Char) : Option UInt64 :=
  if ds ≠ [] ∧ ds.all Char.isDigit ∧ Nat.ofDigitChars 10 ds 0 < 2 ^ 64 then
    some (UInt64.ofNat (Nat.ofDigitChars 10 ds 0))
  else none

/-- The number that an optional plus sign and decimal digits write. -/
def wordOf? : List Char → Option UInt64
  | '+' :: ds => digitsToWord? ds
  | ds => digitsToWord? ds

/-- Reads an offset token; the empty token has no offset. -/
def parseOffset (token : String) : Except QueryError (Option UInt64) :=
  if token = "" then .ok none
  else
    match wordOf? token.toList with
    | some n => .ok (some n)
    | none => .error (.invalidToken token)

/-- The token of an offset. -/
def offsetToken (n : UInt64) : String :=
  toString n.toNat

end StoreQuery.Find
