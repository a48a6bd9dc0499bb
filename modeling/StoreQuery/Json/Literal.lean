import StoreQuery.Json.Basic
import StoreQuery.Number.Decimal

/-! # Number literals — the grammar of JSON numbers, and what they denote

    A literal without fraction and exponent that fits a JSON integer is
    that integer; `-0` and everything else is the nearest double.  A
    literal can be cut (the text ends where a digit must follow) or bad
    (another character stands there).

    That the nearest double is meant is assumed of the JSON library behind
    the stores, whose default reading may be off in the last bit, as on
    `3e23`.  What is proved about reading doubles rests on this. -/

namespace StoreQuery.Json

/-- A number literal, digit by digit. -/
structure Literal where
  negative : Bool
  whole : List Char
  fraction : List Char
  exponentNegative : Bool
  exponent : List Char

/-- Why no literal could be scanned. -/
inductive LiteralFault where
  | cut
  | bad
deriving DecidableEq

/-- One digit or more. -/
def scanDigits (cs : List Char) : Except LiteralFault (List Char × List Char) :=
  match cs.takeWhile Char.isDigit, cs.dropWhile Char.isDigit with
  | [], [] => .error .cut
  | [], _ => .error .bad
  | ds, rest => .ok (ds, rest)

/-- The digits before the point: a zero is not followed by another digit. -/
def scanWhole (cs : List Char) : Except LiteralFault (List Char × List Char) := do
  let (ds, rest) ← scanDigits cs
  match ds with
  | '0' :: _ :: _ => .error .bad
  | _ => .ok (ds, rest)

/-- The digits behind a point, none if there is no point. -/
def scanFraction : List Char → Except LiteralFault (List Char × List Char)
  | '.' :: rest => scanDigits rest
  | cs => .ok ([], cs)

/-- The sign and the digits of an exponent, none if there is no exponent mark. -/
def scanExponent : List Char → Except LiteralFault ((Bool × List Char) × List Char)
  | [] => .ok ((false, []), [])
  | c :: rest =>
      if c = 'e' ∨ c = 'E' then do
        let (negative, rest) :=
          match rest with
          | '-' :: rest => (true, rest)
          | '+' :: rest => (false, rest)
          | rest => (false, rest)
        let (ds, rest) ← scanDigits rest
        .ok ((negative, ds), rest)
      else .ok ((false, []), c :: rest)

/-- The sign of a literal. -/
def scanSign : List Char → Bool × List Char
  | '-' :: rest => (true, rest)
  | cs => (false, cs)

/-- A number literal and the text behind it. -/
def scanLiteral (cs : List Char) : Except LiteralFault (Literal × List Char) := do
  let (negative, rest) := scanSign cs
  let (whole, rest) ← scanWhole rest
  let (fraction, rest) ← scanFraction rest
  let ((exponentNegative, exponent), rest) ← scanExponent rest
  .ok (⟨negative, whole, fraction, exponentNegative, exponent⟩, rest)

/-- The value of a list of decimal digits. -/
def digitsValue (ds : List Char) : Nat :=
  Nat.ofDigitChars 10 ds 0

namespace Literal

/-- The decimal that a literal denotes. -/
def toDecimal (l : Literal) : Decimal :=
  let power : Int := digitsValue l.exponent
  ⟨l.negative, digitsValue (l.whole ++ l.fraction),
    (if l.exponentNegative then -power else power) - l.fraction.length⟩

/-- The integer that a literal denotes, if it is written as one and a JSON number can hold it. -/
def toInteger? (l : Literal) : Option Integer :=
  let n := digitsValue l.whole
  if l.fraction = [] ∧ l.exponent = [] ∧ ¬(l.negative ∧ n = 0) then
    Integer.ofInt? (if l.negative then -(n : Int) else n)
  else none

/-- The number that a literal denotes, which is assumed to be rounded correctly; `none` when it is
    too large for a double. -/
def toNumber? (l : Literal) : Option Number :=
  match l.toInteger? with
  | some n => some (.int n)
  | none => l.toDecimal.toDouble?.map .double

end Literal

end StoreQuery.Json
