import StoreQuery.Number.Decimal

/-! # Layouts — how the digits of a double are set out

    A layout decides which decimal exponents are written positionally,
    whether a whole number keeps a fraction, and how an exponent is marked.
    The digits themselves are the fewest that read back. -/

namespace StoreQuery

/-- How a finite double is written. -/
structure Layout where
  /-- Whether the number `d.ddd · 10^e` is written without an exponent mark. -/
  positional : Int → Bool
  /-- Whether a whole number ends in `.0`. -/
  wholeFraction : Bool
  /-- Whether a positive exponent carries a plus sign. -/
  plusSign : Bool
  /-- Which of two equally near digit strings is taken. -/
  tie : Tie

namespace Layout

/-- From `0.00001` up to sixteen whole digits positionally, always with a fraction; otherwise
    scientific with a signed exponent. -/
def json : Layout := ⟨fun e => -5 ≤ e && e ≤ 15, true, true, .toEven⟩

/-- Always positional, and a whole number has no fraction. -/
def plain : Layout := ⟨fun _ => true, false, false, .up⟩

/-- Like `json`, with unsigned positive exponents. -/
def inspected : Layout := ⟨fun e => -5 ≤ e && e ≤ 15, true, false, .up⟩

/-- Digits `ds` of a number `d.ddd · 10^e`, positionally. -/
def positionalText (l : Layout) (ds : List Char) (e : Int) : List Char :=
  let whole := if l.wholeFraction then ['.', '0'] else []
  if e < 0 then '0' :: '.' :: (List.replicate (-e - 1).toNat '0' ++ ds)
  else
    let before := e.toNat + 1
    if ds.length ≤ before then ds ++ List.replicate (before - ds.length) '0' ++ whole
    else ds.take before ++ '.' :: ds.drop before

/-- Digits `ds` of a number `d.ddd · 10^e`, with an exponent. -/
def scientificText (l : Layout) (ds : List Char) (e : Int) : List Char :=
  let mantissa :=
    match ds with
    | [] => []
    | [d] => [d]
    | d :: rest => d :: '.' :: rest
  let sign := if e < 0 then ['-'] else if l.plusSign then ['+'] else []
  mantissa ++ 'e' :: (sign ++ Nat.toDigits 10 e.natAbs)

/-- The text of a finite double. -/
def chars (l : Layout) (d : FiniteDouble) : List Char :=
  let x := d.shortest l.tie
  let ds := Nat.toDigits 10 x.digits
  let e := x.exponent + (ds.length - 1 : Nat)
  (if x.negative then ['-'] else []) ++
    if l.positional e then l.positionalText ds e else l.scientificText ds e

/-- The text of a double, infinities and `nan` included. -/
def text (l : Layout) : Double → String
  | .finite d => String.ofList (l.chars d)
  | .infinite negative => if negative then "-inf" else "inf"
  | .nan => "NaN"

end Layout

end StoreQuery
