import StoreQuery.Number.Double

/-! # Decimals — reading a decimal as a double, and the fewest digits that read back

    A decimal `digits · 10^exponent` is read as the nearest double by exact
    arithmetic.  In the other direction a double is cut to one digit, two
    digits, and so on: the first length at which a neighbour on that
    decimal grid reads back as the same double gives its text.  Every
    answer is checked by reading it, and the exact expansion (a double is
    always a finite decimal) stands behind the search, so the result always
    reads back: `toDouble?_shortest`. -/

namespace StoreQuery

/-- The number `digits · 10^exponent`, negated if `negative`. -/
structure Decimal where
  negative : Bool
  digits : Nat
  exponent : Int
deriving DecidableEq

namespace Decimal

/-- Beyond this power of ten, up or down, no finite double other than zero is found. -/
def horizon : Int := 400

/-- The double nearest to a decimal; `none` when it is too large for every finite one. -/
def toDouble? (x : Decimal) : Option FiniteDouble :=
  if x.digits = 0 then some (.zero x.negative)
  else if horizon < x.exponent then none
  else if x.exponent + x.digits.log2 + 1 < -horizon then some (.zero x.negative)
  else
    FiniteDouble.nearest? x.negative
      (x.digits * 10 ^ x.exponent.toNat * 2 ^ FiniteDouble.unitPower) (10 ^ (-x.exponent).toNat)

end Decimal

/-- Which of two equally near decimals stands for a double. -/
inductive Tie where
  | toEven
  | up
deriving DecidableEq

namespace FiniteDouble

/-- The exact decimal expansion: a unit `2^-n` is `5^n · 10^-n`. -/
def expansion (d : FiniteDouble) : Decimal :=
  ⟨d.negative, d.magnitude * 5 ^ unitPower, -unitPower⟩

/-- The two decimals around `d` that have `count` digits, the nearer one first. -/
def neighbours (tie : Tie) (d : FiniteDouble) (length count : Nat) : List Decimal :=
  let cut := length - count
  let grid := 10 ^ cut
  let whole := d.expansion
  let below := whole.digits / grid
  let rest := whole.digits % grid
  let low : Decimal := ⟨d.negative, below, whole.exponent + cut⟩
  let high : Decimal :=
    if below + 1 = 10 ^ count then ⟨d.negative, 1, whole.exponent + cut + count⟩
    else ⟨d.negative, below + 1, whole.exponent + cut⟩
  let lowFirst :=
    2 * rest < grid || (2 * rest == grid && tie == .toEven && below % 2 == 0)
  if lowFirst then [low, high] else [high, low]

/-- The decimal with the fewest digits that reads back as `d`, the nearest of those. -/
def shortest (tie : Tie) (d : FiniteDouble) : Decimal :=
  if d.magnitude = 0 then ⟨d.negative, 0, 0⟩
  else
    let length := (Nat.toDigits 10 d.expansion.digits).length
    let found := (List.range' 1 17).findSome? fun count =>
      (d.neighbours tie length count).find? fun x => x.toDouble? == some d
    found.getD d.expansion

/-! ## Reading back -/

/-- The exact expansion reads back. -/
theorem toDouble?_expansion {d : FiniteDouble} (h : d.magnitude ≠ 0) :
    d.expansion.toDouble? = some d := by
  have hd : d.expansion.digits ≠ 0 :=
    Nat.mul_ne_zero h (Nat.ne_of_gt (Nat.pow_pos (by decide)))
  have hlog : unitPower ≤ d.expansion.digits.log2 := by
    rw [Nat.le_log2 hd]
    calc 2 ^ unitPower ≤ 5 ^ unitPower := Nat.pow_le_pow_left (by decide) _
      _ ≤ d.magnitude * 5 ^ unitPower := Nat.le_mul_of_pos_left _ (Nat.pos_of_ne_zero h)
  have he : d.expansion.exponent = -unitPower := rfl
  have hnum : d.expansion.digits * 10 ^ (-(unitPower : Int)).toNat * 2 ^ unitPower
      = d.magnitude * 10 ^ (- -(unitPower : Int)).toNat := by
    rw [show (-(unitPower : Int)).toNat = 0 from rfl,
      show (- -(unitPower : Int)).toNat = unitPower from rfl,
      show d.expansion.digits = d.magnitude * 5 ^ unitPower from rfl,
      Nat.pow_zero, Nat.mul_one, Nat.mul_assoc, ← Nat.mul_pow]
  unfold Decimal.toDouble?
  rw [if_neg hd, he, if_neg (by decide), if_neg (by simp only [Decimal.horizon]; omega), hnum]
  exact nearest?_magnitude d (Nat.pow_pos (by decide))

/-- The shortest decimal reads back, whichever way ties go. -/
theorem toDouble?_shortest (tie : Tie) (d : FiniteDouble) :
    (d.shortest tie).toDouble? = some d := by
  unfold shortest
  split
  · next h =>
    rw [eq_zero_of_magnitude h]
    rfl
  · next h =>
    simp only
    generalize hf : List.findSome? _ (List.range' 1 17) = found
    cases found with
    | none => exact toDouble?_expansion h
    | some x =>
      obtain ⟨count, -, hc⟩ := List.exists_of_findSome?_eq_some hf
      simpa using List.find?_some hc

end FiniteDouble

end StoreQuery
