/-! # Doubles — finite binary64 numbers as whole multiples of one unit

    A finite double is `mantissa · 2^scale` units of `2^-1074`, with a
    sign of its own so that both zeros exist.  The parts are unique: the
    mantissa has at most 53 bits and uses all of them unless the scale is
    zero.  Order and equality go through the exact integer `units`, and
    rounding is done on exact ratios of natural numbers, so no step of
    this file loses a digit. -/

-- powers of numbers are the core ones here and in all that builds on this, also where the powers
-- of monoids are in scope: so `2 ^ 64` is one and the same term wherever it is written
attribute [instance (high), default_instance (high + 1)] instPowNat

namespace StoreQuery

/-- A finite double: `mantissa · 2^scale` units of `2^-1074`, negated if `negative`. -/
structure FiniteDouble where
  negative : Bool
  mantissa : Nat
  scale : Nat
  mantissa_lt : mantissa < 2 ^ 53
  scale_le : scale ≤ 2045
  normal : scale = 0 ∨ 2 ^ 52 ≤ mantissa
deriving DecidableEq

namespace FiniteDouble

/-- The unit is this negative power of two. -/
def unitPower : Nat := 1074

/-- Zero with the given sign. -/
def zero (negative : Bool) : FiniteDouble :=
  ⟨negative, 0, 0, by decide, by decide, Or.inl rfl⟩

/-- The largest finite double with the given sign. -/
def largest (negative : Bool) : FiniteDouble :=
  ⟨negative, 2 ^ 53 - 1, 2045, by decide, by decide, Or.inr (by decide)⟩

instance : Inhabited FiniteDouble := ⟨zero false⟩

/-- The double with these parts, if they are the parts of one. -/
def ofParts? (negative : Bool) (mantissa scale : Nat) : Option FiniteDouble :=
  if h : mantissa < 2 ^ 53 ∧ scale ≤ 2045 ∧ (scale = 0 ∨ 2 ^ 52 ≤ mantissa) then
    some ⟨negative, mantissa, scale, h.1, h.2.1, h.2.2⟩
  else
    none

/-- The magnitude in units of `2^-1074`. -/
def magnitude (d : FiniteDouble) : Nat :=
  d.mantissa * 2 ^ d.scale

/-- The signed value in units of `2^-1074`; both zeros have zero units. -/
def units (d : FiniteDouble) : Int :=
  if d.negative then -(d.magnitude : Int) else d.magnitude

/-- Comparison by value. -/
def compare (a b : FiniteDouble) : Ordering :=
  Ord.compare a.units b.units

/-- Equality by value, under which both zeros are equal. -/
def sameValue (a b : FiniteDouble) : Bool :=
  a.units == b.units

/-! ## Rounding -/

/-- The quotient of two naturals rounded to the nearest natural, a half going to the even one. -/
def roundDiv (num den : Nat) : Nat :=
  let q := num / den
  let r := num % den
  if 2 * r < den then q
  else if den < 2 * r then q + 1
  else q + q % 2

/-- The double nearest to `num / den` units, a half going to the even mantissa; `none` when the
    magnitude is beyond every finite double. -/
def nearest? (negative : Bool) (num den : Nat) : Option FiniteDouble :=
  let scale := (num / den).log2 - 52
  let mantissa := roundDiv num (den * 2 ^ scale)
  if mantissa < 2 ^ 53 then ofParts? negative mantissa scale
  else ofParts? negative (2 ^ 52) (scale + 1)

/-- The double nearest to an integer; integers beyond every finite double give the largest one. -/
def ofInt (n : Int) : FiniteDouble :=
  let negative := decide (n < 0)
  (nearest? negative (n.natAbs * 2 ^ unitPower) 1).getD (largest negative)

/-! ## A double is nearest to itself -/

/-- Rounding an exact multiple gives the factor. -/
theorem roundDiv_mul (q : Nat) {den : Nat} (h : 0 < den) : roundDiv (q * den) den = q := by
  unfold roundDiv
  simp only [Nat.mul_div_cancel q h, Nat.mul_mod_left]
  rw [if_pos (by omega)]

/-- The parts of a double give it back. -/
theorem ofParts?_self (d : FiniteDouble) : ofParts? d.negative d.mantissa d.scale = some d := by
  unfold ofParts?
  rw [dif_pos ⟨d.mantissa_lt, d.scale_le, d.normal⟩]

/-- The scale of a double can be read off its magnitude. -/
theorem log2_magnitude (d : FiniteDouble) : d.magnitude.log2 - 52 = d.scale := by
  rcases d.normal with h | h
  · have hlt : d.magnitude < 2 ^ 53 := by
      have := d.mantissa_lt
      simpa [magnitude, h] using this
    by_cases h0 : d.magnitude = 0
    · simp [h0, h]
    · have := (Nat.log2_lt h0).2 hlt
      omega
  · have hne : d.magnitude ≠ 0 :=
      Nat.mul_ne_zero (by omega) (Nat.pos_iff_ne_zero.1 (Nat.two_pow_pos _))
    have hlo : 2 ^ (52 + d.scale) ≤ d.magnitude := by
      rw [Nat.pow_add]
      exact Nat.mul_le_mul_right _ h
    have hhi : d.magnitude < 2 ^ (53 + d.scale) := by
      rw [Nat.pow_add]
      exact Nat.mul_lt_mul_of_pos_right d.mantissa_lt (Nat.two_pow_pos _)
    have h1 := (Nat.le_log2 hne).2 hlo
    have h2 := (Nat.log2_lt hne).2 hhi
    omega

/-- A double is the nearest one to its own magnitude, over every denominator. -/
theorem nearest?_magnitude (d : FiniteDouble) {den : Nat} (h : 0 < den) :
    nearest? d.negative (d.magnitude * den) den = some d := by
  have hq : d.magnitude * den / den = d.magnitude := Nat.mul_div_cancel _ h
  have hr : roundDiv (d.magnitude * den) (den * 2 ^ d.scale) = d.mantissa := by
    rw [show d.magnitude * den = d.mantissa * (den * 2 ^ d.scale) by unfold magnitude; ac_rfl]
    exact roundDiv_mul _ (Nat.mul_pos h (Nat.two_pow_pos _))
  unfold nearest?
  simp only [hq, log2_magnitude, hr]
  rw [if_pos d.mantissa_lt, ofParts?_self]

/-- A double without magnitude is a zero. -/
theorem eq_zero_of_magnitude {d : FiniteDouble} (h : d.magnitude = 0) : d = zero d.negative := by
  obtain ⟨s, m, e, hm, he, hn⟩ := d
  have hm0 : m = 0 := by
    rcases Nat.mul_eq_zero.1 (show m * 2 ^ e = 0 from h) with h | h
    · exact h
    · exact absurd h (Nat.pos_iff_ne_zero.1 (Nat.two_pow_pos e))
  subst hm0
  have he0 : e = 0 := by rcases hn with h | h <;> omega
  subst he0
  rfl

end FiniteDouble

/-- A double: a finite one, an infinity, or not a number. -/
inductive Double where
  | finite (d : FiniteDouble)
  | infinite (negative : Bool)
  | nan
deriving DecidableEq

namespace Double

instance : Inhabited Double := ⟨.finite default⟩

/-- Equality of doubles: by value on finite ones, and `nan` differs from everything. -/
def sameValue : Double → Double → Bool
  | .finite a, .finite b => a.sameValue b
  | .infinite a, .infinite b => a == b
  | _, _ => false

end Double

end StoreQuery
