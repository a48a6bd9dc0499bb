import StoreQuery.Number.Double

/-! # Rounding — which integers doubles tell apart

    An integer is rounded to a multiple of its spacing, the power of two
    that leaves it 53 bits.  Rounding keeps the order, because a number with
    a wider spacing is not smaller; it is exact up to `2^53`, and it moves
    no integer of 64 bits by more than 1024.

    So two such integers can become one double only if both are at least
    `2^53` in magnitude and they are no more than 2048 apart:
    `units_ofInt_lt`. -/

namespace StoreQuery.FiniteDouble

/-! ## Quotients -/

/-- A quotient is rounded down or up, to what is not farther away. -/
theorem roundDiv_cases (num den : Nat) :
    (roundDiv num den = num / den ∧ 2 * (num % den) ≤ den)
      ∨ (roundDiv num den = num / den + 1 ∧ den ≤ 2 * (num % den)) := by
  unfold roundDiv
  by_cases hbelow : 2 * (num % den) < den
  · exact Or.inl ⟨if_pos hbelow, Nat.le_of_lt hbelow⟩
  · by_cases habove : den < 2 * (num % den)
    · exact Or.inr ⟨by simp only [if_neg hbelow, if_pos habove], Nat.le_of_lt habove⟩
    · simp only [if_neg hbelow, if_neg habove]
      rcases Nat.mod_two_eq_zero_or_one (num / den) with heven | hodd
      · exact Or.inl ⟨by omega, by omega⟩
      · exact Or.inr ⟨by omega, by omega⟩

/-- A greater number has no smaller quotient. -/
theorem roundDiv_mono {a b : Nat} (h : a ≤ b) (den : Nat) : roundDiv a den ≤ roundDiv b den := by
  have hdiv : a / den ≤ b / den := Nat.div_le_div_right h
  rcases roundDiv_cases a den with ⟨ha, -⟩ | ⟨ha, hup⟩
  · rcases roundDiv_cases b den with ⟨hb, -⟩ | ⟨hb, -⟩ <;> omega
  · rcases roundDiv_cases b den with ⟨hb, hdown⟩ | ⟨hb, -⟩
    · rcases Nat.lt_or_eq_of_le hdiv with hlt | heq
      · omega
      · -- the smaller one goes up and the greater one down, so both are the same half
        have hsame : a = b := by
          have hadiv := Nat.div_add_mod a den
          have hbdiv := Nat.div_add_mod b den
          rw [heq] at hadiv
          omega
        subst hsame
        exact Nat.le_refl _
    · omega

/-- Rounding a quotient moves the number by half the denominator at most. -/
theorem roundDiv_near (num : Nat) {den : Nat} (hden : 0 < den) :
    2 * (roundDiv num den * den) ≤ 2 * num + den
      ∧ 2 * num ≤ 2 * (roundDiv num den * den) + den := by
  have hnum : num / den * den + num % den = num := Nat.div_add_mod' num den
  have hmod := Nat.mod_lt num hden
  rcases roundDiv_cases num den with ⟨h, hdown⟩ | ⟨h, hup⟩
  · rw [h]
    omega
  · have hsucc : (num / den + 1) * den = num / den * den + den := Nat.succ_mul _ _
    rw [h, hsucc]
    omega

/-! ## Spacing -/

/-- The distance of doubles around a number of units. -/
def spacing (num : Nat) : Nat :=
  2 ^ (num.log2 - 52)

/-- A number of units rounded to a multiple of its spacing. -/
def rounded (num : Nat) : Nat :=
  roundDiv num (spacing num) * spacing num

theorem spacing_pos (num : Nat) : 0 < spacing num :=
  Nat.two_pow_pos _

theorem log2_le_log2 {a b : Nat} (h : a ≤ b) : a.log2 ≤ b.log2 := by
  by_cases ha : a = 0
  · rw [ha, Nat.log2_zero]
    exact Nat.zero_le _
  · have hb : b ≠ 0 := by omega
    exact (Nat.le_log2 hb).mpr (Nat.le_trans (Nat.log2_self_le ha) h)

/-- The quotient by the spacing has no more than 53 bits, or is the power of two behind these. -/
theorem roundDiv_spacing_le (num : Nat) : roundDiv num (spacing num) ≤ 2 ^ 53 := by
  have hlt : num < 2 ^ 53 * spacing num := by
    rw [spacing, ← Nat.pow_add]
    exact Nat.lt_of_lt_of_le Nat.lt_log2_self (Nat.pow_le_pow_right (by decide) (by omega))
  have hdiv : num / spacing num < 2 ^ 53 := Nat.div_lt_of_lt_mul (by rwa [Nat.mul_comm])
  rcases roundDiv_cases num (spacing num) with ⟨h, -⟩ | ⟨h, -⟩ <;> omega

/-- The quotient by a spacing that is not one has 53 bits at least. -/
theorem le_roundDiv_spacing {num : Nat} (h : num.log2 - 52 ≠ 0) :
    2 ^ 52 ≤ roundDiv num (spacing num) := by
  have hne : num ≠ 0 := by
    rintro rfl
    exact h (by rw [Nat.log2_zero])
  have hle : 2 ^ 52 * spacing num ≤ num := by
    rw [spacing, ← Nat.pow_add]
    exact Nat.le_trans (Nat.pow_le_pow_right (by decide) (by omega)) (Nat.log2_self_le hne)
  have hdiv : 2 ^ 52 ≤ num / spacing num := (Nat.le_div_iff_mul_le (spacing_pos num)).mpr hle
  rcases roundDiv_cases num (spacing num) with ⟨h, -⟩ | ⟨h, -⟩ <;> omega

/-- Rounding keeps the order. -/
theorem rounded_mono {a b : Nat} (h : a ≤ b) : rounded a ≤ rounded b := by
  have hlog := log2_le_log2 h
  by_cases hsame : a.log2 - 52 = b.log2 - 52
  · have hspacing : spacing a = spacing b := by rw [spacing, spacing, hsame]
    rw [rounded, rounded, hspacing]
    exact Nat.mul_le_mul_right _ (roundDiv_mono h _)
  · -- the power of two behind all numbers with the smaller spacing stands between them
    calc rounded a
        ≤ 2 ^ 53 * spacing a := Nat.mul_le_mul_right _ (roundDiv_spacing_le a)
      _ = 2 ^ (53 + (a.log2 - 52)) := (Nat.pow_add 2 53 _).symm
      _ ≤ 2 ^ (52 + (b.log2 - 52)) := Nat.pow_le_pow_right (by decide) (by omega)
      _ = 2 ^ 52 * spacing b := Nat.pow_add 2 52 _
      _ ≤ rounded b := Nat.mul_le_mul_right _ (le_roundDiv_spacing (by omega))

/-- A multiple of its spacing stays. -/
theorem rounded_of_dvd {num : Nat} (h : spacing num ∣ num) : rounded num = num := by
  obtain ⟨q, hq⟩ := h
  have hround : roundDiv num (spacing num) = q := by
    rw [Nat.mul_comm] at hq
    have hmul := roundDiv_mul q (spacing_pos num)
    rwa [← hq] at hmul
  rw [rounded, hround, Nat.mul_comm]
  exact hq.symm

/-- A multiple of a power of two stays if the factor is `2^53` at most. -/
theorem rounded_mul_two_pow {k : Nat} (h : k ≤ 2 ^ 53) (e : Nat) :
    rounded (k * 2 ^ e) = k * 2 ^ e := by
  apply rounded_of_dvd
  by_cases hscale : (k * 2 ^ e).log2 - 52 ≤ e
  · exact Nat.dvd_trans (Nat.pow_dvd_pow 2 hscale) (Nat.dvd_mul_left _ _)
  · -- only `2^53` itself reaches the next spacing, of which it is a multiple
    have hne : k * 2 ^ e ≠ 0 := by
      intro hzero
      rw [hzero, Nat.log2_zero] at hscale
      omega
    have hpow : 2 ^ (53 + e) ≤ k * 2 ^ e := (Nat.le_log2 hne).mp (by omega)
    have hk : k = 2 ^ 53 := by
      rw [Nat.pow_add] at hpow
      exact Nat.le_antisymm h (Nat.le_of_mul_le_mul_right hpow (Nat.two_pow_pos e))
    rw [hk, ← Nat.pow_add, spacing, Nat.log2_two_pow]
    exact Nat.pow_dvd_pow 2 (by omega)

/-- A 64-bit multiple of a power of two has 64 bits in front of that power. -/
theorem log2_mul_two_pow_le {k : Nat} (h : k < 2 ^ 64) (e : Nat) : (k * 2 ^ e).log2 ≤ 63 + e := by
  by_cases hzero : k * 2 ^ e = 0
  · rw [hzero, Nat.log2_zero]
    exact Nat.zero_le _
  · have hlt : k * 2 ^ e < 2 ^ (64 + e) := by
      rw [Nat.pow_add]
      exact Nat.mul_lt_mul_of_pos_right h (Nat.two_pow_pos e)
    have := (Nat.log2_lt hzero).mpr hlt
    omega

/-- Rounding moves a 64-bit multiple of a power of two by 1024 times that power at most. -/
theorem rounded_near {k : Nat} (h : k < 2 ^ 64) (e : Nat) :
    rounded (k * 2 ^ e) ≤ k * 2 ^ e + 1024 * 2 ^ e
      ∧ k * 2 ^ e ≤ rounded (k * 2 ^ e) + 1024 * 2 ^ e := by
  have hlog := log2_mul_two_pow_le h e
  have hspacing : spacing (k * 2 ^ e) ≤ 2048 * 2 ^ e :=
    calc spacing (k * 2 ^ e)
        ≤ 2 ^ (11 + e) := Nat.pow_le_pow_right (by decide) (by omega)
      _ = 2048 * 2 ^ e := Nat.pow_add 2 11 e
  obtain ⟨habove, hbelow⟩ := roundDiv_near (k * 2 ^ e) (spacing_pos (k * 2 ^ e))
  rw [rounded]
  omega

/-! ## Doubles -/

/-- The double nearest to a number of units is that number rounded. -/
theorem nearest?_rounded (negative : Bool) {num : Nat} (h : num.log2 - 52 ≤ 2044) :
    ∃ d, nearest? negative num 1 = some d ∧ d.negative = negative ∧ d.magnitude = rounded num := by
  have hle := roundDiv_spacing_le num
  have hnormal : num.log2 - 52 = 0 ∨ 2 ^ 52 ≤ roundDiv num (spacing num) :=
    (Nat.eq_zero_or_pos _).imp_right fun hpos => le_roundDiv_spacing (Nat.ne_of_gt hpos)
  -- the mantissa is the quotient by the spacing, if it fits
  simp only [nearest?, Nat.div_one, Nat.one_mul]
  rw [← spacing]
  by_cases hlt : roundDiv num (spacing num) < 2 ^ 53
  · rw [if_pos hlt, ofParts?, dif_pos ⟨hlt, by omega, hnormal⟩]
    exact ⟨_, rfl, rfl, rfl⟩
  · -- the mantissa has grown by a bit, so it is halved and the scale goes up
    rw [if_neg hlt, ofParts?, dif_pos ⟨by decide, by omega, Or.inr (Nat.le_refl _)⟩]
    refine ⟨_, rfl, rfl, ?_⟩
    have hfull : roundDiv num (spacing num) = 2 ^ 53 := Nat.le_antisymm hle (Nat.le_of_not_lt hlt)
    show 2 ^ 52 * 2 ^ (num.log2 - 52 + 1) = _
    rw [rounded, hfull, spacing, ← Nat.pow_add, ← Nat.pow_add, Nat.add_comm _ 1, ← Nat.add_assoc]

/-- The units of the double nearest to a 64-bit integer. -/
theorem units_ofInt {n : Int} (h : n.natAbs < 2 ^ 64) :
    (ofInt n).units = if n < 0 then -(rounded (n.natAbs * 2 ^ unitPower) : Int)
      else rounded (n.natAbs * 2 ^ unitPower) := by
  have hlog : (n.natAbs * 2 ^ unitPower).log2 - 52 ≤ 2044 := by
    have hle := log2_mul_two_pow_le h unitPower
    have hpower : unitPower = 1074 := rfl
    omega
  obtain ⟨d, hd, hnegative, hmagnitude⟩ := nearest?_rounded (decide (n < 0)) hlog
  rw [ofInt, hd, Option.getD_some, units, hnegative, hmagnitude]
  simp only [decide_eq_true_eq]

/-- The double of a greater integer is not smaller. -/
theorem units_ofInt_mono {m n : Int} (hm : m.natAbs < 2 ^ 64) (hn : n.natAbs < 2 ^ 64)
    (h : m ≤ n) : (ofInt m).units ≤ (ofInt n).units := by
  rw [units_ofInt hm, units_ofInt hn]
  by_cases hmneg : m < 0
  · by_cases hnneg : n < 0
    · -- of two negative integers the smaller one has the greater magnitude
      have habs : n.natAbs ≤ m.natAbs := by omega
      have hrounded := rounded_mono (Nat.mul_le_mul_right (2 ^ unitPower) habs)
      rw [if_pos hmneg, if_pos hnneg]
      omega
    · rw [if_pos hmneg, if_neg hnneg]
      omega
  · have hnneg : ¬n < 0 := by omega
    have habs : m.natAbs ≤ n.natAbs := by omega
    have hrounded := rounded_mono (Nat.mul_le_mul_right (2 ^ unitPower) habs)
    rw [if_neg hmneg, if_neg hnneg]
    omega

/-- The units of an integer, by its sign. -/
theorem mul_units_eq (n : Int) (unit : Nat) :
    n * unit = if n < 0 then -((n.natAbs * unit : Nat) : Int) else (n.natAbs * unit : Nat) := by
  by_cases hneg : n < 0
  · have hn : n = -(n.natAbs : Int) := by omega
    rw [if_pos hneg, Int.natCast_mul, ← Int.neg_mul, ← hn]
  · have hn : n = (n.natAbs : Int) := by omega
    rw [if_neg hneg, Int.natCast_mul, ← hn]

/-- Up to `2^53` the double of an integer is the integer. -/
theorem units_ofInt_exact {n : Int} (h : n.natAbs ≤ 2 ^ 53) :
    (ofInt n).units = n * (2 ^ unitPower : Nat) := by
  rw [units_ofInt (by omega), rounded_mul_two_pow h, mul_units_eq]

/-- The double of a 64-bit integer is no more than 1024 away. -/
theorem units_ofInt_near {n : Int} (h : n.natAbs < 2 ^ 64) :
    (n - 1024) * (2 ^ unitPower : Nat) ≤ (ofInt n).units
      ∧ (ofInt n).units ≤ (n + 1024) * (2 ^ unitPower : Nat) := by
  obtain ⟨habove, hbelow⟩ := rounded_near h unitPower
  rw [Int.sub_mul, Int.add_mul, mul_units_eq n, units_ofInt h]
  by_cases hneg : n < 0
  · rw [if_pos hneg, if_pos hneg]
    omega
  · rw [if_neg hneg, if_neg hneg]
    omega

/-- Doubles keep two 64-bit integers apart if one of them is below `2^53` in magnitude or they are
    more than 2048 apart. -/
theorem units_ofInt_lt {m n : Int} (hm : m.natAbs < 2 ^ 64) (hn : n.natAbs < 2 ^ 64) (h : m < n)
    (hapart : m.natAbs < 2 ^ 53 ∨ n.natAbs < 2 ^ 53 ∨ 2048 < (m - n).natAbs) :
    (ofInt m).units < (ofInt n).units := by
  have hunit : (0 : Int) < (2 ^ unitPower : Nat) := Int.natCast_pos.mpr (Nat.two_pow_pos unitPower)
  rcases hapart with hsmall | hsmall | hfar
  · -- the next integer still is a double, and the greater one does not fall below it
    calc (ofInt m).units
        = m * (2 ^ unitPower : Nat) := units_ofInt_exact (by omega)
      _ < (m + 1) * (2 ^ unitPower : Nat) := Int.mul_lt_mul_of_pos_right (by omega) hunit
      _ = (ofInt (m + 1)).units := (units_ofInt_exact (by omega)).symm
      _ ≤ (ofInt n).units := units_ofInt_mono (by omega) hn h
  · -- the same from above
    calc (ofInt m).units
        ≤ (ofInt (n - 1)).units := units_ofInt_mono hm (by omega) (by omega)
      _ = (n - 1) * (2 ^ unitPower : Nat) := units_ofInt_exact (by omega)
      _ < n * (2 ^ unitPower : Nat) := Int.mul_lt_mul_of_pos_right (by omega) hunit
      _ = (ofInt n).units := (units_ofInt_exact (by omega)).symm
  · -- both move by 1024 at most, so they do not meet
    calc (ofInt m).units
        ≤ (m + 1024) * (2 ^ unitPower : Nat) := (units_ofInt_near hm).2
      _ < (n - 1024) * (2 ^ unitPower : Nat) := Int.mul_lt_mul_of_pos_right (by omega) hunit
      _ ≤ (ofInt n).units := (units_ofInt_near hn).1

end StoreQuery.FiniteDouble
