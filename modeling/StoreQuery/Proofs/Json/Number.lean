import StoreQuery.Json.Printer
import StoreQuery.Json.Reader

/-! # Numbers read back

    Every number that is written as JSON text is read as itself.  The text
    of a number is the text of a literal, and a literal is scanned from its
    own text whatever follows, as long as that cannot continue a number.

    For integers the literal denotes the integer.  For doubles it denotes a
    decimal of the same value as the shortest one that reads back: either
    the very same decimal, or, when zeros fill the places up to the point,
    one with more digits and a smaller exponent.  Rounding does not see the
    difference. -/

namespace StoreQuery

/-! ## Rounding sees ratios only -/

namespace FiniteDouble

/-- Rounding a quotient does not change when both parts are multiplied alike. -/
theorem roundDiv_mul_mul (num den : Nat) {k : Nat} (hk : 0 < k) :
    roundDiv (num * k) (den * k) = roundDiv num den := by
  have hlow : 2 * (num % den * k) < den * k ↔ 2 * (num % den) < den := by
    rw [← Nat.mul_assoc, Nat.mul_lt_mul_right hk]
  have hhigh : den * k < 2 * (num % den * k) ↔ den < 2 * (num % den) := by
    rw [← Nat.mul_assoc, Nat.mul_lt_mul_right hk]
  simp only [roundDiv, Nat.mul_div_mul_right _ _ hk, Nat.mul_mod_mul_right, hlow, hhigh]

/-- The double nearest to a ratio depends on the ratio only. -/
theorem nearest?_mul_mul (negative : Bool) (num den : Nat) {k : Nat} (hk : 0 < k) :
    nearest? negative (num * k) (den * k) = nearest? negative num den := by
  simp only [nearest?, Nat.mul_div_mul_right _ _ hk, Nat.mul_right_comm den k,
    roundDiv_mul_mul _ _ hk]

end FiniteDouble

/-- A decimal keeps its double when its exponent is spelled out in zeros, and one more zero behind
    the point. -/
theorem Decimal.toDouble?_spelled_out (negative : Bool) (digits : Nat) {k : Nat}
    (hk : (k : Int) ≤ Decimal.horizon) :
    Decimal.toDouble? ⟨negative, digits * 10 ^ (k + 1), -1⟩
      = Decimal.toDouble? ⟨negative, digits, k⟩ := by
  by_cases hd : digits = 0
  · subst hd
    simp [Decimal.toDouble?]
  · have hd' : digits * 10 ^ (k + 1) ≠ 0 :=
      Nat.mul_ne_zero hd (Nat.ne_of_gt (Nat.pow_pos (by decide)))
    -- both exponents lie within the horizon, so neither decimal is cut off before it is rounded
    have hnear : ∀ e : Int, -1 ≤ e → e ≤ Decimal.horizon → ∀ n : Nat,
        ¬Decimal.horizon < e ∧ ¬e + n + 1 < -Decimal.horizon := by
      intro e hlow hhigh n
      simp only [Decimal.horizon] at hhigh ⊢
      omega
    have hleft := hnear (-1) (by decide) (by decide) (digits * 10 ^ (k + 1)).log2
    have hright := hnear k (by omega) hk digits.log2
    simp only [Decimal.toDouble?, hd, hd', if_false, hleft.1, hleft.2, hright.1, hright.2]
    have hnum : digits * 10 ^ (k + 1) * 10 ^ (-1 : Int).toNat * 2 ^ FiniteDouble.unitPower
        = digits * 10 ^ (k : Int).toNat * 2 ^ FiniteDouble.unitPower * 10 := by
      generalize 2 ^ FiniteDouble.unitPower = unit
      rw [show (-1 : Int).toNat = 0 from rfl, Int.toNat_natCast, Nat.pow_succ, Nat.pow_zero]
      ac_rfl
    have hden : 10 ^ (- -1 : Int).toNat = 10 ^ (-(k : Int)).toNat * 10 := by
      rw [show (-(k : Int)).toNat = 0 by omega]
      rfl
    rw [hnum, hden]
    exact FiniteDouble.nearest?_mul_mul _ _ _ (by decide)

namespace Json

/-! ## Literals -/

/-- A text that does not continue a number in front of it. -/
def EndsNumber (rest : List Char) : Prop :=
  ∀ c ∈ rest.head?, c.isDigit = false ∧ c ≠ '.' ∧ c ≠ 'e' ∧ c ≠ 'E'

/-- A text that does not begin with a digit. -/
def NoDigit (rest : List Char) : Prop :=
  ∀ c ∈ rest.head?, c.isDigit = false

/-- What does not continue a number does not begin with a digit. -/
theorem EndsNumber.noDigit {rest : List Char} (h : EndsNumber rest) : NoDigit rest :=
  fun c hc => (h c hc).1

/-- Digits are scanned up to a text that does not begin with one. -/
theorem scanDigits_append {ds rest : List Char} (hne : ds ≠ []) (hds : ∀ c ∈ ds, c.isDigit)
    (hrest : NoDigit rest) : scanDigits (ds ++ rest) = .ok (ds, rest) := by
  have htake : (ds ++ rest).takeWhile Char.isDigit = ds := by
    rw [List.takeWhile_append_of_pos hds]
    cases rest with
    | nil => simp
    | cons c rest => simp [hrest c rfl]
  have hdrop : (ds ++ rest).dropWhile Char.isDigit = rest := by
    rw [List.dropWhile_append_of_pos hds]
    cases rest with
    | nil => rfl
    | cons c rest => simp [hrest c rfl]
  unfold scanDigits
  rw [htake, hdrop]
  cases ds with
  | nil => exact absurd rfl hne
  | cons d ds => rfl

namespace Literal

/-- A literal that the grammar can write: digits throughout, at least one before the point, and
    none behind a leading zero there. -/
structure Proper (l : Literal) : Prop where
  whole_ne : l.whole ≠ []
  whole_digits : ∀ c ∈ l.whole, c.isDigit
  whole_lead : l.whole.head? = some '0' → l.whole = ['0']
  fraction_digits : ∀ c ∈ l.fraction, c.isDigit
  exponent_digits : ∀ c ∈ l.exponent, c.isDigit
  exponent_sign : l.exponent = [] → l.exponentNegative = false

/-- The point and the digits behind it, nothing if there are none. -/
def fractionChars (l : Literal) : List Char :=
  if l.fraction = [] then [] else '.' :: l.fraction

/-- The exponent with its mark and its sign, nothing if there is none. -/
def exponentChars (l : Literal) : List Char :=
  if l.exponent = [] then []
  else 'e' :: (if l.exponentNegative then '-' else '+') :: l.exponent

/-- The text of a literal. -/
def chars (l : Literal) : List Char :=
  (if l.negative then ['-'] else []) ++ l.whole ++ l.fractionChars ++ l.exponentChars

/-- What follows the digits before the point begins with no digit. -/
theorem noDigit_behind_whole (l : Literal) {rest : List Char} (h : EndsNumber rest) :
    NoDigit (l.fractionChars ++ (l.exponentChars ++ rest)) := by
  unfold fractionChars exponentChars
  split
  · split
    · exact h.noDigit
    · rintro c ⟨⟩; rfl
  · rintro c ⟨⟩; rfl

/-- What follows the digits behind the point begins with no digit. -/
theorem noDigit_behind_fraction (l : Literal) {rest : List Char} (h : EndsNumber rest) :
    NoDigit (l.exponentChars ++ rest) := by
  unfold exponentChars
  split
  · exact h.noDigit
  · rintro c ⟨⟩; rfl

/-- The sign is scanned off the front. -/
theorem scanSign_chars {l : Literal} (hl : l.Proper) (rest : List Char) :
    scanSign (l.chars ++ rest)
      = (l.negative, l.whole ++ (l.fractionChars ++ (l.exponentChars ++ rest))) := by
  obtain ⟨d, ds, hw⟩ := List.exists_cons_of_ne_nil hl.whole_ne
  have hd : d.isDigit := hl.whole_digits d (by rw [hw]; exact List.mem_cons_self)
  simp only [chars, List.append_assoc]
  cases l.negative with
  | true => rfl
  | false =>
    -- without a sign the first character is a digit
    rw [hw]
    unfold scanSign
    split
    · next heq =>
      have : d = '-' := (List.cons.inj heq).1
      subst this
      exact absurd hd (by decide)
    · rfl

/-- The digits before the point are scanned. -/
theorem scanWhole_chars {l : Literal} (hl : l.Proper) {rest : List Char} (h : EndsNumber rest) :
    scanWhole (l.whole ++ (l.fractionChars ++ (l.exponentChars ++ rest)))
      = .ok (l.whole, l.fractionChars ++ (l.exponentChars ++ rest)) := by
  unfold scanWhole
  rw [scanDigits_append hl.whole_ne hl.whole_digits (l.noDigit_behind_whole h)]
  simp only [bind, Except.bind]
  split
  · next d ds hw =>
    have hlead := hl.whole_lead (by rw [hw]; rfl)
    rw [hw] at hlead
    exact nomatch hlead
  · rfl

/-- The digits behind the point are scanned, or their absence is seen. -/
theorem scanFraction_chars {l : Literal} (hl : l.Proper) {rest : List Char} (h : EndsNumber rest) :
    scanFraction (l.fractionChars ++ (l.exponentChars ++ rest))
      = .ok (l.fraction, l.exponentChars ++ rest) := by
  unfold fractionChars
  split
  · next hf =>
    rw [hf, List.nil_append]
    unfold scanFraction
    split
    · next tail heq =>
      -- a point can only come from `rest`, and `rest` has none at its front
      unfold exponentChars at heq
      split at heq
      · rw [List.nil_append] at heq
        exact absurd rfl (h '.' (by rw [heq]; rfl)).2.1
      · exact absurd (List.cons.inj heq).1 (by decide)
    · rfl
  · next hf =>
    exact scanDigits_append hf hl.fraction_digits (l.noDigit_behind_fraction h)

/-- The exponent is scanned, or its absence is seen. -/
theorem scanExponent_chars {l : Literal} (hl : l.Proper) {rest : List Char} (h : EndsNumber rest) :
    scanExponent (l.exponentChars ++ rest) = .ok ((l.exponentNegative, l.exponent), rest) := by
  unfold exponentChars
  split
  · next he =>
    rw [he, hl.exponent_sign he, List.nil_append]
    cases rest with
    | nil => rfl
    | cons c rest =>
      have hc := h c rfl
      simp only [scanExponent, hc.2.2.1, hc.2.2.2, or_self, if_false]
  · next he =>
    have hscan := scanDigits_append he hl.exponent_digits h.noDigit
    cases l.exponentNegative with
    | true =>
      simp only [scanExponent, List.cons_append, true_or, if_true, hscan]
      rfl
    | false =>
      simp only [scanExponent, List.cons_append, true_or, if_true, Bool.false_eq_true, if_false,
        hscan]
      rfl

/-- A proper literal is scanned from its own text. -/
theorem scanLiteral_chars {l : Literal} (hl : l.Proper) {rest : List Char} (h : EndsNumber rest) :
    scanLiteral (l.chars ++ rest) = .ok (l, rest) := by
  unfold scanLiteral
  simp only [scanSign_chars hl, scanWhole_chars hl h, bind, Except.bind, scanFraction_chars hl h,
    scanExponent_chars hl h]

/-- A proper literal is read as the number it denotes. -/
theorem readNumber_chars {l : Literal} (hl : l.Proper) {n : Number} (hn : l.toNumber? = some n)
    {rest : List Char} (h : EndsNumber rest) : readNumber (l.chars ++ rest) = .ok (n, rest) := by
  unfold readNumber
  rw [scanLiteral_chars hl h]
  simp only [hn]

end Literal

/-! ## Digits -/

/-- Decimal digits are digits. -/
theorem isDigit_of_mem_digits {n : Nat} {c : Char} (h : c ∈ Nat.toDigits 10 n) : c.isDigit :=
  Nat.isDigit_of_mem_toDigits (by decide) (by decide) h

/-- Only zero begins with the digit zero. -/
theorem eq_zero_of_head_digits (n : Nat) (h : (Nat.toDigits 10 n).head? = some '0') : n = 0 := by
  induction n using Nat.strongRecOn with
  | ind n ih =>
    by_cases hlt : n < 10
    · rw [Nat.toDigits_of_lt_base hlt] at h
      exact Nat.digitChar_eq_zero.mp (Option.some.inj h)
    · -- a number of two digits or more begins like its tenth part
      obtain ⟨d, ds, hq⟩ := List.exists_cons_of_ne_nil (Nat.toDigits_ne_nil (b := 10) (n := n / 10))
      rw [Nat.toDigits_of_base_le (by decide) (by omega), hq] at h
      have := ih (n / 10) (by omega) (by rw [hq]; exact h)
      omega

/-- The digits of a number have no leading zero. -/
theorem digits_lead (n : Nat) (h : (Nat.toDigits 10 n).head? = some '0') :
    Nat.toDigits 10 n = ['0'] := by
  rw [eq_zero_of_head_digits n h, Nat.toDigits_zero]

/-! ## Integers -/

/-- The literal of an integer. -/
def integerLiteral (n : Int) : Literal where
  negative := decide (n < 0)
  whole := Nat.toDigits 10 n.natAbs
  fraction := []
  exponentNegative := false
  exponent := []

theorem integerLiteral_proper (n : Int) : (integerLiteral n).Proper where
  whole_ne := Nat.toDigits_ne_nil
  whole_digits _ := isDigit_of_mem_digits
  whole_lead := digits_lead n.natAbs
  fraction_digits _ h := nomatch h
  exponent_digits _ h := nomatch h
  exponent_sign _ := rfl

theorem integerLiteral_chars (n : Int) : (integerLiteral n).chars = integerChars n := by
  unfold integerChars Literal.chars
  by_cases hn : n < 0
  · simp [integerLiteral, Literal.fractionChars, Literal.exponentChars, hn]
  · simp [integerLiteral, Literal.fractionChars, Literal.exponentChars, hn]

/-- The literal of an integer denotes it. -/
theorem integerLiteral_toNumber? (n : Integer) :
    (integerLiteral n.val).toNumber? = some (.int n) := by
  have hvalue : digitsValue (integerLiteral n.val).whole = n.val.natAbs :=
    Nat.ofDigitChars_ten_toDigits
  have hguard : ¬((integerLiteral n.val).negative = true ∧ n.val.natAbs = 0) := by
    simp only [integerLiteral, decide_eq_true_eq]
    omega
  have hsigned : (if (integerLiteral n.val).negative = true then -(n.val.natAbs : Int)
      else n.val.natAbs) = n.val := by
    simp only [integerLiteral, decide_eq_true_eq]
    split <;> omega
  have hint : (integerLiteral n.val).toInteger? = some n := by
    simp only [Literal.toInteger?, hvalue, hsigned]
    rw [if_pos ⟨rfl, rfl, hguard⟩, Integer.ofInt?, dif_pos ⟨n.low, n.high⟩]
  simp only [Literal.toNumber?, hint]

/-! ## Doubles -/

/-- A literal with a fraction or an exponent denotes the double of its decimal. -/
theorem Literal.toNumber?_of_toDecimal {l : Literal} {d : FiniteDouble}
    (h : l.fraction ≠ [] ∨ l.exponent ≠ []) (hd : l.toDecimal.toDouble? = some d) :
    l.toNumber? = some (.double d) := by
  have hint : l.toInteger? = none := by
    unfold Literal.toInteger?
    rw [if_neg]
    rintro ⟨hf, he, -⟩
    exact h.elim (· hf) (· he)
  simp only [Literal.toNumber?, hint, hd, Option.map_some]

/-- Zeros in front do not change what digits are worth. -/
theorem digitsValue_zeros_append (k : Nat) (ds : List Char) :
    digitsValue (List.replicate k '0' ++ ds) = digitsValue ds := by
  simp only [digitsValue, Nat.ofDigitChars_append, Nat.ofDigitChars_replicate_zero, Nat.mul_zero]

/-- Zeros behind shift what digits are worth. -/
theorem digitsValue_append_zeros (ds : List Char) (k : Nat) :
    digitsValue (ds ++ List.replicate k '0') = digitsValue ds * 10 ^ k := by
  simp only [digitsValue, Nat.ofDigitChars_append, Nat.ofDigitChars_replicate_zero, Nat.mul_comm]

/-- A text denotes a decimal when it is the text of a literal, not an integer, that has the same
    double. -/
def Denotes (cs : List Char) (x : Decimal) : Prop :=
  ∃ l : Literal, l.Proper ∧ l.chars = cs ∧ (l.fraction ≠ [] ∨ l.exponent ≠ [])
    ∧ l.toDecimal.toDouble? = x.toDouble?

/-- The sign of a decimal as text. -/
def signChars (x : Decimal) : List Char :=
  if x.negative then ['-'] else []

/-- Digits on both sides of a point denote a decimal whose double they have. -/
theorem denotes_point {x : Decimal} {whole fraction : List Char} (hne : whole ≠ [])
    (hwhole : ∀ c ∈ whole, c.isDigit) (hlead : whole.head? = some '0' → whole = ['0'])
    (hfne : fraction ≠ []) (hfraction : ∀ c ∈ fraction, c.isDigit)
    (hdouble : Decimal.toDouble? ⟨x.negative, digitsValue (whole ++ fraction), -fraction.length⟩
      = x.toDouble?) :
    Denotes (signChars x ++ (whole ++ '.' :: fraction)) x := by
  refine ⟨⟨x.negative, whole, fraction, false, []⟩, ?_, ?_, Or.inl hfne, ?_⟩
  · exact ⟨hne, hwhole, hlead, hfraction, fun c hc => (nomatch hc), fun _ => rfl⟩
  · simp only [Literal.chars, signChars, Literal.fractionChars, Literal.exponentChars, if_neg hfne,
      if_true, List.append_nil, List.append_assoc]
  · rw [← hdouble]
    simp [Literal.toDecimal, digitsValue]

/-- A digit, the digits behind the point and an exponent denote a decimal that they spell. -/
theorem denotes_scientific {x : Decimal} {d : Char} {ds : List Char} {e : Int}
    (hdigits : ∀ c ∈ d :: ds, c.isDigit) (hvalue : digitsValue (d :: ds) = x.digits)
    (he : e = x.exponent + ds.length) :
    Denotes (signChars x ++ Layout.json.scientificText (d :: ds) e) x := by
  have hexp : digitsValue (Nat.toDigits 10 e.natAbs) = e.natAbs := Nat.ofDigitChars_ten_toDigits
  refine ⟨⟨x.negative, [d], ds, decide (e < 0), Nat.toDigits 10 e.natAbs⟩, ?_, ?_,
    Or.inr Nat.toDigits_ne_nil, ?_⟩
  · constructor
    · exact List.cons_ne_nil _ _
    · intro c hc
      exact hdigits c (List.mem_singleton.mp hc ▸ List.mem_cons_self)
    · intro h
      rw [Option.some.inj h]
    · intro c hc
      exact hdigits c (List.mem_cons_of_mem d hc)
    · intro c hc
      exact isDigit_of_mem_digits hc
    · intro h
      exact absurd h Nat.toDigits_ne_nil
  · simp only [Literal.chars, Literal.fractionChars, Literal.exponentChars, Layout.scientificText,
      signChars, if_neg (Nat.toDigits_ne_nil (b := 10) (n := e.natAbs))]
    by_cases hneg : e < 0
    · cases ds with
      | nil => simp [hneg]
      | cons c ds => simp [hneg]
    · cases ds with
      | nil => simp [hneg, Layout.json]
      | cons c ds => simp [hneg, Layout.json]
  · -- the digits and the exponent are the decimal's own
    have hdec : Literal.toDecimal ⟨x.negative, [d], ds, decide (e < 0), Nat.toDigits 10 e.natAbs⟩
        = x := by
      obtain ⟨negative, digits, exponent⟩ := x
      simp only [Literal.toDecimal, List.singleton_append, hvalue, hexp, decide_eq_true_eq]
      simp only at he
      congr 1
      split <;> omega
    rw [hdec]

/-- A decimal below one: zeros stand between the point and the digits. -/
theorem denotes_small {x : Decimal} {e : Int}
    (he : e = x.exponent + ((Nat.toDigits 10 x.digits).length - 1 : Nat)) (hneg : e < 0) :
    Denotes (signChars x ++ ('0' :: '.' :: (List.replicate (-e - 1).toNat '0'
      ++ Nat.toDigits 10 x.digits))) x := by
  have hpos : 0 < (Nat.toDigits 10 x.digits).length := Nat.length_toDigits_pos
  -- zeros in front of the digits leave their value, and count as places behind the point
  refine denotes_point (List.cons_ne_nil '0' []) ?_ (fun _ => rfl) ?_ ?_ ?_
  · intro c hc
    rw [List.mem_singleton.mp hc]
    rfl
  · intro h
    exact Nat.toDigits_ne_nil (List.append_eq_nil_iff.mp h).2
  · intro c hc
    rcases List.mem_append.mp hc with hc | hc
    · rw [List.eq_of_mem_replicate hc]
      rfl
    · exact isDigit_of_mem_digits hc
  · rw [show ['0'] = List.replicate 1 '0' from rfl, digitsValue_zeros_append,
      digitsValue_zeros_append, digitsValue, Nat.ofDigitChars_ten_toDigits, List.length_append,
      List.length_replicate,
      show -(((-e - 1).toNat + (Nat.toDigits 10 x.digits).length : Nat) : Int) = x.exponent by
        omega]

/-- A whole decimal: zeros fill the places up to the point. -/
theorem denotes_whole {x : Decimal} {k : Nat} (he : x.exponent = k)
    (hk : (k : Int) ≤ Decimal.horizon) (hzero : x.digits = 0 → x.exponent = 0) :
    Denotes (signChars x ++ (Nat.toDigits 10 x.digits ++ List.replicate k '0' ++ ['.', '0']))
      x := by
  refine denotes_point ?_ ?_ ?_ (List.cons_ne_nil '0' []) ?_ ?_
  · intro h
    exact Nat.toDigits_ne_nil (List.append_eq_nil_iff.mp h).1
  · intro c hc
    rcases List.mem_append.mp hc with hc | hc
    · exact isDigit_of_mem_digits hc
    · rw [List.eq_of_mem_replicate hc]
      rfl
  · -- a leading zero means the number zero, which no zeros follow
    intro h
    obtain ⟨d, ds, hds⟩ :=
      List.exists_cons_of_ne_nil (Nat.toDigits_ne_nil (b := 10) (n := x.digits))
    have hd : x.digits = 0 := by
      refine eq_zero_of_head_digits x.digits ?_
      rw [hds] at h ⊢
      exact h
    have hk0 : k = 0 := by
      have := hzero hd
      omega
    rw [hd, hk0, Nat.toDigits_zero]
    rfl
  · intro c hc
    rw [List.mem_singleton.mp hc]
    rfl
  · have hdigits : digitsValue (Nat.toDigits 10 x.digits ++ List.replicate k '0' ++ ['0'])
        = x.digits * 10 ^ (k + 1) := by
      rw [List.append_assoc, show List.replicate k '0' ++ ['0'] = List.replicate (k + 1) '0' from
        List.replicate_succ'.symm, digitsValue_append_zeros, digitsValue,
        Nat.ofDigitChars_ten_toDigits]
    rw [hdigits]
    obtain ⟨negative, digits, exponent⟩ := x
    subst he
    exact Decimal.toDouble?_spelled_out _ _ hk

/-- A decimal with the point among its digits. -/
theorem denotes_split {x : Decimal} {n : Nat} (hn : 0 < n)
    (hlen : n < (Nat.toDigits 10 x.digits).length)
    (he : x.exponent = n - (Nat.toDigits 10 x.digits).length) :
    Denotes (signChars x ++ ((Nat.toDigits 10 x.digits).take n
      ++ '.' :: (Nat.toDigits 10 x.digits).drop n)) x := by
  refine denotes_point ?_ ?_ ?_ ?_ ?_ ?_
  · intro h
    have := congrArg List.length h
    rw [List.length_take, List.length_nil] at this
    omega
  · intro c hc
    exact isDigit_of_mem_digits (List.mem_of_mem_take hc)
  · -- zero has one digit, and here there are more
    intro h
    have hhead : (Nat.toDigits 10 x.digits).head? = some '0' := by
      rwa [List.head?_take, if_neg (by omega)] at h
    rw [digits_lead x.digits hhead] at hlen
    exact absurd hlen (by simp; omega)
  · intro h
    have := congrArg List.length h
    rw [List.length_drop, List.length_nil] at this
    omega
  · intro c hc
    exact isDigit_of_mem_digits (List.mem_of_mem_drop hc)
  · rw [List.take_append_drop, digitsValue, Nat.ofDigitChars_ten_toDigits, List.length_drop,
      show -(((Nat.toDigits 10 x.digits).length - n : Nat) : Int) = x.exponent by omega]

/-- A decimal set out positionally denotes itself. -/
theorem denotes_positional {x : Decimal} {e : Int}
    (he : e = x.exponent + ((Nat.toDigits 10 x.digits).length - 1 : Nat)) (hmax : e ≤ 15)
    (hzero : x.digits = 0 → x.exponent = 0) :
    Denotes (signChars x ++ Layout.json.positionalText (Nat.toDigits 10 x.digits) e) x := by
  have hpos : 0 < (Nat.toDigits 10 x.digits).length := Nat.length_toDigits_pos
  unfold Layout.positionalText
  by_cases hneg : e < 0
  · rw [if_pos hneg]
    exact denotes_small he hneg
  · rw [if_neg hneg]
    by_cases hlen : (Nat.toDigits 10 x.digits).length ≤ e.toNat + 1
    · simp only [if_pos hlen]
      refine denotes_whole (by omega) ?_ hzero
      show _ ≤ (400 : Int)
      omega
    · simp only [if_neg hlen]
      exact denotes_split (by omega) (by omega) (by omega)

/-- Only zero has a shortest decimal without digits, and that has no exponent. -/
theorem shortest_exponent_of_digits (tie : Tie) (d : FiniteDouble)
    (h : (d.shortest tie).digits = 0) : (d.shortest tie).exponent = 0 := by
  have hread := FiniteDouble.toDouble?_shortest tie d
  rw [Decimal.toDouble?, if_pos h] at hread
  have hmag : d.magnitude = 0 := by
    rw [← Option.some.inj hread]
    rfl
  rw [FiniteDouble.shortest, if_pos hmag]

/-- The text of a double denotes its shortest decimal. -/
theorem denotes_json (d : FiniteDouble) : Denotes (Layout.json.chars d) (d.shortest .toEven) := by
  generalize hx : d.shortest .toEven = x
  have hzero : x.digits = 0 → x.exponent = 0 := hx ▸ shortest_exponent_of_digits .toEven d
  have htext : Layout.json.chars d = signChars x
      ++ if Layout.json.positional (x.exponent + ((Nat.toDigits 10 x.digits).length - 1 : Nat))
        then Layout.json.positionalText (Nat.toDigits 10 x.digits)
          (x.exponent + ((Nat.toDigits 10 x.digits).length - 1 : Nat))
        else Layout.json.scientificText (Nat.toDigits 10 x.digits)
          (x.exponent + ((Nat.toDigits 10 x.digits).length - 1 : Nat)) := by
    rw [← hx]
    rfl
  rw [htext]
  split
  · next hp =>
    -- positional text is used up to the exponent fifteen, far within the horizon
    refine denotes_positional rfl ?_ hzero
    simp only [Layout.json, Bool.and_eq_true, decide_eq_true_eq] at hp
    exact hp.2
  · obtain ⟨c, cs, hds⟩ :=
      List.exists_cons_of_ne_nil (Nat.toDigits_ne_nil (b := 10) (n := x.digits))
    rw [hds]
    refine denotes_scientific ?_ ?_ rfl
    · intro c' hc'
      exact isDigit_of_mem_digits (hds ▸ hc')
    · rw [← hds]
      exact Nat.ofDigitChars_ten_toDigits

/-! ## Numbers -/

/-- Every number is read back from its text. -/
theorem readNumber_numberChars (n : Number) {rest : List Char} (h : EndsNumber rest) :
    readNumber (numberChars n ++ rest) = .ok (n, rest) := by
  cases n with
  | int n =>
    rw [numberChars, ← integerLiteral_chars]
    exact Literal.readNumber_chars (integerLiteral_proper n.val) (integerLiteral_toNumber? n) h
  | double d =>
    obtain ⟨l, hl, hchars, hkind, hdouble⟩ := denotes_json d
    rw [FiniteDouble.toDouble?_shortest] at hdouble
    rw [numberChars, ← hchars]
    exact Literal.readNumber_chars hl (Literal.toNumber?_of_toDecimal hkind hdouble) h

/-- The text of a number begins with a minus sign or a digit. -/
theorem exists_numberChars_cons (n : Number) :
    ∃ c cs, numberChars n = c :: cs ∧ (c = '-' ∨ c.isDigit) := by
  have hproper : ∃ l : Literal, l.Proper ∧ l.chars = numberChars n := by
    cases n with
    | int n => exact ⟨_, integerLiteral_proper n.val, integerLiteral_chars n.val⟩
    | double d =>
      obtain ⟨l, hl, hchars, -⟩ := denotes_json d
      exact ⟨l, hl, hchars⟩
  obtain ⟨l, hl, hchars⟩ := hproper
  obtain ⟨d, ds, hw⟩ := List.exists_cons_of_ne_nil hl.whole_ne
  have hd : d.isDigit := hl.whole_digits d (by rw [hw]; exact List.mem_cons_self)
  rw [← hchars, Literal.chars, hw]
  cases l.negative with
  | true => exact ⟨'-', _, rfl, Or.inl rfl⟩
  | false => exact ⟨d, _, rfl, Or.inr hd⟩

end Json

end StoreQuery
