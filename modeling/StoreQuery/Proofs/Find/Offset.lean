import Mathlib.Data.List.Induction
import StoreQuery.Find.Collection

/-! # Offset tokens — the texts that name an offset, and no others

    A token travels as decimal text between a reader and the store.  The
    grammar of such texts is `Writes`: a numeral, with or without a plus
    sign.  A numeral grows at its end, one digit at a time, and with it the
    number it writes; so the induction that compares it with the digits
    that are read takes off the last digit.

    Reading accepts a text exactly when it writes a number that a word
    holds.  The digits that are printed for an offset are a numeral of it,
    so every printed offset is read back. -/

namespace StoreQuery.Find

/-! ## Numerals -/

/-- Decimal numerals and the numbers they write: a digit, or a numeral and one more digit.  Zeros
    may lead. -/
inductive Numeral : List Char → Nat → Prop where
  | digit {d : Nat} : d < 10 → Numeral [Nat.digitChar d] d
  | snoc {ds : List Char} {n d : Nat} :
      Numeral ds n → d < 10 → Numeral (ds ++ [Nat.digitChar d]) (10 * n + d)

/-- The texts that write an offset: numerals, with or without a plus sign. -/
inductive Writes : List Char → Nat → Prop where
  | bare {ds : List Char} {n : Nat} : Numeral ds n → Writes ds n
  | signed {ds : List Char} {n : Nat} : Numeral ds n → Writes ('+' :: ds) n

/-- A digit character is that of a number below ten. -/
theorem exists_digitChar {c : Char} (h : c.isDigit) : ∃ d < 10, c = Nat.digitChar d := by
  have hrange : 48 ≤ c.toNat ∧ c.toNat ≤ 57 := by
    simp only [Char.isDigit, Bool.and_eq_true, decide_eq_true_eq, ge_iff_le,
      UInt32.le_iff_toNat_le] at h
    exact h
  refine ⟨c.toNat - 48, by omega, ?_⟩
  apply Char.toNat_inj.mp
  rw [Nat.toNat_digitChar_of_lt_ten (by omega)]
  omega

/-- One more digit makes ten times the number and the digit. -/
theorem ofDigitChars_snoc (ds : List Char) {d : Nat} (hd : d < 10) :
    Nat.ofDigitChars 10 (ds ++ [Nat.digitChar d]) 0 = 10 * Nat.ofDigitChars 10 ds 0 + d := by
  rw [Nat.ofDigitChars_append, Nat.ofDigitChars_cons_digitChar_of_lt_ten hd, Nat.ofDigitChars_nil]

/-- Numerals are digits, one or more of them, and write the number that the digits have. -/
theorem numeral_iff {ds : List Char} {n : Nat} :
    Numeral ds n ↔ ds ≠ [] ∧ ds.all Char.isDigit ∧ Nat.ofDigitChars 10 ds 0 = n := by
  constructor
  · intro h
    induction h with
    | @digit d hd =>
      have hvalue := ofDigitChars_snoc [] hd
      exact ⟨List.cons_ne_nil _ _, by simp [hd], by simpa using hvalue⟩
    | @snoc ds n d _ hd ih =>
      obtain ⟨-, hdigits, rfl⟩ := ih
      refine ⟨by simp, ?_, ofDigitChars_snoc ds hd⟩
      rw [List.all_append, hdigits]
      simp [hd]
  · rintro ⟨hne, hdigits, rfl⟩
    -- numerals grow at their last digit, so the induction takes that one off
    induction ds using List.reverseRecOn with
    | nil => exact absurd rfl hne
    | append_singleton ds c ih =>
      rw [List.all_append, Bool.and_eq_true] at hdigits
      obtain ⟨d, hd, rfl⟩ := exists_digitChar (c := c) (by simpa using hdigits.2)
      rw [ofDigitChars_snoc ds hd]
      cases ds with
      | nil => simpa using Numeral.digit hd
      | cons first rest => exact .snoc (ih (List.cons_ne_nil _ _) hdigits.1) hd

/-- The digits of a number are a numeral of it. -/
theorem numeral_toDigits (n : Nat) : Numeral (Nat.toDigits 10 n) n := by
  refine numeral_iff.mpr ⟨Nat.toDigits_ne_nil, ?_, Nat.ofDigitChars_ten_toDigits⟩
  rw [List.all_eq_true]
  intro c hc
  exact Nat.isDigit_of_mem_toDigits (by decide) (by decide) hc

/-- A plus sign begins no numeral. -/
theorem not_numeral_plus {ds : List Char} {n : Nat} : ¬Numeral ('+' :: ds) n := by
  intro h
  have hdigits := (numeral_iff.mp h).2.1
  rw [List.all_cons, Bool.and_eq_true] at hdigits
  exact absurd hdigits.1 (by decide)

/-- The empty text writes no number. -/
theorem not_writes_nil {n : Nat} : ¬Writes [] n := by
  intro h
  cases h with
  | bare h => exact (numeral_iff.mp h).1 rfl

/-! ## Reading -/

/-- Digits are read as the word that they write. -/
theorem digitsToWord?_eq_some_iff {ds : List Char} {n : UInt64} :
    digitsToWord? ds = some n ↔ Numeral ds n.toNat := by
  rw [digitsToWord?, numeral_iff]
  constructor
  · intro h
    split at h
    · next hds =>
      obtain ⟨hne, hdigits, hlt⟩ := hds
      obtain rfl := Option.some.inj h
      exact ⟨hne, hdigits, (UInt64.toNat_ofNat_of_lt' hlt).symm⟩
    · exact absurd h.symm (Option.some_ne_none _)
  · rintro ⟨hne, hdigits, hvalue⟩
    rw [hvalue, if_pos ⟨hne, hdigits, n.toNat_lt⟩, UInt64.ofNat_toNat]

/-- A text is read as the word that it writes. -/
theorem wordOf?_eq_some_iff {cs : List Char} {n : UInt64} :
    wordOf? cs = some n ↔ Writes cs n.toNat := by
  constructor
  · intro h
    unfold wordOf? at h
    split at h
    · exact .signed (digitsToWord?_eq_some_iff.mp h)
    · exact .bare (digitsToWord?_eq_some_iff.mp h)
  · intro h
    cases h with
    | signed hds => exact digitsToWord?_eq_some_iff.mpr hds
    | bare hcs =>
      -- digits without a sign are not mistaken for signed ones
      unfold wordOf?
      split
      · exact absurd hcs not_numeral_plus
      · exact digitsToWord?_eq_some_iff.mpr hcs

/-- A token is empty, or names an offset, or is refused. -/
theorem parseOffset_cases (token : String) :
    (token = "" ∧ parseOffset token = .ok none)
      ∨ (∃ n, Writes token.toList n.toNat ∧ parseOffset token = .ok (some n))
      ∨ (token ≠ "" ∧ (∀ n : UInt64, ¬Writes token.toList n.toNat)
          ∧ parseOffset token = .error (.invalidToken token)) := by
  by_cases hempty : token = ""
  · exact Or.inl ⟨hempty, if_pos hempty⟩
  · rw [parseOffset, if_neg hempty]
    cases hword : wordOf? token.toList with
    | some n => exact Or.inr (Or.inl ⟨n, wordOf?_eq_some_iff.mp hword, rfl⟩)
    | none =>
      refine Or.inr (Or.inr ⟨hempty, ?_, rfl⟩)
      intro n hn
      rw [wordOf?_eq_some_iff.mpr hn] at hword
      exact Option.some_ne_none n hword

/-- Only the empty token has no offset. -/
theorem parseOffset_eq_none_iff {token : String} : parseOffset token = .ok none ↔ token = "" := by
  constructor
  · intro h
    rcases parseOffset_cases token with ⟨hempty, -⟩ | ⟨n, -, hsome⟩ | ⟨-, -, hrefused⟩
    · exact hempty
    · rw [hsome] at h
      cases h
    · rw [hrefused] at h
      cases h
  · rintro rfl
    rfl

/-- A token names the offset that it writes. -/
theorem parseOffset_eq_some_iff {token : String} {n : UInt64} :
    parseOffset token = .ok (some n) ↔ Writes token.toList n.toNat := by
  constructor
  · intro h
    rcases parseOffset_cases token with ⟨-, hnone⟩ | ⟨m, hm, hsome⟩ | ⟨-, -, hrefused⟩
    · rw [hnone] at h
      cases h
    · rw [hsome] at h
      cases h
      exact hm
    · rw [hrefused] at h
      cases h
  · intro h
    have hempty : token ≠ "" := by
      rintro rfl
      exact not_writes_nil h
    rw [parseOffset, if_neg hempty, wordOf?_eq_some_iff.mpr h]

/-- The tokens that are refused are those that write no word. -/
theorem parseOffset_eq_error_iff {token : String} :
    parseOffset token = .error (.invalidToken token)
      ↔ token ≠ "" ∧ ¬∃ n : Nat, n < 2 ^ 64 ∧ Writes token.toList n := by
  constructor
  · intro h
    rcases parseOffset_cases token with ⟨-, hnone⟩ | ⟨m, -, hsome⟩ | ⟨hne, hnot, -⟩
    · rw [hnone] at h
      cases h
    · rw [hsome] at h
      cases h
    · refine ⟨hne, ?_⟩
      rintro ⟨n, hlt, hn⟩
      refine hnot (UInt64.ofNat n) ?_
      rwa [UInt64.toNat_ofNat_of_lt' hlt]
  · rintro ⟨hne, hnot⟩
    rcases parseOffset_cases token with ⟨hempty, -⟩ | ⟨n, hn, -⟩ | ⟨-, -, hrefused⟩
    · exact absurd hempty hne
    · exact absurd ⟨n.toNat, n.toNat_lt, hn⟩ hnot
    · exact hrefused

/-! ## Printing -/

/-- The token of an offset is read back as that offset. -/
theorem parseOffset_offsetToken (n : UInt64) : parseOffset (offsetToken n) = .ok (some n) := by
  rw [parseOffset_eq_some_iff, offsetToken, Nat.toString_eq_ofList_toDigits, String.toList_ofList]
  exact .bare (numeral_toDigits n.toNat)

/-- The token that a page carries is read as the offset behind the page, and the empty token of a
    page without a limit as none. -/
theorem parseOffset_next (docs : List Json) (r : Request) (skip : UInt64) :
    parseOffset (Collection.page docs r skip).next
      = .ok (r.options.limit.map fun _ =>
          Collection.nextOffset skip (Collection.page docs r skip).records.length) := by
  cases hlimit : r.options.limit with
  | none =>
    rw [Collection.page, hlimit]
    rfl
  | some limit =>
    rw [Collection.page, hlimit]
    exact parseOffset_offsetToken _

/-- A token is read as no offset if it is empty, as the offset that it writes, leading zeros and a
    plus sign allowed, if a word holds that, and is refused otherwise.  The decimal text of every
    word is read back, and so is the token of every page. -/
theorem parseOffset_accepts_exactly_numerals :
    (∀ token : String,
      (parseOffset token = .ok none ↔ token = "")
      ∧ (∀ n : UInt64, parseOffset token = .ok (some n) ↔ Writes token.toList n.toNat)
      ∧ (parseOffset token = .error (.invalidToken token)
          ↔ token ≠ "" ∧ ¬∃ n : Nat, n < 2 ^ 64 ∧ Writes token.toList n))
    ∧ (∀ n : UInt64, parseOffset (toString n.toNat) = .ok (some n))
    ∧ ∀ (docs : List Json) (r : Request) (skip : UInt64),
        parseOffset (Collection.page docs r skip).next
          = .ok (r.options.limit.map fun _ =>
              Collection.nextOffset skip (Collection.page docs r skip).records.length) :=
  ⟨fun _ => ⟨parseOffset_eq_none_iff, fun _ => parseOffset_eq_some_iff, parseOffset_eq_error_iff⟩,
    parseOffset_offsetToken, parseOffset_next⟩

end StoreQuery.Find
