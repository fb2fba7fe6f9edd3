import Mathlib.Data.List.DropRight
import Mathlib.Data.Nat.Cast.Field
import Mathlib.Data.Rat.Lemmas
import Mathlib.Algebra.Order.Field.Rat
import Mathlib.Tactic.FieldSimp
import Mathlib.Tactic.Positivity
import Mathlib.Tactic.Ring
import LightningGoats.Foundation.Text
import LightningGoats.Foundation.Codec

/-! # Decimal texts

An unsigned decimal is a row of digits, with a second row after a point if it
has one. Its value is a rational number, whatever zeros it starts or ends with.
-/

namespace Decimal

def digitsValue (digits : List Char) : Nat :=
  Nat.ofDigitChars 10 digits 0

theorem digitsValue_append (left right : List Char) :
    digitsValue (left ++ right) = digitsValue left * 10 ^ right.length + digitsValue right := by
  rw [digitsValue, Nat.ofDigitChars_append, Nat.ofDigitChars_eq_ofDigitChars_zero, Nat.mul_comm]
  rfl

theorem digitsValue_toDigits (number : Nat) :
    digitsValue (Nat.toDigits 10 number) = number :=
  Nat.ofDigitChars_ten_toDigits

theorem digitsValue_replicate_zero (count : Nat) :
    digitsValue (List.replicate count '0') = 0 := by
  simp [digitsValue]

theorem digitsValue_padded (count : Nat) (digits : List Char) :
    digitsValue (List.replicate count '0' ++ digits) = digitsValue digits := by
  rw [digitsValue_append, digitsValue_replicate_zero, Nat.zero_mul, Nat.zero_add]

theorem digit_lt {character : Char} (isDigit : character.isDigit = true) :
    character.toNat - '0'.toNat < 10 := by
  simp only [Char.isDigit, Bool.and_eq_true, decide_eq_true_eq, ge_iff_le,
    UInt32.le_iff_toNat_le] at isDigit
  have high : character.toNat ≤ 57 := isDigit.2
  have zero : '0'.toNat = 48 := rfl
  omega

theorem utf8Size_of_isDigit {character : Char} (isDigit : character.isDigit = true) :
    character.utf8Size = 1 := by
  simp only [Char.isDigit, Bool.and_eq_true, decide_eq_true_eq, ge_iff_le,
    UInt32.le_iff_toNat_le] at isDigit
  have high : character.val.toNat ≤ 57 := isDigit.2
  rw [Char.utf8Size, if_pos]
  exact UInt32.le_iff_toNat_le.mpr (Nat.le_trans high (by decide))

theorem utf8ByteSize_digits {text : String}
    (allDigits : ∀ character ∈ text.toList, character.isDigit = true) :
    text.utf8ByteSize = text.toList.length :=
  Text.utf8ByteSize_eq_length fun character member =>
    utf8Size_of_isDigit (allDigits character member)

theorem digitsValue_lt {digits : List Char}
    (allDigits : ∀ character ∈ digits, character.isDigit = true) :
    digitsValue digits < 10 ^ digits.length := by
  induction digits using List.reverseRecOn with
  | nil => simp [digitsValue]
  | append_singleton digits last induction =>
      have small := digit_lt (allDigits last (by simp))
      have earlier := induction fun character member => allDigits character (by simp [member])
      have one : digitsValue [last] = last.toNat - '0'.toNat := by
        simp [digitsValue, Nat.ofDigitChars_cons]
      rw [digitsValue_append, one, List.length_append, List.length_singleton, pow_one, pow_succ]
      omega

theorem parseU64_digits {digits : List Char} (nonempty : digits ≠ [])
    (allDigits : ∀ character ∈ digits, character.isDigit = true) :
    Text.parseU64 (String.ofList digits) =
      if digitsValue digits < 2 ^ 64 then some (UInt64.ofNat (digitsValue digits)) else none := by
  have read : Text.readNat digits = some (digitsValue digits, []) := by
    have taken : digits.takeWhile Char.isDigit = digits := List.takeWhile_eq_self_iff.mpr allDigits
    have dropped : digits.dropWhile Char.isDigit = [] := List.dropWhile_eq_nil_iff.mpr allDigits
    rw [Text.readNat, taken, dropped]
    cases digits with
    | nil => exact absurd rfl nonempty
    | cons digit digits => rfl
  unfold Text.parseU64
  rw [String.toList_ofList]
  split
  · rename_i rest
    have isDigit := allDigits '+' List.mem_cons_self
    simp at isDigit
  · simp only [read]

def value (whole fraction : List Char) : ℚ :=
  digitsValue (whole ++ fraction) / 10 ^ fraction.length

theorem value_eq (whole fraction : List Char) :
    value whole fraction =
      digitsValue whole + (digitsValue fraction : ℚ) / 10 ^ fraction.length := by
  rw [value, digitsValue_append]
  push_cast
  field_simp

theorem value_append_zeros (whole fraction : List Char) (count : Nat) :
    value whole (fraction ++ List.replicate count '0') = value whole fraction := by
  rw [value_eq, value_eq, digitsValue_append, digitsValue_replicate_zero, Nat.add_zero,
    List.length_append, List.length_replicate, pow_add]
  push_cast
  field_simp

theorem exists_trailing_zeros (digits : List Char) :
    ∃ count, digits = digits.rdropWhile (· = '0') ++ List.replicate count '0' := by
  have zeros : ∀ character ∈ digits.rtakeWhile (· = '0'), character = '0' := by
    intro character member
    simpa using List.mem_rtakeWhile_imp member
  refine ⟨(digits.rtakeWhile (· = '0')).length, ?_⟩
  rw [← List.eq_replicate_of_mem zeros]
  exact List.rdropWhile_append_rtakeWhile.symm

def written (whole : List Char) : Option (List Char) → List Char
  | none => whole
  | some fraction => whole ++ '.' :: fraction

structure Spells (text : String) (whole : List Char) (fraction : Option (List Char)) :
    Prop where
  text : text.toList = written whole fraction
  whole : ∀ character ∈ whole, character.isDigit = true
  fraction : ∀ digits ∈ fraction, ∀ character ∈ digits, character.isDigit = true

theorem point_not_mem {digits : List Char}
    (allDigits : ∀ character ∈ digits, character.isDigit = true) : '.' ∉ digits := by
  intro member
  have isDigit := allDigits '.' member
  simp at isDigit

/-! ## Lowest terms -/

structure LowestTerms (numerator denominator : Nat) (value : ℚ) : Prop where
  coprime : numerator.Coprime denominator
  positive : 0 < denominator
  exact : (numerator : ℚ) / denominator = value

theorem LowestTerms.num_eq {numerator denominator : Nat} {value : ℚ}
    (lowest : LowestTerms numerator denominator value) :
    value.num = numerator ∧ value.den = denominator := by
  have positive : (0 : ℤ) < (denominator : ℤ) := by exact_mod_cast lowest.positive
  have coprime : Nat.Coprime (numerator : ℤ).natAbs (denominator : ℤ).natAbs := lowest.coprime
  have num := Rat.num_div_eq_of_coprime positive coprime
  have den := Rat.den_div_eq_of_coprime positive coprime
  push_cast at num den
  rw [lowest.exact] at num den
  exact ⟨num, by exact_mod_cast den⟩

theorem LowestTerms.unique {left right leftDenominator rightDenominator : Nat} {value : ℚ}
    (first : LowestTerms left leftDenominator value)
    (second : LowestTerms right rightDenominator value) :
    left = right ∧ leftDenominator = rightDenominator := by
  have nums := first.num_eq.1.symm.trans second.num_eq.1
  have dens := first.num_eq.2.symm.trans second.num_eq.2
  exact ⟨by exact_mod_cast nums, dens⟩

theorem lowestTerms_div_gcd (numerator : Nat) {denominator : Nat} (positive : 0 < denominator) :
    LowestTerms (numerator / numerator.gcd denominator)
      (denominator / numerator.gcd denominator) ((numerator : ℚ) / denominator) := by
  have gcdPositive : 0 < numerator.gcd denominator := Nat.gcd_pos_of_pos_right numerator positive
  have parts := Nat.gcd_dvd_left numerator denominator
  have denominatorPart := Nat.gcd_dvd_right numerator denominator
  refine ⟨Nat.coprime_div_gcd_div_gcd gcdPositive,
    Nat.div_pos (Nat.le_of_dvd positive denominatorPart) gcdPositive, ?_⟩
  have nonzero : ((numerator.gcd denominator : Nat) : ℚ) ≠ 0 := by
    exact_mod_cast gcdPositive.ne'
  rw [Nat.cast_div parts nonzero, Nat.cast_div denominatorPart nonzero,
    div_div_div_cancel_right₀ nonzero]

end Decimal
