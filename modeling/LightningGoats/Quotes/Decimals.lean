import LightningGoats.Quotes.Oracle

/-! # Exactness of the decimals

The oracle reads a decimal text exactly or not at all, and reads back every
amount that `formatXmr` writes.
-/

namespace LightningGoats

open Outcome Decimal

/-! ## Arithmetic that cannot overflow -/

theorem gcd_eq (left right : Nat) : gcd left right = Nat.gcd left right := by
  fun_induction gcd left right with
  | case1 left => exact (Nat.gcd_zero_right left).symm
  | case2 left right nonzero induction =>
      rw [induction, Nat.gcd_comm right, ← Nat.gcd_rec, Nat.gcd_comm]

theorem foldlM_appendDigit {digits : List Char} {number : Nat}
    (allDigits : ∀ character ∈ digits, character.isDigit = true)
    (small : (number + 1) * 10 ^ digits.length ≤ 2 ^ 128) :
    digits.foldlM appendDigit number = some (Nat.ofDigitChars 10 digits number) := by
  induction digits generalizing number with
  | nil => rfl
  | cons digit digits induction =>
      have isDigit := digit_lt (allDigits digit List.mem_cons_self)
      rw [List.length_cons, pow_succ] at small
      have power : 0 < 10 ^ digits.length := Nat.pow_pos (by decide)
      have next : (10 * number + (digit.toNat - '0'.toNat) + 1) * 10 ^ digits.length ≤
          2 ^ 128 := by
        calc
          _ ≤ (10 * number + 10) * 10 ^ digits.length := Nat.mul_le_mul_right _ (by omega)
          _ = (number + 1) * (10 ^ digits.length * 10) := by ring
          _ ≤ 2 ^ 128 := small
      have bounded : 10 * number + (digit.toNat - '0'.toNat) < 2 ^ 128 :=
        Nat.lt_of_lt_of_le (Nat.lt_succ_self _)
          (Nat.le_trans (Nat.le_mul_of_pos_right _ power) next)
      have appended : appendDigit number digit =
          some (10 * number + (digit.toNat - '0'.toNat)) := by
        have product : checkedMulU128 number 10 = some (10 * number) := by
          rw [checkedMulU128, Nat.mul_comm, if_pos (by omega)]
        rw [appendDigit, product, Option.bind_some, checkedAddU128, if_pos bounded]
      rw [List.foldlM_cons, appended]
      exact induction
        (fun character member => allDigits character (List.mem_cons_of_mem _ member)) next

/-! ## The grammar -/

/-- One to twenty digits, with one to eighteen more after a point if there is one. -/
structure IsDecimal (text : String) (whole : List Char) (fraction : Option (List Char)) :
    Prop where
  spells : Spells text whole fraction
  nonempty : whole ≠ []
  wholeLength : whole.length ≤ 20
  fractionNonempty : fraction ≠ some []
  fractionLength : (fraction.getD []).length ≤ 18

def decimalParts (text : String) : String × String :=
  (Text.splitOnce '.' text).getD (text, "")

def PassesDecimalChecks (text : String) : Prop :=
  (text ≠ "" ∧ text.utf8ByteSize ≤ 48) ∧
    (decimalParts text).1 ≠ "" ∧ (decimalParts text).1.utf8ByteSize ≤ 20 ∧
    ¬ ('.' ∈ text.toList ∧ (decimalParts text).2 = "") ∧
    (decimalParts text).2.utf8ByteSize ≤ 18 ∧
    ((decimalParts text).1.toList ++ (decimalParts text).2.toList).all Char.isDigit = true

theorem decimalParts_of {text : String} {whole : List Char} {fraction : Option (List Char)}
    (isDecimal : IsDecimal text whole fraction) :
    decimalParts text = (String.ofList whole, String.ofList (fraction.getD [])) := by
  have outside := point_not_mem isDecimal.spells.whole
  have spelled := isDecimal.spells.text
  unfold decimalParts
  cases fraction with
  | none =>
      have same : text = String.ofList whole :=
        String.toList_inj.mp (by simpa [written] using spelled)
      have single : Text.splitOnce '.' text = none :=
        Text.splitOnce_eq_none.mpr (by rw [spelled]; exact outside)
      rw [single, same]
      rfl
  | some digits =>
      have split : Text.splitOnce '.' text =
          some (String.ofList whole, String.ofList digits) :=
        Text.splitOnce_eq_some.mpr ⟨by simpa [written] using spelled, by simpa using outside⟩
      rw [split]
      rfl

theorem IsDecimal.passes {text : String} {whole : List Char} {fraction : Option (List Char)}
    (isDecimal : IsDecimal text whole fraction) : PassesDecimalChecks text := by
  have parts := decimalParts_of isDecimal
  have fractionDigits : ∀ character ∈ fraction.getD [], character.isDigit = true := by
    cases fraction with
    | none => simp
    | some digits => exact isDecimal.spells.fraction digits rfl
  have wholeBytes : (String.ofList whole).utf8ByteSize = whole.length := by
    rw [utf8ByteSize_digits (by simpa using isDecimal.spells.whole), String.toList_ofList]
  have fractionBytes : (String.ofList (fraction.getD [])).utf8ByteSize =
      (fraction.getD []).length := by
    rw [utf8ByteSize_digits (by simpa using fractionDigits), String.toList_ofList]
  have oneByte : ∀ character ∈ text.toList, character.utf8Size = 1 := by
    intro character member
    rw [isDecimal.spells.text] at member
    cases fraction with
    | none => exact utf8Size_of_isDigit (isDecimal.spells.whole character member)
    | some digits =>
        rcases List.mem_append.mp member with inWhole | inRest
        · exact utf8Size_of_isDigit (isDecimal.spells.whole character inWhole)
        · rcases List.mem_cons.mp inRest with rfl | inFraction
          · decide
          · exact utf8Size_of_isDigit (fractionDigits character inFraction)
  have length : text.toList.length ≤ whole.length + 1 + (fraction.getD []).length := by
    rw [isDecimal.spells.text]
    cases fraction with
    | none => simp [written]
    | some digits =>
        simp only [written, List.length_append, List.length_cons, Option.getD_some]
        omega
  have wholeLength := isDecimal.wholeLength
  have fractionLength := isDecimal.fractionLength
  have nonempty : text ≠ "" := by
    intro empty
    have spelled := isDecimal.spells.text
    rw [empty] at spelled
    cases fraction with
    | none => exact isDecimal.nonempty (by simpa [written] using spelled.symm)
    | some digits => simp [written] at spelled
  rw [PassesDecimalChecks, parts]
  refine ⟨⟨nonempty, ?_⟩, ?_, wholeBytes ▸ wholeLength, ?_, fractionBytes ▸ fractionLength, ?_⟩
  · rw [Text.utf8ByteSize_eq_length oneByte]
    omega
  · exact fun empty => isDecimal.nonempty (by simpa using congrArg String.toList empty)
  · rintro ⟨hasPoint, empty⟩
    have noFraction : fraction.getD [] = [] := by simpa using congrArg String.toList empty
    rw [isDecimal.spells.text] at hasPoint
    cases fraction with
    | none => exact point_not_mem isDecimal.spells.whole hasPoint
    | some digits => exact isDecimal.fractionNonempty (congrArg some noFraction)
  · rw [String.toList_ofList, String.toList_ofList, List.all_append, Bool.and_eq_true,
      List.all_eq_true, List.all_eq_true]
    exact ⟨isDecimal.spells.whole, fractionDigits⟩

theorem isDecimal_of_passes {text : String} (passes : PassesDecimalChecks text) :
    ∃ whole fraction, IsDecimal text whole fraction := by
  rcases passes with ⟨_, nonempty, wholeBytes, dotted, fractionBytes, digits⟩
  rw [List.all_append, Bool.and_eq_true, List.all_eq_true, List.all_eq_true] at digits
  rw [utf8ByteSize_digits digits.1] at wholeBytes
  rw [utf8ByteSize_digits digits.2] at fractionBytes
  have notEmpty : (decimalParts text).1.toList ≠ [] :=
    fun empty => nonempty (String.toList_inj.mp (by simpa using empty))
  cases split : Text.splitOnce '.' text with
  | none =>
      have parts : decimalParts text = (text, "") := by rw [decimalParts, split, Option.getD_none]
      rw [parts] at digits wholeBytes notEmpty
      exact ⟨text.toList, none, {
        spells := ⟨rfl, digits.1, by simp⟩
        nonempty := notEmpty
        wholeLength := wholeBytes
        fractionNonempty := by simp
        fractionLength := by simp }⟩
  | some rows =>
      have parts : decimalParts text = rows := by rw [decimalParts, split, Option.getD_some]
      have rebuilt := (Text.splitOnce_eq_some.mp split).1
      rw [parts] at digits wholeBytes notEmpty fractionBytes dotted
      have hasPoint : '.' ∈ text.toList := by
        rw [rebuilt]
        simp
      refine ⟨rows.1.toList, some rows.2.toList, {
        spells := ⟨rebuilt, digits.1, by simpa using digits.2⟩
        nonempty := notEmpty
        wholeLength := wholeBytes
        fractionNonempty := ?_
        fractionLength := fractionBytes }⟩
      intro empty
      exact dotted ⟨hasPoint, String.toList_inj.mp (by simpa using empty)⟩

/-! ## What the code returns -/

theorem isDigit_of_isDecimal {text : String} {whole : List Char} {fraction : Option (List Char)}
    (isDecimal : IsDecimal text whole fraction) :
    ∀ character ∈ whole ++ fraction.getD [], character.isDigit = true := by
  refine List.forall_mem_append.mpr ⟨isDecimal.spells.whole, ?_⟩
  cases fraction with
  | none => simp
  | some digits => exact isDecimal.spells.fraction digits rfl

theorem decimal_of {text : String} {whole : List Char} {fraction : Option (List Char)}
    (isDecimal : IsDecimal text whole fraction) :
    decimal text = (do
      let n := digitsValue (whole ++ fraction.getD [])
      let d := 10 ^ (fraction.getD []).length
      let numerator ← require (tryFromU64 (n / Nat.gcd n d)) .numeratorOverflow
      let denominator ← require (tryFromU64 (d / Nat.gcd n d)) .narrowing
      return (numerator, denominator)) := by
  have parts := decimalParts_of isDecimal
  have passes := isDecimal.passes
  have digits := isDigit_of_isDecimal isDecimal
  have fractionDigits : ∀ character ∈ (String.ofList (fraction.getD [])).toList,
      character.isDigit = true := by
    rw [String.toList_ofList]
    exact (List.forall_mem_append.mp digits).2
  have fractionBytes := utf8ByteSize_digits fractionDigits
  rw [String.toList_ofList] at fractionBytes
  have length : (whole ++ fraction.getD []).length ≤ 38 := by
    have wholeLength := isDecimal.wholeLength
    have fractionLength := isDecimal.fractionLength
    rw [List.length_append]
    omega
  have small : (0 + 1) * 10 ^ (whole ++ fraction.getD []).length ≤ 2 ^ 128 := by
    have power := Nat.pow_le_pow_right (show 0 < 10 by decide) length
    exact Nat.le_trans (by omega) (show (10 : Nat) ^ 38 ≤ 2 ^ 128 by decide)
  have folded := foldlM_appendDigit digits small
  rw [PassesDecimalChecks, parts] at passes
  rw [decimalParts] at parts
  simp only [decimal, parts, String.toList_ofList] at passes ⊢
  rw [ensure_of passes.1, ensure_of passes.2, folded, fractionBytes]
  simp only [require, gcd_eq, bind, Except.bind, digitsValue]

theorem decimal_eq_ok_of {text : String} {whole : List Char} {fraction : Option (List Char)}
    {n d : UInt64} (isDecimal : IsDecimal text whole fraction) :
    decimal text = .ok (n, d) ↔
      LowestTerms n.toNat d.toNat (value whole (fraction.getD [])) := by
  have reduced := lowestTerms_div_gcd (digitsValue (whole ++ fraction.getD []))
    (Nat.pow_pos (n := (fraction.getD []).length) (show 0 < 10 by decide))
  push_cast at reduced
  rw [decimal_of isDecimal]
  simp only [bind_eq_ok, require_eq_ok, tryFromU64_eq_some, pure_eq_ok, Prod.mk.injEq]
  constructor
  · rintro ⟨_, numerator, _, denominator, rfl, rfl⟩
    rw [numerator, denominator]
    exact reduced
  · intro lowest
    have same := lowest.unique reduced
    exact ⟨n, same.1, d, same.2, rfl, rfl⟩

/-- The code returns the value of the text in lowest terms, or nothing. -/
theorem decimal_eq_ok {text : String} {n d : UInt64} :
    decimal text = .ok (n, d) ↔
      ∃ whole fraction, IsDecimal text whole fraction ∧
        LowestTerms n.toNat d.toNat (value whole (fraction.getD [])) := by
  constructor
  · intro read
    have passes : PassesDecimalChecks text := by
      simp only [decimal, bind_eq_ok, ensure_eq_ok] at read
      rcases read with ⟨_, bounds, _, checks, _⟩
      exact ⟨bounds, checks⟩
    rcases isDecimal_of_passes passes with ⟨whole, fraction, isDecimal⟩
    exact ⟨whole, fraction, isDecimal, (decimal_eq_ok_of isDecimal).mp read⟩
  · rintro ⟨whole, fraction, isDecimal, lowest⟩
    exact (decimal_eq_ok_of isDecimal).mpr lowest

theorem denominator_fits {text : String} {whole : List Char} {fraction : Option (List Char)}
    (isDecimal : IsDecimal text whole fraction) (divisor : Nat) :
    10 ^ (fraction.getD []).length / divisor < 2 ^ 64 := by
  have power := Nat.pow_le_pow_right (show 0 < 10 by decide) isDecimal.fractionLength
  have small : (10 : Nat) ^ 18 < 2 ^ 64 := by decide
  exact Nat.lt_of_le_of_lt (Nat.div_le_self _ _) (Nat.lt_of_le_of_lt power small)

theorem decimal_reads {text : String} {whole : List Char} {fraction : Option (List Char)}
    (isDecimal : IsDecimal text whole fraction)
    (fits : (value whole (fraction.getD [])).num < 2 ^ 64) :
    ∃ n d, decimal text = .ok (n, d) := by
  have reduced := lowestTerms_div_gcd (digitsValue (whole ++ fraction.getD []))
    (Nat.pow_pos (n := (fraction.getD []).length) (show 0 < 10 by decide))
  push_cast at reduced
  rw [value, reduced.num_eq.1] at fits
  rcases tryFromU64_of (by exact_mod_cast fits) with ⟨n, numerator⟩
  rcases tryFromU64_of (denominator_fits isDecimal
    (Nat.gcd (digitsValue (whole ++ fraction.getD [])) (10 ^ (fraction.getD []).length)))
    with ⟨d, denominator⟩
  refine ⟨n, d, ?_⟩
  rw [decimal_of isDecimal]
  simp only [numerator, denominator, require, bind, Except.bind]
  rfl

theorem decimal_error {text : String} {error : OracleError}
    (refused : decimal text = .error error) :
    error = .decimalLength ∨ error = .decimalRepresentation ∨ error = .numeratorOverflow := by
  by_cases bounds : text ≠ "" ∧ text.utf8ByteSize ≤ 48
  · by_cases passes : PassesDecimalChecks text
    · rcases isDecimal_of_passes passes with ⟨whole, fraction, isDecimal⟩
      rcases tryFromU64_of (denominator_fits isDecimal
        (Nat.gcd (digitsValue (whole ++ fraction.getD [])) (10 ^ (fraction.getD []).length)))
        with ⟨d, denominator⟩
      rw [decimal_of isDecimal] at refused
      simp only [denominator] at refused
      cases numerator : tryFromU64 (digitsValue (whole ++ fraction.getD []) /
        Nat.gcd (digitsValue (whole ++ fraction.getD [])) (10 ^ (fraction.getD []).length)) with
      | none =>
          rw [numerator] at refused
          cases refused
          exact Or.inr (Or.inr rfl)
      | some n =>
          rw [numerator] at refused
          cases refused
    · have checks : ¬ _ := fun holds => passes ⟨bounds, holds⟩
      unfold decimalParts at checks
      simp only [decimal, ensure_of bounds] at refused
      simp only [ensure, if_neg checks] at refused
      cases refused
      exact Or.inr (Or.inl rfl)
  · simp only [decimal, ensure, if_neg bounds] at refused
    cases refused
    exact Or.inl rfl

/-! ## Formatted amounts -/

theorem isDigit_of_mem_toDigits {number : Nat} {character : Char}
    (member : character ∈ Nat.toDigits 10 number) : character.isDigit = true :=
  Nat.isDigit_of_mem_toDigits (by decide) (by decide) member

/-- The fractional digits of an amount below one, and the zeros that were cut off. -/
theorem fraction_padded {fractional : Nat} (below : fractional < piconeroPerXmr) :
    ∃ count, (StoredXmrQuote.fraction fractional).length + count = 12 ∧
      digitsValue (StoredXmrQuote.fraction fractional ++ List.replicate count '0') =
        fractional ∧
      (∀ character ∈ StoredXmrQuote.fraction fractional, character.isDigit = true) ∧
      (StoredXmrQuote.fraction fractional).getLast? ≠ some '0' := by
  let digits := Nat.toDigits 10 fractional
  let padded := List.replicate (12 - digits.length) '0' ++ digits
  have trimmed : StoredXmrQuote.fraction fractional = padded.rdropWhile (· = '0') := rfl
  rcases exists_trailing_zeros padded with ⟨count, rebuilt⟩
  rw [← trimmed] at rebuilt
  have short : digits.length ≤ 12 := by
    rw [Nat.length_toDigits_le_iff (by decide) (by decide)]
    exact below
  have length : padded.length = 12 := by
    rw [List.length_append, List.length_replicate]
    omega
  have isDigit : ∀ character ∈ padded, character.isDigit = true := by
    refine List.forall_mem_append.mpr ⟨?_, fun character => isDigit_of_mem_toDigits⟩
    intro character member
    rw [List.eq_of_mem_replicate member]
    rfl
  refine ⟨count, ?_, ?_, ?_, ?_⟩
  · rw [rebuilt, List.length_append, List.length_replicate] at length
    exact length
  · rw [← rebuilt, digitsValue_padded, digitsValue_toDigits]
  · intro character member
    refine isDigit character ?_
    rw [rebuilt]
    exact List.mem_append_left _ member
  · intro last
    rcases List.getLast?_eq_some_iff.mp last with ⟨others, isLast⟩
    have nonempty : padded.rdropWhile (· = '0') ≠ [] := by
      rw [← trimmed, isLast]
      simp
    have stopped := List.rdropWhile_last_not (· = '0') padded nonempty
    simp only [← trimmed, isLast, List.getLast_append_singleton] at stopped
    simp at stopped

theorem formatXmr_isDecimal {atomic : Nat} (bounded : atomic < 2 ^ 64) :
    ∃ whole fraction, IsDecimal (StoredXmrQuote.formatXmr atomic) whole fraction ∧
      (∀ digits ∈ fraction, digits.getLast? ≠ some '0') ∧
      value whole (fraction.getD []) = (atomic : ℚ) / 10 ^ 12 := by
  let whole := Nat.toDigits 10 (atomic / piconeroPerXmr)
  have wholeLength : whole.length ≤ 20 := by
    rw [Nat.length_toDigits_le_iff (by decide) (by decide)]
    exact Nat.lt_of_le_of_lt (Nat.div_le_self _ _) (Nat.lt_of_lt_of_le bounded (by decide))
  have wholeValue : digitsValue whole = atomic / piconeroPerXmr := digitsValue_toDigits _
  have unit : ((piconeroPerXmr : Nat) : ℚ) = 10 ^ 12 := by norm_num [piconeroPerXmr]
  have split : (atomic : ℚ) =
      (atomic / piconeroPerXmr : Nat) * 10 ^ 12 + (atomic % piconeroPerXmr : Nat) := by
    rw [← unit]
    exact_mod_cast (Nat.div_add_mod' atomic piconeroPerXmr).symm
  by_cases isWhole : atomic % piconeroPerXmr = 0
  · refine ⟨whole, none, {
      spells := ⟨?_, fun character => isDigit_of_mem_toDigits, by simp⟩
      nonempty := Nat.toDigits_ne_nil
      wholeLength := wholeLength
      fractionNonempty := by simp
      fractionLength := by simp }, by simp, ?_⟩
    · rw [StoredXmrQuote.formatXmr, if_pos isWhole, Nat.toString_eq_ofList_toDigits,
        String.toList_ofList]
      rfl
    · rw [split, isWhole, value_eq, wholeValue]
      simp [digitsValue]
  · have below := Nat.mod_lt atomic (show 0 < piconeroPerXmr by decide)
    rcases fraction_padded below with ⟨count, length, padded, isDigit, last⟩
    refine ⟨whole, some (StoredXmrQuote.fraction (atomic % piconeroPerXmr)), {
      spells := ⟨?_, fun character => isDigit_of_mem_toDigits, by simpa using isDigit⟩
      nonempty := Nat.toDigits_ne_nil
      wholeLength := wholeLength
      fractionNonempty := ?_
      fractionLength := by rw [Option.getD_some]; omega }, by simpa using last, ?_⟩
    · rw [StoredXmrQuote.formatXmr, if_neg isWhole, Nat.toString_eq_ofList_toDigits]
      simp [written, whole]
    · intro empty
      rw [Option.some.inj empty, List.nil_append, digitsValue_replicate_zero] at padded
      exact isWhole padded.symm
    · rw [Option.getD_some, ← value_append_zeros whole _ count, value_eq, padded, wholeValue,
        List.length_append, List.length_replicate, length, split]
      field_simp

/-- Decimals are read exactly or refused, and formatted amounts are read back. -/
theorem decimals_exact :
    (∀ text n d, decimal text = .ok (n, d) ↔ ∃ whole fraction, IsDecimal text whole fraction ∧
      LowestTerms n.toNat d.toNat (value whole (fraction.getD []))) ∧
    (∀ text, (∃ n d, decimal text = .ok (n, d)) ↔
      ∃ whole fraction, IsDecimal text whole fraction ∧
        (value whole (fraction.getD [])).num < 2 ^ 64) ∧
    (∀ text, decimal text ≠ .error .decimalOverflow) ∧
    (∀ atomic : UInt64, ∃ whole fraction,
      IsDecimal (StoredXmrQuote.formatXmr atomic.toNat) whole fraction ∧
      (∀ digits ∈ fraction, digits.getLast? ≠ some '0') ∧
      ∃ n d, decimal (StoredXmrQuote.formatXmr atomic.toNat) = .ok (n, d) ∧
        LowestTerms n.toNat d.toNat ((atomic.toNat : ℚ) / 10 ^ 12)) ∧
    Function.Injective fun atomic : UInt64 => StoredXmrQuote.formatXmr atomic.toNat := by
  have reads : ∀ atomic : UInt64, ∃ whole fraction,
      IsDecimal (StoredXmrQuote.formatXmr atomic.toNat) whole fraction ∧
      (∀ digits ∈ fraction, digits.getLast? ≠ some '0') ∧
      ∃ n d, decimal (StoredXmrQuote.formatXmr atomic.toNat) = .ok (n, d) ∧
        LowestTerms n.toNat d.toNat ((atomic.toNat : ℚ) / 10 ^ 12) := by
    intro atomic
    rcases formatXmr_isDecimal atomic.toNat_lt with ⟨whole, fraction, isDecimal, last, exact⟩
    have reduced := lowestTerms_div_gcd atomic.toNat (show 0 < piconeroPerXmr by decide)
    rw [show ((piconeroPerXmr : ℕ) : ℚ) = 10 ^ 12 by norm_num [piconeroPerXmr]] at reduced
    have fits : (value whole (fraction.getD [])).num < 2 ^ 64 := by
      rw [exact, reduced.num_eq.1]
      exact_mod_cast Nat.lt_of_le_of_lt (Nat.div_le_self _ _) atomic.toNat_lt
    rcases decimal_reads isDecimal fits with ⟨n, d, read⟩
    exact ⟨whole, fraction, isDecimal, last, n, d, read,
      exact ▸ (decimal_eq_ok_of isDecimal).mp read⟩
  refine ⟨fun text n d => decimal_eq_ok, ?_, ?_, reads, ?_⟩
  · intro text
    constructor
    · rintro ⟨n, d, read⟩
      rcases decimal_eq_ok.mp read with ⟨whole, fraction, isDecimal, lowest⟩
      refine ⟨whole, fraction, isDecimal, ?_⟩
      rw [lowest.num_eq.1]
      exact_mod_cast n.toNat_lt
    · rintro ⟨whole, fraction, isDecimal, fits⟩
      exact decimal_reads isDecimal fits
  · intro text overflows
    rcases decimal_error overflows with impossible | impossible | impossible <;> cases impossible
  · intro left right same
    rcases reads left with ⟨_, _, _, _, n, d, read, lowest⟩
    rcases reads right with ⟨_, _, _, _, n', d', read', lowest'⟩
    simp only at same
    rw [same, read'] at read
    cases read
    have values := lowest.exact.symm.trans lowest'.exact
    have numbers : (left.toNat : ℚ) = right.toNat := by
      field_simp at values
      exact values
    exact UInt64.toNat_inj.mp (by exact_mod_cast numbers)

end LightningGoats
