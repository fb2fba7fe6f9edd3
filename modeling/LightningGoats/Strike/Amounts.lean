import LightningGoats.Domain.Credit
import LightningGoats.Foundation.Decimal

/-! # Bitcoin amounts

Strike states amounts as decimal texts in bitcoin. They are converted to
millisatoshis exactly or refused, never rounded.
-/

namespace LightningGoats

open Outcome Decimal

def msatPerBtc : UInt64 := 100000000000

inductive BtcAmountError
  | unsigned
  | empty
  | syntax'
  | whole
  | places
  | fraction
  | range
  deriving DecidableEq, Repr

def BtcAmountError.message : BtcAmountError → String
  | unsigned => "BTC amount must be an unsigned decimal string"
  | empty => "BTC amount is empty"
  | syntax' => "BTC amount has invalid decimal syntax"
  | whole => "BTC whole amount is too large"
  | places => "BTC amount has more than 11 decimal places or invalid digits"
  | fraction => "BTC fractional amount is invalid"
  | range => "BTC amount exceeds millisatoshi range"

/-- `{number:011}` -/
def elevenDigits (number : Nat) : List Char :=
  let digits := Nat.toDigits 10 number
  List.replicate (11 - digits.length) '0' ++ digits

def msatToBtcDecimal (msat : UInt64) : String :=
  let whole := msat / msatPerBtc
  let fraction := msat % msatPerBtc
  String.ofList (Nat.toDigits 10 whole.toNat ++ '.' :: elevenDigits fraction.toNat)

def btcDecimalToMsat (text : String) : Except BtcAmountError UInt64 := do
  let value := Text.trim text
  ensure (value ≠ "" ∧ value.toList.head? ≠ some '-' ∧ value.toList.head? ≠ some '+') .unsigned
  let parts := Text.split '.' value
  let whole ← require parts[0]? .empty
  let fraction := parts[1]?
  ensure (parts[2]? = none ∧ whole ≠ "" ∧ whole.toList.all Char.isDigit = true) .syntax'
  let whole ← require (Text.parseU64 whole) .whole
  let fraction := fraction.getD ""
  ensure (fraction.utf8ByteSize ≤ 11 ∧ fraction.toList.all Char.isDigit = true) .places
  let fractionPadded :=
    fraction.toList ++ List.replicate (11 - fraction.utf8ByteSize) '0'
  let fraction ← if fractionPadded = [] then pure 0
    else require (Text.parseU64 (String.ofList fractionPadded)) .fraction
  require ((tryFromU64 (whole.toNat * msatPerBtc.toNat)).bind fun base =>
    tryFromU64 (base.toNat + fraction.toNat)) .range

/-! ## The grammar -/

/-- Digits between white space, with at most eleven more after a point if there
is one. -/
structure IsBtcAmount (text : String) (whole : List Char) (fraction : Option (List Char)) :
    Prop where
  spells : Spells (Text.trim text) whole fraction
  nonempty : whole ≠ []
  places : (fraction.getD []).length ≤ 11

def padded (fraction : List Char) : List Char :=
  fraction ++ List.replicate (11 - fraction.length) '0'

theorem IsBtcAmount.parts {text : String} {whole : List Char} {fraction : Option (List Char)}
    (amount : IsBtcAmount text whole fraction) :
    Text.split '.' (Text.trim text) =
      String.ofList whole :: (fraction.map String.ofList).toList := by
  have outside := point_not_mem amount.spells.whole
  rw [Text.split, amount.spells.text]
  cases fraction with
  | none =>
      rw [written, List.splitOn_eq_singleton outside]
      rfl
  | some digits =>
      have fractionOutside := point_not_mem (amount.spells.fraction digits rfl)
      rw [written, List.splitOn_append_cons_self_of_not_mem outside,
        List.splitOn_eq_singleton fractionOutside]
      rfl

theorem IsBtcAmount.fractionDigits {text : String} {whole : List Char}
    {fraction : Option (List Char)} (amount : IsBtcAmount text whole fraction) :
    ∀ character ∈ fraction.getD [], character.isDigit = true := by
  cases fraction with
  | none => simp
  | some digits => exact amount.spells.fraction digits rfl

theorem padded_isDigit {fraction : List Char}
    (allDigits : ∀ character ∈ fraction, character.isDigit = true) :
    ∀ character ∈ padded fraction, character.isDigit = true := by
  refine List.forall_mem_append.mpr ⟨allDigits, fun character member => ?_⟩
  rw [List.eq_of_mem_replicate member]
  rfl

theorem padded_ne_nil {fraction : List Char} (places : fraction.length ≤ 11) :
    padded fraction ≠ [] := by
  intro empty
  have length := congrArg List.length empty
  rw [padded, List.length_append, List.length_replicate, List.length_nil] at length
  omega

theorem padded_fits {fraction : List Char} (places : fraction.length ≤ 11)
    (allDigits : ∀ character ∈ fraction, character.isDigit = true) :
    digitsValue (padded fraction) < 2 ^ 64 := by
  have length : (padded fraction).length = 11 := by
    rw [padded, List.length_append, List.length_replicate]
    omega
  have below := digitsValue_lt (padded_isDigit allDigits)
  rw [length] at below
  exact below.trans (by decide)

/-! ## What the code returns -/

theorem scaled_eq_some {whole fraction : Nat} {msat : UInt64} :
    ((tryFromU64 (whole * msatPerBtc.toNat)).bind fun base =>
      tryFromU64 (base.toNat + fraction)) = some msat ↔
      msat.toNat = whole * 10 ^ 11 + fraction := by
  have unit : msatPerBtc.toNat = 10 ^ 11 := rfl
  rw [Option.bind_eq_some_iff, unit]
  constructor
  · rintro ⟨base, product, sum⟩
    rw [tryFromU64_eq_some.mp sum, tryFromU64_eq_some.mp product]
  · intro exact
    have bounded := msat.toNat_lt
    rcases tryFromU64_of (show whole * 10 ^ 11 < 2 ^ 64 by omega) with
      ⟨base, product⟩
    refine ⟨base, product, tryFromU64_eq_some.mpr ?_⟩
    rw [tryFromU64_eq_some.mp product, exact]

theorem IsBtcAmount.nonempty_text {text : String} {whole : List Char}
    {fraction : Option (List Char)} (amount : IsBtcAmount text whole fraction) :
    ∃ digit rest, (Text.trim text).toList = digit :: rest ∧ digit.isDigit = true := by
  have spelled := amount.spells.text
  cases whole with
  | nil => exact absurd rfl amount.nonempty
  | cons digit digits =>
      have isDigit := amount.spells.whole digit List.mem_cons_self
      cases fraction with
      | none => exact ⟨digit, digits, spelled, isDigit⟩
      | some rest => exact ⟨digit, digits ++ '.' :: rest, spelled, isDigit⟩

theorem btcDecimalToMsat_checked {text : String} {whole : List Char}
    {fraction : Option (List Char)} (amount : IsBtcAmount text whole fraction) :
    btcDecimalToMsat text = (do
      let whole ← require (tryFromU64 (digitsValue whole)) .whole
      let fraction ← require (tryFromU64 (digitsValue (padded (fraction.getD [])))) .fraction
      require ((tryFromU64 (whole.toNat * msatPerBtc.toNat)).bind fun base =>
        tryFromU64 (base.toNat + fraction.toNat)) .range) := by
  rcases amount.nonempty_text with ⟨digit, rest, begins, isDigit⟩
  have fractionDigits := amount.fractionDigits
  have nonempty : Text.trim text ≠ "" := by
    intro empty
    rw [empty] at begins
    cases begins
  have unsigned : (Text.trim text).toList.head? ≠ some '-' ∧
      (Text.trim text).toList.head? ≠ some '+' := by
    rw [begins, List.head?_cons]
    constructor
    · rintro ⟨⟩
      cases isDigit
    · rintro ⟨⟩
      cases isDigit
  have fractionText : (fraction.map String.ofList).getD "" =
      String.ofList (fraction.getD []) := by
    cases fraction <;> rfl
  have bytes : (String.ofList (fraction.getD [])).utf8ByteSize = (fraction.getD []).length := by
    rw [utf8ByteSize_digits (by simpa using fractionDigits), String.toList_ofList]
  have wholeText : String.ofList whole ≠ "" := by
    intro empty
    exact amount.nonempty (by simpa using congrArg String.toList empty)
  have second : (String.ofList whole :: (fraction.map String.ofList).toList)[1]? =
      fraction.map String.ofList := by
    cases fraction <;> rfl
  have third : (String.ofList whole :: (fraction.map String.ofList).toList)[2]? = none := by
    cases fraction <;> rfl
  have wholeAll : whole.all Char.isDigit = true := List.all_eq_true.mpr amount.spells.whole
  have fractionAll : (fraction.getD []).all Char.isDigit = true :=
    List.all_eq_true.mpr fractionDigits
  have wholeParsed : Text.parseU64 (String.ofList whole) = tryFromU64 (digitsValue whole) :=
    parseU64_digits amount.nonempty amount.spells.whole
  have fractionParsed : Text.parseU64 (String.ofList (padded (fraction.getD []))) =
      tryFromU64 (digitsValue (padded (fraction.getD []))) :=
    parseU64_digits (padded_ne_nil amount.places) (padded_isDigit fractionDigits)
  have notEmpty := padded_ne_nil amount.places
  unfold padded at fractionParsed notEmpty ⊢
  simp only [btcDecimalToMsat, amount.parts, second, third, fractionText, bytes,
    String.toList_ofList, List.getElem?_cons_zero, if_neg notEmpty, fractionParsed, require_some]
  rw [ensure_of ⟨nonempty, unsigned⟩, ensure_of ⟨amount.places, fractionAll⟩, ok_bind, ok_bind,
    String.toList_ofList, wholeParsed, ensure_of ⟨trivial, wholeText, wholeAll⟩, ok_bind]
  simp only [ok_bind]

theorem btcDecimalToMsat_of {text : String} {whole : List Char} {fraction : Option (List Char)}
    {msat : UInt64} (amount : IsBtcAmount text whole fraction) :
    btcDecimalToMsat text = .ok msat ↔
      msat.toNat = digitsValue whole * 10 ^ 11 + digitsValue (padded (fraction.getD [])) := by
  rw [btcDecimalToMsat_checked amount]
  simp only [bind_eq_ok, require_eq_ok, scaled_eq_some, tryFromU64_eq_some]
  constructor
  · rintro ⟨number, numberValue, places, placesValue, exact⟩
    rw [exact, numberValue, placesValue]
  · intro exact
    have bounded := msat.toNat_lt
    rcases tryFromU64_of (show digitsValue whole < 2 ^ 64 by omega) with ⟨number, numberFits⟩
    rcases tryFromU64_of (padded_fits amount.places amount.fractionDigits) with
      ⟨places, placesFit⟩
    have numberValue := tryFromU64_eq_some.mp numberFits
    have placesValue := tryFromU64_eq_some.mp placesFit
    exact ⟨number, numberValue, places, placesValue, by rw [exact, numberValue, placesValue]⟩

theorem isBtcAmount_of {text : String} {msat : UInt64}
    (converts : btcDecimalToMsat text = .ok msat) :
    ∃ whole fraction, IsBtcAmount text whole fraction := by
  simp only [btcDecimalToMsat, bind_eq_ok, ensure_eq_ok, require_eq_ok] at converts
  rcases converts with ⟨_, _, whole, first, _, ⟨noThird, wholeText, wholeAll⟩, _, _, _,
    ⟨bytes, fractionAll⟩, _⟩
  have joined : (Text.trim text).toList =
      ['.'].intercalate ((Text.split '.' (Text.trim text)).map String.toList) := by
    have parts : (Text.split '.' (Text.trim text)).map String.toList =
        (Text.trim text).toList.splitOn '.' := by
      simp [Text.split, Function.comp_def]
    rw [parts, List.intercalate_splitOn]
  have notEmpty : whole.toList ≠ [] :=
    fun empty => wholeText (String.toList_inj.mp (by simpa using empty))
  rw [List.all_eq_true] at wholeAll
  rw [List.all_eq_true] at fractionAll
  rw [utf8ByteSize_digits fractionAll] at bytes
  rcases parts : Text.split '.' (Text.trim text) with _ | ⟨head, _ | ⟨digits, _ | ⟨third, others⟩⟩⟩
  all_goals rw [parts] at first noThird joined bytes fractionAll
  · cases first
  · cases first
    refine ⟨whole.toList, none, ⟨by simpa [written] using joined, wholeAll, by simp⟩, notEmpty, ?_⟩
    simp
  · cases first
    refine ⟨whole.toList, some digits.toList,
      ⟨by simpa [written] using joined, wholeAll, ?_⟩, notEmpty, bytes⟩
    intro others same
    cases same
    exact fractionAll
  · cases noThird

theorem scaled_value {whole fraction : List Char} (places : fraction.length ≤ 11) :
    value whole fraction * 10 ^ 11 =
      (digitsValue whole * 10 ^ 11 + digitsValue (padded fraction) : Nat) := by
  have length : fraction.length + (11 - fraction.length) = 11 := by omega
  rw [← value_append_zeros whole fraction (11 - fraction.length), value_eq,
    List.length_append, List.length_replicate, length, padded, add_mul,
    div_mul_cancel₀ _ (by positivity)]
  push_cast
  norm_num

theorem btcDecimalToMsat_eq_ok {text : String} {msat : UInt64} :
    btcDecimalToMsat text = .ok msat ↔ ∃ whole fraction, IsBtcAmount text whole fraction ∧
      (msat.toNat : ℚ) = value whole (fraction.getD []) * 10 ^ 11 := by
  constructor
  · intro converts
    rcases isBtcAmount_of converts with ⟨whole, fraction, amount⟩
    refine ⟨whole, fraction, amount, ?_⟩
    rw [scaled_value amount.places, (btcDecimalToMsat_of amount).mp converts]
  · rintro ⟨whole, fraction, amount, exact⟩
    rw [scaled_value amount.places, Nat.cast_inj] at exact
    exact (btcDecimalToMsat_of amount).mpr exact

/-! ## Written amounts -/

theorem isDigit_not_whitespace {character : Char} (isDigit : character.isDigit = true) :
    Text.isWhitespace character = false := by
  simp only [Char.isDigit, Bool.and_eq_true, decide_eq_true_eq, ge_iff_le,
    UInt32.le_iff_toNat_le] at isDigit
  have low : 48 ≤ character.toNat := isDigit.1
  have high : character.toNat ≤ 57 := isDigit.2
  simp [Text.isWhitespace]
  omega

theorem elevenDigits_length {number : Nat} (below : number < 10 ^ 11) :
    (elevenDigits number).length = 11 := by
  have short : (Nat.toDigits 10 number).length ≤ 11 := by
    rw [Nat.length_toDigits_le_iff (by decide) (by decide)]
    exact below
  rw [elevenDigits, List.length_append, List.length_replicate]
  omega

theorem elevenDigits_isDigit {number : Nat} :
    ∀ character ∈ elevenDigits number, character.isDigit = true := by
  refine List.forall_mem_append.mpr ⟨fun character member => ?_, fun character => ?_⟩
  · rw [List.eq_of_mem_replicate member]
    rfl
  · exact Nat.isDigit_of_mem_toDigits (by decide) (by decide)

theorem msatToBtcDecimal_isBtcAmount (msat : UInt64) :
    IsBtcAmount (msatToBtcDecimal msat) (Nat.toDigits 10 (msat / msatPerBtc).toNat)
      (some (elevenDigits (msat % msatPerBtc).toNat)) := by
  have below : (msat % msatPerBtc).toNat < 10 ^ 11 := Nat.mod_lt _ (by decide)
  have wholeDigits : ∀ character ∈ Nat.toDigits 10 (msat / msatPerBtc).toNat,
      character.isDigit = true :=
    fun _ => Nat.isDigit_of_mem_toDigits (by decide) (by decide)
  have printed : ∀ character ∈ (msatToBtcDecimal msat).toList,
      Text.isWhitespace character = false := by
    rw [msatToBtcDecimal, String.toList_ofList]
    refine List.forall_mem_append.mpr ⟨fun character member => ?_, ?_⟩
    · exact isDigit_not_whitespace (wholeDigits character member)
    · refine List.forall_mem_cons.mpr ⟨rfl, fun character member => ?_⟩
      exact isDigit_not_whitespace (elevenDigits_isDigit character member)
  refine ⟨⟨?_, wholeDigits, ?_⟩, Nat.toDigits_ne_nil, (elevenDigits_length below).le⟩
  · rw [Text.trim_eq printed, msatToBtcDecimal, String.toList_ofList]
    rfl
  · intro digits same
    cases same
    exact elevenDigits_isDigit

/-- Bitcoin amounts are converted exactly, and written amounts are read back. -/
theorem btc_amounts_exact :
    (∀ msat, btcDecimalToMsat (msatToBtcDecimal msat) = .ok msat) ∧
    (∀ text msat, btcDecimalToMsat text = .ok msat ↔
      ∃ whole fraction, IsBtcAmount text whole fraction ∧
        (msat.toNat : ℚ) = value whole (fraction.getD []) * 10 ^ 11) ∧
    ∀ text, (∃ msat, btcDecimalToMsat text = .ok msat) ↔
      ∃ whole fraction, IsBtcAmount text whole fraction ∧
        value whole (fraction.getD []) * 10 ^ 11 ≤ (2 ^ 64 - 1 : Nat) := by
  refine ⟨fun msat => ?_, fun text msat => btcDecimalToMsat_eq_ok, fun text => ?_⟩
  · have below : (msat % msatPerBtc).toNat < 10 ^ 11 := Nat.mod_lt _ (by decide)
    have full : padded (elevenDigits (msat % msatPerBtc).toNat) =
        elevenDigits (msat % msatPerBtc).toNat := by
      rw [padded, elevenDigits_length below]
      simp
    rw [btcDecimalToMsat_of (msatToBtcDecimal_isBtcAmount msat), Option.getD_some, full,
      elevenDigits, digitsValue_padded, digitsValue_toDigits, digitsValue_toDigits]
    exact (Nat.div_add_mod' msat.toNat (10 ^ 11)).symm
  · constructor
    · rintro ⟨msat, converts⟩
      rcases btcDecimalToMsat_eq_ok.mp converts with ⟨whole, fraction, amount, exact⟩
      refine ⟨whole, fraction, amount, ?_⟩
      rw [← exact, Nat.cast_le]
      exact Nat.le_sub_one_of_lt msat.toNat_lt
    · rintro ⟨whole, fraction, amount, fits⟩
      rw [scaled_value amount.places, Nat.cast_le] at fits
      rcases tryFromU64_of (Nat.lt_of_le_of_lt fits (by decide)) with ⟨msat, isMsat⟩
      exact ⟨msat, (btcDecimalToMsat_of amount).mpr (tryFromU64_eq_some.mp isMsat)⟩

end LightningGoats
