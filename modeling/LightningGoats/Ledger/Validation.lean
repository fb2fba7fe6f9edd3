import LightningGoats.Foundation.Outcome
import LightningGoats.Ledger.Schema

/-! # Input validation

The checks that the ledger makes on names and identifiers before it opens a
transaction, and what they establish for the constraints of the tables.
-/

namespace LightningGoats

open Outcome

/-- What the ledger asks of the JSON parser: whether a text is JSON, and if so
whether it is an object. -/
class SerdeJson where
  isObject : String → Option Bool

def maxUserLen : Nat := 64

def isSourceChar (character : Char) : Bool :=
  character.isLower || character.isDigit || character = '-' || character = '_'

def isUserChar (character : Char) : Bool :=
  character.isLower || character.isDigit || character = '.' || character = '_' ||
    character = '-'

def isHexDigit (character : Char) : Bool :=
  character.isDigit || ('a' ≤ character && character ≤ 'f') ||
    ('A' ≤ character && character ≤ 'F')

/-- The characters of the Unicode category `Cc`. -/
def isControl (character : Char) : Bool :=
  character.val < 0x20 || (0x7f ≤ character.val && character.val ≤ 0x9f)

def validateSource (source : String) : Except LedgerError Unit := do
  ensure (source ≠ "" ∧ source.utf8ByteSize ≤ 32) .sourceLength
  ensure (source.toList.all isSourceChar = true) .sourceCharacters

def validateExternalId (value field : String) (maxLen : Nat) : Except LedgerError Unit := do
  ensure (value ≠ "" ∧ value.utf8ByteSize ≤ maxLen) (.externalIdLength field maxLen)
  ensure (value.toList.any isControl = false) (.externalIdControl field)

def isLightningUser (user : String) : Bool :=
  user ≠ "" && user.utf8ByteSize ≤ maxUserLen && user ≠ "." && user ≠ ".." &&
    user.toList.all isUserChar

def validateUser (value field : String) : Except LedgerError Unit :=
  ensure (isLightningUser value = true) (.invalidUser field)

def isHex32 (value : String) : Bool :=
  value.utf8ByteSize = 64 && value.toList.all isHexDigit

def validatePaymentHash (value : String) : Except LedgerError Unit :=
  ensure (isHex32 value = true) .paymentHash

/-! ## What validation establishes -/

/-- A text the tables accept with at most `limit` characters. -/
def FitsColumn (limit : Nat) (text : String) : Prop :=
  0 < Text.sqlLength text ∧ Text.sqlLength text ≤ limit

instance (limit : Nat) (text : String) : Decidable (FitsColumn limit text) :=
  inferInstanceAs (Decidable (0 < Text.sqlLength text ∧ Text.sqlLength text ≤ limit))

theorem fitsColumn_of_bytes {limit : Nat} {text : String} (nonempty : text ≠ "")
    (bytes : text.utf8ByteSize ≤ limit) (zeroFree : '\x00' ∉ text.toList) :
    FitsColumn limit text :=
  ⟨Text.sqlLength_pos nonempty zeroFree, Nat.le_trans (Text.sqlLength_le text) bytes⟩

theorem validateSource_eq_ok {source : String} {result : Unit} :
    validateSource source = .ok result ↔
      (source ≠ "" ∧ source.utf8ByteSize ≤ 32) ∧ source.toList.all isSourceChar = true := by
  simp [validateSource]

theorem validateExternalId_eq_ok {value field : String} {maxLen : Nat} {result : Unit} :
    validateExternalId value field maxLen = .ok result ↔
      (value ≠ "" ∧ value.utf8ByteSize ≤ maxLen) ∧ value.toList.any isControl = false := by
  simp [validateExternalId]

@[simp] theorem validateUser_eq_ok {value field : String} {result : Unit} :
    validateUser value field = .ok result ↔ isLightningUser value = true := by
  simp [validateUser]

@[simp] theorem validatePaymentHash_eq_ok {value : String} {result : Unit} :
    validatePaymentHash value = .ok result ↔ isHex32 value = true := by
  simp [validatePaymentHash]

theorem not_mem_of_all {allowed : Char → Bool} {text : String} {character : Char}
    (all : text.toList.all allowed = true) (excluded : allowed character = false) :
    character ∉ text.toList := by
  intro member
  have accepted := List.all_eq_true.mp all character member
  rw [excluded] at accepted
  cases accepted

theorem colon_not_mem_source {source : String} {result : Unit}
    (valid : validateSource source = .ok result) : ':' ∉ source.toList :=
  not_mem_of_all (validateSource_eq_ok.mp valid).2 (by decide)

theorem fitsColumn_source {source : String} {result : Unit}
    (valid : validateSource source = .ok result) : FitsColumn 32 source := by
  rcases validateSource_eq_ok.mp valid with ⟨⟨nonempty, bytes⟩, characters⟩
  exact fitsColumn_of_bytes nonempty bytes (not_mem_of_all characters (by decide))

theorem fitsColumn_externalId {value field : String} {maxLen : Nat} {result : Unit}
    (valid : validateExternalId value field maxLen = .ok result) :
    FitsColumn maxLen value := by
  rcases validateExternalId_eq_ok.mp valid with ⟨⟨nonempty, bytes⟩, characters⟩
  refine fitsColumn_of_bytes nonempty bytes fun member => ?_
  have control := List.any_eq_false.mp characters '\x00' member
  exact control (by decide)

theorem fitsColumn_user {user : String} (valid : isLightningUser user = true) :
    FitsColumn 64 user := by
  simp only [isLightningUser, Bool.and_eq_true, decide_eq_true_eq] at valid
  rcases valid with ⟨⟨⟨⟨nonempty, bytes⟩, _⟩, _⟩, characters⟩
  exact fitsColumn_of_bytes nonempty bytes (not_mem_of_all characters (by decide))

end LightningGoats
