import Std.Data.String.ToNat
import Mathlib.Data.List.TakeWhile
import Mathlib.Algebra.Group.Nat.Defs
import Mathlib.Data.Option.Basic

/-! # Text codecs

A codec writes a value as text and reads it back from the front of a longer
text, as long as that text cannot be taken for more digits of a number. Codecs
are put together from numbers, quoted strings and fixed texts, and read back
what they wrote by construction.
-/

namespace Text

def Ends (rest : List Char) : Prop :=
  ∀ character ∈ rest.head?, character.isDigit = false

theorem ends_nil : Ends [] := by
  simp [Ends]

theorem ends_cons {head : Char} {tail : List Char} :
    Ends (head :: tail) ↔ head.isDigit = false := by
  simp [Ends]

instance : DecidablePred Ends
  | [] => .isTrue ends_nil
  | _ :: _ => decidable_of_iff _ ends_cons.symm

theorem Ends.append {text rest : List Char} (ends : Ends text) (nonempty : text ≠ []) :
    Ends (text ++ rest) := by
  cases text with
  | nil => exact absurd rfl nonempty
  | cons head tail => exact ends

structure Codec (Value : Type) where
  write : Value → List Char
  read : List Char → Option (Value × List Char)
  reads : ∀ value rest, Ends rest → read (write value ++ rest) = some (value, rest)

def dropText : List Char → List Char → Option (List Char)
  | [], text => some text
  | _ :: _, [] => none
  | expected :: others, character :: rest =>
      if expected = character then dropText others rest else none

theorem dropText_append (expected rest : List Char) :
    dropText expected (expected ++ rest) = some rest := by
  induction expected with
  | nil => rfl
  | cons head tail induction => simp [dropText, induction]

/-! ## Numbers -/

def readNat (text : List Char) : Option (Nat × List Char) :=
  match text.takeWhile Char.isDigit with
  | [] => none
  | digits => some (Nat.ofDigitChars 10 digits 0, text.dropWhile Char.isDigit)

theorem readNat_append (value : Nat) {rest : List Char} (ends : Ends rest) :
    readNat (Nat.toDigits 10 value ++ rest) = some (value, rest) := by
  have digits : ∀ character ∈ Nat.toDigits 10 value, character.isDigit = true :=
    fun _ member => Nat.isDigit_of_mem_toDigits (by decide) (by decide) member
  have taken : rest.takeWhile Char.isDigit = [] := by
    cases rest with
    | nil => rfl
    | cons head tail => simp [ends head rfl]
  have dropped : rest.dropWhile Char.isDigit = rest := by
    cases rest with
    | nil => rfl
    | cons head tail => simp [ends head rfl]
  rw [readNat, List.takeWhile_append_of_pos digits, List.dropWhile_append_of_pos digits, taken,
    dropped, List.append_nil]
  split
  · rename_i empty
    exact absurd empty Nat.toDigits_ne_nil
  · rw [Nat.ofDigitChars_ten_toDigits]

/-- Decimal text as an unsigned 64-bit integer, with an optional plus sign. -/
def parseU64 (text : String) : Option UInt64 :=
  let digits := match text.toList with
    | '+' :: rest => rest
    | characters => characters
  match readNat digits with
  | some (value, []) => if value < 2 ^ 64 then some (UInt64.ofNat value) else none
  | _ => none

theorem toDigits_ne_cons (value : Nat) {character : Char} (notDigit : character.isDigit = false)
    (rest : List Char) : Nat.toDigits 10 value ≠ character :: rest := by
  intro equal
  have isDigit : character.isDigit = true :=
    Nat.isDigit_of_mem_toDigits (by decide) (by decide)
      (equal ▸ List.mem_cons_self : character ∈ Nat.toDigits 10 value)
  rw [notDigit] at isDigit
  cases isDigit

theorem parseU64_toString {value : Nat} (bounded : value < 2 ^ 64) :
    parseU64 (toString value) = some (UInt64.ofNat value) := by
  have read := readNat_append value ends_nil
  rw [List.append_nil] at read
  unfold parseU64
  rw [Nat.toString_eq_ofList_toDigits, String.toList_ofList]
  split
  · rename_i rest equal
    exact absurd equal (toDigits_ne_cons value (by decide) rest)
  · simp only [read, if_pos bounded]

namespace Codec

def nat : Codec Nat where
  write value := Nat.toDigits 10 value
  read := readNat
  reads value _ ends := readNat_append value ends

def writeInt : Int → List Char
  | .ofNat value => Nat.toDigits 10 value
  | .negSucc value => '-' :: Nat.toDigits 10 (value + 1)

def readInt : List Char → Option (Int × List Char)
  | '-' :: text => (readNat text).map fun parsed => (-(parsed.1 : Int), parsed.2)
  | text => (readNat text).map fun parsed => ((parsed.1 : Int), parsed.2)

theorem readInt_append (value : Int) {rest : List Char} (ends : Ends rest) :
    readInt (writeInt value ++ rest) = some (value, rest) := by
  cases value with
  | negSucc value =>
      simp only [writeInt, List.cons_append, readInt, readNat_append _ ends, Option.map_some]
      rfl
  | ofNat value =>
      have notSign : ∀ text, writeInt (.ofNat value) ++ rest ≠ '-' :: text := by
        intro text equal
        cases digits : Nat.toDigits 10 value with
        | nil => exact Nat.toDigits_ne_nil digits
        | cons head tail =>
            rw [writeInt, digits, List.cons_append, List.cons.injEq] at equal
            rw [equal.1] at digits
            exact toDigits_ne_cons value (by decide) tail digits
      unfold readInt
      split
      · rename_i text equal
        exact absurd equal (notSign text)
      · rw [writeInt, readNat_append _ ends]
        rfl

def int : Codec Int where
  write := writeInt
  read := readInt
  reads value _ ends := readInt_append value ends

end Codec

/-! ## Quoted strings -/

def hexValue (character : Char) : Option Nat :=
  if '0' ≤ character ∧ character ≤ '9' then some (character.toNat - '0'.toNat)
  else if 'a' ≤ character ∧ character ≤ 'f' then some (character.toNat - 'a'.toNat + 10)
  else none

theorem hexValue_digitChar {value : Nat} (bound : value < 16) :
    hexValue (Nat.digitChar value) = some value := by
  have all : ∀ digit : Fin 16, hexValue (Nat.digitChar digit) = some digit.val := by decide
  exact all ⟨value, bound⟩

/-- A character inside a JSON string: the quote, the backslash and the control
characters are escaped. -/
def escape (character : Char) : List Char :=
  match character with
  | '\x22' => ['\x5c', '\x22']
  | '\x5c' => ['\x5c', '\x5c']
  | '\x08' => ['\x5c', 'b']
  | '\x09' => ['\x5c', 't']
  | '\x0a' => ['\x5c', 'n']
  | '\x0c' => ['\x5c', 'f']
  | '\x0d' => ['\x5c', 'r']
  | other =>
      if other.toNat < 0x20 then
        ['\x5c', 'u', '0', '0', Nat.digitChar (other.toNat / 16),
          Nat.digitChar (other.toNat % 16)]
      else [other]

def readQuoted : List Char → Option (List Char × List Char)
  | [] => none
  | '\x22' :: rest => some ([], rest)
  | '\x5c' :: 'u' :: first :: second :: third :: fourth :: rest => do
      let parsed ← readQuoted rest
      let first ← hexValue first
      let second ← hexValue second
      let third ← hexValue third
      let fourth ← hexValue fourth
      return (Char.ofNat (((first * 16 + second) * 16 + third) * 16 + fourth) :: parsed.1,
        parsed.2)
  | '\x5c' :: escaped :: rest => do
      let parsed ← readQuoted rest
      let character ← match escaped with
        | '\x22' => some '\x22'
        | '\x5c' => some '\x5c'
        | '/' => some '/'
        | 'b' => some '\x08'
        | 't' => some '\x09'
        | 'n' => some '\x0a'
        | 'f' => some '\x0c'
        | 'r' => some '\x0d'
        | _ => none
      return (character :: parsed.1, parsed.2)
  | character :: rest =>
      if character.toNat < 0x20 then none
      else (readQuoted rest).map fun parsed => (character :: parsed.1, parsed.2)

theorem readQuoted_escape (character : Char) {text rest : List Char} {parsed : List Char}
    (tail : readQuoted text = some (parsed, rest)) :
    readQuoted (escape character ++ text) = some (character :: parsed, rest) := by
  unfold escape
  split
  iterate 7 simp [readQuoted, tail]
  rename_i notQuote notBackslash _ _ _ _ _
  split
  · rename_i control
    have small : character.toNat % 16 < 16 := Nat.mod_lt _ (by decide)
    have high : character.toNat / 16 < 16 := by omega
    have zero : hexValue '0' = some 0 := by decide
    have whole : ((0 * 16 + 0) * 16 + character.toNat / 16) * 16 + character.toNat % 16 =
        character.toNat := by omega
    simp only [List.cons_append, List.nil_append, readQuoted, tail, zero,
      hexValue_digitChar high, hexValue_digitChar small, Option.bind_eq_bind, Option.bind_some,
      Option.pure_def, whole, Char.ofNat_toNat]
  · rename_i printable
    rw [List.singleton_append, readQuoted]
    · simp [printable, tail]
    · exact notQuote
    · intro _ _ _ _ _ isBackslash
      exact absurd isBackslash notBackslash
    · intro _ _ isBackslash
      exact absurd isBackslash notBackslash

theorem readQuoted_append (text rest : List Char) :
    readQuoted (text.flatMap escape ++ '\x22' :: rest) = some (text, rest) := by
  induction text with
  | nil => rfl
  | cons head tail induction =>
      rw [List.flatMap_cons, List.append_assoc]
      exact readQuoted_escape head induction

namespace Codec

variable {First Second Value Other : Type}

def readString : List Char → Option (String × List Char)
  | '\x22' :: text => (readQuoted text).map fun parsed => (String.ofList parsed.1, parsed.2)
  | _ => none

def quoted : Codec String where
  write value := '\x22' :: value.toList.flatMap escape ++ ['\x22']
  read := readString
  reads value rest _ := by
    simp [readString, readQuoted_append]

/-! ## Composition -/

def opened (text : String) (codec : Codec Value) : Codec Value where
  write value := text.toList ++ codec.write value
  read input := (dropText text.toList input).bind codec.read
  reads value rest ends := by
    rw [List.append_assoc, dropText_append, Option.bind_some, codec.reads value rest ends]

def followed (first : Codec First) (text : String) (second : Codec Second)
    (ends : Ends text.toList := by decide) (nonempty : text.toList ≠ [] := by decide) :
    Codec (First × Second) where
  write value := first.write value.1 ++ (text.toList ++ second.write value.2)
  read input := (first.read input).bind fun parsed =>
    (dropText text.toList parsed.2).bind fun remaining =>
      (second.read remaining).map fun other => ((parsed.1, other.1), other.2)
  reads value rest restEnds := by
    rw [List.append_assoc, first.reads _ _ (by
      rw [List.append_assoc]
      exact ends.append nonempty)]
    simp only [Option.bind_some, List.append_assoc, dropText_append,
      second.reads value.2 rest restEnds, Option.map_some]

def closed (codec : Codec Value) (text : String) (ends : Ends text.toList := by decide)
    (nonempty : text.toList ≠ [] := by decide) : Codec Value where
  write value := codec.write value ++ text.toList
  read input := (codec.read input).bind fun parsed =>
    (dropText text.toList parsed.2).map fun remaining => (parsed.1, remaining)
  reads value rest _ := by
    rw [List.append_assoc, codec.reads _ _ (ends.append nonempty)]
    simp only [Option.bind_some, dropText_append, Option.map_some]

def mapped (codec : Codec Other) (toOther : Value → Other) (ofOther : Other → Option Value)
    (inverse : ∀ value, ofOther (toOther value) = some value) : Codec Value where
  write value := codec.write (toOther value)
  read input := (codec.read input).bind fun parsed =>
    (ofOther parsed.1).map fun value => (value, parsed.2)
  reads value rest ends := by
    rw [codec.reads _ _ ends]
    simp [inverse]

def encode (codec : Codec Value) (value : Value) : String :=
  String.ofList (codec.write value)

def decode (codec : Codec Value) (text : String) : Option Value :=
  match codec.read text.toList with
  | some (value, []) => some value
  | _ => none

theorem decode_encode (codec : Codec Value) (value : Value) :
    codec.decode (codec.encode value) = some value := by
  have reads := codec.reads value [] ends_nil
  rw [List.append_nil] at reads
  simp only [decode, encode, String.toList_ofList, reads]

end Codec

end Text
