import Mathlib.Data.List.Basic
import Mathlib.Algebra.Group.Nat.Defs
import LightningGoats.Foundation.Codec

/-! # UUIDs and their canonical text -/

namespace LightningGoats

/-- The sixteen bytes of a UUID, as one number. -/
structure Uuid where
  value : BitVec 128
  deriving DecidableEq, Repr

namespace Uuid

def isNil (id : Uuid) : Bool :=
  id.value = 0

/-- The last `count` hexadecimal digits of a number, most significant first. -/
def hexDigits : Nat → Nat → List Char
  | 0, _ => []
  | count + 1, number => hexDigits count (number / 16) ++ [Nat.digitChar (number % 16)]

def hyphenate (digits : List Char) : List Char :=
  digits.take 8 ++ '-' :: (digits.drop 8).take 4 ++ '-' :: (digits.drop 12).take 4 ++
    '-' :: (digits.drop 16).take 4 ++ '-' :: digits.drop 20

/-- The hyphenated lower-case form that `to_string` writes. -/
def toText (id : Uuid) : String :=
  String.ofList (hyphenate (hexDigits 32 id.value.toNat))

theorem digitChar_inj {left right : Nat} (leftBound : left < 16) (rightBound : right < 16)
    (equal : Nat.digitChar left = Nat.digitChar right) : left = right := by
  have distinct : ∀ left right : Fin 16,
      Nat.digitChar left = Nat.digitChar right → left = right := by decide
  exact congrArg Fin.val (distinct ⟨left, leftBound⟩ ⟨right, rightBound⟩ equal)

theorem digitChar_ne {number : Nat} {character : Char} (bound : number < 16)
    (outside : ∀ digit : Fin 16, Nat.digitChar digit ≠ character) :
    Nat.digitChar number ≠ character :=
  outside ⟨number, bound⟩

theorem length_hexDigits (count number : Nat) : (hexDigits count number).length = count := by
  induction count generalizing number with
  | zero => rfl
  | succ count induction => simp [hexDigits, induction]

theorem hexDigits_free {character : Char}
    (outside : ∀ digit : Fin 16, Nat.digitChar digit ≠ character) (count number : Nat) :
    character ∉ hexDigits count number := by
  induction count generalizing number with
  | zero => simp [hexDigits]
  | succ count induction =>
      have last : character ≠ Nat.digitChar (number % 16) :=
        (digitChar_ne (Nat.mod_lt _ (by decide)) outside).symm
      simp [hexDigits, induction, last]

theorem hexDigits_inj {count left right : Nat} (leftBound : left < 16 ^ count)
    (rightBound : right < 16 ^ count) (equal : hexDigits count left = hexDigits count right) :
    left = right := by
  induction count generalizing left right with
  | zero => simp at leftBound rightBound; omega
  | succ count induction =>
      rw [Nat.pow_succ] at leftBound rightBound
      have parts := List.append_inj' equal rfl
      have quotients := induction (by omega) (by omega) parts.1
      have remainders := digitChar_inj (Nat.mod_lt left (by decide))
        (Nat.mod_lt right (by decide)) (List.cons.inj parts.2).1
      omega

theorem filter_hyphenate {digits : List Char} (free : '-' ∉ digits) :
    (hyphenate digits).filter (fun character => character ≠ '-') = digits := by
  have keeps : ∀ part : List Char, part ⊆ digits →
      part.filter (fun character => decide (character ≠ '-')) = part := by
    intro part within
    refine List.filter_eq_self.mpr fun character member => ?_
    simpa using fun equal : character = '-' => free (equal ▸ within member)
  have taken : ∀ start, (digits.drop start).take 4 ⊆ digits := fun start =>
    List.Subset.trans (List.take_subset _ _) (List.drop_subset _ _)
  simp only [hyphenate, List.filter_append, List.filter_cons]
  rw [keeps _ (List.take_subset _ _), keeps _ (taken 8), keeps _ (taken 12),
    keeps _ (taken 16), keeps _ (List.drop_subset _ _)]
  simp only [ne_eq, not_true_eq_false, decide_false, Bool.false_eq_true, if_false]
  have rejoin : ∀ start, (digits.drop start).take 4 ++ digits.drop (start + 4) =
      digits.drop start := by
    intro start
    rw [← List.drop_drop, List.take_append_drop]
  rw [List.append_assoc, rejoin 16, List.append_assoc, rejoin 12, List.append_assoc,
    rejoin 8, List.take_append_drop]

theorem toText_injective : Function.Injective toText := by
  intro left right equal
  have lists : hyphenate (hexDigits 32 left.value.toNat) =
      hyphenate (hexDigits 32 right.value.toNat) := by
    simpa [toText] using congrArg String.toList equal
  have hyphenFree : ∀ number, '-' ∉ hexDigits 32 number := hexDigits_free (by decide) 32
  have digits := congrArg (List.filter fun character => decide (character ≠ '-')) lists
  rw [filter_hyphenate (hyphenFree _), filter_hyphenate (hyphenFree _)] at digits
  have bound : ∀ id : Uuid, id.value.toNat < 16 ^ 32 := fun id => by
    have := id.value.isLt
    have same : (16 : Nat) ^ 32 = 2 ^ 128 := by decide
    omega
  have numbers := hexDigits_inj (bound left) (bound right) digits
  cases left
  cases right
  exact congrArg Uuid.mk (BitVec.eq_of_toNat_eq numbers)

def ofHexDigits (digits : List Char) : Option Nat :=
  digits.foldlM (fun number digit => (Text.hexValue digit).map (number * 16 + ·)) 0

theorem ofHexDigits_hexDigits {count number : Nat} (bound : number < 16 ^ count) :
    ofHexDigits (hexDigits count number) = some number := by
  induction count generalizing number with
  | zero =>
      have isZero : number = 0 := by simpa using bound
      rw [isZero]
      rfl
  | succ count induction =>
      rw [Nat.pow_succ] at bound
      have quotient := induction (show number / 16 < 16 ^ count by omega)
      have whole : number / 16 * 16 + number % 16 = number := Nat.div_add_mod' number 16
      rw [ofHexDigits] at quotient ⊢
      simp [hexDigits, List.foldlM_append, quotient,
        Text.hexValue_digitChar (Nat.mod_lt number (by decide)), whole]

def ofText (text : String) : Option Uuid :=
  (ofHexDigits (text.toList.filter fun character => character ≠ '-')).map
    fun number => ⟨BitVec.ofNat 128 number⟩

theorem ofText_toText (id : Uuid) : ofText id.toText = some id := by
  have bound : id.value.toNat < 16 ^ 32 := by
    have isLt := id.value.isLt
    have same : (16 : Nat) ^ 32 = 2 ^ 128 := by decide
    omega
  rw [ofText, toText, String.toList_ofList,
    filter_hyphenate (hexDigits_free (by decide) 32 id.value.toNat),
    ofHexDigits_hexDigits bound, Option.map_some, BitVec.ofNat_toNat, BitVec.setWidth_eq]

/-- The text of the UUID whose last byte is 42. -/
example : (Uuid.mk 42).toText = "00000000-0000-0000-0000-00000000002a" := by decide

end Uuid

end LightningGoats
