import Std.Data.String.ToNat
import Mathlib.Data.List.TakeWhile
import Mathlib.Algebra.Group.Nat.Defs
import Mathlib.Algebra.GroupWithZero.Nat

/-! # Facts about text keys

Keys built from a tag, a separator and a remainder are told apart by the tag
as long as no tag contains the separator.
-/

namespace Text

def joined (separator : Char) (first second : String) : String :=
  first ++ String.singleton separator ++ second

theorem toList_joined (separator : Char) (first second : String) :
    (joined separator first second).toList =
      first.toList ++ separator :: second.toList := by
  simp [joined]

theorem split_at_separator {separator : Char} {first second left right : List Char}
    (firstFree : separator ∉ first) (leftFree : separator ∉ left)
    (equal : first ++ separator :: second = left ++ separator :: right) :
    first = left ∧ second = right := by
  induction first generalizing left with
  | nil =>
      cases left with
      | nil => exact ⟨rfl, (List.cons.inj equal).2⟩
      | cons head tail =>
          have sameHead := (List.cons.inj equal).1
          exact absurd (by simp [sameHead]) leftFree
  | cons head tail induction =>
      cases left with
      | nil =>
          have sameHead := (List.cons.inj equal).1
          exact absurd (by simp [sameHead]) firstFree
      | cons other rest =>
          have parts := List.cons.inj equal
          have tails := induction (fun member => firstFree (List.mem_cons_of_mem _ member))
            (fun member => leftFree (List.mem_cons_of_mem _ member)) parts.2
          exact ⟨by rw [parts.1, tails.1], tails.2⟩

/-- Texts joined at a separator that their first parts do not contain agree
exactly when both parts do. -/
theorem joined_inj {separator : Char} {first second left right : String}
    (firstFree : separator ∉ first.toList) (leftFree : separator ∉ left.toList) :
    joined separator first second = joined separator left right ↔
      first = left ∧ second = right := by
  constructor
  · intro equal
    have lists := congrArg String.toList equal
    rw [toList_joined, toList_joined] at lists
    have parts := split_at_separator firstFree leftFree lists
    exact ⟨String.toList_inj.mp parts.1, String.toList_inj.mp parts.2⟩
  · rintro ⟨rfl, rfl⟩
    rfl

theorem joined_ne {separator : Char} {first second left right : String}
    (firstFree : separator ∉ first.toList) (leftFree : separator ∉ left.toList)
    (different : first ≠ left) :
    joined separator first second ≠ joined separator left right :=
  fun equal => different ((joined_inj firstFree leftFree).mp equal).1

theorem utf8ByteSize_eq_sum (text : String) :
    text.utf8ByteSize = (text.toList.map Char.utf8Size).sum := by
  suffices general : ∀ characters : List Char,
      (String.ofList characters).utf8ByteSize = (characters.map Char.utf8Size).sum by
    simpa using general text.toList
  intro characters
  induction characters with
  | nil => simp
  | cons head tail induction =>
      have extended : String.ofList (head :: tail) =
          String.singleton head ++ String.ofList tail :=
        String.toList_inj.mp (by simp)
      rw [extended, String.utf8ByteSize_append, String.utf8ByteSize_singleton, induction,
        List.map_cons, List.sum_cons]

theorem length_le_utf8ByteSize (text : String) :
    text.toList.length ≤ text.utf8ByteSize := by
  rw [utf8ByteSize_eq_sum]
  induction text.toList with
  | nil => simp
  | cons head tail induction =>
      have positive := head.utf8Size_pos
      rw [List.map_cons, List.sum_cons, List.length_cons]
      omega

theorem utf8ByteSize_le (text : String) : text.utf8ByteSize ≤ 4 * text.toList.length := by
  rw [utf8ByteSize_eq_sum]
  induction text.toList with
  | nil => simp
  | cons head tail induction =>
      have bounded := head.utf8Size_le_four
      rw [List.map_cons, List.sum_cons, List.length_cons]
      omega

/-- The number of characters SQL reports for a text: those before the first
zero character. -/
def sqlLength (text : String) : Nat :=
  (text.toList.takeWhile fun character => character ≠ '\x00').length

theorem sqlLength_le (text : String) : sqlLength text ≤ text.utf8ByteSize :=
  Nat.le_trans (List.takeWhile_sublist _).length_le (length_le_utf8ByteSize text)

theorem utf8ByteSize_eq_length {text : String}
    (oneByte : ∀ character ∈ text.toList, character.utf8Size = 1) :
    text.utf8ByteSize = text.toList.length := by
  rw [utf8ByteSize_eq_sum, List.map_congr_left (g := fun _ => 1) oneByte, List.map_const',
    List.sum_replicate_nat, Nat.mul_one]

theorem sqlLength_eq {text : String} (zeroFree : '\x00' ∉ text.toList) :
    sqlLength text = text.toList.length := by
  have whole : text.toList.takeWhile (fun character => character ≠ '\x00') = text.toList := by
    rw [List.takeWhile_eq_self_iff]
    intro character member
    simpa using fun equal : character = '\x00' => zeroFree (equal ▸ member)
  rw [sqlLength, whole]

theorem sqlLength_pos {text : String} (nonempty : text ≠ "")
    (zeroFree : '\x00' ∉ text.toList) : 0 < sqlLength text := by
  rw [sqlLength_eq zeroFree]
  apply List.length_pos_iff.mpr
  intro empty
  exact nonempty (String.toList_inj.mp (by simpa using empty))

/-! ## Parts of a text -/

def isWhitespace (character : Char) : Bool :=
  let point := character.toNat
  (9 ≤ point && point ≤ 13) || (0x2000 ≤ point && point ≤ 0x200a) ||
    point ∈ [0x20, 0x85, 0xa0, 0x1680, 0x2028, 0x2029, 0x202f, 0x205f, 0x3000]

def trim (raw : String) : String :=
  String.ofList ((raw.toList.dropWhile isWhitespace).reverse.dropWhile isWhitespace).reverse

theorem trim_eq {text : String}
    (printed : ∀ character ∈ text.toList, isWhitespace character = false) :
    trim text = text := by
  have kept : ∀ {characters : List Char},
      (∀ character ∈ characters, isWhitespace character = false) →
        characters.dropWhile isWhitespace = characters := by
    intro characters allPrinted
    cases characters with
    | nil => rfl
    | cons head tail => rw [List.dropWhile_cons_of_neg (by simp [allPrinted head])]
  rw [trim, kept printed, kept (by simpa using printed), List.reverse_reverse, String.ofList_toList]

theorem trim_ne_empty {text : String}
    (printed : ∃ character ∈ text.toList, isWhitespace character = false) :
    trim text ≠ "" := by
  rcases printed with ⟨character, member, notSpace⟩
  intro empty
  have nothing := congrArg String.toList empty
  rw [trim, String.toList_ofList, String.toList_empty, List.reverse_eq_nil_iff,
    List.dropWhile_eq_nil_iff] at nothing
  have parts : text.toList =
      text.toList.takeWhile isWhitespace ++ text.toList.dropWhile isWhitespace :=
    List.takeWhile_append_dropWhile.symm
  rw [parts] at member
  rcases List.mem_append.mp member with space | kept
  · rw [List.mem_takeWhile_imp space] at notSpace
    cases notSpace
  · rw [nothing character (List.mem_reverse.mpr kept)] at notSpace
    cases notSpace

def split (separator : Char) (text : String) : List String :=
  (text.toList.splitOn separator).map String.ofList

/-- The parts of a text before and after its first separator, if it has one. -/
def splitOnce (separator : Char) (text : String) : Option (String × String) :=
  match text.toList.dropWhile (· ≠ separator) with
  | [] => none
  | _ :: rest =>
      some (String.ofList (text.toList.takeWhile (· ≠ separator)), String.ofList rest)

theorem splitOnce_eq_none {separator : Char} {text : String} :
    splitOnce separator text = none ↔ separator ∉ text.toList := by
  unfold splitOnce
  constructor
  · intro missing member
    split at missing
    case h_1 empty =>
      have kept := List.dropWhile_eq_nil_iff.mp empty separator member
      simp at kept
    case h_2 => cases missing
  · intro missing
    have empty : text.toList.dropWhile (· ≠ separator) = [] :=
      List.dropWhile_eq_nil_iff.mpr fun character member => by
        simpa using fun same : character = separator => missing (same ▸ member)
    rw [empty]

theorem splitOnce_eq_some {separator : Char} {text first second : String} :
    splitOnce separator text = some (first, second) ↔
      text.toList = first.toList ++ separator :: second.toList ∧ separator ∉ first.toList := by
  have free : separator ∉ text.toList.takeWhile (· ≠ separator) := by
    intro member
    have kept := List.mem_takeWhile_imp member
    simp at kept
  unfold splitOnce
  constructor
  · intro split
    split at split
    case h_1 => cases split
    case h_2 head rest found =>
      have isSeparator : head = separator := by
        have nonempty : text.toList.dropWhile (· ≠ separator) ≠ [] := by
          rw [found]
          exact List.cons_ne_nil _ _
        have stopped := List.head_dropWhile_not (· ≠ separator) nonempty
        simp only [found, List.head_cons] at stopped
        simpa using stopped
      subst isSeparator
      cases split
      rw [String.toList_ofList, String.toList_ofList, ← found]
      exact ⟨List.takeWhile_append_dropWhile.symm, free⟩
  · rintro ⟨whole, outside⟩
    have kept : ∀ character ∈ first.toList, decide (character ≠ separator) = true := by
      intro character member
      simpa using fun same : character = separator => outside (same ▸ member)
    rw [whole, List.dropWhile_append_of_pos kept, List.takeWhile_append_of_pos kept]
    simp

end Text
