import Std.Data.String.ToNat
import Mathlib.Data.List.Basic

/-! # Templates

A template is a row of characters and placeholders, which are names in braces.
Filling it replaces each placeholder once: what is put in is not read again.
-/

namespace Template

/-- The characters before and after the first separator, if there is one. -/
def cut (separator : Char) : List Char → Option (List Char × List Char)
  | [] => none
  | character :: rest =>
      if character = separator then some ([], rest)
      else (cut separator rest).map fun parts => (character :: parts.1, parts.2)

theorem cut_eq_none {separator : Char} {text : List Char} :
    cut separator text = none ↔ separator ∉ text := by
  induction text with
  | nil => simp [cut]
  | cons character rest induction =>
      by_cases isSeparator : character = separator
      · simp [cut, isSeparator]
      · rw [cut, if_neg isSeparator, Option.map_eq_none_iff, induction, List.mem_cons, not_or]
        exact ⟨fun outside => ⟨fun same => isSeparator same.symm, outside⟩, And.right⟩

theorem cut_append {separator : Char} {before : List Char} (outside : separator ∉ before)
    (after : List Char) : cut separator (before ++ separator :: after) = some (before, after) := by
  induction before with
  | nil => simp [cut]
  | cons character rest induction =>
      rw [List.mem_cons, not_or] at outside
      rw [List.cons_append, cut, if_neg fun same => outside.1 same.symm,
        induction outside.2, Option.map_some]

theorem cut_eq_some {separator : Char} {text before after : List Char} :
    cut separator text = some (before, after) ↔
      text = before ++ separator :: after ∧ separator ∉ before := by
  constructor
  · intro parts
    induction text generalizing before with
    | nil => cases parts
    | cons character rest induction =>
        rw [cut] at parts
        split at parts
        case isTrue isSeparator =>
          cases parts
          exact ⟨by rw [isSeparator, List.nil_append], List.not_mem_nil⟩
        case isFalse isOther =>
          rcases Option.map_eq_some_iff.mp parts with ⟨⟨start, others⟩, restParts, same⟩
          cases same
          rcases induction restParts with ⟨rebuilt, outside⟩
          rw [List.mem_cons, not_or]
          exact ⟨by rw [List.cons_append, ← rebuilt], fun same => isOther same.symm, outside⟩
  · rintro ⟨rfl, outside⟩
    exact cut_append outside after

theorem cut_length {separator : Char} {text before after : List Char}
    (parts : cut separator text = some (before, after)) : after.length < text.length := by
  rw [(cut_eq_some.mp parts).1, List.length_append, List.length_cons]
  omega

/-! ## Pieces -/

inductive Piece
  | char (value : Char)
  | placeholder (name : String)
  deriving DecidableEq, Repr

def Piece.write : Piece → List Char
  | .char value => [value]
  | .placeholder name => '{' :: (name.toList ++ ['}'])

def written (pieces : List Piece) : List Char :=
  pieces.flatMap Piece.write

/-- A letter or an underscore, followed by letters, digits and underscores. -/
def IsName (name : String) : Prop :=
  ∃ first rest, name.toList = first :: rest ∧ (first.isAlpha = true ∨ first = '_') ∧
    ∀ character ∈ rest, character.isAlphanum = true ∨ character = '_'

def Piece.WellFormed : Piece → Prop
  | .char value => value ≠ '{' ∧ value ≠ '}'
  | .placeholder name => IsName name

def Piece.Scanned : Piece → Prop
  | .char value => value ≠ '{'
  | .placeholder name => IsName name

theorem Piece.WellFormed.scanned {piece : Piece} (wellFormed : piece.WellFormed) :
    piece.Scanned := by
  cases piece with
  | char value => exact wellFormed.1
  | placeholder name => exact wellFormed

theorem IsName.not_mem {name : String} (isName : IsName name) {brace : Char}
    (isBrace : brace = '{' ∨ brace = '}') : brace ∉ name.toList := by
  rcases isName with ⟨first, rest, spelled, begins, goesOn⟩
  have other : brace.isAlpha = false ∧ brace.isAlphanum = false ∧ brace ≠ '_' := by
    rcases isBrace with rfl | rfl
    · decide
    · decide
  rw [spelled, List.mem_cons, not_or]
  constructor
  · rintro rfl
    rcases begins with alpha | underscore
    · simp [other.1] at alpha
    · exact other.2.2 underscore
  · intro member
    rcases goesOn brace member with alphanum | underscore
    · simp [other.2.1] at alphanum
    · exact other.2.2 underscore

/-- A text has one reading. -/
theorem written_injective {left right : List Piece} (leftScanned : ∀ piece ∈ left, piece.Scanned)
    (rightScanned : ∀ piece ∈ right, piece.Scanned) (same : written left = written right) :
    left = right := by
  induction left generalizing right with
  | nil =>
      cases right with
      | nil => rfl
      | cons piece others => cases piece <;> simp [written, Piece.write] at same
  | cons piece pieces induction =>
      rcases List.forall_mem_cons.mp leftScanned with ⟨pieceScanned, piecesScanned⟩
      cases right with
      | nil => cases piece <;> simp [written, Piece.write] at same
      | cons other others =>
          rcases List.forall_mem_cons.mp rightScanned with ⟨otherScanned, othersScanned⟩
          simp only [written, List.flatMap_cons] at same
          cases piece with
          | char value =>
              cases other with
              | char second =>
                  rcases List.cons.inj same with ⟨rfl, rest⟩
                  rw [induction piecesScanned othersScanned rest]
              | placeholder name => exact absurd (List.cons.inj same).1 pieceScanned
          | placeholder name =>
              cases other with
              | char second => exact absurd (List.cons.inj same).1.symm otherScanned
              | placeholder second =>
                  have after : name.toList ++ '}' :: written pieces =
                      second.toList ++ '}' :: written others := by
                    simpa [Piece.write, written] using same
                  have first := cut_append (pieceScanned.not_mem (.inr rfl)) (written pieces)
                  rw [after, cut_append (otherScanned.not_mem (.inr rfl)) (written others),
                    Option.some.injEq, Prod.mk.injEq] at first
                  rw [String.toList_inj.mp first.1,
                    induction piecesScanned othersScanned first.2.symm]

/-! ## Filling -/

def names (pieces : List Piece) : List String :=
  pieces.filterMap fun
    | .char _ => none
    | .placeholder name => some name

def filled (values : String → String) (pieces : List Piece) : List Char :=
  pieces.flatMap fun
    | .char value => [value]
    | .placeholder name => (values name).toList

structure IsTemplate (text : String) (pieces : List Piece) : Prop where
  text : text.toList = written pieces
  wellFormed : ∀ piece ∈ pieces, piece.WellFormed

/-! ## Checking -/

def isName : List Char → Bool
  | [] => false
  | first :: rest =>
      (first.isAlpha || first == '_') &&
        rest.all fun character => character.isAlphanum || character == '_'

theorem isName_sound {spelling : List Char} (passes : isName spelling = true) :
    IsName (String.ofList spelling) := by
  cases spelling with
  | nil => cases passes
  | cons first rest =>
      rw [isName, Bool.and_eq_true] at passes
      refine ⟨first, rest, String.toList_ofList, by simpa using passes.1, fun character member => ?_⟩
      simpa using List.all_eq_true.mp passes.2 character member

/-- Whether a text is a template for names that are spelled like this, after an
opening brace and the characters of a name, last first, if one has begun. -/
def isTemplateFor (spellings : List (List Char)) : Option (List Char) → List Char → Bool
  | none, [] => true
  | some _, [] => false
  | none, character :: rest =>
      if character = '{' then isTemplateFor spellings (some []) rest
      else character != '}' && isTemplateFor spellings none rest
  | some begun, character :: rest =>
      if character = '}' then
        isName begun.reverse && spellings.contains begun.reverse &&
          isTemplateFor spellings none rest
      else isTemplateFor spellings (some (character :: begun)) rest

def begunBefore : Option (List Char) → List Char
  | none => []
  | some begun => '{' :: begun.reverse

theorem isTemplateFor_pieces {spellings : List (List Char)} {begun : Option (List Char)}
    {text : List Char} (passes : isTemplateFor spellings begun text = true) :
    ∃ pieces, begunBefore begun ++ text = written pieces ∧
      (∀ piece ∈ pieces, piece.WellFormed) ∧
      ∀ name ∈ names pieces, name.toList ∈ spellings := by
  induction text generalizing begun with
  | nil =>
      cases begun with
      | none => exact ⟨[], rfl, by simp, by simp [names]⟩
      | some name => cases passes
  | cons character rest induction =>
      cases begun with
      | none =>
          rw [isTemplateFor] at passes
          split at passes
          case isTrue isOpen =>
            rw [isOpen]
            exact induction passes
          case isFalse notOpen =>
            rw [Bool.and_eq_true, bne_iff_ne] at passes
            rcases induction passes.2 with ⟨pieces, rebuilt, wellFormed, allowed⟩
            exact ⟨.char character :: pieces, congrArg (character :: ·) rebuilt,
              List.forall_mem_cons.mpr ⟨⟨notOpen, passes.1⟩, wellFormed⟩, allowed⟩
      | some name =>
          rw [isTemplateFor] at passes
          split at passes
          case isTrue isClose =>
            rw [Bool.and_eq_true, Bool.and_eq_true, List.contains_iff_mem] at passes
            rcases induction passes.2 with ⟨pieces, rebuilt, wellFormed, allowed⟩
            have after : rest = written pieces := rebuilt
            refine ⟨.placeholder (String.ofList name.reverse) :: pieces, ?_,
              List.forall_mem_cons.mpr ⟨isName_sound passes.1.1, wellFormed⟩, ?_⟩
            · simp [begunBefore, isClose, after, written, Piece.write]
            · refine List.forall_mem_cons.mpr ⟨?_, allowed⟩
              rw [String.toList_ofList]
              exact passes.1.2
          case isFalse =>
            rcases induction passes with ⟨pieces, rebuilt, others⟩
            refine ⟨pieces, ?_, others⟩
            rw [← rebuilt]
            simp [begunBefore]

theorem isTemplateFor_sound {allowed : List String} {text : String}
    (passes : isTemplateFor (allowed.map String.toList) none text.toList = true) :
    ∃ pieces, IsTemplate text pieces ∧ ∀ name ∈ names pieces, name ∈ allowed := by
  rcases isTemplateFor_pieces passes with ⟨pieces, text, wellFormed, spelled⟩
  refine ⟨pieces, ⟨text, wellFormed⟩, fun name member => ?_⟩
  rcases List.mem_map.mp (spelled name member) with ⟨other, within, same⟩
  rwa [← String.toList_inj.mp same]

end Template
