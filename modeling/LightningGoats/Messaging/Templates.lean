import LightningGoats.Foundation.Outcome
import LightningGoats.Foundation.Template

/-! # Message templates

The validator and the formatter scan a template for opening braces. A closing
brace is only looked for after the last placeholder, so a stray one before it is
never seen.
-/

namespace LightningGoats

open Outcome Template

inductive TemplateError
  | unmatchedOpening
  | unsafePlaceholder (field : String)
  | unmatchedClosing
  | unavailable (field : String)
  deriving DecidableEq, Repr

def TemplateError.message : TemplateError → String
  | unmatchedOpening => "template contains an unmatched opening brace"
  | unsafePlaceholder field => "template contains unsafe placeholder \x7b" ++ field ++ "\x7d"
  | unmatchedClosing => "template contains an unmatched closing brace"
  | unavailable field => "template requires unavailable field " ++ field

def IsField (field : List Char) : Prop :=
  field ≠ [] ∧ (∀ character ∈ field, character.isAlphanum = true ∨ character = '_') ∧
    ∀ first ∈ field.head?, first.isDigit = false

instance : DecidablePred IsField := fun field =>
  @instDecidableAnd _ _ inferInstance
    (@instDecidableAnd _ _ (List.decidableBAll _ field) (Option.decidableForallMem _))

def validateRest (rest : List Char) : Except TemplateError Unit :=
  match _opens : cut '{' rest with
  | none => ensure ('}' ∉ rest) .unmatchedClosing
  | some (_, afterOpen) =>
      match _closes : cut '}' afterOpen with
      | none => throw .unmatchedOpening
      | some (field, next) => do
          ensure (IsField field) (.unsafePlaceholder (String.ofList field))
          validateRest next
termination_by rest.length
decreasing_by exact Nat.lt_trans (cut_length _closes) (cut_length _opens)

def validateTemplateSyntax (template : String) : Except TemplateError Unit :=
  validateRest template.toList

def substituteRest (values : List (String × String)) (rendered rest : List Char) :
    Except TemplateError (List Char) :=
  match _opens : cut '{' rest with
  | none => return rendered ++ rest
  | some (text, afterOpen) =>
      match _closes : cut '}' afterOpen with
      | none => throw .unmatchedOpening
      | some (field, next) => do
          let value ← require (values.lookup (String.ofList field))
            (.unavailable (String.ofList field))
          substituteRest values (rendered ++ text ++ value.toList) next
termination_by rest.length
decreasing_by exact Nat.lt_trans (cut_length _closes) (cut_length _opens)

def safeSubstitute (template : String) (values : List (String × String)) :
    Except TemplateError String := do
  validateTemplateSyntax template
  let rendered ← substituteRest values [] template.toList
  return String.ofList rendered

/-! ## Names -/

theorem isDigit_of_isAlpha {character : Char} (isAlpha : character.isAlpha = true) :
    character.isDigit = false := by
  have cased : character.isUpper = true ∨ character.isLower = true :=
    (Bool.or_eq_true _ _).mp isAlpha
  simp only [Char.isDigit, Bool.and_eq_false_iff, decide_eq_false_iff_not,
    UInt32.le_iff_toNat_le, ge_iff_le]
  cases cased with
  | inl upper =>
      have low : 65 ≤ character.val.toNat := (of_decide_eq_true upper).1
      exact .inr (Nat.not_le_of_lt (Nat.lt_of_lt_of_le (by decide) low))
  | inr lower =>
      have least : decide ('a'.val ≤ character.val) = true := (Bool.and_eq_true_iff.mp lower).1
      have low : 97 ≤ character.val.toNat := of_decide_eq_true least
      exact .inr (Nat.not_le_of_lt (Nat.lt_of_lt_of_le (by decide) low))

theorem isField_iff {name : String} : IsField name.toList ↔ IsName name := by
  constructor
  · rintro ⟨nonempty, allowed, notDigit⟩
    cases spelled : name.toList with
    | nil => exact absurd spelled nonempty
    | cons first rest =>
        rw [spelled] at allowed notDigit
        rcases List.forall_mem_cons.mp allowed with ⟨firstAllowed, restAllowed⟩
        refine ⟨first, rest, spelled, ?_, restAllowed⟩
        rcases firstAllowed with alphanum | underscore
        · rw [Char.isAlphanum, notDigit first rfl, Bool.or_false] at alphanum
          exact .inl alphanum
        · exact .inr underscore
  · rintro ⟨first, rest, spelled, begins, goesOn⟩
    rw [spelled]
    refine ⟨List.cons_ne_nil _ _, List.forall_mem_cons.mpr ⟨?_, goesOn⟩, ?_⟩
    · rcases begins with alpha | underscore
      · exact .inl (by rw [Char.isAlphanum, alpha, Bool.true_or])
      · exact .inr underscore
    · rintro _ ⟨⟩
      rcases begins with alpha | rfl
      · exact isDigit_of_isAlpha alpha
      · rfl

/-! ## The scan -/

section Scan

variable {rest text afterOpen field next : List Char}

theorem validateRest_last (noOpen : cut '{' rest = none) :
    validateRest rest = ensure ('}' ∉ rest) .unmatchedClosing := by
  rw [validateRest]
  split
  · rfl
  · rename_i opens
    rw [noOpen] at opens
    cases opens

theorem validateRest_unclosed (opens : cut '{' rest = some (text, afterOpen))
    (unclosed : cut '}' afterOpen = none) : validateRest rest = .error .unmatchedOpening := by
  rw [validateRest]
  split
  · rename_i noOpen
    rw [noOpen] at opens
    cases opens
  · rename_i again
    rw [again] at opens
    cases opens
    split
    · rfl
    · rename_i closes
      rw [unclosed] at closes
      cases closes

theorem validateRest_placeholder (opens : cut '{' rest = some (text, afterOpen))
    (closes : cut '}' afterOpen = some (field, next)) :
    validateRest rest = (do
      ensure (IsField field) (.unsafePlaceholder (String.ofList field))
      validateRest next) := by
  rw [validateRest]
  split
  · rename_i noOpen
    rw [noOpen] at opens
    cases opens
  · rename_i again
    rw [again] at opens
    cases opens
    split
    · rename_i unclosed
      rw [unclosed] at closes
      cases closes
    · rename_i again
      rw [again] at closes
      cases closes
      rfl

variable {values : List (String × String)} {rendered : List Char}

theorem substituteRest_last (noOpen : cut '{' rest = none) :
    substituteRest values rendered rest = .ok (rendered ++ rest) := by
  rw [substituteRest]
  split
  · rfl
  · rename_i opens
    rw [noOpen] at opens
    cases opens

theorem substituteRest_unclosed (opens : cut '{' rest = some (text, afterOpen))
    (unclosed : cut '}' afterOpen = none) :
    substituteRest values rendered rest = .error .unmatchedOpening := by
  rw [substituteRest]
  split
  · rename_i noOpen
    rw [noOpen] at opens
    cases opens
  · rename_i again
    rw [again] at opens
    cases opens
    split
    · rfl
    · rename_i closes
      rw [unclosed] at closes
      cases closes

theorem substituteRest_placeholder (opens : cut '{' rest = some (text, afterOpen))
    (closes : cut '}' afterOpen = some (field, next)) :
    substituteRest values rendered rest = (do
      let value ← require (values.lookup (String.ofList field))
        (.unavailable (String.ofList field))
      substituteRest values (rendered ++ text ++ value.toList) next) := by
  rw [substituteRest]
  split
  · rename_i noOpen
    rw [noOpen] at opens
    cases opens
  · rename_i again
    rw [again] at opens
    cases opens
    split
    · rename_i unclosed
      rw [unclosed] at closes
      cases closes
    · rename_i again
      rw [again] at closes
      cases closes
      rfl

end Scan

/-! ## One piece -/

section Pieces

variable {character : Char} {rest : List Char} {name : String}

theorem validateRest_nil : validateRest [] = .ok () :=
  validateRest_last rfl

theorem cut_cons (other : character ≠ '{') :
    cut '{' (character :: rest) = (cut '{' rest).map fun parts =>
      (character :: parts.1, parts.2) :=
  if_neg other

/-- Before a placeholder, any character but an opening brace is passed over. -/
theorem validateRest_char (other : character ≠ '{') (seen : character = '}' → '{' ∈ rest) :
    validateRest (character :: rest) = validateRest rest := by
  cases opens : cut '{' rest with
  | none =>
      have noOpen : cut '{' (character :: rest) = none := by rw [cut_cons other, opens]; rfl
      have notClosing : '}' ≠ character :=
        fun same => cut_eq_none.mp opens (seen same.symm)
      rw [validateRest_last noOpen, validateRest_last opens]
      simp [ensure, notClosing]
  | some parts =>
      have after : cut '{' (character :: rest) = some (character :: parts.1, parts.2) := by
        rw [cut_cons other, opens]
        rfl
      cases closes : cut '}' parts.2 with
      | none => rw [validateRest_unclosed after closes, validateRest_unclosed opens closes]
      | some names =>
          rw [validateRest_placeholder after closes, validateRest_placeholder opens closes]

theorem cut_placeholder (isName : IsName name) :
    cut '}' (name.toList ++ '}' :: rest) = some (name.toList, rest) :=
  cut_append (isName.not_mem (.inr rfl)) rest

theorem validateRest_name (isName : IsName name) :
    validateRest ('{' :: (name.toList ++ '}' :: rest)) = validateRest rest := by
  have opens : cut '{' ('{' :: (name.toList ++ '}' :: rest)) =
      some ([], name.toList ++ '}' :: rest) :=
    rfl
  rw [validateRest_placeholder opens (cut_placeholder isName),
    ensure_of (isField_iff.mpr isName), ok_bind]

variable {values : List (String × String)} {rendered : List Char}

theorem substituteRest_char (other : character ≠ '{') :
    substituteRest values rendered (character :: rest) =
      substituteRest values (rendered ++ [character]) rest := by
  cases opens : cut '{' rest with
  | none =>
      have noOpen : cut '{' (character :: rest) = none := by rw [cut_cons other, opens]; rfl
      rw [substituteRest_last noOpen, substituteRest_last opens, List.append_assoc]
      rfl
  | some parts =>
      have after : cut '{' (character :: rest) = some (character :: parts.1, parts.2) := by
        rw [cut_cons other, opens]
        rfl
      cases closes : cut '}' parts.2 with
      | none => rw [substituteRest_unclosed after closes, substituteRest_unclosed opens closes]
      | some names =>
          rw [substituteRest_placeholder after closes, substituteRest_placeholder opens closes]
          simp

theorem substituteRest_name (isName : IsName name) :
    substituteRest values rendered ('{' :: (name.toList ++ '}' :: rest)) = (do
      let value ← require (values.lookup name) (.unavailable name)
      substituteRest values (rendered ++ value.toList) rest) := by
  rw [substituteRest_placeholder rfl (cut_placeholder isName), String.ofList_toList]
  simp

end Pieces

/-! ## Whole templates -/

theorem written_cons_char {value : Char} {pieces : List Piece} :
    written (.char value :: pieces) = value :: written pieces :=
  rfl

theorem written_cons_placeholder {name : String} {pieces : List Piece} :
    written (.placeholder name :: pieces) = '{' :: (name.toList ++ '}' :: written pieces) := by
  simp [written, Piece.write]

theorem validateRest_written {pieces : List Piece}
    (wellFormed : ∀ piece ∈ pieces, piece.WellFormed) :
    validateRest (written pieces) = .ok () := by
  induction pieces with
  | nil => exact validateRest_nil
  | cons piece pieces induction =>
      rcases List.forall_mem_cons.mp wellFormed with ⟨isPiece, others⟩
      cases piece with
      | char value =>
          rw [written_cons_char, validateRest_char isPiece.1 fun same => absurd same isPiece.2]
          exact induction others
      | placeholder name =>
          rw [written_cons_placeholder, validateRest_name isPiece]
          exact induction others

theorem validateRest_scanned {front back : List Piece} {name : String}
    (scanned : ∀ piece ∈ front, piece.Scanned) (isName : IsName name)
    (wellFormed : ∀ piece ∈ back, piece.WellFormed) :
    validateRest (written (front ++ .placeholder name :: back)) = .ok () := by
  induction front with
  | nil =>
      rw [List.nil_append, written_cons_placeholder, validateRest_name isName]
      exact validateRest_written wellFormed
  | cons piece front induction =>
      rcases List.forall_mem_cons.mp scanned with ⟨isPiece, others⟩
      cases piece with
      | char value =>
          have hasOpen : '{' ∈ written (front ++ .placeholder name :: back) := by
            rw [written, List.flatMap_append, List.flatMap_cons]
            simp [Piece.write]
          rw [List.cons_append, written_cons_char, validateRest_char isPiece fun _ => hasOpen]
          exact induction others
      | placeholder second =>
          rw [List.cons_append, written_cons_placeholder, validateRest_name isPiece]
          exact induction others

theorem written_chars (text : List Char) : written (text.map .char) = text := by
  induction text with
  | nil => rfl
  | cons character rest induction => rw [List.map_cons, written_cons_char, induction]

theorem accepted_scanned {rest : List Char} (accepted : validateRest rest = .ok ()) :
    ∃ front back, rest = written (front ++ back) ∧ (∀ piece ∈ front, piece.Scanned) ∧
      (∀ piece ∈ back, piece.WellFormed) ∧
      (front = [] ∨ ∃ before name, front = before ++ [.placeholder name]) := by
  fun_induction validateRest rest with
  | case1 rest opens =>
      refine ⟨[], rest.map .char, (written_chars rest).symm, by simp, ?_, .inl rfl⟩
      rw [List.forall_mem_map]
      intro character member
      refine ⟨?_, ?_⟩
      · rintro rfl
        exact cut_eq_none.mp opens member
      · rintro rfl
        exact ensure_eq_ok.mp accepted member
  | case2 rest text afterOpen opens closes => cases accepted
  | case3 rest text afterOpen opens field next closes induction =>
      simp only [bind_eq_ok, ensure_eq_ok] at accepted
      rcases accepted with ⟨_, isField, accepted⟩
      rcases induction accepted with ⟨front, back, same, scanned, wellFormed, last⟩
      rcases cut_eq_some.mp opens with ⟨rebuilt, outside⟩
      have afterRebuilt := (cut_eq_some.mp closes).1
      have isName : IsName (String.ofList field) :=
        isField_iff.mp (by rw [String.toList_ofList]; exact isField)
      refine ⟨text.map .char ++ .placeholder (String.ofList field) :: front, back, ?_, ?_,
        wellFormed, .inr ?_⟩
      · rw [List.append_assoc, List.cons_append, written, List.flatMap_append]
        change rest = written (text.map .char) ++ written (.placeholder _ :: (front ++ back))
        rw [written_chars, written_cons_placeholder, String.toList_ofList, ← same, rebuilt,
          afterRebuilt]
      · refine List.forall_mem_append.mpr ⟨List.forall_mem_map.mpr fun character member => ?_,
          List.forall_mem_cons.mpr ⟨isName, scanned⟩⟩
        rintro rfl
        exact outside member
      · rcases last with rfl | ⟨before, name, rfl⟩
        · exact ⟨_, _, rfl⟩
        · exact ⟨text.map .char ++ .placeholder (String.ofList field) :: before, name, by simp⟩

section Filling

variable {values : List (String × String)} {rendered : List Char} {pieces : List Piece}

theorem names_char {value : Char} : names (.char value :: pieces) = names pieces :=
  rfl

theorem names_placeholder {name : String} :
    names (.placeholder name :: pieces) = name :: names pieces :=
  rfl

theorem substituteRest_fills (wellFormed : ∀ piece ∈ pieces, piece.WellFormed)
    (available : ∀ name ∈ names pieces, ∃ value, values.lookup name = some value) :
    substituteRest values rendered (written pieces) =
      .ok (rendered ++ filled (fun name => (values.lookup name).getD "") pieces) := by
  induction pieces generalizing rendered with
  | nil => exact substituteRest_last rfl
  | cons piece pieces induction =>
      rcases List.forall_mem_cons.mp wellFormed with ⟨isPiece, others⟩
      cases piece with
      | char value =>
          rw [written_cons_char, substituteRest_char isPiece.1, induction others available,
            List.append_assoc]
          rfl
      | placeholder name =>
          rw [names_placeholder] at available
          rcases List.forall_mem_cons.mp available with ⟨⟨value, found⟩, rest⟩
          rw [written_cons_placeholder, substituteRest_name isPiece, found, require_some, ok_bind,
            induction others rest, List.append_assoc]
          simp [filled, found]

theorem substituteRest_refuses (wellFormed : ∀ piece ∈ pieces, piece.WellFormed)
    (missing : ∃ name ∈ names pieces, values.lookup name = none) :
    ∃ name ∈ names pieces, values.lookup name = none ∧
      substituteRest values rendered (written pieces) = .error (.unavailable name) := by
  induction pieces generalizing rendered with
  | nil =>
      rcases missing with ⟨name, member, _⟩
      cases member
  | cons piece pieces induction =>
      rcases List.forall_mem_cons.mp wellFormed with ⟨isPiece, others⟩
      cases piece with
      | char value =>
          rw [names_char] at missing ⊢
          rw [written_cons_char, substituteRest_char isPiece.1]
          exact induction others missing
      | placeholder first =>
          rw [names_placeholder] at missing ⊢
          rw [written_cons_placeholder, substituteRest_name isPiece]
          cases found : values.lookup first with
          | none => exact ⟨first, List.mem_cons_self, found, rfl⟩
          | some value =>
              have later : ∃ name ∈ names pieces, values.lookup name = none := by
                rcases missing with ⟨name, member, absent⟩
                rcases List.mem_cons.mp member with rfl | member
                · rw [found] at absent
                  cases absent
                · exact ⟨name, member, absent⟩
              rcases @induction (rendered ++ value.toList) others later with
                ⟨name, member, absent, refused⟩
              exact ⟨name, List.mem_cons_of_mem _ member, absent, refused⟩

end Filling

/-! ## What the validator is for -/

/-- Exactly the templates are accepted, and they are filled. -/
structure Checked (template : String) : Prop where
  accepts : validateTemplateSyntax template = .ok () ↔ ∃ pieces, IsTemplate template pieces
  fills : ∀ pieces values, IsTemplate template pieces →
    (∀ name ∈ names pieces, ∃ value, values.lookup name = some value) →
    safeSubstitute template values =
      .ok (String.ofList (filled (fun name => (values.lookup name).getD "") pieces))
  refuses : ∀ pieces values, IsTemplate template pieces →
    (∃ name ∈ names pieces, values.lookup name = none) →
    ∃ name ∈ names pieces, values.lookup name = none ∧
      safeSubstitute template values = .error (.unavailable name)

/-- Apart from closing braces before its last placeholder, of which there is at
least one, the text is a template. -/
def StrayClosingBrace (template : String) : Prop :=
  ∃ front name back, template.toList = written (front ++ .placeholder name :: back) ∧
    (∀ piece ∈ front, piece.Scanned) ∧ .char '}' ∈ front ∧ IsName name ∧
    ∀ piece ∈ back, piece.WellFormed

theorem template_accepted {template : String} {pieces : List Piece}
    (isTemplate : IsTemplate template pieces) : validateTemplateSyntax template = .ok () := by
  rw [validateTemplateSyntax, isTemplate.text]
  exact validateRest_written isTemplate.wellFormed

theorem template_fills {template : String} {pieces : List Piece}
    {values : List (String × String)} (isTemplate : IsTemplate template pieces)
    (available : ∀ name ∈ names pieces, ∃ value, values.lookup name = some value) :
    safeSubstitute template values =
      .ok (String.ofList (filled (fun name => (values.lookup name).getD "") pieces)) := by
  rw [safeSubstitute, template_accepted isTemplate, ok_bind, isTemplate.text,
    substituteRest_fills isTemplate.wellFormed available]
  rfl

theorem template_refuses {template : String} {pieces : List Piece}
    {values : List (String × String)} (isTemplate : IsTemplate template pieces)
    (missing : ∃ name ∈ names pieces, values.lookup name = none) :
    ∃ name ∈ names pieces, values.lookup name = none ∧
      safeSubstitute template values = .error (.unavailable name) := by
  rcases @substituteRest_refuses values [] pieces isTemplate.wellFormed missing with
    ⟨name, member, absent, refused⟩
  refine ⟨name, member, absent, ?_⟩
  rw [safeSubstitute, template_accepted isTemplate, ok_bind, isTemplate.text, refused]
  rfl

theorem wellFormed_of_scanned {piece : Piece} (scanned : piece.Scanned)
    (notStray : piece ≠ .char '}') : piece.WellFormed := by
  cases piece with
  | char value => exact ⟨scanned, fun same => notStray (congrArg Piece.char same)⟩
  | placeholder name => exact scanned

/-- The validator does its work unless a stray closing brace stands before the
last placeholder. -/
theorem templates_checked_iff (template : String) :
    Checked template ↔ ¬ StrayClosingBrace template := by
  constructor
  · rintro checked ⟨front, name, back, text, scanned, stray, isName, wellFormed⟩
    have accepted : validateTemplateSyntax template = .ok () := by
      rw [validateTemplateSyntax, text]
      exact validateRest_scanned scanned isName wellFormed
    rcases checked.accepts.mp accepted with ⟨pieces, isTemplate⟩
    have allScanned : ∀ piece ∈ front ++ .placeholder name :: back, piece.Scanned :=
      List.forall_mem_append.mpr ⟨scanned, List.forall_mem_cons.mpr
        ⟨isName, fun piece member => (wellFormed piece member).scanned⟩⟩
    have same := written_injective
      (fun piece member => (isTemplate.wellFormed piece member).scanned) allScanned
      (isTemplate.text.symm.trans text)
    have member : .char '}' ∈ pieces := same ▸ List.mem_append_left _ stray
    exact (isTemplate.wellFormed _ member).2 rfl
  · intro noStray
    refine ⟨⟨fun accepted => ?_, fun ⟨pieces, isTemplate⟩ => template_accepted isTemplate⟩,
      fun pieces values isTemplate => template_fills isTemplate,
      fun pieces values isTemplate => template_refuses isTemplate⟩
    rcases accepted_scanned accepted with ⟨front, back, text, scanned, wellFormed, last⟩
    refine ⟨front ++ back, text, List.forall_mem_append.mpr ⟨?_, wellFormed⟩⟩
    intro piece member
    refine wellFormed_of_scanned (scanned piece member) ?_
    rintro rfl
    rcases last with rfl | ⟨before, name, rfl⟩
    · cases member
    · refine noStray ⟨before, name, back, by rw [text, List.append_assoc]; rfl, ?_, ?_, ?_,
        wellFormed⟩
      · exact fun piece inside => scanned piece (List.mem_append_left _ inside)
      · simpa using member
      · exact scanned (.placeholder name) (by simp)

/-- A closing brace before the only placeholder is accepted. -/
theorem stray_brace_accepted : ¬ Checked "\x7d\x7bx\x7d" := by
  intro checked
  have spelled : "\x7d\x7bx\x7d".toList = ['}', '{', 'x', '}'] := String.toList_ofList
  have accepted : validateTemplateSyntax "\x7d\x7bx\x7d" = .ok () := by
    decide +kernel
  rcases checked.accepts.mp accepted with ⟨pieces, text, wellFormed⟩
  rw [spelled] at text
  cases pieces with
  | nil => cases text
  | cons piece pieces =>
      have isPiece := wellFormed piece List.mem_cons_self
      cases piece with
      | char value =>
          rw [written_cons_char] at text
          exact isPiece.2 (List.cons.inj text).1.symm
      | placeholder name =>
          rw [written_cons_placeholder] at text
          exact absurd (List.cons.inj text).1 (by decide)

end LightningGoats
