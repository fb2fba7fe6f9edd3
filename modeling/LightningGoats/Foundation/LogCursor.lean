import Mathlib.Data.List.Pairwise
import Mathlib.Order.Lattice

/-! # Reading a log with a cursor

A log is a list of entries with ascending keys that grows at its end. A reader
remembers the key of the last entry that it has passed. Readers that look at the
log at different times agree on which entry comes after a given one.
-/

namespace LogCursor

section Cursors

variable {Entry Key : Type} [LinearOrder Key] (key : Entry → Key)

def Ascending (log : List Entry) : Prop :=
  log.Pairwise fun earlier later => key earlier < key later

def passed (cursor : Key) (log : List Entry) : List Entry :=
  log.filter fun entry => key entry ≤ cursor

def ahead (cursor : Key) (log : List Entry) : List Entry :=
  log.filter fun entry => cursor < key entry

/-- Where a reader can be that started at `start`. -/
def IsPlace (start : Key) (log : List Entry) (cursor : Key) : Prop :=
  cursor = start ∨ ∃ entry ∈ log, key entry = cursor

def hops {Key : Type} (start : Key) : List Key → List (Key × Key)
  | [] => []
  | key :: rest => (start, key) :: hops key rest

variable {key} {start cursor other : Key} {entry : Entry} {log added rest : List Entry}

theorem passed_append_ahead (ascending : Ascending key log) :
    passed key cursor log ++ ahead key cursor log = log := by
  induction log with
  | nil => rfl
  | cons entry log induction =>
      cases ascending with
      | cons first others =>
        by_cases reached : key entry ≤ cursor
        · have left : passed key cursor (entry :: log) = entry :: passed key cursor log := by
            apply List.filter_cons_of_pos
            exact decide_eq_true reached
          have right : ahead key cursor (entry :: log) = ahead key cursor log := by
            apply List.filter_cons_of_neg
            simpa using reached
          rw [left, right, List.cons_append, induction others]
        · have allAhead : ∀ other ∈ entry :: log, cursor < key other := by
            intro other member
            cases List.mem_cons.mp member with
            | inl isFirst => exact isFirst ▸ not_le.mp reached
            | inr isLater => exact lt_trans (not_le.mp reached) (first other isLater)
          have none : passed key cursor (entry :: log) = [] := by
            apply List.filter_eq_nil_iff.mpr
            intro other member
            simpa using allAhead other member
          have every : ahead key cursor (entry :: log) = entry :: log := by
            apply List.filter_eq_self.mpr
            intro other member
            exact decide_eq_true (allAhead other member)
          rw [none, every, List.nil_append]

omit [LinearOrder Key] in
theorem hops_concat (start : Key) (keys : List Key) (last : Key) :
    hops start (keys ++ [last]) = hops start keys ++ [(keys.getLastD start, last)] := by
  induction keys generalizing start with
  | nil => rfl
  | cons first rest induction =>
      rw [List.cons_append, hops, hops, induction first, List.getLastD_cons, List.cons_append]

theorem mem_passed : entry ∈ passed key cursor log ↔ entry ∈ log ∧ key entry ≤ cursor := by
  simp [passed]

theorem mem_ahead : entry ∈ ahead key cursor log ↔ entry ∈ log ∧ cursor < key entry := by
  simp [ahead]

theorem passed_next (ascending : Ascending key log)
    (next : ahead key cursor log = entry :: rest) :
    passed key (key entry) log = passed key cursor log ++ [entry] := by
  have parts : passed key cursor log ++ ahead key cursor log = log :=
    passed_append_ahead ascending
  rw [next] at parts
  have isAhead : cursor < key entry := by
    apply (mem_ahead.mp _).2
    · exact log
    · rw [next]
      exact List.mem_cons_self
  have later : ∀ other ∈ rest, key entry < key other := by
    rw [← parts] at ascending
    cases (List.pairwise_append.mp ascending).2.1 with
    | cons first _ => exact first
  have earlier : ∀ other ∈ passed key cursor log, key other ≤ key entry := by
    intro other member
    exact le_trans (mem_passed.mp member).2 (le_of_lt isAhead)
  have splits : passed key (key entry) log =
      passed key (key entry) (passed key cursor log) ++
        passed key (key entry) (entry :: rest) := by
    apply Eq.trans (congrArg (passed key (key entry)) parts.symm)
    exact List.filter_append _ _
  have kept : passed key (key entry) (passed key cursor log) = passed key cursor log := by
    apply List.filter_eq_self.mpr
    intro other member
    exact decide_eq_true (earlier other member)
  have last : passed key (key entry) (entry :: rest) = [entry] := by
    have none : passed key (key entry) rest = [] := by
      apply List.filter_eq_nil_iff.mpr
      intro other member
      simpa using later other member
    have first : passed key (key entry) (entry :: rest) =
        entry :: passed key (key entry) rest := by
      apply List.filter_cons_of_pos
      exact decide_eq_true (le_refl (key entry))
    rw [first, none]
  rw [splits, kept, last]

theorem passed_append (later : ∀ entry ∈ added, cursor < key entry) :
    passed key cursor (log ++ added) = passed key cursor log := by
  have none : passed key cursor added = [] := by
    apply List.filter_eq_nil_iff.mpr
    intro entry member
    simpa using later entry member
  apply Eq.trans (List.filter_append _ _)
  exact (congrArg (passed key cursor log ++ ·) none).trans (List.append_nil _)

theorem ahead_append (later : ∀ entry ∈ added, cursor < key entry) :
    ahead key cursor (log ++ added) = ahead key cursor log ++ added := by
  have every : ahead key cursor added = added := by
    apply List.filter_eq_self.mpr
    intro entry member
    exact decide_eq_true (later entry member)
  apply Eq.trans (List.filter_append _ _)
  exact congrArg (ahead key cursor log ++ ·) every

theorem IsPlace.eq_of_before (place : IsPlace key start log other) (notBefore : start ≤ cursor)
    (next : ahead key cursor log = entry :: rest) (ascending : Ascending key log)
    (reached : cursor ≤ other) (before : other < key entry) : other = cursor := by
  cases place with
  | inl isStart =>
      subst isStart
      exact le_antisymm notBefore reached
  | inr isEntry =>
      cases isEntry with
      | intro found isFound =>
        by_contra apart
        have beyond : cursor < other := lt_of_le_of_ne reached (Ne.symm apart)
        have isAhead : found ∈ entry :: rest := by
          rw [← next]
          exact mem_ahead.mpr ⟨isFound.1, isFound.2 ▸ beyond⟩
        have ordered : Ascending key (entry :: rest) := by
          rw [← next]
          exact ascending.filter _
        cases ordered with
        | cons first _ =>
          cases List.mem_cons.mp isAhead with
          | inl isNext =>
              rw [isNext] at isFound
              exact absurd isFound.2 (ne_of_gt before)
          | inr isLater =>
              have after := first found isLater
              rw [isFound.2] at after
              exact lt_asymm after before

end Cursors

/-! ## Numbered logs -/

section Numbered

def Consecutive (cursor : Nat) : List Nat → Prop
  | [] => True
  | number :: rest => number = cursor + 1 ∧ Consecutive number rest

theorem length_le_of_ascending {cursor bound : Nat} {numbers : List Nat}
    (ascending : numbers.Pairwise (· < ·)) (later : ∀ number ∈ numbers, cursor < number)
    (bounded : ∀ number ∈ numbers, number ≤ bound) : numbers.length ≤ bound - cursor := by
  induction numbers generalizing cursor with
  | nil => exact Nat.zero_le _
  | cons number rest induction =>
      cases ascending with
      | cons first others =>
        have restFits := induction others first fun other member =>
          bounded other (List.mem_cons_of_mem _ member)
        have after := later number List.mem_cons_self
        have before := bounded number List.mem_cons_self
        rw [List.length_cons]
        omega

theorem consecutive_of_length {cursor : Nat} {numbers : List Nat}
    (ascending : numbers.Pairwise (· < ·)) (later : ∀ number ∈ numbers, cursor < number)
    (bounded : ∀ number ∈ numbers, number ≤ cursor + numbers.length) :
    Consecutive cursor numbers := by
  induction numbers generalizing cursor with
  | nil => trivial
  | cons number rest induction =>
      cases ascending with
      | cons first others =>
        have after := later number List.mem_cons_self
        have fits := length_le_of_ascending others first fun other member =>
          bounded other (List.mem_cons_of_mem _ member)
        have own := bounded number List.mem_cons_self
        rw [List.length_cons] at fits bounded own
        have isNext : number = cursor + 1 := by omega
        refine ⟨isNext, induction others first fun other member => ?_⟩
        have within := bounded other (List.mem_cons_of_mem _ member)
        omega

end Numbered

/-! ## Following a numbered log -/

section Following

/-- What a follower is sent: where it continues, an entry, or the state that all
entries up to a number lead to. -/
inductive Notice (Entry State : Type)
  | resume (after through : Nat)
  | entry (number : Nat) (entry : Entry)
  | state (number : Nat) (state : State)

variable {Entry State : Type} {notices others : List (Notice Entry State)}

def Notice.cursor : Notice Entry State → Nat
  | resume after _ => after
  | entry number _ => number
  | state number _ => number

def cursorAfter (cursor : Option Nat) (notices : List (Notice Entry State)) : Option Nat :=
  notices.foldl (fun _ notice => some notice.cursor) cursor

/-- A follower is told first where it is, and then each entry in turn. Only a state
may pass entries over. -/
def Follows : Option Nat → List (Notice Entry State) → Prop
  | _, [] => True
  | none, .resume after _ :: rest => Follows (some after) rest
  | none, .state number _ :: rest => Follows (some number) rest
  | none, .entry _ _ :: _ => False
  | some _, .resume _ _ :: _ => False
  | some cursor, .entry number _ :: rest => number = cursor + 1 ∧ Follows (some number) rest
  | some cursor, .state number _ :: rest => cursor ≤ number ∧ Follows (some number) rest

theorem cursorAfter_concat (cursor : Option Nat) (notices : List (Notice Entry State))
    (notice : Notice Entry State) :
    cursorAfter cursor (notices ++ [notice]) = some notice.cursor := by
  rw [cursorAfter, List.foldl_append]
  rfl

theorem follows_append {cursor : Option Nat} :
    Follows cursor (notices ++ others) ↔
      Follows cursor notices ∧ Follows (cursorAfter cursor notices) others := by
  induction notices generalizing cursor with
  | nil => exact ⟨fun follows => ⟨trivial, follows⟩, fun both => both.2⟩
  | cons notice rest induction =>
      cases cursor with
      | none =>
          cases notice with
          | resume after through => exact induction
          | entry number entry => exact ⟨False.elim, fun both => both.1⟩
          | state number state => exact induction
      | some cursor =>
          cases notice with
          | resume after through => exact ⟨False.elim, fun both => both.1⟩
          | entry number entry =>
              constructor
              · intro follows
                have parts := induction.mp follows.2
                exact ⟨⟨follows.1, parts.1⟩, parts.2⟩
              · intro both
                exact ⟨both.1.1, induction.mpr ⟨both.1.2, both.2⟩⟩
          | state number state =>
              constructor
              · intro follows
                have parts := induction.mp follows.2
                exact ⟨⟨follows.1, parts.1⟩, parts.2⟩
              · intro both
                exact ⟨both.1.1, induction.mpr ⟨both.1.2, both.2⟩⟩

theorem follows_entries {Item : Type} {number : Item → Nat} {entry : Item → Entry} {cursor : Nat}
    {items : List Item} (consecutive : Consecutive cursor (items.map number)) :
    Follows (some cursor)
      (items.map fun item => (.entry (number item) (entry item) : Notice Entry State)) := by
  induction items generalizing cursor with
  | nil => trivial
  | cons item rest induction => exact ⟨consecutive.1, induction consecutive.2⟩

theorem cursorAfter_le {cursor bound : Nat} (reached : cursor ≤ bound)
    (within : ∀ notice ∈ notices, notice.cursor ≤ bound) :
    ∃ last, cursorAfter (some cursor) notices = some last ∧ last ≤ bound := by
  induction notices generalizing cursor with
  | nil => exact ⟨cursor, rfl, reached⟩
  | cons notice rest induction =>
      apply induction (within notice List.mem_cons_self)
      intro other member
      exact within other (List.mem_cons_of_mem _ member)

def entryNumbers (notices : List (Notice Entry State)) : List Nat :=
  notices.filterMap fun notice =>
    match notice with
    | .entry number _ => some number
    | _ => none

theorem Follows.entries_ascend {cursor : Nat} (follows : Follows (some cursor) notices) :
    (entryNumbers notices).Pairwise (· < ·) ∧ ∀ number ∈ entryNumbers notices, cursor < number := by
  induction notices generalizing cursor with
  | nil => exact ⟨.nil, fun number member => absurd member List.not_mem_nil⟩
  | cons notice rest induction =>
      cases notice with
      | resume after through => exact False.elim follows
      | entry number entry =>
          have later := induction follows.2
          have isNext : number = cursor + 1 := follows.1
          refine ⟨.cons later.2 later.1, fun other member => ?_⟩
          cases List.mem_cons.mp member with
          | inl isNumber => omega
          | inr isLater =>
              have after := later.2 other isLater
              omega
      | state number state =>
          have later := induction follows.2
          have notBefore : cursor ≤ number := follows.1
          exact ⟨later.1, fun other member => Nat.lt_of_le_of_lt notBefore (later.2 other member)⟩

theorem Follows.entries_once (follows : Follows none notices) :
    (entryNumbers notices).Pairwise (· < ·) := by
  cases notices with
  | nil => exact .nil
  | cons notice rest =>
      cases notice with
      | resume after through => exact (entries_ascend follows).1
      | entry number entry => exact False.elim follows
      | state number state => exact (entries_ascend follows).1

end Following

end LogCursor
