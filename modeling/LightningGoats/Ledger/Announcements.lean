import LightningGoats.Ledger.Books

/-! # Announced balances

Every event that carries a balance carries the sum of the entries committed up
to and including its own transaction. A client that replays the events and one
that reads a snapshot therefore agree.
-/

namespace LightningGoats

open Outcome Relational

def announcedBalances (events : List (Nat × Event)) : List Int :=
  events.filterMap fun entry => entry.2.feedCreditSats?

/-- The balance in the newest event up to a sequence number, which is zero
before the first one. -/
def balanceAt (seq : Nat) (db : Db) : Int :=
  (announcedBalances (db.eventLog.entries.filter fun entry => entry.1 ≤ seq)).getLast?.getD 0

/-! ## Changes -/

section Changes

variable {scope : Scope} {before after : Db}

def Event.Silent (event : Event) : Prop :=
  event.feedCreditSats? = none ∧ event.carriesBalance = false

theorem Quiet.silent (quiet : Quiet scope before after) :
    after.ledgerEntries = before.ledgerEntries ∧ (after.eventLog = before.eventLog ∨
      ∃ event : Event, event.Silent ∧
        after.eventLog = before.eventLog.insert event (noClash_fresh _ _)) := by
  cases quiet with
  | registers registers => cases registers; exact ⟨rfl, .inl rfl⟩
  | holds _ holds => cases holds; exact ⟨rfl, .inl rfl⟩
  | stores stores => cases stores; exact ⟨rfl, .inl rfl⟩
  | unlocks => exact ⟨rfl, .inl rfl⟩
  | grantsDust grants => cases grants; exact ⟨rfl, .inl rfl⟩
  | begins begins => cases begins; exact ⟨rfl, .inl rfl⟩
  | moves moves => cases moves; exact ⟨rfl, .inl rfl⟩
  | cools => exact ⟨rfl, .inl rfl⟩
  | logs logs =>
      cases logs with
      | intro silent carriesNone => exact ⟨rfl, .inr ⟨_, ⟨silent, carriesNone⟩, rfl⟩⟩
  | strike => exact ⟨rfl, .inl rfl⟩

theorem Booking.announced (booking : Booking scope before after) :
    before.ledgerEntries.Extends after.ledgerEntries ∧
      ∃ event : Event, event.feedCreditSats? = some (creditTotal after) ∧
        event.carriesBalance = true ∧
        after.eventLog = before.eventLog.insert event (noClash_fresh _ _) := by
  cases booking with
  | settles settles =>
      cases settles with
      | intro _ _ entryFresh read _ _ _ _ _ =>
        have total := feedCredit_total read
        refine ⟨.insert _ _ entryFresh, _, ?_, rfl, rfl⟩
        exact congrArg some total
  | @grants intentId receiptId update _ _ grants =>
      cases grants with
      | @intro valuation allocation receipt terms credit due _ read _
          entryFresh _ =>
        refine ⟨.insert _ _ entryFresh, _, ?_, rfl, rfl⟩
        have total := @Books.creditTotal_insert before { before with
          ledgerEntries := before.ledgerEntries.insert _ entryFresh } _ entryFresh rfl
        have announced : (grantEvent valuation update.deltaSats
            (credit + update.deltaSats)).feedCreditSats? =
              some ((credit + update.deltaSats : Nat) : Int) := rfl
        rw [announced, Int.natCast_add, feedCredit_total read]
        exact congrArg some total.symm
  | debits debits =>
      cases debits with
      | intro _ _ _ _ _ _ entryFresh read =>
        have total := feedCredit_total read
        refine ⟨.insert _ _ entryFresh, _, ?_, rfl, rfl⟩
        exact congrArg some total
  | announces announces =>
      cases announces with
      | intro read announced reconciled =>
        have total := feedCredit_total read
        refine ⟨.refl _, _, announced.trans (congrArg some total), ?_, rfl⟩
        rw [Event.carriesBalance, reconciled]
        rfl

theorem Quietly.silent (quiet : Quietly scope before after) :
    after.ledgerEntries = before.ledgerEntries ∧
      before.eventLog.Extends after.eventLog ∧
      ∀ entry ∈ after.eventLog.entries, entry ∈ before.eventLog.entries ∨ entry.2.Silent := by
  induction quiet with
  | refl => exact ⟨rfl, .refl _, fun _ member => .inl member⟩
  | tail _ change induction =>
      rcases induction with ⟨sameLedger, extended, onlySilent⟩
      rcases change.silent with ⟨ledger, unchanged | ⟨event, silent, appended⟩⟩
      · rw [unchanged]
        exact ⟨ledger.trans sameLedger, extended, onlySilent⟩
      · rw [appended]
        refine ⟨ledger.trans sameLedger, extended.trans (.insert _ _ _), fun entry member => ?_⟩
        rcases (Table.mem_entries_insert (noClash_fresh _ _)).mp member with old | rfl
        · exact onlySilent entry old
        · exact .inr silent

end Changes

/-! ## Steps -/

/-- What a call commits: entries and events are only added, a balance that is
announced is the balance it leaves, and no entry is added without one. -/
structure AnnouncesWhatItBooks (before after : Db) : Prop where
  entriesKept : before.ledgerEntries.Extends after.ledgerEntries
  eventsKept : before.eventLog.Extends after.eventLog
  exact : ∀ entry ∈ after.eventLog.entries, entry ∉ before.eventLog.entries →
    ∀ balance, entry.2.feedCreditSats? = some balance → balance = creditTotal after
  announced : after.ledgerEntries ≠ before.ledgerEntries →
    ∃ entry ∈ after.eventLog.entries, entry ∉ before.eventLog.entries ∧
      entry.2.feedCreditSats? = some (creditTotal after)

theorem Effect.announces {scope : Scope} {before after : Db} (effect : Effect scope before after) :
    AnnouncesWhatItBooks before after := by
  rcases effect with ⟨middle, quiet, ending⟩
  rcases Quietly.silent quiet with ⟨sameLedger, extended, onlySilent⟩
  rcases ending with rfl | booking
  · refine ⟨by rw [sameLedger]; exact .refl _, extended, ?_, fun changed => absurd sameLedger changed⟩
    intro entry member isNew balance announced
    rcases onlySilent entry member with old | silent
    · exact absurd old isNew
    · rw [silent.1] at announced
      cases announced
  · rcases booking.announced with ⟨entriesKept, event, announced, _, appended⟩
    rw [sameLedger] at entriesKept
    have eventsKept : before.eventLog.Extends after.eventLog := by
      rw [appended]
      exact extended.trans (.insert _ _ _)
    refine ⟨entriesKept, eventsKept, ?_, fun _ => ?_⟩
    · intro entry member isNew balance isBalance
      rw [appended] at member
      rcases (Table.mem_entries_insert (noClash_fresh _ _)).mp member with old | rfl
      · rcases onlySilent entry old with oldest | silent
        · exact absurd oldest isNew
        · rw [silent.1] at isBalance
          cases isBalance
      · rw [announced] at isBalance
        exact (Option.some.inj isBalance).symm
    · refine ⟨(middle.eventLog.nextRowid, event), ?_, fun old => ?_, announced⟩
      · rw [appended]
        exact Table.mem_entries_insert_new (noClash_fresh _ _)
      · exact middle.eventLog.nextRowid_not_mem event (extended.mem_entries old)

/-! ## Runs -/

/-- The newest announced balance is the balance, and exactly the events of
three types announce one. -/
structure Announcements (db : Db) : Prop where
  newest : (announcedBalances db.eventLog.entries).getLast?.getD 0 = creditTotal db
  carries : ∀ entry ∈ db.eventLog.entries,
    (entry.2.feedCreditSats?.isSome = true ↔ entry.2.carriesBalance = true)

namespace Announcements

variable {scope : Scope} {before after : Db}

theorem ofFresh : Announcements Db.fresh where
  newest := rfl
  carries := by simp [Db.fresh]

theorem announcedBalances_insert (log : Table (@NoClash Event)) (event : Event) :
    announcedBalances (log.insert event (noClash_fresh _ _)).entries =
      announcedBalances log.entries ++ event.feedCreditSats?.toList := by
  simp only [announcedBalances, Table.entries_insert, List.filterMap_append]
  cases announced : event.feedCreditSats? <;> simp [announced]

theorem of_quiet (announcements : Announcements before) (quiet : Quiet scope before after) :
    Announcements after := by
  rcases quiet.silent with ⟨ledger, unchanged | ⟨event, silent, appended⟩⟩
  · refine ⟨?_, ?_⟩
    · rw [unchanged, creditTotal, ledger]
      exact announcements.newest
    · rw [unchanged]
      exact announcements.carries
  · refine ⟨?_, ?_⟩
    · rw [appended, announcedBalances_insert, silent.1, Option.toList_none, List.append_nil,
        creditTotal, ledger]
      exact announcements.newest
    · rw [appended]
      intro entry member
      rcases (Table.mem_entries_insert (noClash_fresh _ _)).mp member with old | rfl
      · exact announcements.carries entry old
      · simp [silent.1, silent.2]

theorem of_booking (announcements : Announcements before) (booking : Booking scope before after) :
    Announcements after := by
  rcases booking.announced with ⟨_, event, announced, carries, appended⟩
  refine ⟨?_, ?_⟩
  · rw [appended, announcedBalances_insert, announced]
    simp
  · rw [appended]
    intro entry member
    rcases (Table.mem_entries_insert (noClash_fresh _ _)).mp member with old | rfl
    · exact announcements.carries entry old
    · simp [announced, carries]

theorem of_run [SerdeJson] {labels : List LedgerLabel}
    (run : LedgerRun Db.fresh labels after) : Announcements after :=
  ledgerRun_invariant of_quiet of_booking run ofFresh

end Announcements

section Runs

variable [SerdeJson] {before after : Db} {labels : List LedgerLabel}

theorem eventLog_extends_run (run : LedgerRun before labels after) :
    before.eventLog.Extends after.eventLog := by
  induction run with
  | nil => exact .refl _
  | cons step _ induction => exact (ledgerStep_effect step).announces.eventsKept.trans induction

end Runs

/-! ## Snapshots -/

theorem le_foldl_max (values : List Nat) (start : Nat) :
    start ≤ values.foldl max start ∧ ∀ value ∈ values, value ≤ values.foldl max start := by
  induction values generalizing start with
  | nil => simp
  | cons head tail induction =>
      rcases induction (max start head) with ⟨startBelow, others⟩
      refine ⟨Nat.le_trans (Nat.le_max_left _ _) startBelow, fun value member => ?_⟩
      rcases List.mem_cons.mp member with rfl | inTail
      · exact Nat.le_trans (Nat.le_max_right _ _) startBelow
      · exact others value inTail

theorem foldl_max_le {values : List Nat} {start bound : Nat} (startBelow : start ≤ bound)
    (below : ∀ value ∈ values, value ≤ bound) : values.foldl max start ≤ bound := by
  induction values generalizing start with
  | nil => exact startBelow
  | cons head tail induction =>
      exact induction (Nat.max_le.mpr ⟨startBelow, below head List.mem_cons_self⟩)
        fun value member => below value (List.mem_cons_of_mem _ member)

/-- Whatever is committed later, the events up to the latest sequence number
stay the events there are now. -/
theorem balanceAt_latest {db later : Db} (extended : db.eventLog.Extends later.eventLog) :
    balanceAt (latestEventSeq db) later =
      (announcedBalances db.eventLog.entries).getLast?.getD 0 := by
  rw [balanceAt, extended.filter_le]
  · intro entry member
    exact (le_foldl_max _ 0).2 entry.1 (List.mem_map_of_mem member)
  · refine foldl_max_le (Nat.zero_le _) fun value member => ?_
    rcases List.mem_map.mp member with ⟨entry, entryMember, rfl⟩
    exact db.eventLog.bounded entry entryMember

theorem overlaySnapshotMessage_credit {thresholdSats seq : Nat} {db : Db}
    {message : List (String × JsonValue)}
    (taken : overlaySnapshotMessage thresholdSats db = .ok (seq, message)) :
    seq = latestEventSeq db ∧
      message.lookup "feed_credit_sats" = some (.number (creditTotal db)) := by
  simp only [overlaySnapshotMessage, overlaySnapshotState, bind_eq_ok, pure_eq_ok,
    ensure_eq_ok, toU64_eq_ok, Prod.mk.injEq] at taken
  rcases taken with ⟨_, _, snapshot, ⟨credit, summed, _, _, unresolved, _, shown, isShown, rfl⟩,
    rfl, rfl⟩
  have total := sqlSum_total summed
  refine ⟨rfl, ?_⟩
  rw [creditTotal, ← total, isShown]
  rfl

/-- In every reachable state, every event that carries a balance carries the sum
of the entries committed up to and including its own transaction, no call adds an
entry without such an event, and any snapshot shows what the newest such event up
to its sequence number announces, now and in every later state. Of the events that
`append_event` is given, only the two that its callers append are calls: interface
information and weather, which announce no balance. -/
theorem announced_balances_agree [SerdeJson] {labels : List LedgerLabel} {db : Db}
    (run : LedgerRun Db.fresh labels db) :
    (∀ entry ∈ db.eventLog.entries,
      (entry.2.feedCreditSats?.isSome = true ↔ entry.2.carriesBalance = true) ∧
      ∀ balance, entry.2.feedCreditSats? = some balance →
        ∃ earlier label later source target, labels = earlier ++ label :: later ∧
          LedgerRun Db.fresh earlier source ∧ LedgerStep source label target ∧
          LedgerRun target later db ∧
          entry ∉ source.eventLog.entries ∧ entry ∈ target.eventLog.entries ∧
          balance = creditTotal target) ∧
    (∀ label after, LedgerStep db label after → AnnouncesWhatItBooks db after) ∧
    ∀ thresholdSats seq message laterLabels later,
      overlaySnapshotMessage thresholdSats db = .ok (seq, message) →
      LedgerRun db laterLabels later →
        message.lookup "feed_credit_sats" = some (.number (balanceAt seq later)) := by
  have announcements := Announcements.of_run run
  refine ⟨fun entry member => ⟨announcements.carries entry member, ?_⟩,
    fun label after step => (ledgerStep_effect step).announces, ?_⟩
  · intro balance announced
    have absent : entry ∉ Db.fresh.eventLog.entries := by simp [Db.fresh]
    let logged (db : Db) : Prop := entry ∈ db.eventLog.entries
    have wasAbsent : ¬ logged Db.fresh := absent
    rcases run.established wasAbsent member with
      ⟨earlier, label, later, source, target, split, first, step, last, isNew, added⟩
    exact ⟨earlier, label, later, source, target, split, first, step, last, isNew, added,
      (ledgerStep_effect step).announces.exact entry added isNew balance announced⟩
  · intro thresholdSats seq message laterLabels later taken laterRun
    rcases overlaySnapshotMessage_credit taken with ⟨rfl, shown⟩
    rw [balanceAt_latest (eventLog_extends_run laterRun), announcements.newest]
    exact shown

/-- The snapshot of the example shows the 3 sats that its last event announces. -/
theorem announced_balances_agree_example :
    ∃ message, overlaySnapshotMessage 3 exampleDb = .ok (latestEventSeq exampleDb, message) ∧
      message.lookup "feed_credit_sats" = some (.number 3) ∧
      message.lookup "feed_credit_sats" =
        some (.number (balanceAt (latestEventSeq exampleDb) exampleDb)) := by
  have taken : overlaySnapshotMessage 3 exampleDb = .ok (latestEventSeq exampleDb,
      [("type", .string "snapshot"), ("seq", .number 3), ("feed_credit_sats", .number 3),
        ("threshold_sats", .number 3), ("feeds_due", .number 1), ("remainder_sats", .number 0),
        ("unresolved_feed_attempt", .null)]) := by
    decide +kernel
  exact ⟨_, taken, rfl, (@announced_balances_agree exampleJson _ _ exampleRun).2.2 3 _ _ [] _
    taken (.nil _)⟩

end LightningGoats
