import LightningGoats.Strike.Recovery

/-! # Work is not lost

Accepted work stays in the inbox until its receive has been settled, and a receive
is settled once, however many notifications and scans report it.
-/

namespace LightningGoats

open Outcome Relational Tasks

section Once

variable {db : Db}

theorem Books.entries_of_identity (books : Books db) (source sourceId : String) :
    (db.ledgerEntries.rows.filter fun entry =>
      entry.paymentSource = some source && entry.paymentSourceId = some sourceId).length ≤ 1 := by
  by_cases settled : ∃ row ∈ db.settledPayments.rows, row.source = source ∧
      row.sourceId = sourceId
  · rcases settled with ⟨row, member, rfl, rfl⟩
    rw [books.entries_of_settlement member]
    exact Nat.le_refl 1
  · have none : (db.ledgerEntries.rows.filter fun entry =>
        entry.paymentSource = some source && entry.paymentSourceId = some sourceId) = [] := by
      apply List.filter_eq_nil_iff.mpr
      intro entry member selected
      simp only [Bool.and_eq_true, decide_eq_true_eq] at selected
      cases books.counterparts entry member with
      | settlement row isSettled isEntry =>
          subst isEntry
          exact settled ⟨row, isSettled, Option.some.inj selected.1,
            Option.some.inj selected.2⟩
      | debit _ _ _ isEntry =>
          subst isEntry
          cases selected.1
      | grant _ _ _ isEntry =>
          subst isEntry
          cases selected.1
    rw [none]
    exact Nat.zero_le 1

theorem HasWork.filter_eq {key : String} {receiveRequestId receiveId : Uuid}
    (has : HasWork key receiveRequestId receiveId db) :
    ∃ row, (db.strikeInbox.rows.filter fun row => row.workKey = key) = [row] ∧
      row.receiveRequestId = receiveRequestId ∧ row.receiveId = receiveId := by
  rcases has with ⟨row, member, isKey, same⟩
  refine ⟨row, ?_, same⟩
  apply filter_eq_singleton (db.strikeInbox.rows_nodup fun row => sameKey_iff.mpr ⟨_, rfl, rfl⟩)
    member (decide_eq_true isKey)
  intro other otherMember otherKey
  exact db.strikeInbox.row_eq_of_clash otherMember member
    (sameKey_iff.mpr ⟨key, congrArg some (of_decide_eq_true otherKey), congrArg some isKey⟩)

end Once

/-- Enqueued work is kept with its data, it is done only if its receive has been
settled, and a receive is settled and booked at most once. -/
structure WorkRecovers (labels : List StrikeLabel) (db : Db) : Prop where
  kept : ∀ label ∈ labels, ∀ called key event response, ledgerLabel label = some called →
    called.call.enqueues = some (key, event) → called.result = .ok response →
    ∃ row, (db.strikeInbox.rows.filter fun row => row.workKey = key) = [row] ∧
      row.receiveRequestId = event.receiveRequestId ∧ row.receiveId = event.receiveId
  done : ∀ row ∈ db.strikeInbox.rows, row.status = .done → Received row.receiveId db
  settled : ∀ receiveId : Uuid, (db.settledPayments.rows.filter
    (SettledPaymentRow.hasIdentity strikeSource receiveId.toText)).length ≤ 1
  booked : ∀ receiveId : Uuid, (db.ledgerEntries.rows.filter fun entry =>
    entry.paymentSource = some strikeSource &&
      entry.paymentSourceId = some receiveId.toText).length ≤ 1

section Runs

variable [SerdeJson] [ReceiveJson] [Bolt11] {system : StrikeSystem} {labels : List StrikeLabel}

/-- Whatever the order of notifications, worker steps, answers and crashes, work that
was accepted is not lost, and no receive is credited twice. -/
theorem strike_work_recovers (run : StrikeRun .fresh labels system) :
    WorkRecovers labels system.store := by
  have ledgerRun := ledgerRun_of_run run
  constructor
  · intro label member called key event response isCall enqueues accepted
    have calledMember : called ∈ labels.filterMap ledgerLabel :=
      List.mem_filterMap.mpr ⟨label, member, isCall⟩
    rcases List.append_of_mem calledMember with ⟨earlier, later, split⟩
    rw [split] at ledgerRun
    rcases ledgerRun.at_split with ⟨_, _, _, step, rest⟩
    exact ((hasWork_of_enqueues step enqueues accepted).of_run rest).filter_eq
  · exact (safe_of_run run).good
  · exact fun receiveId => hasIdentity_length _ _ _
  · exact fun receiveId => (Books.of_run ledgerRun).entries_of_identity _ _

end Runs

/-- A receive is settled, and the worker is lost before it finishes the work. The next one
finds it settled, and a scan enqueues the receive again under another key. -/
def exampleRecovered : List StrikeInput :=
  [.other (.recordStrikeReceiveRequest exampleIssued) 1,
    .other (.enqueueStrikeEvent exampleEvent) 2,
    .start .due, .call 0 3 true, .call 0 3 true, .ask 0 (exampleAnswers [exampleReceive]),
    .call 0 4 true, .crash,
    .start .due, .call 0 5 true, .call 0 5 true, .ask 0 (exampleAnswers [exampleReceive]),
    .call 0 6 true, .call 0 6 true, .call 0 7 true, .page 0 (.ok [exampleReceive]),
    .call 0 8 true, .call 0 8 true,
    .start .due, .call 1 9 true, .call 1 9 true, .ask 1 (exampleAnswers [exampleReceive]),
    .call 1 10 true, .call 1 10 true]

theorem strike_work_recovers_example :
    let recovered := (examplePerform exampleRecovered).2.store
    (recovered.strikeInbox.rows.map InboxRow.status, recovered.settledPayments.rows.length) =
        ([.done, .done], 1) ∧
      WorkRecovers (examplePerform exampleRecovered).1 recovered :=
  ⟨by decide +kernel, @strike_work_recovers exampleJson exampleReceiveJson exampleBolt11 _ _
    (examplePerform_run exampleRecovered)⟩

end LightningGoats
