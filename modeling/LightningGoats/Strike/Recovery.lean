import LightningGoats.Foundation.Tasks
import LightningGoats.Ledger.Work
import LightningGoats.Strike.Reconcile

/-! # Recovery of completed receives

Reconciliations and steps of the recovery worker are tasks on the ledger. A task
waits for one call of the ledger or one request to Strike at a time. It can be
dropped at any point, and a call that was committed may go unanswered. Whatever
else the service does to the ledger happens in between.
-/

namespace LightningGoats

open Outcome Relational Tasks

/-! ## Tasks -/

/-- Where a task is. A reconciliation that the worker makes carries the work that it
is for; one that is settled carries the answers that it rests on. -/
inductive StrikeTask
  | due
  | look (work : Option StrikeInboxWork) (event : StrikeCompletedReceiveEvent)
  | ask (work : Option StrikeInboxWork) (event : StrikeCompletedReceiveEvent)
      (stored : StoredStrikeReceiveRequest)
  | settle (work : Option StrikeInboxWork) (event : StrikeCompletedReceiveEvent)
      (stored : StoredStrikeReceiveRequest) (answers : ReceiveAnswers)
      (receive : ReconciledStrikeReceive)
  | finish (work : StrikeInboxWork)
  | retry (work : StrikeInboxWork)
  | scan
  | page (dueScan : DueScan)
  | enqueue (dueScan : DueScan) (items : List StrikeReceive) (receive : StrikeReceive)
      (rest : List StrikeReceive)
  | mark (dueScan : DueScan) (items : Option (List StrikeReceive))
  | ended

def nextOffset (offset : Nat) (items : List StrikeReceive) : Nat :=
  if items.length = 100 ∧ offset < 1000000 then offset + 100 else 0

def scanMark (dueScan : DueScan) : Option (List StrikeReceive) → Nat × Nat × Int
  | some items =>
      let next := nextOffset dueScan.pageOffset items
      (next, 0, if next = 0 then 300 else 1)
  | none => (dueScan.pageOffset, min (dueScan.attempts + 1) 30, retryDelay dueScan.attempts)

def scannedEvent (dueScan : DueScan) (receive : StrikeReceive) : StrikeCompletedReceiveEvent where
  eventId := receive.receiveId
  receiveRequestId := dueScan.request.receiveRequestId
  receiveId := receive.receiveId

namespace StrikeTask

def call [ReceiveJson] : StrikeTask → Option LedgerCall
  | due => some .dueStrikeWork
  | look _ event => some (.strikeReceiveRequest event.receiveRequestId)
  | ask _ _ _ => none
  | settle _ _ stored _ receive => some (.recordPayment (receive.payment stored))
  | finish work => some (.finishStrikeWork work.key)
  | retry work => some (.retryStrikeWork work.key work.attempts)
  | scan => some .dueStrikeScan
  | page _ => none
  | enqueue dueScan _ receive _ =>
      some (.enqueueStrikeWork (recoveryKey receive.receiveId) (scannedEvent dueScan receive))
  | mark dueScan items =>
      let mark := scanMark dueScan items
      some (.recordStrikeScan dueScan.request.receiveRequestId mark.1 mark.2.1 mark.2.2)
  | ended => none

def settled : Option StrikeInboxWork → StrikeTask
  | some work => finish work
  | none => ended

def failed : Option StrikeInboxWork → StrikeTask
  | some work => retry work
  | none => ended

def enqueueing (dueScan : DueScan) (items : List StrikeReceive) : List StrikeReceive → StrikeTask
  | [] => mark dueScan (some items)
  | receive :: rest => enqueue dueScan items receive rest

def afterCall : StrikeTask → Option LedgerResponse → StrikeTask
  | due, some (.work (some work)) => look (some work) work.event
  | due, some (.work none) => scan
  | look work event, some (.request (some stored)) => ask work event stored
  | look work _, _ => failed work
  | settle work _ _ _ _, some (.settlement _) => settled work
  | settle work _ _ _ _, _ => failed work
  | finish _, some .done => scan
  | retry _, some .done => scan
  | scan, some (.scan (some dueScan)) => page dueScan
  | enqueue dueScan items _ rest, some .done => enqueueing dueScan items rest
  | _, _ => ended

def afterAsk [Bolt11] (work : Option StrikeInboxWork) (event : StrikeCompletedReceiveEvent)
    (stored : StoredStrikeReceiveRequest) (answers : ReceiveAnswers) : StrikeTask :=
  match reconcileCompletedReceive stored event.receiveId answers with
  | .ok receive => settle work event stored answers receive
  | .error _ => failed work

def afterPage (dueScan : DueScan) (answer : Except ProviderFailure (List StrikeReceive)) :
    StrikeTask :=
  match answer.mapError (.provider "scan receives") >>=
      receivePage dueScan.request.receiveRequestId with
  | .ok items => enqueueing dueScan items (items.filter fun item => item.state = "COMPLETED")
  | .error _ => mark dueScan none

end StrikeTask

/-! ## The protocol -/

inductive StrikeEvent
  | called (label : LedgerLabel) (replied : Bool)
  | unanswered
  | asked (answers : ReceiveAnswers)
  | paged (answer : Except ProviderFailure (List StrikeReceive))
  | dropped

def LedgerLabel.reply (label : LedgerLabel) (replied : Bool) : Option LedgerResponse :=
  if replied then label.result.toOption else none

inductive StrikeActs [SerdeJson] [ReceiveJson] [Bolt11] :
    StrikeTask → Db → StrikeEvent → StrikeTask → Db → Prop
  | called {task : StrikeTask} {db after : Db} {label : LedgerLabel} (replied : Bool)
      (calls : task.call = some label.call) (step : LedgerStep db label after) :
      StrikeActs task db (.called label replied) (task.afterCall (label.reply replied)) after
  | unanswered {task : StrikeTask} {call : LedgerCall} {db : Db} (calls : task.call = some call) :
      StrikeActs task db .unanswered (task.afterCall none) db
  | asked {work : Option StrikeInboxWork} {event : StrikeCompletedReceiveEvent}
      {stored : StoredStrikeReceiveRequest} {db : Db} (answers : ReceiveAnswers) :
      StrikeActs (.ask work event stored) db (.asked answers)
        (.afterAsk work event stored answers) db
  | paged {dueScan : DueScan} {db : Db}
      (answer : Except ProviderFailure (List StrikeReceive)) :
      StrikeActs (.page dueScan) db (.paged answer) (.afterPage dueScan answer) db
  | dropped {task : StrikeTask} {db : Db} : StrikeActs task db .dropped .ended db

def LedgerCall.isRecovery : LedgerCall → Bool
  | finishStrikeWork _ | recordStrikeScan _ _ _ _ => true
  | _ => false

def StrikeOthers [SerdeJson] (before : Db) (label : LedgerLabel) (after : Db) : Prop :=
  LedgerStep before label after ∧ label.call.isRecovery = false

/-- A step of the worker starts with due work, and a reconciliation with its event. -/
def StrikeTask.Starts (task : StrikeTask) : Prop :=
  task = .due ∨ ∃ event, task = .look none event

def strikeProtocol [SerdeJson] [ReceiveJson] [Bolt11] :
    Protocol Db StrikeTask StrikeEvent LedgerLabel where
  starts := StrikeTask.Starts
  acts := StrikeActs
  others := StrikeOthers

abbrev StrikeSystem := System Db StrikeTask

abbrev StrikeLabel := Tasks.Label StrikeTask StrikeEvent LedgerLabel

def StrikeSystem.fresh : StrikeSystem :=
  ⟨Db.fresh, []⟩

abbrev StrikeRun [SerdeJson] [ReceiveJson] [Bolt11] :
    StrikeSystem → List StrikeLabel → StrikeSystem → Prop :=
  Tasks.Run strikeProtocol

/-! ## The invariant -/

def Received (receiveId : Uuid) (db : Db) : Prop :=
  ∃ row ∈ db.settledPayments.rows, row.source = strikeSource ∧ row.sourceId = receiveId.toText

def DoneReceived (db : Db) : Prop :=
  ∀ row ∈ db.strikeInbox.rows, row.status = .done → Received row.receiveId db

/-- The work that a reconciliation is for is in the inbox, with its event. -/
def WorkFor (work : Option StrikeInboxWork) (event : StrikeCompletedReceiveEvent) (db : Db) :
    Prop :=
  ∀ found ∈ work, found.event = event ∧
    HasWork found.key event.receiveRequestId event.receiveId db

def Scanned (dueScan : DueScan) (receive : StrikeReceive) (db : Db) : Prop :=
  HasWork (recoveryKey receive.receiveId) dueScan.request.receiveRequestId receive.receiveId db

def StrikeTask.Sound [Bolt11] (db : Db) : StrikeTask → Prop
  | look work event => WorkFor work event db
  | ask work event stored =>
      WorkFor work event db ∧ findRequest event.receiveRequestId db = some stored
  | settle work event stored answers receive =>
      WorkFor work event db ∧ findRequest event.receiveRequestId db = some stored ∧
        reconcileCompletedReceive stored event.receiveId answers = .ok receive
  | finish work =>
      HasWork work.key work.event.receiveRequestId work.event.receiveId db ∧
        Received work.event.receiveId db
  | enqueue dueScan items receive rest =>
      ∀ item ∈ items, item.state = "COMPLETED" →
        item ∈ receive :: rest ∨ Scanned dueScan item db
  | mark dueScan (some items) =>
      ∀ item ∈ items, item.state = "COMPLETED" → Scanned dueScan item db
  | _ => True

def LedgerGrows [SerdeJson] (before after : Db) : Prop :=
  ∃ labels, LedgerRun before labels after

namespace StrikeTask

variable [Bolt11] {db : Db}

theorem failed_sound (work : Option StrikeInboxWork) (db : Db) : (failed work).Sound db := by
  cases work <;> trivial

theorem settled_sound {work : Option StrikeInboxWork} {event : StrikeCompletedReceiveEvent}
    (isFor : WorkFor work event db) (received : Received event.receiveId db) :
    (settled work).Sound db := by
  cases work with
  | none => trivial
  | some found =>
      rcases isFor found rfl with ⟨rfl, has⟩
      exact ⟨has, received⟩

theorem enqueueing_sound {dueScan : DueScan} {items rest : List StrikeReceive}
    (scanned : ∀ item ∈ items, item.state = "COMPLETED" →
      item ∈ rest ∨ Scanned dueScan item db) :
    (enqueueing dueScan items rest).Sound db := by
  cases rest with
  | nil =>
      intro item member completed
      exact (scanned item member completed).resolve_left List.not_mem_nil
  | cons receive rest => exact scanned

theorem afterCall_none_sound (task : StrikeTask) (db : Db) : (task.afterCall none).Sound db := by
  cases task with
  | look work event => exact failed_sound work db
  | settle work => exact failed_sound work db
  | _ => trivial

theorem afterAsk_sound {work : Option StrikeInboxWork} {event : StrikeCompletedReceiveEvent}
    {stored : StoredStrikeReceiveRequest} (answers : ReceiveAnswers)
    (sound : (ask work event stored).Sound db) :
    (afterAsk work event stored answers).Sound db := by
  rw [afterAsk]
  split
  · rename_i receive reconciled
    exact ⟨sound.1, sound.2, reconciled⟩
  · exact failed_sound work db

theorem afterPage_sound (dueScan : DueScan)
    (answer : Except ProviderFailure (List StrikeReceive)) :
    (afterPage dueScan answer).Sound db := by
  rw [afterPage]
  split
  · apply enqueueing_sound
    intro item member completed
    exact .inl (List.mem_filter.mpr ⟨member, decide_eq_true completed⟩)
  · trivial

end StrikeTask

section Invariant

variable [SerdeJson] {before after : Db} {label : LedgerLabel}

theorem body_of_step {response : LedgerResponse} (step : LedgerStep before label after)
    (succeeded : label.result = .ok response) :
    label.call.body label.now before = .ok (response, after) := by
  rcases ledgerStep_cases step with ⟨_, failed, _⟩ | ⟨_, returned, ran⟩
  · rw [succeeded] at failed
    cases failed
  · rw [succeeded] at returned
    cases returned
    exact ran

omit [SerdeJson] in
theorem result_of_reply {replied : Bool} {response : LedgerResponse}
    (reply : label.reply replied = some response) : label.result = .ok response := by
  rw [LedgerLabel.reply] at reply
  split at reply
  · cases isResult : label.result with
    | ok value =>
        rw [isResult] at reply
        cases reply
        rfl
    | error error =>
        rw [isResult] at reply
        cases reply
  · cases reply

theorem Received.of_step {receiveId : Uuid} (received : Received receiveId before)
    (step : LedgerStep before label after) : Received receiveId after := by
  rcases received with ⟨row, member, same⟩
  exact ⟨row, (settlements_extend_step step).mem_rows member, same⟩

theorem DoneReceived.of_step (done : DoneReceived before) (step : LedgerStep before label after)
    (finishes : ∀ key, label.call = .finishStrikeWork key → ∀ row ∈ before.strikeInbox.rows,
      row.workKey = key → Received row.receiveId before) : DoneReceived after := by
  intro row member isDone
  rcases strike_of_step step with kept | change
  · rw [kept.inbox] at member
    exact (done row member isDone).of_step step
  suffices settled : Received row.receiveId before from settled.of_step step
  rcases label with ⟨call, now, result⟩
  cases change with
  | requests requests =>
      cases requests
      exact done row member isDone
  | enqueues _ _ fresh =>
      rcases (Table.mem_rows_insert fresh).mp member with old | rfl
      · exact done row old isDone
      · cases isDone
  | @finishes key _ _ ran =>
      cases ran
      rw [Table.rows_update] at member
      rcases List.mem_map.mp member with ⟨old, oldMember, rfl⟩
      rw [finish_receiveId]
      by_cases isKey : old.workKey = key
      · exact finishes key rfl old oldMember isKey
      · rw [InboxRow.finish, if_neg isKey] at isDone
        exact done old oldMember isDone
  | @retries key attempts _ _ ran =>
      cases ran
      rw [Table.rows_update] at member
      rcases List.mem_map.mp member with ⟨old, oldMember, rfl⟩
      rw [retry_receiveId]
      rw [InboxRow.retry] at isDone
      split at isDone
      · dsimp only at isDone
        split at isDone <;> cases isDone
      · exact done old oldMember isDone
  | scans scans =>
      simp only [recordStrikeScan, bind_eq_ok, pure_eq_ok, Prod.mk.injEq, true_and] at scans
      rcases scans with ⟨_, _, rfl⟩
      exact done row member isDone

theorem LedgerGrows.refl (db : Db) : LedgerGrows db db :=
  ⟨[], .nil db⟩

theorem LedgerGrows.trans {middle : Db} (first : LedgerGrows before middle)
    (second : LedgerGrows middle after) : LedgerGrows before after := by
  rcases first with ⟨earlier, firstRun⟩
  rcases second with ⟨later, secondRun⟩
  exact ⟨earlier ++ later, firstRun.append secondRun⟩

theorem LedgerGrows.of_step (step : LedgerStep before label after) : LedgerGrows before after :=
  ⟨[label], .single step⟩

theorem HasWork.grow {key : String} {receiveRequestId receiveId : Uuid}
    (has : HasWork key receiveRequestId receiveId before) (grows : LedgerGrows before after) :
    HasWork key receiveRequestId receiveId after := by
  rcases grows with ⟨labels, run⟩
  exact has.of_run run

theorem Received.grow {receiveId : Uuid} (received : Received receiveId before)
    (grows : LedgerGrows before after) : Received receiveId after := by
  rcases grows with ⟨labels, run⟩
  exact run.invariant Received.of_step received

theorem WorkFor.grow {work : Option StrikeInboxWork} {event : StrikeCompletedReceiveEvent}
    (isFor : WorkFor work event before) (grows : LedgerGrows before after) :
    WorkFor work event after := by
  intro found isFound
  rcases isFor found isFound with ⟨sameEvent, has⟩
  exact ⟨sameEvent, has.grow grows⟩

theorem found_grow {id : Uuid} {stored : StoredStrikeReceiveRequest}
    (found : findRequest id before = some stored) (grows : LedgerGrows before after) :
    findRequest id after = some stored := by
  rcases grows with ⟨labels, run⟩
  exact found_of_run found run

namespace StrikeTask

variable [Bolt11] {task : StrikeTask}

theorem Sound.grow (sound : task.Sound before) (grows : LedgerGrows before after) :
    task.Sound after := by
  cases task with
  | look => exact WorkFor.grow sound grows
  | ask => exact ⟨sound.1.grow grows, found_grow sound.2 grows⟩
  | settle => exact ⟨sound.1.grow grows, found_grow sound.2.1 grows, sound.2.2⟩
  | finish => exact ⟨sound.1.grow grows, sound.2.grow grows⟩
  | enqueue =>
      intro item member completed
      cases sound item member completed with
      | inl waiting => exact .inl waiting
      | inr scanned => exact .inr (HasWork.grow scanned grows)
  | mark dueScan items =>
      cases items with
      | none => trivial
      | some items =>
          intro item member completed
          exact HasWork.grow (sound item member completed) grows
  | _ => trivial

theorem afterCall_sound [ReceiveJson] {replied : Bool} (sound : task.Sound before)
    (calls : task.call = some label.call) (step : LedgerStep before label after) :
    (task.afterCall (label.reply replied)).Sound after := by
  cases reply : label.reply replied with
  | none => exact afterCall_none_sound task after
  | some response =>
      have grows := LedgerGrows.of_step step
      have succeeded := result_of_reply reply
      have ran := body_of_step step succeeded
      rcases label with ⟨call, now, result⟩
      cases task with
      | due =>
          cases calls
          simp only [LedgerCall.body, readOnly_eq_ok] at ran
          rcases ran with ⟨_, isDue, rfl, rfl⟩
          cases isDue
          cases due : dueStrikeWork now after with
          | none => trivial
          | some work =>
              intro found isFound
              cases isFound
              exact ⟨rfl, hasWork_of_due due⟩
      | look work event =>
          cases calls
          simp only [LedgerCall.body, readOnly_eq_ok] at ran
          rcases ran with ⟨stored, found, rfl, rfl⟩
          cases stored with
          | none => exact failed_sound work _
          | some stored => exact ⟨sound, Except.ok.inj found⟩
      | ask => cases calls
      | settle work event stored answers receive =>
          cases calls
          have settles : LedgerLabel.Delivers strikeSource event.receiveId.toText
              ⟨.recordPayment (receive.payment stored), now, result⟩ := by
            rcases reconcileCompletedReceive_reconciles sound.2.2 with ⟨_, reconciles⟩
            exact ⟨_, _, rfl, rfl, congrArg Uuid.toText reconciles.sameId, succeeded⟩
          have received := settled_of_delivers step settles
          simp only [LedgerCall.body, transact_eq_ok] at ran
          rcases ran with ⟨outcome, _, rfl⟩
          exact settled_sound (sound.1.grow grows) received
      | enqueue dueScan items receive rest =>
          cases calls
          have has := hasWork_of_enqueues step rfl succeeded
          simp only [LedgerCall.body, transact_eq_ok] at ran
          rcases ran with ⟨_, _, rfl⟩
          apply enqueueing_sound
          intro item member completed
          cases sound item member completed with
          | inl waiting =>
              cases List.mem_cons.mp waiting with
              | inl isReceive =>
                  subst isReceive
                  exact .inr has
              | inr later => exact .inl later
          | inr scanned => exact .inr (HasWork.grow scanned grows)
      | finish =>
          cases calls
          simp only [LedgerCall.body, transact_eq_ok] at ran
          rcases ran with ⟨_, _, rfl⟩
          trivial
      | retry =>
          cases calls
          simp only [LedgerCall.body, transact_eq_ok] at ran
          rcases ran with ⟨_, _, rfl⟩
          trivial
      | scan =>
          cases calls
          simp only [LedgerCall.body, readOnly_eq_ok] at ran
          rcases ran with ⟨_, isDue, rfl, rfl⟩
          cases isDue
          cases dueStrikeScan now after <;> trivial
      | page => cases calls
      | mark => trivial
      | ended => cases calls

end StrikeTask

variable [ReceiveJson] [Bolt11]

/-- The worker and the reconciliations keep to what the others rely on. -/
theorem strikeDiscipline :
    Discipline strikeProtocol DoneReceived (fun db task => task.Sound db) LedgerGrows where
  refl := LedgerGrows.refl
  trans := LedgerGrows.trans
  stable := fun grows sound => sound.grow grows
  starts := by
    intro db task _ starts
    cases starts with
    | inl isDue => rw [isDue]; trivial
    | inr looks =>
        rcases looks with ⟨event, rfl⟩
        intro found isFound
        cases isFound
  acts := by
    intro before after task next event done sound acts
    cases acts with
    | called replied calls step =>
        refine ⟨done.of_step step ?_, StrikeTask.afterCall_sound sound calls step, .of_step step⟩
        intro key finishes row member isKey
        rw [finishes] at calls
        cases task with
        | finish work =>
            cases calls
            rw [sound.1.receiveId_eq member isKey]
            exact sound.2
        | _ => cases calls
    | unanswered => exact ⟨done, StrikeTask.afterCall_none_sound task _, .refl _⟩
    | asked answers => exact ⟨done, StrikeTask.afterAsk_sound answers sound, .refl _⟩
    | paged answer => exact ⟨done, StrikeTask.afterPage_sound _ answer, .refl _⟩
    | dropped => exact ⟨done, trivial, .refl _⟩
  others := by
    intro before after label done others
    refine ⟨done.of_step others.1 fun key finishes => ?_, .of_step others.1⟩
    have unfinished := others.2
    rw [finishes] at unfinished
    cases unfinished

end Invariant

/-! ## Runs -/

def ledgerLabel : StrikeLabel → Option LedgerLabel
  | .acted _ _ (.called label _) => some label
  | .other label => some label
  | _ => none

theorem safe_fresh [Bolt11] :
    Safe DoneReceived (fun db task => task.Sound db) StrikeSystem.fresh where
  good := by
    intro row member
    cases member
  sound := by
    intro task member
    cases member

section Runs

variable [SerdeJson] [ReceiveJson] [Bolt11] {before after system : StrikeSystem}
  {label : StrikeLabel} {labels : List StrikeLabel}

theorem safe_of_run (run : StrikeRun .fresh labels system) :
    Safe DoneReceived (fun db task => task.Sound db) system :=
  (strikeDiscipline.run safe_fresh run).1

theorem ledgerStep_of_step (step : Tasks.Step strikeProtocol before label after) :
    (ledgerLabel label = none ∧ after.store = before.store) ∨
      ∃ called, ledgerLabel label = some called ∧
        LedgerStep before.store called after.store := by
  cases step with
  | started => exact .inl ⟨rfl, rfl⟩
  | crashed => exact .inl ⟨rfl, rfl⟩
  | other changes => exact .inr ⟨_, rfl, changes.1⟩
  | acted running acts =>
      cases acts with
      | called replied calls step => exact .inr ⟨_, rfl, step⟩
      | _ => exact .inl ⟨rfl, rfl⟩

theorem ledgerRun_of_run (run : StrikeRun before labels after) :
    LedgerRun before.store (labels.filterMap ledgerLabel) after.store := by
  induction run with
  | nil => exact .nil _
  | cons step _ induction =>
      cases ledgerStep_of_step step with
      | inl silent =>
          rw [List.filterMap_cons_none silent.1, ← silent.2]
          exact induction
      | inr calls =>
          rcases calls with ⟨called, isCall, ledgerStep⟩
          rw [List.filterMap_cons_some isCall]
          exact .cons ledgerStep induction

end Runs

/-! ## Running the system -/

inductive StrikeInput
  | start (task : StrikeTask)
  | call (index : Nat) (now : Int) (replied : Bool)
  | ask (index : Nat) (answers : ReceiveAnswers)
  | page (index : Nat) (answer : Except ProviderFailure (List StrikeReceive))
  | other (call : LedgerCall) (now : Int)
  | crash

section Performing

variable [SerdeJson] [ReceiveJson] [Bolt11]

instance (task : StrikeTask) : Decidable task.Starts :=
  match task with
  | .due => .isTrue (.inl rfl)
  | .look none event => .isTrue (.inr ⟨event, rfl⟩)
  | .look (some _) _ | .ask _ _ _ | .settle _ _ _ _ _ | .finish _ | .retry _ | .scan | .page _
  | .enqueue _ _ _ _ | .mark _ _ | .ended =>
      .isFalse (by rintro (impossible | ⟨_, impossible⟩) <;> cases impossible)

def StrikeSystem.perform (system : StrikeSystem) :
    StrikeInput → Option (StrikeLabel × StrikeSystem)
  | .start task =>
      if task.Starts then some (.started task, ⟨system.store, system.tasks ++ [task]⟩) else none
  | .call index now replied => do
      let task ← system.tasks[index]?
      let call ← task.call
      let ran := execute call now system.store
      let label : LedgerLabel := ⟨call, now, ran.1⟩
      return (.acted index task (.called label replied),
        ⟨ran.2, system.tasks.set index (task.afterCall (label.reply replied))⟩)
  | .ask index answers =>
      match system.tasks[index]? with
      | some (.ask work event stored) =>
          some (.acted index (.ask work event stored) (.asked answers),
            ⟨system.store, system.tasks.set index (.afterAsk work event stored answers)⟩)
      | _ => none
  | .page index answer =>
      match system.tasks[index]? with
      | some (.page dueScan) =>
          some (.acted index (.page dueScan) (.paged answer),
            ⟨system.store, system.tasks.set index (.afterPage dueScan answer)⟩)
      | _ => none
  | .other call now =>
      if call.isRecovery then none
      else
        let ran := execute call now system.store
        some (.other ⟨call, now, ran.1⟩, ⟨ran.2, system.tasks⟩)
  | .crash => some (.crashed, ⟨system.store, []⟩)

def StrikeSystem.performAll :
    List StrikeInput → StrikeSystem → List StrikeLabel × StrikeSystem
  | [], system => ([], system)
  | input :: rest, system =>
      match system.perform input with
      | some (label, next) =>
          let last := performAll rest next
          (label :: last.1, last.2)
      | none => performAll rest system

theorem StrikeSystem.perform_step {system after : StrikeSystem} {input : StrikeInput}
    {label : StrikeLabel} (performs : system.perform input = some (label, after)) :
    Tasks.Step strikeProtocol system label after := by
  cases input with
  | start task =>
      rw [perform] at performs
      split at performs
      · rename_i starts
        cases performs
        exact .started starts
      · cases performs
  | call index now replied =>
      simp only [perform, Option.bind_eq_bind, Option.bind_eq_some_iff, Option.pure_def,
        Option.some.injEq, Prod.mk.injEq] at performs
      rcases performs with ⟨task, running, call, calls, rfl, rfl⟩
      exact .acted running (.called replied calls rfl)
  | ask index answers =>
      rw [perform] at performs
      split at performs
      · rename_i running
        cases performs
        exact .acted running (.asked answers)
      · cases performs
  | page index answer =>
      rw [perform] at performs
      split at performs
      · rename_i running
        cases performs
        exact .acted running (.paged answer)
      · cases performs
  | other call now =>
      rw [perform] at performs
      split at performs
      · cases performs
      · rename_i notRecovery
        cases performs
        exact .other ⟨rfl, Bool.eq_false_iff.mpr notRecovery⟩
  | crash =>
      cases performs
      exact .crashed

theorem StrikeSystem.performAll_run (inputs : List StrikeInput) (system : StrikeSystem) :
    StrikeRun system (performAll inputs system).1 (performAll inputs system).2 := by
  induction inputs generalizing system with
  | nil => exact .nil _
  | cons input rest induction =>
      rw [performAll]
      split
      · rename_i label next performs
        exact .cons (perform_step performs) (induction next)
      · exact induction system

end Performing

/-! ## An example

A request for 2 sats is issued, and a receive of it is reported. Strike answers
about the receive in the end.
-/

def exampleHash : String :=
  "0000000000000000000000000000000000000000000000000000000000000abc"

def exampleIssued : StoredStrikeReceiveRequest where
  receiveRequestId := ⟨7⟩
  addressUser := "dexter"
  creditPool := "herd"
  amountMsat := 2000
  descriptionHash := exampleHash
  paymentHash := exampleHash
  invoice := "lnbc20n1test"
  createdProvider := none

def exampleEvent : StrikeCompletedReceiveEvent :=
  ⟨⟨1⟩, ⟨7⟩, ⟨9⟩⟩

def exampleInvoice : Bolt11Invoice where
  signed := true
  currency := .bitcoin
  amountMilliSatoshis := some 2000
  paymentHash := exampleHash
  descriptionHash := some exampleHash
  durationSinceEpoch := 0
  expiryTime := 3600000000000
  expiresAt := some 3600000000000

@[reducible] def exampleBolt11 : Bolt11 where
  parse encoded := if encoded = "lnbc20n1test" then some exampleInvoice else none

@[reducible] def exampleReceiveJson : ReceiveJson where
  context _ := "\x7b\x7d"

/-- A receive from another account, which was paid in dollars. -/
def exampleReceive : StrikeReceive where
  receiveId := ⟨9⟩
  receiveRequestId := ⟨7⟩
  receiveType := "P2P"
  state := "COMPLETED"
  amountReceived := ⟨"1.50", "USD"⟩
  amountCredited := some ⟨"0.00000002", "BTC"⟩
  conversionRate := none
  completed := none
  lightning := none

/-- What Strike answers if the request has had these receives. -/
def exampleAnswers (receives : List StrikeReceive) : ReceiveAnswers where
  request := .ok {
    receiveRequestId := ⟨7⟩
    created := none
    targetCurrency := some "BTC"
    bolt11 := some ⟨"lnbc20n1test", none, none, none, exampleHash⟩ }
  receives := .ok receives

def examplePerform (inputs : List StrikeInput) : List StrikeLabel × StrikeSystem :=
  @StrikeSystem.performAll exampleJson exampleReceiveJson exampleBolt11 inputs .fresh

theorem examplePerform_run (inputs : List StrikeInput) :
    @StrikeRun exampleJson exampleReceiveJson exampleBolt11 .fresh (examplePerform inputs).1
      (examplePerform inputs).2 :=
  @StrikeSystem.performAll_run exampleJson exampleReceiveJson exampleBolt11 inputs .fresh

end LightningGoats
