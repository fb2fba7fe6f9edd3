import LightningGoats.Gateway.Safety

/-! # Whole runs of a gateway -/

namespace LightningGoats

open Outcome Relational

namespace GatewayLabel

def isNew (requestId : Uuid) (label : GatewayLabel) : Bool :=
  label.requestId = requestId && label.event = .acted (.began .new)

def commands (label : GatewayLabel) : List Uuid :=
  match label.event with
  | .acted event => event.commands label.requestId
  | .received _ _ => []

def reports (label : GatewayLabel) : Option Decision :=
  match label.event with
  | .acted event => event.reports
  | .received _ _ => none

end GatewayLabel

/-! ## Decisions along a run -/

section Runs

variable {before after : Gateway} {label : GatewayLabel} {labels : List GatewayLabel}

theorem gatewayStep_decides (step : GatewayStep before label after) :
    ∃ change, Decides before.db change after.db ∧
      ∀ other now, change = .acknowledges other now →
        other = label.requestId ∧ label.event = .acted (.acknowledged true) ∧
          ∃ handler, before.handlers[label.handler]? = some handler ∧
            handler.pc = .acknowledge ∧ handler.requestId = label.requestId := by
  cases step with
  | receives => exact ⟨.none, .none _, by simp⟩
  | acts running acts =>
      rcases acts.decides with ⟨change, decides, acknowledges⟩
      refine ⟨change, decides, fun other now isChange => ?_⟩
      rcases acknowledges other now isChange with ⟨isAcknowledge, isRequest, rfl⟩
      exact ⟨isRequest, rfl, _, running, isAcknowledge, rfl⟩

/-- Decisions develop along a run. -/
theorem develops_run (run : GatewayRun before labels after) (requestId : Uuid) :
    Decision.Develops (decision requestId before.db) (decision requestId after.db) := by
  induction run with
  | nil => exact .same _
  | cons step _ induction =>
      rcases gatewayStep_decides step with ⟨_, decides, _⟩
      exact (decides.develops requestId).trans induction

theorem gatewayStep_new (step : GatewayStep before label after) {requestId : Uuid}
    (isNew : label.isNew requestId = true) :
    decision requestId before.db = .undecided ∧ decision requestId after.db = .reserved := by
  simp only [GatewayLabel.isNew, Bool.and_eq_true, decide_eq_true_eq] at isNew
  cases step with
  | receives => cases isNew.2
  | acts running acts =>
      rcases isNew with ⟨rfl, isEvent⟩
      cases isEvent
      exact acts.begins

/-- A request is admitted at most once, and not at all once it has been decided. -/
theorem new_count (run : GatewayRun before labels after) (requestId : Uuid) :
    (labels.filter (GatewayLabel.isNew requestId)).length ≤
      if decision requestId before.db = .undecided then 1 else 0 := by
  induction run with
  | nil => simp
  | @cons before middle after label labels step _ induction =>
      by_cases isNew : label.isNew requestId = true
      · rcases gatewayStep_new step isNew with ⟨undecided, reserved⟩
        rw [List.filter_cons_of_pos isNew, List.length_cons, if_pos undecided]
        rw [reserved, if_neg (by simp)] at induction
        omega
      · rw [List.filter_cons_of_neg isNew]
        refine Nat.le_trans induction ?_
        rcases gatewayStep_decides step with ⟨_, decides, _⟩
        have develops := decides.develops requestId
        split
        · rename_i undecided
          rw [undecided] at develops
          generalize isPrior : decision requestId before.db = prior at develops
          cases develops with
          | same => exact Nat.le_refl _
        · exact Nat.zero_le _

theorem gatewayStep_commands (step : GatewayStep before label after) :
    after.commands = before.commands ++ label.commands := by
  cases step with
  | receives => exact (List.append_nil _).symm
  | acts => rfl

theorem commands_run (run : GatewayRun before labels after) :
    after.commands = before.commands ++ labels.flatMap GatewayLabel.commands := by
  induction run with
  | nil => simp
  | cons step _ induction =>
      rw [induction, gatewayStep_commands step, List.flatMap_cons, List.append_assoc]

/-- What a label reports of a request is its decision from then on, if that is final. -/
theorem decision_of_reports (sound : HandlersSound before) (step : GatewayStep before label after)
    {reported : Decision} (isReported : label.reports = some reported) :
    decision label.requestId after.db = reported := by
  cases step with
  | receives => cases isReported
  | acts running acts => exact acts.reports sound.store isReported

theorem gatewayStep_reads (step : GatewayStep before label after) :
    (∀ row, label.event = .acted (.statusRead row) →
      row = statusStr label.requestId before.db) ∧
    (∀ refusal, label.event = .acted (.refusalRead refusal) →
      refusal = refusalJson label.requestId before.db) := by
  constructor
  · intro row isEvent
    cases step with
    | receives => cases isEvent
    | acts running acts =>
        cases isEvent
        exact acts.status_read
  · intro refusal isEvent
    cases step with
    | receives => cases isEvent
    | acts running acts =>
        cases isEvent
        exact acts.refusal_read

end Runs

/-! ## What handlers have done -/

/-- A handler at its command has been admitted; one that is about to acknowledge
has been told of the completion. -/
structure HandlerHistory (labels : List GatewayLabel) (gateway : Gateway) : Prop where
  admitted : ∀ (index : Nat) (handler : Handler), gateway.handlers[index]? = some handler →
    handler.pc = .command → ⟨index, handler.requestId, .acted (.began .new)⟩ ∈ labels
  completed : ∀ (index : Nat) (handler : Handler), gateway.handlers[index]? = some handler →
    handler.pc = .acknowledge →
      ⟨index, handler.requestId, .acted (.ownerRead (some .complete))⟩ ∈ labels

namespace HandlerHistory

variable {before after : Gateway} {label : GatewayLabel} {labels : List GatewayLabel}

theorem ofInitial : HandlerHistory [] Gateway.initial where
  admitted := by simp [Gateway.initial]
  completed := by simp [Gateway.initial]

theorem step (history : HandlerHistory labels before) (taken : GatewayStep before label after) :
    HandlerHistory (labels ++ [label]) after := by
  cases taken with
  | receives method exchange requestId =>
      refine ⟨fun index handler found isCommand => ?_, fun index handler found isAcknowledge => ?_⟩
      · rcases handler_of_receive found with ⟨_, rfl⟩ | old
        · cases isCommand
        · exact List.mem_append_left _ (history.admitted index handler old isCommand)
      · rcases handler_of_receive found with ⟨_, rfl⟩ | old
        · cases isAcknowledge
        · exact List.mem_append_left _ (history.completed index handler old isAcknowledge)
  | acts running acts =>
      refine ⟨fun index handler found isCommand => ?_, fun index handler found isAcknowledge => ?_⟩
      · rcases handler_of_advance found with ⟨rfl, rfl⟩ | ⟨_, old⟩
        · refine List.mem_append_right _ ?_
          rw [acts.of_command isCommand]
          exact List.mem_cons_self
        · exact List.mem_append_left _ (history.admitted index handler old isCommand)
      · rcases handler_of_advance found with ⟨rfl, rfl⟩ | ⟨_, old⟩
        · refine List.mem_append_right _ ?_
          rw [acts.of_acknowledge isAcknowledge]
          exact List.mem_cons_self
        · exact List.mem_append_left _ (history.completed index handler old isAcknowledge)

theorem of_run (run : GatewayRun Gateway.initial labels after) : HandlerHistory labels after :=
  run.history (fun {_ _ _ _} history taken => step history taken) ofInitial

end HandlerHistory

/-- A command is sent by the handler that was told its request is new. -/
theorem commanded_by_new {before after : Gateway} {label : GatewayLabel}
    {labels : List GatewayLabel} (history : HandlerHistory labels before)
    (step : GatewayStep before label after) (commanded : label.commands ≠ []) :
    ⟨label.handler, label.requestId, .acted (.began .new)⟩ ∈ labels := by
  cases step with
  | receives => exact absurd rfl commanded
  | acts running acts =>
      rcases acts.commands_eq with none | ⟨isCommand, _⟩
      · exact absurd none commanded
      · exact history.admitted _ _ running isCommand

/-! ## The decision is final -/

/-- What holds of the gateway after the steps of `labels`. -/
structure AdmissionsSafe (labels : List GatewayLabel) (gateway : Gateway) : Prop where
  newOnce : ∀ requestId, (labels.filter (GatewayLabel.isNew requestId)).length ≤ 1
  commandedOnce : (labels.flatMap GatewayLabel.commands).Nodup
  commandedByNew : ∀ front label back, labels = front ++ label :: back → label.commands ≠ [] →
    ⟨label.handler, label.requestId, .acted (.began .new)⟩ ∈ front
  disjoint : ∀ request ∈ gateway.db.feederRequests.rows,
    ∀ refused ∈ gateway.db.feederRefusals.rows, request.requestId ≠ refused.requestId
  onePending : (gateway.db.feederRequests.rows.filter fun row =>
    row.status = .pending).length ≤ 1
  refusedForGood : ∀ front first middle later back refusal,
    labels = front ++ first :: middle ++ later :: back → first.requestId = later.requestId →
    first.reports = some (.refused refusal) →
      (∀ row, later.event = .acted (.statusRead row) → row = none) ∧
      (∀ found, later.event = .acted (.refusalRead found) → found = some refusal) ∧
      ∀ outcome, later.event = .acted (.began outcome) → outcome = .notDispatched refusal
  acknowledgedForGood : ∀ front first middle later back,
    labels = front ++ first :: middle ++ later :: back → first.requestId = later.requestId →
    first.reports = some .acknowledged →
      (∀ row, later.event = .acted (.statusRead row) → row = some .acknowledged) ∧
      ∀ outcome, later.event = .acted (.began outcome) → outcome = .acknowledged
  statusForGood : ∀ front back middle requestId status, labels = front ++ back →
    GatewayRun Gateway.initial front middle → GatewayRun middle back gateway →
    requestStatus requestId middle.db = some status → status ≠ .pending →
      requestStatus requestId gateway.db = some status
  released : ∀ front label back before after row, labels = front ++ label :: back →
    GatewayRun Gateway.initial front before → GatewayStep before label after →
    row ∈ before.db.feederRequests.rows →
      row ∈ after.db.feederRequests.rows ∨
        (row.status = .pending ∧ label.requestId = row.requestId ∧
          label.event = .acted (.acknowledged true) ∧
          ⟨label.handler, row.requestId, .acted (.ownerRead (some .complete))⟩ ∈ front ∧
          ∃ now, { row with status := .acknowledged, updatedAt := now } ∈
            after.db.feederRequests.rows)

section Final

variable {labels : List GatewayLabel} {gateway : Gateway}

theorem decision_at_later {front middle back : List GatewayLabel} {first later : GatewayLabel}
    (run : GatewayRun Gateway.initial (front ++ first :: middle ++ later :: back) gateway)
    {reported : Decision} (isReported : first.reports = some reported)
    (final : ∀ decided, Decision.Develops reported decided → decided = reported) :
    ∃ source target, HandlersSound source ∧ GatewayStep source later target ∧
      decision first.requestId source.db = reported ∧
      decision first.requestId target.db = reported := by
  rcases run.at_split with ⟨source, target, reached, laterStep, _⟩
  rcases reached.at_split with ⟨before, after, initially, firstStep, between⟩
  have decided := decision_of_reports (HandlersSound.of_run initially) firstStep isReported
  have stays := develops_run between first.requestId
  rw [decided] at stays
  have still := final _ stays
  have further := develops_run (.single laterStep) first.requestId
  rw [still] at further
  exact ⟨source, target, HandlersSound.of_run reached, laterStep, still, final _ further⟩

theorem onePending_length {db : GatewayDb} (sound : GatewaySound db) :
    (db.feederRequests.rows.filter fun row => row.status = .pending).length ≤ 1 := by
  refine filter_length_le_one (db.feederRequests.rows_nodup fun _ => sameKey_iff.mpr ⟨_, rfl, rfl⟩)
    fun left leftMember right rightMember leftPending rightPending => ?_
  exact sound.onePending left leftMember right rightMember (decide_eq_true_eq.mp leftPending)
    (decide_eq_true_eq.mp rightPending)

theorem requestStatus_of_decision {db : GatewayDb} {requestId : Uuid}
    {status : StoredRequestStatus} (isStatus : requestStatus requestId db = some status)
    (notPending : status ≠ .pending) :
    (status = .acknowledged ∧ decision requestId db = .acknowledged) ∨
      ∃ refusal, status = .notDispatched refusal ∧ decision requestId db = .refused refusal := by
  unfold requestStatus storedStatus at isStatus
  split at isStatus
  · rename_i isRow
    rcases Option.map_eq_some_iff.mp isStatus with ⟨refusal, isRefusal, rfl⟩
    exact .inr ⟨refusal, rfl, decision_refused.mpr ⟨isRow, isRefusal⟩⟩
  · cases isStatus
    exact absurd rfl notPending
  · rename_i isRow
    cases isStatus
    exact .inl ⟨rfl, decision_acknowledged.mpr isRow⟩

end Final

/-- In every run a request is new at most once and commanded at most once, by the
handler that was told so; a refusal and an acknowledgement are final; and the one
pending reservation is released by the owner's completion alone. -/
theorem gateway_admissions_safe {labels : List GatewayLabel} {gateway : Gateway}
    (run : GatewayRun Gateway.initial labels gateway) : AdmissionsSafe labels gateway := by
  have sound := HandlersSound.of_run run
  refine ⟨fun requestId => ?_, ?_, ?_, sound.store.disjoint, onePending_length sound.store, ?_,
    ?_, ?_, ?_⟩
  · have counted := new_count run requestId
    split at counted
    · exact counted
    · omega
  · have nodup := sound.nodup
    rw [commands_run run] at nodup
    exact nodup
  · rintro front label back rfl commanded
    rcases run.at_split with ⟨before, after, reached, step, _⟩
    exact commanded_by_new (.of_run reached) step commanded
  · rintro front first middle later back refusal rfl same isReported
    rcases decision_at_later run isReported fun _ develops => develops.of_refused with
      ⟨source, target, sourceSound, step, atSource, atTarget⟩
    rw [same] at atSource atTarget
    rcases decision_refused.mp atSource with ⟨noRow, isRefusal⟩
    rcases gatewayStep_reads step with ⟨readsRow, readsRefusal⟩
    refine ⟨fun row isEvent => (readsRow row isEvent).trans noRow,
      fun found isEvent => (readsRefusal found isEvent).trans isRefusal,
      fun outcome isEvent => ?_⟩
    have reported : later.reports = some outcome.decision := by
      rw [GatewayLabel.reports, isEvent]
      rfl
    have decided := decision_of_reports sourceSound step reported
    rw [atTarget] at decided
    cases outcome <;> cases decided
    rfl
  · rintro front first middle later back rfl same isReported
    rcases decision_at_later run isReported fun _ develops => develops.of_acknowledged with
      ⟨source, target, sourceSound, step, atSource, atTarget⟩
    rw [same] at atSource atTarget
    have isRow := decision_acknowledged.mp atSource
    rcases gatewayStep_reads step with ⟨readsRow, _⟩
    refine ⟨fun row isEvent => (readsRow row isEvent).trans isRow, fun outcome isEvent => ?_⟩
    have reported : later.reports = some outcome.decision := by
      rw [GatewayLabel.reports, isEvent]
      rfl
    have decided := decision_of_reports sourceSound step reported
    rw [atTarget] at decided
    cases outcome <;> cases decided
    rfl
  · rintro front back middle requestId status rfl _ rest isStatus notPending
    have develops := develops_run rest requestId
    rcases requestStatus_of_decision isStatus notPending with ⟨rfl, decided⟩ | ⟨refusal, rfl, decided⟩
    · rw [decided] at develops
      rw [requestStatus, decision_acknowledged.mp develops.of_acknowledged]
      rfl
    · rw [decided] at develops
      rcases decision_refused.mp develops.of_refused with ⟨noRow, isRefusal⟩
      rw [requestStatus, noRow, isRefusal]
      rfl
  · rintro front label back before after row rfl reached step member
    rcases gatewayStep_decides step with ⟨change, decides, acknowledges⟩
    rcases decides.row_cases member with kept | ⟨now, isChange, isPending, moved⟩
    · exact .inl kept
    · rcases acknowledges _ now isChange with ⟨isRequest, isEvent, handler, found, isPc, sameId⟩
      have told := (HandlerHistory.of_run reached).completed _ handler found isPc
      rw [sameId, ← isRequest] at told
      exact .inr ⟨isPending, isRequest.symm, isEvent, told, now, moved⟩

/-- Request 1 is admitted at 101. Meanwhile a second handler is refused for request 2. The
owner is commanded for request 1, which is posted again, and completes it. Both are
asked for once more. -/
def exampleGatewayLabels : List GatewayLabel :=
  [⟨0, ⟨1⟩, .received .post 0⟩, ⟨1, ⟨2⟩, .received .post 1⟩,
    ⟨0, ⟨1⟩, .acted (.statusRead none)⟩, ⟨1, ⟨2⟩, .acted (.statusRead none)⟩,
    ⟨0, ⟨1⟩, .acted (.refusalRead none)⟩, ⟨1, ⟨2⟩, .acted (.refusalRead none)⟩,
    ⟨0, ⟨1⟩, .acted (.safetyRead (some (false, true)))⟩,
    ⟨1, ⟨2⟩, .acted (.safetyRead (some (false, true)))⟩,
    ⟨0, ⟨1⟩, .acted (.began .new)⟩,
    ⟨1, ⟨2⟩, .acted (.began (.notDispatched ⟨.unresolved, 5⟩))⟩,
    ⟨0, ⟨1⟩, .acted (.commanded true true)⟩,
    ⟨2, ⟨1⟩, .received .post 2⟩, ⟨2, ⟨1⟩, .acted (.statusRead (some .pending))⟩,
    ⟨2, ⟨1⟩, .acted (.ownerRead (some .pending))⟩,
    ⟨0, ⟨1⟩, .acted (.ownerRead (some .complete))⟩, ⟨0, ⟨1⟩, .acted (.acknowledged true)⟩,
    ⟨3, ⟨2⟩, .received .post 3⟩, ⟨3, ⟨2⟩, .acted (.statusRead none)⟩,
    ⟨3, ⟨2⟩, .acted (.refusalRead (some ⟨.unresolved, 5⟩))⟩,
    ⟨4, ⟨1⟩, .received .get 4⟩, ⟨4, ⟨1⟩, .acted (.statusRead (some .acknowledged))⟩]

/-- The store after a transaction that is known to succeed. -/
def exampleBegin (requestId : Uuid) (now : Int) (db : GatewayDb) : GatewayDb :=
  match beginRequest requestId ⟨5, 2⟩ false now now db with
  | .ok (_, after) => after
  | .error _ => db

def exampleAdmitted : GatewayDb :=
  exampleBegin ⟨1⟩ 101 .empty

def exampleRefused : GatewayDb :=
  exampleBegin ⟨2⟩ 102 exampleAdmitted

def exampleAcknowledged : GatewayDb :=
  (acknowledgeRequest ⟨1⟩ 110 exampleRefused).2

def exampleGateway : Gateway where
  db := exampleAcknowledged
  handlers := [⟨0, ⟨1⟩, .done⟩, ⟨1, ⟨2⟩, .done⟩, ⟨2, ⟨1⟩, .done⟩, ⟨3, ⟨2⟩, .done⟩,
    ⟨4, ⟨1⟩, .done⟩]
  commands := [⟨1⟩]
  completions := [⟨1⟩]
  responses := [(1, refusalResponse ⟨2⟩ ⟨.unresolved, 5⟩), (2, outcomeResponse 202 ⟨1⟩ .pending),
    (0, outcomeResponse 200 ⟨1⟩ .confirmed), (3, refusalResponse ⟨2⟩ ⟨.unresolved, 5⟩),
    (4, outcomeResponse 200 ⟨1⟩ .confirmed)]

theorem GatewayStep.acts_at {gateway : Gateway} {index exchange : Nat} {requestId : Uuid}
    {pc : HandlerPc} {event : HandlerEvent} {next : Next} {db : GatewayDb}
    (running : gateway.handlers[index]? = some ⟨exchange, requestId, pc⟩)
    (acts : Acts requestId pc gateway.db event next db) :
    GatewayStep gateway ⟨index, requestId, .acted event⟩
      (gateway.advance index ⟨exchange, requestId, pc⟩ event next db) :=
  .acts running acts

theorem gateway_admissions_safe_example :
    AdmissionsSafe exampleGatewayLabels exampleGateway ∧ exampleGateway.commands = [⟨1⟩] ∧
      requestStatus ⟨1⟩ exampleGateway.db = some .acknowledged ∧
      requestStatus ⟨2⟩ exampleGateway.db = some (.notDispatched ⟨.unresolved, 5⟩) := by
  have began : beginRequest ⟨1⟩ ⟨5, 2⟩ false 101 101 GatewayDb.empty =
      .ok (.new, exampleAdmitted) := rfl
  have refused : beginRequest ⟨2⟩ ⟨5, 2⟩ false 102 102 exampleAdmitted =
      .ok (.notDispatched ⟨.unresolved, 5⟩, exampleRefused) := rfl
  have acknowledged : acknowledgeRequest ⟨1⟩ 110 exampleRefused =
      (true, exampleAcknowledged) := rfl
  refine ⟨gateway_admissions_safe ?run, rfl, by decide +kernel, by decide +kernel⟩
  refine .cons (.receives _ .post 0 ⟨1⟩) ?_
  refine .cons (.receives _ .post 1 ⟨2⟩) ?_
  refine .cons (.acts_at rfl (.statusRead .post _)) ?_
  refine .cons (.acts_at rfl (.statusRead .post _)) ?_
  refine .cons (.acts_at rfl (.refusalRead .post _)) ?_
  refine .cons (.acts_at rfl (.refusalRead .post _)) ?_
  refine .cons (.acts_at rfl (.safetyRead (some (false, true)) _)) ?_
  refine .cons (.acts_at rfl (.safetyRead (some (false, true)) _)) ?_
  refine .cons (.acts_at rfl (.began began)) ?_
  refine .cons (.acts_at rfl (.began refused)) ?_
  refine .cons (.acts_at rfl (@Acts.commanded _ true true (fun _ => rfl) _)) ?_
  refine .cons (.receives _ .post 2 ⟨1⟩) ?_
  refine .cons (.acts_at rfl (.statusRead .post _)) ?_
  refine .cons (.acts_at rfl (.ownerRead false false (some .pending) _)) ?_
  refine .cons (.acts_at rfl (.ownerRead true false (some .complete) _)) ?_
  refine .cons (.acts_at rfl (.acknowledged acknowledged)) ?_
  refine .cons (.receives _ .post 3 ⟨2⟩) ?_
  refine .cons (.acts_at rfl (.statusRead .post _)) ?_
  refine .cons (.acts_at rfl (.refusalRead .post _)) ?_
  refine .cons (.receives _ .get 4 ⟨1⟩) ?_
  exact .cons (.acts_at rfl (.statusRead .get _)) (.nil _)

end LightningGoats
