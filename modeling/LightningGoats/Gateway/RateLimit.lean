import LightningGoats.Foundation.SlidingWindow
import LightningGoats.Gateway.Admissions

/-! # How often requests are admitted -/

namespace LightningGoats

open Outcome Relational

/-! ## Runs of the store -/

inductive AdmissionCall
  | beginRequest (requestId : Uuid) (safetyRefusal : Bool) (checkedAt insertedAt : Int)
  | acknowledge (requestId : Uuid) (now : Int)

inductive AdmissionResult
  | began (outcome : BeginRequestOutcome)
  | acknowledged (changed : Bool)
  | failed (error : GatewayError)
  deriving DecidableEq, Repr

/-- A request that fails has been rolled back. -/
def AdmissionCall.execute (limits : AdmissionLimits) (call : AdmissionCall) (db : GatewayDb) :
    AdmissionResult × GatewayDb :=
  match call with
  | .beginRequest requestId safetyRefusal checkedAt insertedAt =>
      match LightningGoats.beginRequest requestId limits safetyRefusal checkedAt insertedAt db with
      | .ok (outcome, committed) => (.began outcome, committed)
      | .error error => (.failed error, db)
  | .acknowledge requestId now =>
      let ran := acknowledgeRequest requestId now db
      (.acknowledged ran.1, ran.2)

structure AdmissionLabel where
  call : AdmissionCall
  result : AdmissionResult

namespace AdmissionLabel

def admission : AdmissionLabel → Option (Uuid × Int)
  | ⟨.beginRequest requestId _ _ insertedAt, .began .new⟩ => some (requestId, insertedAt)
  | _ => none

def admittedAt (label : AdmissionLabel) : Option Int :=
  label.admission.map Prod.snd

def readings (label : AdmissionLabel) : List Int :=
  match label.call with
  | .beginRequest _ _ checkedAt insertedAt => [checkedAt, insertedAt]
  | .acknowledge _ now => [now]

def admits (requestId : Uuid) (checkedAt insertedAt : Int) : AdmissionLabel :=
  ⟨.beginRequest requestId false checkedAt insertedAt, .began .new⟩

def acknowledges (requestId : Uuid) (now : Int) : AdmissionLabel :=
  ⟨.acknowledge requestId now, .acknowledged true⟩

theorem admittedAt_mem_readings {label : AdmissionLabel} {time : Int}
    (admitted : label.admittedAt = some time) : time ∈ label.readings := by
  unfold admittedAt admission at admitted
  split at admitted
  · cases admitted
    simp [readings]
  · cases admitted

end AdmissionLabel

/-- Concurrent callers are serialized, one transaction at a time. -/
def AdmissionStep (limits : AdmissionLimits) (before : GatewayDb) (label : AdmissionLabel)
    (after : GatewayDb) : Prop :=
  label.call.execute limits before = (label.result, after)

abbrev AdmissionRun (limits : AdmissionLimits) :
    GatewayDb → List AdmissionLabel → GatewayDb → Prop :=
  Execution.Run (AdmissionStep limits)

inductive AdmissionEffect (limits : AdmissionLimits) :
    GatewayDb → AdmissionLabel → GatewayDb → Prop
  | admits {before after : GatewayDb} {requestId : Uuid} {checkedAt insertedAt : Int}
      (within : WithinLimits limits checkedAt before)
      (reserves : Decides before (.reserves requestId insertedAt) after) :
      AdmissionEffect limits before (.admits requestId checkedAt insertedAt) after
  | refuses {before after : GatewayDb} {label : AdmissionLabel} {requestId : Uuid}
      {refusal : FeedRefusal} (admitsNone : label.admission = none)
      (refuses : Decides before (.refuses requestId refusal) after) :
      AdmissionEffect limits before label after
  | acknowledges {before after : GatewayDb} {requestId : Uuid} {now : Int}
      (acknowledges : Decides before (.acknowledges requestId now) after) :
      AdmissionEffect limits before (.acknowledges requestId now) after
  | nothing {before : GatewayDb} {label : AdmissionLabel}
      (admitsNone : label.admission = none) : AdmissionEffect limits before label before

section Steps

variable {limits : AdmissionLimits} {before after : GatewayDb} {label : AdmissionLabel}
  {labels : List AdmissionLabel}

theorem admissionStep_effect (step : AdmissionStep limits before label after) :
    AdmissionEffect limits before label after := by
  rcases label with ⟨call, result⟩
  cases call with
  | beginRequest requestId safetyRefusal checkedAt insertedAt =>
      simp only [AdmissionStep, AdmissionCall.execute] at step
      split at step
      · rename_i outcome committed ran
        cases step
        rcases beginRequest_cases ran with ⟨notNew, rfl, _⟩ | ⟨refusal, rfl, refuses⟩ |
          ⟨rfl, rfl, within, reserves⟩
        · refine .nothing ?_
          cases outcome with
          | new => exact absurd rfl notNew
          | _ => rfl
        · exact .refuses rfl refuses
        · exact .admits within reserves
      · cases step
        exact .nothing rfl
  | acknowledge requestId now =>
      simp only [AdmissionStep, AdmissionCall.execute] at step
      cases ran : acknowledgeRequest requestId now before with
      | mk changed committed =>
        rw [ran] at step
        cases step
        rcases acknowledgeRequest_cases ran with ⟨rfl, acknowledges⟩ | ⟨rfl, rfl⟩
        · exact .acknowledges acknowledges
        · exact .nothing rfl

theorem admissionStep_admits (step : AdmissionStep limits before label after) {requestId : Uuid}
    {insertedAt : Int} (admits : label.admission = some (requestId, insertedAt)) :
    ∃ checkedAt, label = .admits requestId checkedAt insertedAt ∧
      WithinLimits limits checkedAt before ∧
      Decides before (.reserves requestId insertedAt) after := by
  cases admissionStep_effect step with
  | admits within reserves =>
      cases admits
      exact ⟨_, rfl, within, reserves⟩
  | acknowledges => cases admits
  | refuses admitsNone =>
      rw [admits] at admitsNone
      cases admitsNone
  | nothing admitsNone =>
      rw [admits] at admitsNone
      cases admitsNone

theorem AdmissionEffect.decides (effect : AdmissionEffect limits before label after) :
    ∃ change, Decides before change after := by
  cases effect with
  | admits _ reserves => exact ⟨_, reserves⟩
  | refuses _ refuses => exact ⟨_, refuses⟩
  | acknowledges acknowledges => exact ⟨_, acknowledges⟩
  | nothing => exact ⟨_, .none _⟩

/-- An acknowledged row is there for good, with the time of its acknowledgement. -/
theorem acknowledged_kept_run (run : AdmissionRun limits before labels after)
    {row : FeederRequest} (member : row ∈ before.feederRequests.rows)
    (acknowledged : row.status = .acknowledged) : row ∈ after.feederRequests.rows := by
  induction run with
  | nil => exact member
  | cons step _ induction =>
      rcases (admissionStep_effect step).decides with ⟨_, decides⟩
      exact induction (decides.acknowledged_kept member acknowledged)

end Steps

/-! ## History -/

/-- The rows are the admissions of the run, and no reservation is older than the
time its row was last updated. -/
structure AdmissionHistory (limits : AdmissionLimits) (labels : List AdmissionLabel)
    (db : GatewayDb) : Prop where
  created : db.feederRequests.rows.map FeederRequest.createdAt =
    labels.filterMap AdmissionLabel.admittedAt
  ordered : ∀ row ∈ db.feederRequests.rows, row.createdAt ≤ row.updatedAt
  capped : SlidingWindow.Capped limits.maxPerHour 3600
    (labels.filterMap AdmissionLabel.admittedAt)

namespace AdmissionHistory

variable {limits : AdmissionLimits} {before after : GatewayDb} {label : AdmissionLabel}
  {labels : List AdmissionLabel}

theorem created_mem (history : AdmissionHistory limits labels before) {row : FeederRequest}
    (member : row ∈ before.feederRequests.rows) :
    row.createdAt ∈ labels.flatMap AdmissionLabel.readings := by
  have isCreated : row.createdAt ∈ labels.filterMap AdmissionLabel.admittedAt := by
    rw [← history.created]
    exact List.mem_map_of_mem member
  rcases List.mem_filterMap.mp isCreated with ⟨admitting, isLabel, admitted⟩
  exact List.mem_flatMap.mpr ⟨admitting, isLabel,
    AdmissionLabel.admittedAt_mem_readings admitted⟩

theorem recent_le (history : AdmissionHistory limits labels before) {checkedAt insertedAt : Int}
    (ordered : checkedAt ≤ insertedAt) :
    ((labels.filterMap AdmissionLabel.admittedAt).filter fun arrival =>
        insertedAt - 3600 ≤ arrival).length ≤
      (withinHour checkedAt (before.feederRequests.rows.map FeederRequest.updatedAt)).length := by
  rw [← history.created, withinHour, List.filter_map, List.filter_map, List.length_map,
    List.length_map, ← List.countP_eq_length_filter, ← List.countP_eq_length_filter]
  refine List.countP_mono_left fun row member isRecent => ?_
  have updated := history.ordered row member
  simp only [Function.comp_apply, decide_eq_true_eq] at isRecent ⊢
  omega

theorem concat_none (history : AdmissionHistory limits labels before)
    (admitsNone : label.admission = none)
    (created : after.feederRequests.rows.map FeederRequest.createdAt =
      before.feederRequests.rows.map FeederRequest.createdAt)
    (ordered : ∀ row ∈ after.feederRequests.rows, row.createdAt ≤ row.updatedAt) :
    AdmissionHistory limits (labels ++ [label]) after := by
  have same : (labels ++ [label]).filterMap AdmissionLabel.admittedAt =
      labels.filterMap AdmissionLabel.admittedAt := by
    simp [AdmissionLabel.admittedAt, admitsNone]
  refine ⟨?_, ordered, by rw [same]; exact history.capped⟩
  rw [same, created, history.created]

theorem step (history : AdmissionHistory limits labels before)
    (clock : ((labels ++ [label]).flatMap AdmissionLabel.readings).Pairwise (· ≤ ·))
    (step : AdmissionStep limits before label after) :
    AdmissionHistory limits (labels ++ [label]) after := by
  cases admissionStep_effect step with
  | nothing admitsNone => exact history.concat_none admitsNone rfl history.ordered
  | refuses admitsNone refuses =>
      cases refuses
      exact history.concat_none admitsNone rfl history.ordered
  | @acknowledges _ id now acknowledges =>
      cases acknowledges with
      | acknowledges reserved =>
        have rows := (rows_acknowledge id now before).1
        refine history.concat_none rfl ?_ fun row member => ?_
        · rw [rows, List.map_map]
          exact List.map_congr_left fun row _ => row.acknowledge_createdAt id now
        · rw [rows] at member
          rcases List.mem_map.mp member with ⟨old, oldMember, rfl⟩
          unfold FeederRequest.acknowledge
          split
          · rw [List.flatMap_append] at clock
            exact (List.pairwise_append.mp clock).2.2 _ (history.created_mem oldMember) now
              (by simp [AdmissionLabel.readings, AdmissionLabel.acknowledges])
          · exact history.ordered old oldMember
  | @admits _ id checkedAt insertedAt within reserves =>
      cases reserves with
      | reserves _ _ fresh =>
        rw [List.flatMap_append] at clock
        have ordered : checkedAt ≤ insertedAt := by
          simpa [AdmissionLabel.readings, AdmissionLabel.admits] using
            (List.pairwise_append.mp clock).2.1
        have isNew : (labels ++ [AdmissionLabel.admits id checkedAt insertedAt]).filterMap
            AdmissionLabel.admittedAt =
              labels.filterMap AdmissionLabel.admittedAt ++ [insertedAt] := by
          rw [List.filterMap_append]
          rfl
        refine ⟨?_, fun row member => ?_, ?_⟩
        · rw [isNew, ← history.created, Table.rows_insert, List.map_append]
          rfl
        · rcases (Table.mem_rows_insert fresh).mp member with old | rfl
          · exact history.ordered row old
          · exact Int.le_refl _
        · rw [isNew]
          exact history.capped.concat
            (Nat.lt_of_le_of_lt (history.recent_le ordered) within.capacity)

theorem of_run (run : AdmissionRun limits GatewayDb.empty labels after)
    (clock : (labels.flatMap AdmissionLabel.readings).Pairwise (· ≤ ·)) :
    AdmissionHistory limits labels after := by
  induction labels using List.reverseRecOn generalizing after with
  | nil =>
      have isEmpty := Execution.Run.nil_iff.mp run
      subst isEmpty
      exact ⟨rfl, by simp [GatewayDb.empty], SlidingWindow.capped_nil⟩
  | append_singleton labels label induction =>
      rcases Execution.Run.at_split run with ⟨middle, target, first, taken, rest⟩
      have isEnd := Execution.Run.nil_iff.mp rest
      subst isEnd
      have earlier : (labels.flatMap AdmissionLabel.readings).Pairwise (· ≤ ·) := by
        rw [List.flatMap_append] at clock
        exact (List.pairwise_append.mp clock).1
      exact (induction first earlier).step clock taken

end AdmissionHistory

/-! ## Spacing -/

section Spacing

variable {limits : AdmissionLimits} {before after : GatewayDb} {labels : List AdmissionLabel}

/-- A reservation that has been released by the end of a run was acknowledged in it. -/
theorem acknowledged_of_released {row : FeederRequest}
    (run : AdmissionRun limits before labels after)
    (member : row ∈ before.feederRequests.rows) (isPending : row.status = .pending)
    (released : ∀ other ∈ after.feederRequests.rows, other.status = .acknowledged) :
    ∃ now, .acknowledges row.requestId now ∈ labels ∧
      { row with status := .acknowledged, updatedAt := now } ∈ after.feederRequests.rows := by
  induction run with
  | nil =>
      rw [released row member] at isPending
      cases isPending
  | @cons before middle after label labels step rest induction =>
      have kept : row ∈ middle.feederRequests.rows → ∃ now,
          .acknowledges row.requestId now ∈ label :: labels ∧
            { row with status := .acknowledged, updatedAt := now } ∈
              after.feederRequests.rows := by
        intro still
        rcases induction still released with ⟨now, isLabel, final⟩
        exact ⟨now, List.mem_cons_of_mem _ isLabel, final⟩
      cases admissionStep_effect step with
      | nothing => exact kept member
      | refuses _ refuses =>
          cases refuses
          exact kept member
      | admits _ reserves =>
          cases reserves with
          | reserves _ _ fresh => exact kept (Table.mem_rows_insert_old fresh member)
      | acknowledges acknowledges =>
          rcases acknowledges.row_cases member with still | ⟨time, isChange, _, moved⟩
          · exact kept still
          · cases isChange
            exact ⟨_, List.mem_cons_self, acknowledged_kept_run rest moved rfl⟩

end Spacing

/-- Of any two admissions the first was acknowledged, and the interval passed,
before the second; and no hour holds more admissions than the cap. -/
theorem admissions_limited {limits : AdmissionLimits} {labels : List AdmissionLabel}
    {db : GatewayDb} (run : AdmissionRun limits GatewayDb.empty labels db)
    (clock : (labels.flatMap AdmissionLabel.readings).Pairwise (· ≤ ·)) :
    (∀ front first middle second back firstId (firstAt : Int) secondId (secondAt : Int),
      labels = front ++ first :: middle ++ second :: back →
      first.admission = some (firstId, firstAt) → second.admission = some (secondId, secondAt) →
        ∃ acknowledgedAt, .acknowledges firstId acknowledgedAt ∈ middle ∧
          firstAt ≤ acknowledgedAt ∧ acknowledgedAt + limits.minInterval ≤ secondAt) ∧
    ∀ start, (SlidingWindow.within start 3600
      (labels.filterMap AdmissionLabel.admittedAt)).length ≤ limits.maxPerHour := by
  refine ⟨?_, (AdmissionHistory.of_run run clock).capped.within_le⟩
  rintro front first middle second back firstId firstAt secondId secondAt rfl isFirst isSecond
  rcases run.at_split with ⟨before, _, reached, secondStep, _⟩
  rcases reached.at_split with ⟨_, target, _, firstStep, between⟩
  rcases admissionStep_admits firstStep isFirst with ⟨_, rfl, _, reserves⟩
  rcases admissionStep_admits secondStep isSecond with ⟨checkedAt, rfl, within, later⟩
  have idle : ∀ row ∈ before.feederRequests.rows, row.status = .acknowledged := by
    cases later with
    | reserves _ idle _ => exact idle
  have reserved : ⟨firstId, .pending, firstAt, firstAt⟩ ∈ target.feederRequests.rows := by
    cases reserves with
    | reserves _ _ fresh => exact Table.mem_rows_insert_new fresh
  rcases acknowledged_of_released between reserved rfl idle with ⟨acknowledgedAt, isLabel, moved⟩
  rcases List.pairwise_flatMap.mp clock with ⟨each, across⟩
  have afterFirst : firstAt ≤ acknowledgedAt := by
    have following := (List.pairwise_append.mp (List.pairwise_append.mp across).1).2.1
    exact List.rel_of_pairwise_cons following isLabel _
      (by simp [AdmissionLabel.readings, AdmissionLabel.admits]) _
      (by simp [AdmissionLabel.readings, AdmissionLabel.acknowledges])
  have beforeSecond : checkedAt ≤ secondAt := by
    simpa [AdmissionLabel.readings, AdmissionLabel.admits] using
      each (.admits secondId checkedAt secondAt) (by simp)
  exact ⟨acknowledgedAt, isLabel, afterFirst, Int.le_trans (within.spaced _ moved) beforeSecond⟩

def admissionLabels (limits : AdmissionLimits) : List AdmissionCall → GatewayDb →
    List AdmissionLabel
  | [], _ => []
  | call :: rest, db =>
      ⟨call, (call.execute limits db).1⟩ :: admissionLabels limits rest (call.execute limits db).2

def replayAdmissions (limits : AdmissionLimits) (calls : List AdmissionCall) (db : GatewayDb) :
    GatewayDb :=
  calls.foldl (fun current call => (call.execute limits current).2) db

theorem replayAdmissions_run (limits : AdmissionLimits) (calls : List AdmissionCall)
    (db : GatewayDb) :
    AdmissionRun limits db (admissionLabels limits calls db) (replayAdmissions limits calls db) := by
  induction calls generalizing db with
  | nil => exact .nil db
  | cons call rest induction => exact .cons rfl (induction _)

/-- At most two requests an hour, 5 seconds apart. The second is refused because the
first is still pending, the fourth because of the cap. -/
def exampleAdmissions : List AdmissionCall :=
  [.beginRequest ⟨1⟩ false 100 101, .beginRequest ⟨2⟩ false 102 102, .acknowledge ⟨1⟩ 103,
    .beginRequest ⟨3⟩ false 108 109, .acknowledge ⟨3⟩ 110, .beginRequest ⟨4⟩ false 120 120]

theorem admissions_limited_example :
    let labels := admissionLabels ⟨5, 2⟩ exampleAdmissions GatewayDb.empty
    let times := labels.filterMap AdmissionLabel.admittedAt
    labels.map AdmissionLabel.result =
        [.began .new, .began (.notDispatched ⟨.unresolved, 5⟩), .acknowledged true,
          .began .new, .acknowledged true, .began (.notDispatched ⟨.capacity, 3584⟩)] ∧
      times = [101, 109] ∧ ∀ start, (SlidingWindow.within start 3600 times).length ≤ 2 := by
  intro labels times
  have run := replayAdmissions_run ⟨5, 2⟩ exampleAdmissions GatewayDb.empty
  exact ⟨by decide +kernel, by decide +kernel, (admissions_limited run (by decide +kernel)).2⟩

end LightningGoats
