import LightningGoats.Foundation.Execution
import LightningGoats.Quotes.Service

/-! # What the calls do to the store

A call carries the identity of its own request from its first statement on, and
a quote or an intent that it holds is the one it decoded. Every statement is
therefore a change of the store, and a run of the service is a run of changes.
-/

namespace LightningGoats

open Outcome Text

/-! ## Commit and rollback -/

theorem commit_cases {α : Type} {outcome : Except QuoteError (α × QuoteDb)} {db after : QuoteDb}
    {result : Except QuoteError α} (ran : commit outcome db = (result, after)) :
    (∃ value, result = .ok value ∧ outcome = .ok (value, after)) ∨
      (∃ error, result = .error error ∧ outcome = .error error ∧ after = db) := by
  cases outcome with
  | ok pair =>
      cases ran
      exact .inl ⟨_, rfl, rfl⟩
  | error error =>
      cases ran
      exact .inr ⟨error, rfl, rfl, rfl⟩

theorem commit_of_ok {α : Type} {outcome : Except QuoteError (α × QuoteDb)} {db after : QuoteDb}
    {value : α} (succeeds : outcome = .ok (value, after)) :
    commit outcome db = (.ok value, after) := by
  rw [succeeds, commit]

theorem commit_of_error {α : Type} {outcome : Except QuoteError (α × QuoteDb)} {db : QuoteDb}
    {error : QuoteError} (fails : outcome = .error error) :
    commit outcome db = (.error error, db) := by
  rw [fails, commit]

theorem withUnit_eq_ok {outcome : Except QuoteError QuoteDb} {value : Unit} {after : QuoteDb} :
    withUnit outcome = .ok (value, after) ↔ outcome = .ok after := by
  cases outcome <;> simp [withUnit, Except.map]

theorem withUnit_of_ok {outcome : Except QuoteError QuoteDb} {after : QuoteDb}
    (succeeds : outcome = .ok after) : withUnit outcome = .ok ((), after) :=
  withUnit_eq_ok.mpr succeeds

theorem withUnit_eq_error {outcome : Except QuoteError QuoteDb} {error : QuoteError} :
    withUnit outcome = .error error ↔ outcome = .error error := by
  cases outcome <;> simp [withUnit, Except.map]

variable [QuoteJson]

/-! ## Changes of the labels -/

def QuoteEvent.change (caller : QuoteCaller) : QuoteEvent → QuoteChange
  | reserved _ now _ (.ok (some _)) => .replays caller.request.id now
  | reserved identity now _ (.ok none) =>
      .reserves caller.request identity caller.service.policy now
  | completed stored now _ (.ok ()) => .completes stored now
  | markedFailed _ => .fails caller.request.id
  | bound stored intent now _ (.ok ()) => .binds stored intent now
  | _ => .none

def QuoteLabel.change : QuoteLabel → QuoteChange
  | received _ => .none
  | acted _ caller event _ => event.change caller
  | ledger label => .ledger label

/-! ## Control flow -/

def QuoteCaller.Identifies (caller : QuoteCaller) (identity : String) : Prop :=
  caller.request.Identifies caller.service.context identity

theorem QuoteCaller.Identifies.id_eq {caller : QuoteCaller} {stored : StoredXmrQuote}
    (identifies : caller.Identifies stored.identityJson) : stored.id = caller.request.id := by
  rcases identifies with ⟨value, isIdentity, written⟩
  rw [StoredXmrQuote.id, stored.identity_of_identityJson written.symm]
  exact (Identity.new_fields isIdentity).1

def QuotePc.Sound (caller : QuoteCaller) : QuotePc → Prop
  | begin => True
  | sampleReserve identity => caller.operation = .create ∧ caller.Identifies identity
  | reserve identity _ => caller.operation = .create ∧ caller.Identifies identity
  | contact identity _ => caller.operation = .create ∧ caller.Identifies identity
  | awaitEvidence identity _ => caller.operation = .create ∧ caller.Identifies identity
  | sampleIssue identity _ _ => caller.operation = .create ∧ caller.Identifies identity
  | complete identity stored _ =>
      caller.operation = .create ∧ caller.Identifies identity ∧ stored.identityJson = identity
  | markFailed _ => caller.operation = .create
  | sampleRead identity => caller.operation ≠ .create ∧ caller.Identifies identity
  | read identity _ => caller.operation ≠ .create ∧ caller.Identifies identity
  | sampleBind stored intent => caller.operation = .bind intent.receiveScope ∧
      caller.Identifies stored.identityJson ∧
      stored.creditIntent intent.receiveScope = .ok intent
  | bind stored intent _ => caller.operation = .bind intent.receiveScope ∧
      caller.Identifies stored.identityJson ∧
      stored.creditIntent intent.receiveScope = .ok intent
  | done => True

section ControlFlow

variable {caller : QuoteCaller} {identity : String} {now : Int}

theorem afterSlot_sound (granted : Bool) : (afterSlot caller granted).pc.Sound caller := by
  unfold afterSlot
  split
  · trivial
  · rename_i value isIdentity
    have identifies : caller.Identifies (identityCodec.encode value) := ⟨value, isIdentity, rfl⟩
    split
    · split
      · rename_i isCreate
        exact ⟨isCreate, identifies⟩
      · rename_i notCreate
        exact ⟨notCreate, identifies⟩
    · trivial

theorem afterReserve_sound (create : caller.operation = .create)
    (identifies : caller.Identifies identity) (replied : Bool)
    (result : Except QuoteError (Option String)) :
    (afterReserve identity now replied result).pc.Sound caller := by
  fun_cases afterReserve with
  | case3 => exact ⟨create, identifies⟩
  | _ => trivial

theorem afterFetch_sound (create : caller.operation = .create)
    (identifies : caller.Identifies identity) (evidence : Option RateEvidence) :
    (afterFetch identity now evidence).pc.Sound caller := by
  cases evidence with
  | some _ => exact ⟨create, identifies⟩
  | none => exact create

theorem issueQuote_identityJson {service : QuoteService} {request : QuoteRequest}
    {issuedAt : Int} {evidence : RateEvidence} {stored : StoredXmrQuote}
    (issued : issueQuote service request identity now issuedAt evidence = .ok stored) :
    stored.identityJson = identity := by
  simp only [issueQuote, bind_eq_ok] at issued
  rcases issued with ⟨_, _, decoded⟩
  exact (StoredXmrQuote.decode_eq_ok.mp decoded).2

theorem afterIssueSample_sound (create : caller.operation = .create)
    (identifies : caller.Identifies identity) (evidence : RateEvidence)
    (reading : Option Int) :
    (afterIssueSample caller identity now evidence reading).pc.Sound caller := by
  fun_cases afterIssueSample with
  | case1 => exact create
  | case2 _ _ issued => exact ⟨create, identifies, issueQuote_identityJson issued⟩
  | case3 => exact create

theorem afterComplete_sound (create : caller.operation = .create) (stored : StoredXmrQuote)
    (replied : Bool) (result : Except QuoteError Unit) :
    (afterComplete stored replied result).pc.Sound caller := by
  fun_cases afterComplete with
  | case1 => exact create
  | case2 => trivial
  | case3 => exact create

theorem afterRead_sound (identifies : caller.Identifies identity)
    (result : Except QuoteError String) :
    (afterRead caller.operation identity result).pc.Sound caller := by
  fun_cases afterRead with
  | case1 => trivial
  | case2 => trivial
  | case3 _ stored decoded =>
      unfold afterLookup
      split
      · rename_i receiveScope isBind
        split
        · rename_i intent isIntent
          have sameScope : intent.receiveScope = receiveScope := by
            rw [(StoredXmrQuote.creditIntent_fields isIntent).2]
          rw [← sameScope] at isBind isIntent
          rw [← (StoredXmrQuote.decode_eq_ok.mp decoded).2] at identifies
          exact ⟨isBind, identifies, isIntent⟩
        · trivial
      · trivial

theorem storeFailure_sound {pc : QuotePc} {next : QuoteNext} (sound : pc.Sound caller)
    (fails : pc.storeFailure = some next) : next.pc.Sound caller := by
  cases pc <;> cases fails
  case complete => exact sound.1
  all_goals trivial

theorem QuoteActs.sound {pc : QuotePc} {db after : QuoteDb} {event : QuoteEvent}
    {next : QuoteNext} (acts : QuoteActs caller pc db event next after)
    (sound : pc.Sound caller) : next.pc.Sound caller := by
  cases acts with
  | slot granted => exact afterSlot_sound granted
  | sampledReserve identity reading =>
      cases reading with
      | some now => exact sound
      | none => trivial
  | reserved replied => exact afterReserve_sound sound.1 sound.2 replied _
  | contacted => exact sound
  | fetched identity now evidence => exact afterFetch_sound sound.1 sound.2 evidence
  | sampledIssue identity now evidence reading =>
      exact afterIssueSample_sound sound.1 sound.2 evidence reading
  | completed replied => exact afterComplete_sound sound.1 _ replied _
  | markedFailed => trivial
  | sampledRead identity reading =>
      cases reading with
      | some now => exact sound
      | none => trivial
  | read => exact afterRead_sound sound.2 _
  | sampledBind stored intent reading =>
      cases reading with
      | some now => exact sound
      | none => trivial
  | bound replied =>
      fun_cases afterBind <;> trivial
  | storeFailed fails => exact storeFailure_sound sound fails
  | dropped => trivial

end ControlFlow

/-! ## Statements are changes -/

theorem QuoteActs.changes [SerdeJson] {caller : QuoteCaller} {pc : QuotePc}
    {db after : QuoteDb} {event : QuoteEvent} {next : QuoteNext}
    (acts : QuoteActs caller pc db event next after) (sound : pc.Sound caller) :
    QuoteChanges db (event.change caller) after := by
  cases acts with
  | reserved replied ran =>
      rcases commit_cases ran with ⟨answer, rfl, reserved⟩ | ⟨error, rfl, _, rfl⟩
      · rcases reserveXmrQuote_cases reserved ⟨_, sound.2⟩ with
          ⟨_, _, _, _, _, rfl, replays⟩ | ⟨rfl, reserves⟩
        · exact replays
        · exact reserves
      · exact .none _
  | completed replied ran =>
      rcases commit_cases ran with ⟨_, rfl, completed⟩ | ⟨error, rfl, _, rfl⟩
      · exact (completeXmrQuote_changes (withUnit_eq_ok.mp completed) sound.2.2).2
      · exact .none _
  | markedFailed error replied => exact .fails _ _
  | bound replied ran =>
      rcases commit_cases ran with ⟨_, rfl, bound⟩ | ⟨error, rfl, _, rfl⟩
      · exact bindXmrQuote_changes (withUnit_eq_ok.mp bound) sound.2.2
      · exact .none _
  | _ => exact .none _

/-! ## Calls of a system -/

section Systems

variable {system : QuoteSystem} {index other : Nat} {call moved : QuoteCall}
  {next : QuoteNext} {db : QuoteDb}

theorem call_of_advance
    (found : (system.advance index call next db).calls[other]? = some moved) :
    (other = index ∧ moved = { call with pc := next.pc }) ∨
      (other ≠ index ∧ system.calls[other]? = some moved) := by
  simp only [QuoteSystem.advance, List.getElem?_set] at found
  split at found
  · rename_i same
    split at found
    · exact .inl ⟨same.symm, (Option.some.inj found).symm⟩
    · cases found
  · rename_i different
    exact .inr ⟨Ne.symm different, found⟩

theorem call_of_receive {caller : QuoteCaller}
    (found : (system.receive caller).calls[other]? = some moved) :
    (other = system.calls.length ∧ moved = ⟨caller, .begin⟩) ∨
      system.calls[other]? = some moved := by
  simp only [QuoteSystem.receive, List.getElem?_append] at found
  split at found
  · exact .inr found
  · rename_i beyond
    rcases List.getElem?_eq_some_iff.mp found with ⟨inside, isLast⟩
    simp only [List.length_singleton] at inside
    refine .inl ⟨by omega, ?_⟩
    rw [← isLast]
    simp

end Systems

def CallsSound (system : QuoteSystem) : Prop :=
  ∀ (index : Nat) (call : QuoteCall), system.calls[index]? = some call →
    call.pc.Sound call.caller

theorem CallsSound.ofInitial : CallsSound .initial := by
  simp [CallsSound, QuoteSystem.initial]

variable [SerdeJson] {before after : QuoteSystem} {label : QuoteLabel}
  {labels : List QuoteLabel}

namespace CallsSound

theorem of_step (sound : CallsSound before) (step : QuoteStep before label after) :
    CallsSound after := by
  cases step with
  | receives =>
      intro index call found
      rcases call_of_receive found with ⟨_, rfl⟩ | old
      · trivial
      · exact sound index call old
  | acts running acts =>
      intro index call found
      rcases call_of_advance found with ⟨_, rfl⟩ | ⟨_, old⟩
      · exact acts.sound (sound _ _ running)
      · exact sound index call old
  | ledger => exact sound

theorem of_run (sound : CallsSound before) (run : QuoteRun before labels after) :
    CallsSound after :=
  run.invariant (fun holds step => holds.of_step step) sound

end CallsSound

/-! ## Runs are runs of changes -/

theorem QuoteStep.changes (step : QuoteStep before label after) (sound : CallsSound before) :
    QuoteChanges before.db label.change after.db := by
  cases step with
  | receives => exact .none _
  | acts running acts => exact acts.changes (sound _ _ running)
  | ledger step => exact .ledger step

abbrev QuoteHistory : QuoteDb → List QuoteChange → QuoteDb → Prop :=
  Execution.Run QuoteChanges

/-- The service refines the changes of its store. -/
theorem QuoteRun.changes (run : QuoteRun before labels after) (sound : CallsSound before) :
    QuoteHistory before.db (labels.map QuoteLabel.change) after.db := by
  induction run with
  | nil => exact .nil _
  | cons step _ induction =>
      exact .cons (step.changes sound) (induction (sound.of_step step))

theorem QuoteRun.history (run : QuoteRun .initial labels after) :
    QuoteHistory .fresh (labels.map QuoteLabel.change) after.db :=
  QuoteRun.changes run .ofInitial

theorem callers_of_run {property : QuoteCaller → Prop}
    (run : QuoteRun before labels after)
    (received : ∀ caller, .received caller ∈ labels → property caller)
    (earlier : ∀ call ∈ before.calls, property call.caller) :
    (∀ call ∈ after.calls, property call.caller) ∧
      ∀ index caller event response, .acted index caller event response ∈ labels →
        property caller := by
  induction run with
  | nil => exact ⟨earlier, by simp⟩
  | @cons before middle after label labels step _ induction =>
      have later : ∀ call ∈ middle.calls, property call.caller := by
        cases step with
        | receives =>
            intro call member
            rcases List.mem_append.mp member with old | isNew
            · exact earlier call old
            · rw [List.mem_singleton.mp isNew]
              exact received _ List.mem_cons_self
        | @acts _ stepping _ _ _ running =>
            intro call member
            rcases List.mem_or_eq_of_mem_set member with old | rfl
            · exact earlier call old
            · exact earlier stepping (List.mem_of_getElem? running)
        | ledger => exact earlier
      rcases induction (fun caller member => received caller (List.mem_cons_of_mem _ member))
        later with ⟨atEnd, acted⟩
      refine ⟨atEnd, fun index caller event response member => ?_⟩
      rcases List.mem_cons.mp member with isFirst | isLater
      · subst isFirst
        cases step with
        | acts running => exact earlier _ (List.mem_of_getElem? running)
      · exact acted index caller event response isLater

end LightningGoats
