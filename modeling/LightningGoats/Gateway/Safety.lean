import LightningGoats.Gateway.Handlers

/-! # One decision and one command for each request

Any number of handlers run side by side on one store, see whatever they see of
the feeder's safety, and disappear at any point. Each request is still decided
once, and the owner is commanded at most once for it.
-/

namespace LightningGoats

open Outcome Relational

/-! ## The invariant -/

def Decision.Admitted (decided : Decision) : Prop :=
  decided = .reserved ∨ decided = .acknowledged

theorem Decision.Develops.admitted {earlier later : Decision} (develops : Develops earlier later)
    (admitted : earlier.Admitted) : later.Admitted := by
  cases develops with
  | same => exact admitted
  | acknowledges => exact .inr rfl
  | refuses => rcases admitted with impossible | impossible <;> cases impossible
  | reserves => rcases admitted with impossible | impossible <;> cases impossible

/-- What holds of a gateway between any two steps. -/
structure HandlersSound (gateway : Gateway) : Prop where
  store : GatewaySound gateway.db
  nodup : gateway.commands.Nodup
  admitted : ∀ id ∈ gateway.commands, (decision id gateway.db).Admitted
  commanding : ∀ (index : Nat) (handler : Handler), gateway.handlers[index]? = some handler →
    handler.pc = .command →
      (decision handler.requestId gateway.db).Admitted ∧ handler.requestId ∉ gateway.commands
  alone : ∀ (left right : Nat) (leftHandler rightHandler : Handler),
    gateway.handlers[left]? = some leftHandler → gateway.handlers[right]? = some rightHandler →
    leftHandler.pc = .command → rightHandler.pc = .command →
    leftHandler.requestId = rightHandler.requestId → left = right
  completed : ∀ id, decision id gateway.db = .acknowledged → id ∈ gateway.completions
  completing : ∀ (index : Nat) (handler : Handler), gateway.handlers[index]? = some handler →
    handler.pc = .acknowledge → handler.requestId ∈ gateway.completions

namespace HandlersSound

variable {before after : Gateway} {label : GatewayLabel} {labels : List GatewayLabel}

theorem ofInitial : HandlersSound Gateway.initial where
  store := .ofEmpty
  nodup := .nil
  admitted := by simp [Gateway.initial]
  commanding := by simp [Gateway.initial]
  alone := by simp [Gateway.initial]
  completed := by
    intro id acknowledged
    have undecided : decision id Gateway.initial.db = .undecided := rfl
    rw [undecided] at acknowledged
    cases acknowledged
  completing := by simp [Gateway.initial]

theorem receive (sound : HandlersSound before) (method : FeedMethod) (exchange : Nat)
    (requestId : Uuid) : HandlersSound (before.receive method exchange requestId) where
  store := sound.store
  nodup := sound.nodup
  admitted := sound.admitted
  commanding := by
    intro index handler found isCommand
    rcases handler_of_receive found with ⟨_, rfl⟩ | old
    · cases isCommand
    · exact sound.commanding index handler old isCommand
  alone := by
    intro left right leftHandler rightHandler leftFound rightFound leftCommand rightCommand same
    rcases handler_of_receive leftFound with ⟨_, rfl⟩ | leftOld
    · cases leftCommand
    · rcases handler_of_receive rightFound with ⟨_, rfl⟩ | rightOld
      · cases rightCommand
      · exact sound.alone left right _ _ leftOld rightOld leftCommand rightCommand same
  completed := sound.completed
  completing := by
    intro index handler found isAcknowledge
    rcases handler_of_receive found with ⟨_, rfl⟩ | old
    · cases isAcknowledge
    · exact sound.completing index handler old isAcknowledge

section Acting

variable {index : Nat} {handler : Handler} {event : HandlerEvent} {next : Next} {db : GatewayDb}

/-- A handler that is at its command after a step was there before, or has just
been admitted. -/
theorem commanding_of_advance (acts : Acts handler.requestId handler.pc before.db event next db)
    {other : Nat} {moved : Handler}
    (found : (before.advance index handler event next db).handlers[other]? = some moved)
    (isCommand : moved.pc = .command) :
    (other = index ∧ moved.requestId = handler.requestId ∧ event = .began .new) ∨
      (other ≠ index ∧ before.handlers[other]? = some moved) := by
  rcases handler_of_advance found with ⟨isIndex, rfl⟩ | old
  · exact .inl ⟨isIndex, rfl, acts.of_command isCommand⟩
  · exact .inr old

theorem act (sound : HandlersSound before) (running : before.handlers[index]? = some handler)
    (acts : Acts handler.requestId handler.pc before.db event next db) :
    HandlersSound (before.advance index handler event next db) := by
  rcases acts.decides with ⟨change, decides, acknowledges⟩
  have commandsEq := acts.commands_eq
  -- A request that is being admitted has been commanded by no one and for no one.
  have newlyAdmitted : event = .began .new →
      handler.requestId ∉ before.commands ∧
      (∀ (other : Nat) (moved : Handler), before.handlers[other]? = some moved →
        moved.pc = .command →
        moved.requestId ≠ handler.requestId) ∧ (decision handler.requestId db).Admitted := by
    intro isNew
    subst isNew
    rcases acts.begins with ⟨undecided, reserved⟩
    have notAdmitted : ¬ (decision handler.requestId before.db).Admitted := by
      rw [undecided]
      rintro (impossible | impossible) <;> cases impossible
    refine ⟨fun member => notAdmitted (sound.admitted _ member), ?_, .inl reserved⟩
    intro other moved found isCommand same
    exact notAdmitted (same ▸ (sound.commanding other moved found isCommand).1)
  have commandsOf : ∀ id, id ∈ before.commands ++ event.commands handler.requestId →
      id ∈ before.commands ∨ handler.pc = .command ∧ id = handler.requestId := by
    intro id member
    rcases List.mem_append.mp member with old | isNew
    · exact .inl old
    · rcases commandsEq with none | ⟨isCommand, one, _⟩
      · rw [none] at isNew
        cases isNew
      · rw [one, List.mem_singleton] at isNew
        exact .inr ⟨isCommand, isNew⟩
  refine ⟨sound.store.of_decides decides, ?_, ?_, ?_, ?_, ?_, ?_⟩
  · rcases commandsEq with none | ⟨isCommand, one, _⟩
    · simp only [Gateway.advance, none, List.append_nil]
      exact sound.nodup
    · simp only [Gateway.advance, one]
      have absent := (sound.commanding index handler running isCommand).2
      exact List.nodup_append.mpr ⟨sound.nodup, List.nodup_singleton _, by
        intro left leftMember right rightMember same
        rw [List.mem_singleton] at rightMember
        exact absent (rightMember ▸ same ▸ leftMember)⟩
  · intro id member
    refine (decides.develops id).admitted ?_
    rcases commandsOf id member with old | ⟨isCommand, rfl⟩
    · exact sound.admitted id old
    · exact (sound.commanding index handler running isCommand).1
  · intro other moved found isCommand
    rcases commanding_of_advance acts found isCommand with ⟨_, same, isNew⟩ | ⟨different, old⟩
    · rcases newlyAdmitted isNew with ⟨absent, _, admitted⟩
      rw [same]
      refine ⟨admitted, fun member => ?_⟩
      rcases commandsOf _ member with oldMember | ⟨isCommand, _⟩
      · exact absent oldMember
      · subst isNew
        rw [isCommand] at acts
        cases acts
    · rcases sound.commanding other moved old isCommand with ⟨admitted, absent⟩
      refine ⟨(decides.develops _).admitted admitted, fun member => ?_⟩
      rcases commandsOf _ member with oldMember | ⟨alsoCommand, same⟩
      · exact absent oldMember
      · exact different (sound.alone other index _ _ old running isCommand alsoCommand same)
  · intro left right leftHandler rightHandler leftFound rightFound leftCommand rightCommand same
    rcases commanding_of_advance acts leftFound leftCommand with
      ⟨isLeft, leftId, isNew⟩ | ⟨_, leftOld⟩
    · rcases commanding_of_advance acts rightFound rightCommand with
        ⟨isRight, _, _⟩ | ⟨_, rightOld⟩
      · exact isLeft.trans isRight.symm
      · exact absurd (same.symm.trans leftId)
          ((newlyAdmitted isNew).2.1 right rightHandler rightOld rightCommand)
    · rcases commanding_of_advance acts rightFound rightCommand with
        ⟨_, rightId, isNew⟩ | ⟨_, rightOld⟩
      · exact absurd (same.trans rightId)
          ((newlyAdmitted isNew).2.1 left leftHandler leftOld leftCommand)
      · exact sound.alone left right _ _ leftOld rightOld leftCommand rightCommand same
  · intro id acknowledged
    refine List.mem_append_left _ ?_
    have decided : change.decided id (decision id before.db) = .acknowledged :=
      (decides.decision_eq id).symm.trans acknowledged
    rcases AdmissionChange.acknowledged_cases decided with already | ⟨now, isChange⟩
    · exact sound.completed id already
    · rcases acknowledges id now isChange with ⟨isAcknowledge, isRequest, _⟩
      rw [isRequest]
      exact sound.completing index handler running isAcknowledge
  · intro other moved found isAcknowledge
    rcases handler_of_advance found with ⟨_, rfl⟩ | ⟨_, old⟩
    · have isComplete := acts.of_acknowledge isAcknowledge
      refine List.mem_append_right _ ?_
      rw [isComplete]
      exact List.mem_cons_self
    · exact List.mem_append_left _ (sound.completing other moved old isAcknowledge)

end Acting

theorem step (sound : HandlersSound before) (taken : GatewayStep before label after) :
    HandlersSound after := by
  cases taken with
  | receives method exchange requestId => exact sound.receive method exchange requestId
  | acts running acts => exact sound.act running acts

theorem of_run (run : GatewayRun Gateway.initial labels after) : HandlersSound after :=
  run.invariant (fun sound taken => step sound taken) ofInitial

end HandlersSound

end LightningGoats
