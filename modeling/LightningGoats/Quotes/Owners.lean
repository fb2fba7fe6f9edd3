import LightningGoats.Quotes.Requests

/-! # Who owns a reservation

A reservation belongs to the call that made it. No other call contacts the rate source
for it or settles it.
-/

namespace LightningGoats

open Outcome Relational

section Definitions

variable [QuoteJson]

def QuotePc.owns : QuotePc → Bool
  | contact _ _ | awaitEvidence _ _ | sampleIssue _ _ _ | complete _ _ _ | markFailed _ => true
  | _ => false

def QuotePc.holds : QuotePc → Option String
  | contact identity _ | awaitEvidence identity _ | sampleIssue identity _ _
  | complete identity _ _ => some identity
  | _ => none

def QuoteLabel.contacts (id : Uuid) : QuoteLabel → Bool
  | acted _ caller .contacted _ => caller.request.id = id
  | _ => false

def contactsOf (id : Uuid) (labels : List QuoteLabel) : Nat :=
  labels.countP (QuoteLabel.contacts id)

def ReservedBy (index : Nat) (caller : QuoteCaller) (past : List QuoteLabel) : Prop :=
  ∃ identity now, .acted index caller (.reserved identity now true (.ok none)) none ∈ past

structure Owners (past : List QuoteLabel) (system : QuoteSystem) : Prop where
  sound : CallsSound system
  reservedBy : ∀ (index : Nat) (call : QuoteCall), system.calls[index]? = some call →
    call.pc.owns = true → ReservedBy index call.caller past
  known : ∀ (index : Nat) (call : QuoteCall), system.calls[index]? = some call →
    call.pc.owns = true →
      ∃ row ∈ system.db.xmrQuoteRequests.rows, row.id = call.caller.request.id
  held : ∀ (index : Nat) (call : QuoteCall) (identity : String),
    system.calls[index]? = some call → call.pc.holds = some identity →
      ∃ row ∈ system.db.xmrQuoteRequests.rows, row.id = call.caller.request.id ∧
        row.status = .reserved ∧ row.identityJson = identity
  unique : ∀ (left right : Nat) (leftCall rightCall : QuoteCall),
    system.calls[left]? = some leftCall → system.calls[right]? = some rightCall →
    leftCall.pc.owns = true → rightCall.pc.owns = true →
    leftCall.caller.request.id = rightCall.caller.request.id → left = right
  once : ∀ id, contactsOf id past ≤ 1
  waiting : ∀ (index : Nat) (call : QuoteCall) (identity : String) (now : Int),
    system.calls[index]? = some call → call.pc = .contact identity now →
      contactsOf call.caller.request.id past = 0
  contacted : ∀ id, contactsOf id past ≠ 0 →
    ∃ row ∈ system.db.xmrQuoteRequests.rows, row.id = id

theorem QuotePc.owns_of_holds {pc : QuotePc} {identity : String}
    (holds : pc.holds = some identity) : pc.owns = true := by
  cases pc <;> first | rfl | cases holds

theorem contactsOf_concat (id : Uuid) (past : List QuoteLabel) (label : QuoteLabel) :
    contactsOf id (past ++ [label]) = contactsOf id past + if label.contacts id then 1 else 0 := by
  rw [contactsOf, List.countP_append, List.countP_singleton]
  rfl

theorem ReservedBy.later {index : Nat} {caller : QuoteCaller} {past : List QuoteLabel}
    (reserved : ReservedBy index caller past) (label : QuoteLabel) :
    ReservedBy index caller (past ++ [label]) := by
  rcases reserved with ⟨identity, now, member⟩
  exact ⟨identity, now, List.mem_append_left _ member⟩

end Definitions

section Statements

variable [QuoteJson] [SerdeJson] {caller : QuoteCaller} {pc : QuotePc} {db after : QuoteDb}
  {event : QuoteEvent} {next : QuoteNext}

theorem QuoteActs.row_kept (acts : QuoteActs caller pc db event next after)
    (sound : pc.Sound caller) {row : QuoteRequestRow} (member : row ∈ db.xmrQuoteRequests.rows)
    (other : pc.owns = false ∨ row.id ≠ caller.request.id) :
    row ∈ after.xmrQuoteRequests.rows := by
  have developed := (acts.changes sound).develop_mem member
  have kept : (event.change caller).develop row = row := by
    cases acts with
    | @completed _ stored _ _ _ result =>
        cases result with
        | error error => rfl
        | ok answer =>
            cases other with
            | inl notOwner => cases notOwner
            | inr otherId =>
                apply QuoteRequestRow.settle_of_other
                have identifies : caller.Identifies stored.identityJson := by
                  rw [sound.2.2]
                  exact sound.2.1
                rw [identifies.id_eq]
                exact otherId
    | markedFailed =>
        cases other with
        | inl notOwner => cases notOwner
        | inr otherId => exact QuoteRequestRow.settle_of_other otherId
    | @reserved _ _ _ _ result =>
        cases result with
        | error error => rfl
        | ok answer => cases answer <;> rfl
    | @bound _ _ _ _ _ result => cases result <;> rfl
    | _ => rfl
  rw [kept] at developed
  exact developed

theorem QuoteActs.id_kept (acts : QuoteActs caller pc db event next after)
    (sound : pc.Sound caller) {id : Uuid} (known : ∃ row ∈ db.xmrQuoteRequests.rows, row.id = id) :
    ∃ row ∈ after.xmrQuoteRequests.rows, row.id = id := by
  rcases known with ⟨row, member, sameId⟩
  refine ⟨_, (acts.changes sound).develop_mem member, ?_⟩
  rw [QuoteChange.develop_id]
  exact sameId

omit [SerdeJson] in
theorem afterSlot_owns (granted : Bool) : (afterSlot caller granted).pc.owns = false := by
  fun_cases afterSlot <;> rfl

omit [SerdeJson] in
theorem afterRead_owns (operation : QuoteOperation) (identity : String)
    (result : Except QuoteError String) : (afterRead operation identity result).pc.owns = false := by
  fun_cases afterRead with
  | case3 => fun_cases afterLookup <;> rfl
  | _ => rfl

omit [SerdeJson] in
theorem afterBind_owns (intent : XmrCreditIntent) (replied : Bool)
    (result : Except QuoteError Unit) : (afterBind intent replied result).pc.owns = false := by
  fun_cases afterBind <;> rfl

theorem QuoteActs.owns_cases (acts : QuoteActs caller pc db event next after)
    (sound : pc.Sound caller) (owns : next.pc.owns = true) :
    (pc.owns = true ∧ (∀ identity now, next.pc ≠ .contact identity now) ∧
      ∀ identity, next.pc.holds = some identity → pc.holds = some identity ∧ after = db) ∨
    ∃ identity now, event = .reserved identity now true (.ok none) ∧
      next = .goto (.contact identity now) ∧
      (∀ row ∈ db.xmrQuoteRequests.rows, row.id ≠ caller.request.id) ∧
      reservation caller.request identity now ∈ after.xmrQuoteRequests.rows := by
  cases acts with
  | slot granted => rw [afterSlot_owns] at owns; cases owns
  | sampledReserve identity reading => cases reading <;> cases owns
  | @reserved identity now _ _ result replied ran =>
      rcases commit_cases ran with ⟨answer, rfl, committed⟩ | ⟨error, rfl, _, _⟩
      · cases replied with
        | false => cases owns
        | true =>
            rcases reserveXmrQuote_cases committed ⟨_, sound.2⟩ with
              ⟨_, _, _, _, _, rfl, _⟩ | ⟨rfl, reserves⟩
            · cases owns
            · refine .inr ⟨identity, now, rfl, rfl, ?_⟩
              cases reserves with
              | reserves _ _ absent _ _ _ fresh =>
                  exact ⟨absent, Table.mem_rows_insert_new fresh⟩
      · cases owns
  | contacted identity now =>
      exact .inl ⟨rfl, fun _ _ isContact => (by cases isContact), fun _ holds => ⟨holds, rfl⟩⟩
  | fetched identity now evidence =>
      refine .inl ⟨rfl, ?_, ?_⟩
      · cases evidence <;> exact fun _ _ isContact => by cases isContact
      · cases evidence with
        | none => exact fun _ holds => by cases holds
        | some evidence => exact fun _ holds => ⟨holds, rfl⟩
  | sampledIssue identity now evidence reading =>
      refine .inl ⟨rfl, ?_, ?_⟩
      · fun_cases afterIssueSample <;> exact fun _ _ isContact => by cases isContact
      · fun_cases afterIssueSample with
        | case2 => exact fun _ holds => ⟨holds, rfl⟩
        | _ => exact fun _ holds => by cases holds
  | @completed _ stored _ _ _ result replied ran =>
      refine .inl ⟨rfl, ?_, ?_⟩
      · fun_cases afterComplete <;> exact fun _ _ isContact => by cases isContact
      · fun_cases afterComplete <;> exact fun _ holds => by cases holds
  | markedFailed => cases owns
  | sampledRead identity reading => cases reading <;> cases owns
  | read => rw [afterRead_owns] at owns; cases owns
  | sampledBind stored intent reading => cases reading <;> cases owns
  | bound replied => rw [afterBind_owns] at owns; cases owns
  | storeFailed fails =>
      cases pc <;> cases fails
      case complete.refl =>
        exact .inl ⟨rfl, fun _ _ isContact => (by cases isContact), fun _ holds => by cases holds⟩
      all_goals cases owns
  | dropped => cases owns

omit [SerdeJson] in
theorem QuoteActs.contacts_cases (acts : QuoteActs caller pc db event next after) (index : Nat)
    (id : Uuid) (response : Option QuoteResponse)
    (contacts : (QuoteLabel.acted index caller event response).contacts id = true) :
    (∃ identity now, pc = .contact identity now) ∧ caller.request.id = id := by
  cases acts with
  | contacted identity now => exact ⟨⟨identity, now, rfl⟩, of_decide_eq_true contacts⟩
  | _ => cases contacts

end Statements

section Runs

variable [QuoteJson] [SerdeJson] {past : List QuoteLabel} {before after : QuoteSystem}
  {label : QuoteLabel}

namespace Owners

omit [SerdeJson] in
/-- What does not move a call or a row, and contacts nobody, keeps the owners. -/
theorem of_calls (owners : Owners past before) (sound : CallsSound after)
    (contactless : ∀ id, label.contacts id = false)
    (rows : after.db.xmrQuoteRequests.rows = before.db.xmrQuoteRequests.rows)
    (calls : ∀ (index : Nat) (call : QuoteCall), after.calls[index]? = some call →
      call.pc = .begin ∨ before.calls[index]? = some call) :
    Owners (past ++ [label]) after := by
  have same : ∀ id, contactsOf id (past ++ [label]) = contactsOf id past := by
    intro id
    rw [contactsOf_concat, contactless]
    rfl
  have owner : ∀ (index : Nat) (call : QuoteCall), after.calls[index]? = some call →
      call.pc.owns = true → before.calls[index]? = some call := by
    intro index call found owns
    cases calls index call found with
    | inr old => exact old
    | inl begins =>
        rw [begins] at owns
        cases owns
  constructor
  · exact sound
  · exact fun index call found owns =>
      (owners.reservedBy index call (owner index call found owns) owns).later label
  · intro index call found owns
    rw [rows]
    exact owners.known index call (owner index call found owns) owns
  · intro index call identity found holds
    rw [rows]
    have old := owner index call found (QuotePc.owns_of_holds holds)
    exact owners.held index call identity old holds
  · intro left right leftCall rightCall leftFound rightFound leftOwns rightOwns sameId
    exact owners.unique left right leftCall rightCall (owner left leftCall leftFound leftOwns)
      (owner right rightCall rightFound rightOwns) leftOwns rightOwns sameId
  · exact fun id => same id ▸ owners.once id
  · intro index call identity now found isContact
    rw [same]
    have old := owner index call found (by rw [isContact]; rfl)
    exact owners.waiting index call identity now old isContact
  · intro id contacted
    rw [rows]
    exact owners.contacted id (same id ▸ contacted)

section Acting

variable {index : Nat} {call : QuoteCall} {event : QuoteEvent} {next : QuoteNext} {db : QuoteDb}

theorem held_of_acts (owners : Owners past before) (running : before.calls[index]? = some call)
    (acts : QuoteActs call.caller call.pc before.db event next db) {other : Nat}
    {moved : QuoteCall} {identity : String} (isOther : other ≠ index)
    (found : before.calls[other]? = some moved) (holds : moved.pc.holds = some identity) :
    ∃ row ∈ db.xmrQuoteRequests.rows, row.id = moved.caller.request.id ∧
      row.status = .reserved ∧ row.identityJson = identity := by
  rcases owners.held other moved identity found holds with ⟨row, member, sameId, isRow⟩
  refine ⟨row, acts.row_kept (owners.sound index call running) member ?_, sameId, isRow⟩
  cases owns : call.pc.owns with
  | false => exact .inl rfl
  | true =>
      refine .inr fun actorsRow => isOther ?_
      exact owners.unique other index moved call found running (QuotePc.owns_of_holds holds) owns
        (sameId.symm.trans actorsRow)

omit [SerdeJson] in
theorem alone_of_absent (owners : Owners past before)
    (absent : ∀ row ∈ before.db.xmrQuoteRequests.rows, row.id ≠ call.caller.request.id)
    {other : Nat} {moved : QuoteCall} (found : before.calls[other]? = some moved)
    (owns : moved.pc.owns = true) : moved.caller.request.id ≠ call.caller.request.id := by
  intro sameId
  rcases owners.known other moved found owns with ⟨row, member, isRow⟩
  exact absent row member (isRow.trans sameId)

theorem of_acts (owners : Owners past before) (running : before.calls[index]? = some call)
    (acts : QuoteActs call.caller call.pc before.db event next db)
    (sound : CallsSound (before.advance index call next db)) :
    Owners (past ++ [.acted index call.caller event next.response])
      (before.advance index call next db) := by
  have callSound := owners.sound index call running
  constructor
  · exact sound
  · intro other moved found owns
    rcases call_of_advance found with ⟨rfl, rfl⟩ | ⟨_, old⟩
    · rcases acts.owns_cases callSound owns with ⟨owned, _⟩ | ⟨identity, now, rfl, rfl, _⟩
      · exact (owners.reservedBy _ call running owned).later _
      · exact ⟨identity, now, List.mem_append_right _ List.mem_cons_self⟩
    · exact (owners.reservedBy other moved old owns).later _
  · intro other moved found owns
    rcases call_of_advance found with ⟨rfl, rfl⟩ | ⟨_, old⟩
    · rcases acts.owns_cases callSound owns with ⟨owned, _⟩ | ⟨identity, now, _, _, _, added⟩
      · exact acts.id_kept callSound (owners.known _ call running owned)
      · exact ⟨_, added, rfl⟩
    · exact acts.id_kept callSound (owners.known other moved old owns)
  · intro other moved identity found holds
    rcases call_of_advance found with ⟨rfl, rfl⟩ | ⟨isOther, old⟩
    · rcases acts.owns_cases callSound (QuotePc.owns_of_holds holds) with
        ⟨_, _, held⟩ | ⟨reserved, now, _, rfl, _, added⟩
      · rcases held identity holds with ⟨heldBefore, rfl⟩
        exact owners.held _ call identity running heldBefore
      · cases holds
        exact ⟨_, added, rfl, rfl, rfl⟩
    · exact owners.held_of_acts running acts isOther old holds
  · intro left right leftCall rightCall leftFound rightFound leftOwns rightOwns sameId
    rcases call_of_advance leftFound with ⟨rfl, rfl⟩ | ⟨leftOther, leftOld⟩
    · rcases call_of_advance rightFound with ⟨rfl, rfl⟩ | ⟨rightOther, rightOld⟩
      · rfl
      · rcases acts.owns_cases callSound leftOwns with ⟨owned, _⟩ | ⟨_, _, _, _, absent, _⟩
        · exact owners.unique _ right call rightCall running rightOld owned rightOwns sameId
        · exact absurd sameId.symm (owners.alone_of_absent absent rightOld rightOwns)
    · rcases call_of_advance rightFound with ⟨rfl, rfl⟩ | ⟨rightOther, rightOld⟩
      · rcases acts.owns_cases callSound rightOwns with ⟨owned, _⟩ | ⟨_, _, _, _, absent, _⟩
        · exact owners.unique left _ leftCall call leftOld running leftOwns owned sameId
        · exact absurd sameId (owners.alone_of_absent absent leftOld leftOwns)
      · exact owners.unique left right leftCall rightCall leftOld rightOld leftOwns rightOwns
          sameId
  · intro id
    rw [contactsOf_concat]
    split
    · rename_i contacts
      rcases acts.contacts_cases index id next.response contacts with
        ⟨⟨identity, now, isContact⟩, rfl⟩
      rw [owners.waiting index call identity now running isContact]
    · exact owners.once id
  · intro other moved identity now found isContact
    rw [contactsOf_concat]
    rcases call_of_advance found with ⟨rfl, rfl⟩ | ⟨isOther, old⟩
    · rcases acts.owns_cases callSound (by rw [show next.pc = _ from isContact]; rfl) with
        ⟨_, notContact, _⟩ | ⟨reserved, _, rfl, _, absent, _⟩
      · exact absurd isContact (notContact identity now)
      · have none : contactsOf call.caller.request.id past = 0 := by
          by_contra contacted
          rcases owners.contacted _ contacted with ⟨row, member, sameId⟩
          exact absent row member sameId
        rw [none]
        rfl
    · rw [owners.waiting other moved identity now old isContact]
      split
      · rename_i contacts
        rcases acts.contacts_cases index _ next.response contacts with
          ⟨⟨actorsIdentity, actorsNow, isActing⟩, sameId⟩
        have sameCall := owners.unique other index moved call old running
          (by rw [isContact]; rfl) (by rw [isActing]; rfl) sameId.symm
        exact absurd sameCall isOther
      · rfl
  · intro id contacted
    apply acts.id_kept callSound
    rw [contactsOf_concat] at contacted
    by_cases earlier : contactsOf id past = 0
    · split at contacted
      · rename_i contacts
        rcases acts.contacts_cases index id next.response contacts with
          ⟨⟨identity, now, isContact⟩, rfl⟩
        exact owners.known index call running (by rw [isContact]; rfl)
      · exact absurd earlier contacted
    · exact owners.contacted id earlier

end Acting

theorem of_step (owners : Owners past before) (step : QuoteStep before label after) :
    Owners (past ++ [label]) after := by
  have sound := owners.sound.of_step step
  cases step with
  | receives caller =>
      apply owners.of_calls sound (fun _ => rfl) rfl
      intro index call found
      rcases call_of_receive found with ⟨_, rfl⟩ | old
      · exact .inl rfl
      · exact .inr old
  | acts running acts => exact owners.of_acts running acts sound
  | ledger => exact owners.of_calls sound (fun _ => rfl) rfl fun _ _ found => .inr found

omit [SerdeJson] in
theorem ofInitial : Owners [] .initial := by
  constructor
  · exact .ofInitial
  all_goals simp [QuoteSystem.initial, contactsOf]

theorem of_run {labels : List QuoteLabel} {system : QuoteSystem}
    (run : QuoteRun .initial labels system) : Owners labels system := by
  exact @Execution.Run.history _ _ QuoteStep _ _ _ Owners (fun owners step => owners.of_step step)
    run [] ofInitial

end Owners

end Runs

end LightningGoats
