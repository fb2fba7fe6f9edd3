import LightningGoats.Ledger.Announcements
import LightningGoats.Messaging.Publication

/-! # Every event is passed once

A processor may act on a cursor and an event that it read long ago. The event
still comes next after that cursor, so the transaction either moves the cursor
from the event before or finds that the event has been passed.
-/

namespace LightningGoats

open Outcome Relational LogCursor

/-! ## Places in the log -/

def eventSeq (entry : Nat × Event) : Int :=
  entry.1

def passedEvents (state : MessageState) : List (Nat × Event) :=
  passed eventSeq state.outbox.messageCursor state.db.eventLog.entries

def Waits (db : Db) (cursor : Int) (event : DurableEvent) : Prop :=
  ∃ (place : Nat) (rest : List (Nat × Event)), (place : Int) ≤ cursor ∧
    ahead eventSeq place db.eventLog.entries = (event.seq, event.event) :: rest

section Places

variable {before after : Db} {cursor : Int} {event : DurableEvent}

theorem eventLog_ascending (db : Db) : Ascending eventSeq db.eventLog.entries :=
  db.eventLog.ascending.imp Int.ofNat_lt.mpr

theorem eventsAfter_next {place : Nat} {others : List DurableEvent}
    (read : eventsAfter place 1 before = .ok (event :: others)) :
    ∃ rest, ahead eventSeq place before.eventLog.entries = (event.seq, event.event) :: rest := by
  simp only [eventsAfter, bind_eq_ok, pure_eq_ok] at read
  rcases read with ⟨place, isPlace, found⟩
  cases (toI64_eq_ok.mp isPlace).2
  cases isAhead : ahead eventSeq place before.eventLog.entries with
  | nil =>
      have none : (before.eventLog.entries.filter fun entry => (place : Int) < entry.1) = [] :=
        isAhead
      rw [none] at found
      cases found
  | cons first rest =>
      have some : (before.eventLog.entries.filter fun entry => (place : Int) < entry.1) =
        first :: rest := isAhead
      rw [some] at found
      cases found
      exact ⟨rest, rfl⟩

theorem added_ahead (extended : before.eventLog.Extends after.eventLog)
    (reached : cursor ≤ before.eventLog.sequence) :
    ∃ added, after.eventLog.entries = before.eventLog.entries ++ added ∧
      ∀ entry ∈ added, cursor < eventSeq entry := by
  rcases extended.added_later with ⟨added, equal, later⟩
  refine ⟨added, equal, fun entry member => ?_⟩
  apply Int.lt_of_le_of_lt reached
  exact Int.ofNat_lt.mpr (later entry member)

theorem Waits.grow (waits : Waits before cursor event)
    (extended : before.eventLog.Extends after.eventLog)
    (reached : cursor ≤ before.eventLog.sequence) : Waits after cursor event := by
  rcases waits with ⟨place, rest, notAfter, next⟩
  rcases added_ahead extended (Int.le_trans notAfter reached) with ⟨added, equal, later⟩
  refine ⟨place, rest ++ added, notAfter, ?_⟩
  rw [equal, ahead_append later, next, List.cons_append]

theorem Waits.advance {further : Int} (waits : Waits before cursor event)
    (ordered : cursor ≤ further) : Waits before further event := by
  rcases waits with ⟨place, rest, notAfter, next⟩
  exact ⟨place, rest, Int.le_trans notAfter ordered, next⟩

end Places

/-! ## What holds in every state -/

section Invariant

variable [NostrJson]

def SignedFor (service : MessageService) (db : Db) (row : OutboxRow) : Prop :=
  ∃ entry ∈ db.eventLog.entries, ∃ signed : SignedNostrEvent,
    row.sourceEventSeq = some (eventSeq entry) ∧ row.eventId = signed.id ∧
      row.signedEventJson = NostrJson.encode signed ∧
      service.publicContent ⟨entry.1, entry.2⟩ = some signed.content ∧
      validateSignedEvent signed service.projectPubkey = .ok ()

def WorkerSound (service : MessageService) (db : Db) (cursor : Int) : MessageWorker → Prop
  | .idle => True
  | .atCursor place => (place : Int) ≤ cursor
  | .skipping event => Waits db cursor event ∧ service.publicContent event = none
  | .signing event content =>
      Waits db cursor event ∧ service.publicContent event = some content
  | .enqueueing event signed =>
      Waits db cursor event ∧ service.publicContent event = some signed.content ∧
        validateSignedEvent signed service.projectPubkey = .ok ()

def IsFirst (entry : OutboxEntry) (waiting : List OutboxRow) : Prop :=
  ∃ row rest, waiting = row :: rest ∧ row.eventId = entry.eventId ∧
    row.signedEventJson = entry.signedEventJson

def Accepted (accepted : List SignedNostrEvent) (signedEventJson : String) : Prop :=
  ∃ event ∈ accepted, NostrJson.decode signedEventJson = some event

def PublisherSound (accepted : List SignedNostrEvent) (waiting : List OutboxRow) :
    OutboxPublisher → Prop
  | .idle => True
  | .publishing entry event =>
      IsFirst entry waiting ∧ NostrJson.decode entry.signedEventJson = some event
  | .published entry => IsFirst entry waiting ∧ Accepted accepted entry.signedEventJson
  | .failing entry _ => IsFirst entry waiting

structure Queue (accepted : List SignedNostrEvent) (rows : List OutboxRow)
    (publisher : OutboxPublisher) (done waiting : List OutboxRow) : Prop where
  rows_eq : rows = done ++ waiting
  done_published : ∀ row ∈ done,
    row.status = .published ∧ Accepted accepted row.signedEventJson
  waiting_waits : ∀ row ∈ waiting, row.isWaiting = true
  publisher_sound : PublisherSound accepted waiting publisher

def MessageService.isPublic (service : MessageService) (entry : Nat × Event) : Bool :=
  (service.publicContent ⟨entry.1, entry.2⟩).isSome

structure Delivering (service : MessageService) (moves : List (Int × Int))
    (accepted : List SignedNostrEvent) (state : MessageState) : Prop where
  moved : moves = hops 0 ((passedEvents state).map eventSeq)
  last : state.outbox.messageCursor = ((passedEvents state).map eventSeq).getLastD 0
  queued : state.outbox.messages.rows.map OutboxRow.sourceEventSeq =
    ((passedEvents state).filter service.isPublic).map fun entry => some (eventSeq entry)
  signed : ∀ row ∈ state.outbox.messages.rows, SignedFor service state.db row
  workers : ∀ worker, WorkerSound service state.db state.outbox.messageCursor
    (state.workers worker)
  queue : ∃ done waiting, Queue accepted state.outbox.messages.rows state.publisher done waiting

variable {service : MessageService} {moves : List (Int × Int)}
  {accepted : List SignedNostrEvent} {state : MessageState}

theorem Delivering.ofStart : Delivering service [] [] .start where
  moved := rfl
  last := rfl
  queued := rfl
  signed row member := by cases member
  workers _ := trivial
  queue := ⟨[], [], rfl, by simp, by simp, trivial⟩

namespace Delivering

theorem place (delivering : Delivering service moves accepted state) :
    IsPlace eventSeq 0 state.db.eventLog.entries state.outbox.messageCursor := by
  have member := @List.getLastD_mem_cons _ ((passedEvents state).map eventSeq) 0
  rw [← delivering.last] at member
  cases List.mem_cons.mp member with
  | inl isStart => exact .inl isStart
  | inr isEvent =>
      rcases List.mem_map.mp isEvent with ⟨entry, isPassed, isCursor⟩
      exact .inr ⟨entry, (mem_passed.mp isPassed).1, isCursor⟩

theorem reached (delivering : Delivering service moves accepted state) :
    state.outbox.messageCursor ≤ state.db.eventLog.sequence := by
  cases delivering.place with
  | inl isStart =>
      rw [isStart]
      exact Int.natCast_nonneg _
  | inr isEvent =>
      rcases isEvent with ⟨entry, member, isCursor⟩
      rw [← isCursor]
      exact Int.ofNat_le.mpr (state.db.eventLog.bounded entry member)

theorem grow (delivering : Delivering service moves accepted state) {db : Db}
    (extended : state.db.eventLog.Extends db.eventLog) :
    Delivering service moves accepted { state with db := db } := by
  have same : passedEvents { state with db := db } = passedEvents state := by
    rcases added_ahead extended delivering.reached with ⟨added, equal, later⟩
    rw [passedEvents, passedEvents, equal, passed_append later]
  refine ⟨?_, ?_, ?_, fun row member => ?_, fun worker => ?_, delivering.queue⟩
  · rw [same]
    exact delivering.moved
  · rw [same]
    exact delivering.last
  · rw [same]
    exact delivering.queued
  · rcases delivering.signed row member with ⟨entry, isEntry, signed, facts⟩
    exact ⟨entry, extended.mem_entries isEntry, signed, facts⟩
  · have sound := delivering.workers worker
    change WorkerSound service db state.outbox.messageCursor (state.workers worker)
    cases phase : state.workers worker with
    | idle => trivial
    | atCursor place =>
        rw [phase] at sound
        exact sound
    | skipping event =>
        rw [phase] at sound
        exact ⟨sound.1.grow extended delivering.reached, sound.2⟩
    | signing event content =>
        rw [phase] at sound
        exact ⟨sound.1.grow extended delivering.reached, sound.2⟩
    | enqueueing event signed =>
        rw [phase] at sound
        exact ⟨sound.1.grow extended delivering.reached, sound.2⟩

theorem setWorker (delivering : Delivering service moves accepted state) {worker : Nat}
    {phase : MessageWorker}
    (sound : WorkerSound service state.db state.outbox.messageCursor phase) :
    Delivering service moves accepted (state.setWorker worker phase) := by
  refine { delivering with workers := fun other => ?_ }
  change WorkerSound service state.db state.outbox.messageCursor
    (Function.update state.workers worker phase other)
  by_cases same : other = worker
  · rw [same, Function.update_self]
    exact sound
  · rw [Function.update_of_ne same]
    exact delivering.workers other

end Delivering

/-! ## Processors -/

section Processors

variable {cursor : Int} {event : DurableEvent}

omit [NostrJson] in
theorem publicContent_of_prepare {preparation : Preparation}
    (prepared : service.prepare event = .ok preparation) :
    service.publicContent event = match preparation with
      | .sign content => some content
      | _ => none := by
  unfold MessageService.prepare prepareMessage at prepared
  unfold MessageService.publicContent
  split at prepared
  · rename_i enabled
    rw [if_pos enabled]
    cases rendered : render service.catalog service.choice event service.thresholdSats with
    | error error =>
        rw [rendered] at prepared
        cases prepared
    | ok presentation =>
        rw [rendered, ok_bind] at prepared
        cases content : presentation.nostrContent with
        | none =>
            rw [content] at prepared
            cases prepared
            exact content
        | some text =>
            rw [content] at prepared
            cases prepared
            exact content
  · rename_i disabled
    rw [if_neg disabled]
    cases prepared
    rfl

omit [NostrJson] in
theorem WorkerSound.advance {db : Db} {further : Int} {phase : MessageWorker}
    (sound : WorkerSound service db cursor phase) (ordered : cursor ≤ further) :
    WorkerSound service db further phase := by
  cases phase with
  | idle => trivial
  | atCursor place => exact Int.le_trans sound ordered
  | skipping event => exact ⟨sound.1.advance ordered, sound.2⟩
  | signing event content => exact ⟨sound.1.advance ordered, sound.2⟩
  | enqueueing event signed => exact ⟨sound.1.advance ordered, sound.2⟩

omit [NostrJson] in
theorem readCursor_sound (outbox : Outbox) (db : Db) :
    WorkerSound service db outbox.messageCursor (service.readCursor outbox) := by
  unfold MessageService.readCursor
  split
  · trivial
  · cases read : messageCursor outbox with
    | error error => trivial
    | ok place =>
        have isPlace := toU64_eq_ok.mp (mapError_eq_ok.mp read)
        exact Int.le_of_eq isPlace.symm

omit [NostrJson] in
theorem readEvent_sound {place : Nat} {db : Db} (reached : (place : Int) ≤ cursor) :
    WorkerSound service db cursor (service.readEvent place db) := by
  unfold MessageService.readEvent
  split
  · rename_i event others read
    rcases eventsAfter_next read with ⟨rest, next⟩
    have waits : Waits db cursor event := ⟨place, rest, reached, next⟩
    split
    · rename_i content prepared
      exact ⟨waits, publicContent_of_prepare prepared⟩
    · rename_i preparation notSign prepared
      refine ⟨waits, ?_⟩
      rw [publicContent_of_prepare prepared]
      cases preparation with
      | sign content => exact absurd rfl (notSign content)
      | _ => rfl
    · trivial
  · trivial

omit [NostrJson] in
theorem sign_sound {db : Db} {content : String} (reply : NakReply)
    (sound : WorkerSound service db cursor (.signing event content)) :
    WorkerSound service db cursor (service.sign event content reply) := by
  unfold MessageService.sign
  split
  · rename_i signed ran
    rcases signKind1_ok ran with ⟨sameContent, _, valid⟩
    exact ⟨sound.1, by rw [sameContent]; exact sound.2, valid⟩
  · trivial

end Processors

/-! ## Passing an event -/

section Passing

omit [NostrJson] in
theorem IsFirst.append {entry : OutboxEntry} {waiting : List OutboxRow}
    (isFirst : IsFirst entry waiting) (added : List OutboxRow) :
    IsFirst entry (waiting ++ added) := by
  rcases isFirst with ⟨row, rest, rfl, sameRow⟩
  exact ⟨row, rest ++ added, rfl, sameRow⟩

theorem PublisherSound.append {waiting : List OutboxRow} {publisher : OutboxPublisher}
    (sound : PublisherSound accepted waiting publisher) (added : List OutboxRow) :
    PublisherSound accepted (waiting ++ added) publisher := by
  cases publisher with
  | idle => trivial
  | publishing entry event => exact ⟨sound.1.append added, sound.2⟩
  | published entry => exact ⟨sound.1.append added, sound.2⟩
  | failing entry error => exact IsFirst.append sound added

variable {event : DurableEvent}

theorem Delivering.passed_event (delivering : Delivering service moves accepted state)
    (waits : Waits state.db state.outbox.messageCursor event)
    (beyond : state.outbox.messageCursor < event.seq) :
    passed eventSeq (event.seq : Int) state.db.eventLog.entries =
      passedEvents state ++ [(event.seq, event.event)] := by
  rcases waits with ⟨place, rest, notAfter, next⟩
  have atPlace := delivering.place.eq_of_before (Int.natCast_nonneg place) next
    (eventLog_ascending _) notAfter beyond
  rw [passedEvents, atPlace]
  exact passed_next (eventLog_ascending _) next

/-- The transaction passes the event that came next, and stores a row for it if it
is public. -/
theorem Delivering.pass (delivering : Delivering service moves accepted state)
    (waits : Waits state.db state.outbox.messageCursor event)
    (beyond : state.outbox.messageCursor < event.seq) {messages : Table OutboxRow.Clash}
    {added : List OutboxRow}
    (rows : messages.rows = state.outbox.messages.rows ++ added)
    (sources : added.map OutboxRow.sourceEventSeq =
      ([(event.seq, event.event)].filter service.isPublic).map fun entry =>
        some (eventSeq entry))
    (signed : ∀ row ∈ added, SignedFor service state.db row)
    (new : ∀ row ∈ added, row.isWaiting = true) :
    Delivering service (moves ++ [(state.outbox.messageCursor, (event.seq : Int))]) accepted
      { state with outbox := ⟨messages, event.seq⟩ } := by
  have nowPassed : passedEvents { state with outbox := ⟨messages, event.seq⟩ } =
      passedEvents state ++ [(event.seq, event.event)] := delivering.passed_event waits beyond
  refine ⟨?_, ?_, ?_, ?_, fun worker => (delivering.workers worker).advance
    (Int.le_of_lt beyond), ?_⟩
  · rw [nowPassed, List.map_append, List.map_singleton, hops_concat, ← delivering.last,
      ← delivering.moved]
    rfl
  · rw [nowPassed, List.map_append, List.map_singleton, List.getLastD_concat]
    rfl
  · rw [nowPassed, List.filter_append, List.map_append, ← sources, ← delivering.queued,
      ← List.map_append]
    exact congrArg (List.map OutboxRow.sourceEventSeq) rows
  · intro row member
    change row ∈ messages.rows at member
    rw [rows] at member
    cases List.mem_append.mp member with
    | inl old => exact delivering.signed row old
    | inr isNew => exact signed row isNew
  · rcases delivering.queue with ⟨done, waiting, queue⟩
    refine ⟨done, waiting ++ added, ?_, queue.done_published, ?_, ?_⟩
    · change messages.rows = _
      rw [rows, queue.rows_eq, List.append_assoc]
    · intro row member
      cases List.mem_append.mp member with
      | inl old => exact queue.waiting_waits row old
      | inr isNew => exact new row isNew
    · exact queue.publisher_sound.append added

theorem Delivering.passEvent (delivering : Delivering service moves accepted state)
    (worker : Nat) (now : Int) :
    Delivering service (moves ++ cursorMove state { state with
        outbox := passEvent (state.workers worker) now state.outbox }) accepted
      { state with outbox := passEvent (state.workers worker) now state.outbox } := by
  have unchanged : Delivering service (moves ++ cursorMove state state) accepted state := by
    rw [cursorMove, if_pos rfl, List.append_nil]
    exact delivering
  have sound := delivering.workers worker
  unfold LightningGoats.passEvent
  cases phase : state.workers worker with
  | idle => exact unchanged
  | atCursor place => exact unchanged
  | signing event content => exact unchanged
  | skipping event =>
      rw [phase] at sound
      dsimp only
      cases advanced : advanceMessageCursor event.seq state.outbox with
      | error error => exact unchanged
      | ok outbox =>
          cases advanceMessageCursor_cases advanced with
          | inl same =>
              rw [same.2]
              exact unchanged
          | inr ahead =>
              have notPublic : service.isPublic (event.seq, event.event) = false := by
                rw [MessageService.isPublic, sound.2]
                rfl
              have passes : Delivering service
                  (moves ++ [(state.outbox.messageCursor, (event.seq : Int))]) accepted
                  { state with outbox := ⟨state.outbox.messages, event.seq⟩ } := by
                apply delivering.pass sound.1 ahead.1 (List.append_nil _).symm
                · rw [List.filter_cons_of_neg (by simp [notPublic])]
                  rfl
                · exact fun row member => absurd member List.not_mem_nil
                · exact fun row member => absurd member List.not_mem_nil
              rw [ahead.2, cursorMove, if_neg (Int.ne_of_gt ahead.1)]
              exact passes
  | enqueueing event signed =>
      rw [phase] at sound
      dsimp only
      cases enqueued : enqueueSignedMessage event.seq signed.id (NostrJson.encode signed) now
        state.outbox with
      | error error => exact unchanged
      | ok outbox =>
          rcases enqueueSignedMessage_ok enqueued with ⟨beyond, fresh, isOutbox⟩
          have isPublic : service.isPublic (event.seq, event.event) = true := by
            rw [MessageService.isPublic, sound.2.1]
            rfl
          have passes : Delivering service
              (moves ++ [(state.outbox.messageCursor, (event.seq : Int))]) accepted
              { state with outbox := outbox } := by
            rw [isOutbox]
            apply delivering.pass sound.1 beyond (Table.rows_insert _ _ _)
            · rw [List.filter_cons_of_pos isPublic]
              rfl
            · intro row member
              rw [List.mem_singleton.mp member]
              refine ⟨(event.seq, event.event), ?_, signed, rfl, rfl, rfl, sound.2⟩
              rcases sound.1 with ⟨place, rest, _, next⟩
              have isAhead : (event.seq, event.event) ∈
                  ahead eventSeq place state.db.eventLog.entries := by
                rw [next]
                exact List.mem_cons_self
              exact (mem_ahead.mp isAhead).1
            · intro row member
              rw [List.mem_singleton.mp member]
              rfl
          have moved : outbox.messageCursor = event.seq := by
            rw [isOutbox]
          rw [cursorMove, if_neg (by rw [moved]; exact Int.ne_of_gt beyond), moved]
          exact passes

end Passing

/-! ## The publisher -/

section Publisher

variable {rows done waiting : List OutboxRow} {publisher : OutboxPublisher}

omit [NostrJson] in
theorem isWaiting_of_published {row : OutboxRow} (published : row.status = .published) :
    row.isWaiting = false := by
  rw [OutboxRow.isWaiting, published]
  rfl

theorem Queue.filter_waiting (queue : Queue accepted rows publisher done waiting) :
    rows.filter OutboxRow.isWaiting = waiting := by
  have none : done.filter OutboxRow.isWaiting = [] := by
    apply List.filter_eq_nil_iff.mpr
    intro row member
    simp [isWaiting_of_published (queue.done_published row member).1]
  rw [queue.rows_eq, List.filter_append, none, List.nil_append]
  exact List.filter_eq_self.mpr queue.waiting_waits

theorem Delivering.rows_ordered (delivering : Delivering service moves accepted state) :
    state.outbox.messages.rows.Pairwise fun earlier later =>
      OutboxRow.precedes later earlier = false := by
  have sources : (state.outbox.messages.rows.map OutboxRow.sourceEventSeq).Pairwise
      fun earlier later => ∃ first second : Int,
        earlier = some first ∧ later = some second ∧ first < second := by
    rw [delivering.queued]
    apply List.pairwise_map.mpr
    apply ((eventLog_ascending state.db).filter _ |>.filter _).imp
    intro earlier later ordered
    exact ⟨_, _, rfl, rfl, ordered⟩
  apply (List.pairwise_map.mp sources).imp
  intro earlier later ordered
  rcases ordered with ⟨first, second, isFirst, isSecond, less⟩
  rw [OutboxRow.precedes, isFirst, isSecond]
  have notLess : ¬ second < first := by omega
  have notSame : second ≠ first := by omega
  simp [notLess, notSame]

theorem Delivering.nextOutboxEntry_first (delivering : Delivering service moves accepted state)
    (queue : Queue accepted state.outbox.messages.rows publisher done waiting)
    {entry : OutboxEntry} (next : nextOutboxEntry state.outbox = .ok (some entry)) :
    IsFirst entry waiting := by
  have ordered := delivering.rows_ordered.filter OutboxRow.isWaiting
  unfold nextOutboxEntry at next
  rw [queue.filter_waiting] at next ordered
  cases waiting with
  | nil => cases next
  | cons row rest =>
      have first : ∀ later ∈ rest, OutboxRow.precedes later row = false := by
        cases ordered with
        | cons first _ => exact first
      rw [earliest_head first] at next
      simp only [OutboxRow.entry, bind_eq_ok, require_eq_ok, pure_eq_ok] at next
      rcases next with ⟨read, ⟨source, isSource, seq, isSeq, rfl⟩, same⟩
      cases same
      exact ⟨row, rest, rfl, rfl, rfl⟩

theorem fetchEntry_sound (delivering : Delivering service moves accepted state)
    (queue : Queue accepted state.outbox.messages.rows publisher done waiting) :
    PublisherSound accepted waiting (fetchEntry state.outbox) := by
  unfold fetchEntry
  split
  · rename_i entry next
    have isFirst := delivering.nextOutboxEntry_first queue next
    split
    · rename_i event decoded
      exact ⟨isFirst, decoded⟩
    · exact isFirst
  · trivial

theorem Accepted.append {signedEventJson : String} (isAccepted : Accepted accepted signedEventJson)
    (more : List SignedNostrEvent) : Accepted (accepted ++ more) signedEventJson := by
  rcases isAccepted with ⟨event, member, decoded⟩
  exact ⟨event, List.mem_append_left _ member, decoded⟩

theorem Queue.accept (queue : Queue accepted rows publisher done waiting)
    (more : List SignedNostrEvent) {next : OutboxPublisher}
    (sound : PublisherSound (accepted ++ more) waiting next) :
    Queue (accepted ++ more) rows next done waiting where
  rows_eq := queue.rows_eq
  done_published row member :=
    ⟨(queue.done_published row member).1, (queue.done_published row member).2.append more⟩
  waiting_waits := queue.waiting_waits
  publisher_sound := sound

theorem Delivering.setPublisher (delivering : Delivering service moves accepted state)
    (more : List SignedNostrEvent) {next : OutboxPublisher}
    (sound : ∀ done waiting,
      Queue accepted state.outbox.messages.rows state.publisher done waiting →
        PublisherSound (accepted ++ more) waiting next) :
    Delivering service moves (accepted ++ more) { state with publisher := next } := by
  rcases delivering.queue with ⟨done, waiting, queue⟩
  exact { delivering with
    queue := ⟨done, waiting, queue.accept more (sound done waiting queue)⟩ }

omit [NostrJson] in
theorem SignedFor.mark [NostrJson] {db : Db} {row : OutboxRow} (isSigned : SignedFor service db row)
    (eventId : String) (status : OutboxStatus) (lastError : Option String) :
    SignedFor service db (row.mark eventId status lastError) := by
  rcases isSigned with ⟨entry, member, signed, source, sameId, sameJson, facts⟩
  refine ⟨entry, member, signed, ?_, ?_, ?_, facts⟩
  · rw [OutboxRow.mark_sourceEventSeq, source]
  · rw [OutboxRow.mark_eventId, sameId]
  · rw [OutboxRow.mark_signedEventJson, sameJson]

omit [NostrJson] in
theorem map_mark_of_unaffected {eventId : String} {status : OutboxStatus}
    {lastError : Option String}
    (unaffected : ∀ row ∈ rows, row.isPublishable eventId = false) :
    rows.map (OutboxRow.mark eventId status lastError) = rows := by
  have same : rows.map (OutboxRow.mark eventId status lastError) = rows.map id := by
    apply List.map_congr_left
    intro row member
    rw [OutboxRow.mark, unaffected row member]
    rfl
  rw [same, List.map_id]

theorem Queue.mark_rows (queue : Queue accepted rows publisher done waiting)
    (distinct : rows.Pairwise fun left right => left.eventId ≠ right.eventId)
    {row : OutboxRow} {rest : List OutboxRow} (isFirst : waiting = row :: rest)
    (status : OutboxStatus) (lastError : Option String) :
    rows.map (OutboxRow.mark row.eventId status lastError) =
      done ++ { row with
        status := status
        attempts := row.attempts + 1
        lastError := lastError } :: rest := by
  have doneKept : done.map (OutboxRow.mark row.eventId status lastError) = done := by
    apply map_mark_of_unaffected
    intro other member
    rw [OutboxRow.isPublishable,
      isWaiting_of_published (queue.done_published other member).1, Bool.and_false]
  have restKept : rest.map (OutboxRow.mark row.eventId status lastError) = rest := by
    apply map_mark_of_unaffected
    intro other member
    rw [queue.rows_eq, isFirst] at distinct
    have apart : row.eventId ≠ other.eventId := by
      cases (List.pairwise_append.mp distinct).2.1 with
      | cons first _ => exact first other member
    rw [OutboxRow.isPublishable, decide_eq_false (Ne.symm apart), Bool.false_and]
  have selected : row.isPublishable row.eventId = true := by
    have waits := queue.waiting_waits row (by rw [isFirst]; exact List.mem_cons_self)
    rw [OutboxRow.isPublishable, waits, decide_eq_true rfl, Bool.and_true]
  rw [queue.rows_eq, isFirst, List.map_append, List.map_cons, doneKept, restKept,
    OutboxRow.mark, if_pos selected]

omit [NostrJson] in
theorem eventIds_distinct (messages : Table OutboxRow.Clash) :
    messages.rows.Pairwise fun left right => left.eventId ≠ right.eventId := by
  apply List.pairwise_map.mpr
  apply messages.distinct.imp
  intro left right apart same
  exact apart (.inl (sameKey_iff.mpr ⟨_, rfl, congrArg some same.symm⟩))

theorem Delivering.mark (delivering : Delivering service moves accepted state)
    {entry : OutboxEntry} {status : OutboxStatus} {lastError : Option String} {outbox : Outbox}
    (marked : markOutbox entry.eventId status lastError state.outbox = .ok outbox)
    (isFirst : ∀ done waiting,
      Queue accepted state.outbox.messages.rows state.publisher done waiting →
        IsFirst entry waiting)
    (outcome : status = .published ∧ Accepted accepted entry.signedEventJson ∨
      status = .failed) :
    Delivering service moves accepted { state with outbox := outbox, publisher := .idle } := by
  rcases markOutbox_ok marked with ⟨sameCursor, rows⟩
  have samePassed : passedEvents { state with outbox := outbox, publisher := .idle } =
      passedEvents state := by
    rw [passedEvents, passedEvents, sameCursor]
  refine ⟨?_, ?_, ?_, ?_, ?_, ?_⟩
  · rw [samePassed]
    exact delivering.moved
  · rw [samePassed, ← delivering.last]
    exact sameCursor
  · rw [samePassed, ← delivering.queued]
    change outbox.messages.rows.map _ = _
    rw [rows, List.map_map]
    apply List.map_congr_left
    intro row _
    exact OutboxRow.mark_sourceEventSeq _ _ _ row
  · intro row member
    change row ∈ outbox.messages.rows at member
    rw [rows] at member
    rcases List.mem_map.mp member with ⟨old, isOld, rfl⟩
    exact (delivering.signed old isOld).mark _ _ _
  · intro worker
    change WorkerSound service state.db outbox.messageCursor (state.workers worker)
    rw [sameCursor]
    exact delivering.workers worker
  · rcases delivering.queue with ⟨done, waiting, queue⟩
    rcases isFirst done waiting queue with ⟨row, rest, isWaiting, sameId, sameJson⟩
    have moved : outbox.messages.rows = done ++ { row with
        status := status
        attempts := row.attempts + 1
        lastError := lastError } :: rest := by
      rw [rows, ← sameId]
      exact queue.mark_rows (eventIds_distinct _) isWaiting status lastError
    have others : ∀ other ∈ rest, other.isWaiting = true := fun other member =>
      queue.waiting_waits other (by rw [isWaiting]; exact List.mem_cons_of_mem _ member)
    cases outcome with
    | inl published =>
        refine ⟨done ++ [{ row with
          status := status
          attempts := row.attempts + 1
          lastError := lastError }], rest, ?_, ?_, others, trivial⟩
        · rw [List.append_assoc]
          exact moved
        · intro other member
          cases List.mem_append.mp member with
          | inl old => exact queue.done_published other old
          | inr isNew =>
              rw [List.mem_singleton.mp isNew]
              refine ⟨published.1, ?_⟩
              change Accepted accepted row.signedEventJson
              rw [sameJson]
              exact published.2
    | inr failed =>
        refine ⟨done, _, moved, queue.done_published, ?_, trivial⟩
        intro other member
        cases List.mem_cons.mp member with
        | inl isRow =>
            rw [isRow, failed]
            rfl
        | inr isOther => exact others other isOther

omit [NostrJson] in
theorem markEntry_cursor (publisher : OutboxPublisher) (outbox : Outbox) :
    (markEntry publisher outbox).messageCursor = outbox.messageCursor := by
  unfold LightningGoats.markEntry
  cases publisher with
  | idle => rfl
  | publishing entry event => rfl
  | published entry =>
      dsimp only
      cases marked : markOutboxPublished entry.eventId outbox with
      | error error => rfl
      | ok committed => exact (markOutbox_ok marked).1
  | failing entry error =>
      dsimp only
      cases marked : markOutboxFailed entry.eventId error outbox with
      | error error => rfl
      | ok committed => exact (markOutbox_ok marked).1

theorem Delivering.markEntry (delivering : Delivering service moves accepted state)
    (notPublishing : ∀ entry event, state.publisher ≠ .publishing entry event) :
    Delivering service moves accepted { state with
      outbox := markEntry state.publisher state.outbox
      publisher := .idle } := by
  have stopped : Delivering service moves accepted { state with publisher := .idle } := by
    have idle : Delivering service moves (accepted ++ []) { state with publisher := .idle } :=
      delivering.setPublisher [] fun _ _ _ => trivial
    rw [List.append_nil] at idle
    exact idle
  unfold LightningGoats.markEntry
  cases phase : state.publisher with
  | idle => exact stopped
  | publishing entry event => exact absurd phase (notPublishing entry event)
  | published entry =>
      dsimp only
      cases marked : markOutboxPublished entry.eventId state.outbox with
      | error error => exact stopped
      | ok outbox =>
          have sound : ∀ done waiting,
              Queue accepted state.outbox.messages.rows state.publisher done waiting →
                IsFirst entry waiting ∧ Accepted accepted entry.signedEventJson := by
            intro done waiting queue
            have sound := queue.publisher_sound
            rw [phase] at sound
            exact sound
          rcases delivering.queue with ⟨done, waiting, queue⟩
          exact delivering.mark marked (fun done waiting queue => (sound done waiting queue).1)
            (.inl ⟨rfl, (sound done waiting queue).2⟩)
  | failing entry error =>
      dsimp only
      cases marked : markOutboxFailed entry.eventId error state.outbox with
      | error error => exact stopped
      | ok outbox =>
          apply delivering.mark marked _ (.inr rfl)
          intro done waiting queue
          have sound := queue.publisher_sound
          rw [phase] at sound
          exact sound

end Publisher

/-! ## Runs -/

section Runs

variable [SerdeJson]

omit [SerdeJson] in
/-- A step that leaves the cursor and publishes nothing adds nothing to the history. -/
theorem Delivering.still {next : MessageState} (delivering : Delivering service moves accepted next)
    (same : next.outbox.messageCursor = state.outbox.messageCursor) :
    Delivering service (moves ++ cursorMove state next) (accepted ++ []) next := by
  rw [cursorMove, if_pos same, List.append_nil, List.append_nil]
  exact delivering

omit [NostrJson] in
theorem ledger_extends (call : LedgerCall) (now : Int) (db : Db) :
    db.eventLog.Extends (execute call now db).2.eventLog := by
  have step : LedgerStep db ⟨call, now, (execute call now db).1⟩ (execute call now db).2 := rfl
  exact (ledgerStep_effect step).announces.eventsKept

/-- One step keeps the invariant, with what it adds to the history. -/
theorem Delivering.step (delivering : Delivering service moves accepted state)
    (label : MessageLabel) :
    Delivering service (moves ++ cursorMove state (service.step label state))
      (accepted ++ service.acceptance label state) (service.step label state) := by
  cases label with
  | ledger call now =>
      exact (delivering.grow (ledger_extends call now state.db)).still rfl
  | appends eventType payload =>
      exact (delivering.grow (.insert _ _ (noClash_fresh _ _))).still rfl
  | readsCursor worker =>
      cases phase : state.workers worker with
      | idle =>
          simp only [MessageService.step, phase]
          exact (delivering.setWorker (readCursor_sound _ _)).still rfl
      | _ =>
          simp only [MessageService.step, phase]
          exact delivering.still rfl
  | readsEvent worker =>
      have sound := delivering.workers worker
      cases phase : state.workers worker with
      | atCursor place =>
          rw [phase] at sound
          simp only [MessageService.step, phase]
          exact (delivering.setWorker (readEvent_sound sound)).still rfl
      | _ =>
          simp only [MessageService.step, phase]
          exact delivering.still rfl
  | signs worker reply =>
      have sound := delivering.workers worker
      cases phase : state.workers worker with
      | signing event content =>
          rw [phase] at sound
          simp only [MessageService.step, phase]
          exact (delivering.setWorker (sign_sound reply sound)).still rfl
      | _ =>
          simp only [MessageService.step, phase]
          exact delivering.still rfl
  | passes worker now =>
      have nothing : service.acceptance (.passes worker now) state = [] := rfl
      rw [nothing, List.append_nil]
      exact (delivering.passEvent worker now).setWorker trivial
  | abandons worker =>
      have stopped : Delivering service moves accepted (state.setWorker worker .idle) :=
        delivering.setWorker trivial
      exact stopped.still rfl
  | fetches =>
      cases phase : state.publisher with
      | idle =>
          have fetched : Delivering service moves (accepted ++ []) { state with
              publisher := fetchEntry state.outbox } :=
            delivering.setPublisher [] fun done waiting queue => by
              rw [List.append_nil]
              exact fetchEntry_sound delivering queue
          rw [List.append_nil] at fetched
          simp only [MessageService.step, phase]
          exact fetched.still rfl
      | _ =>
          simp only [MessageService.step, phase]
          exact delivering.still rfl
  | publishes reply =>
      cases phase : state.publisher with
      | publishing entry event =>
          have published : Delivering service moves
              (accepted ++ service.acceptance (.publishes reply) state) { state with
                publisher := publish service.projectPubkey entry event reply } := by
            apply delivering.setPublisher
            intro done waiting queue
            have sound := queue.publisher_sound
            rw [phase] at sound
            simp only [MessageService.acceptance, phase, publish]
            cases publishSigned service.projectPubkey event reply with
            | error error => exact sound.1
            | ok _ => exact ⟨sound.1, event, by simp, sound.2⟩
          simp only [MessageService.step, phase]
          rw [cursorMove, if_pos rfl, List.append_nil]
          exact published
      | _ =>
          have nothing : service.acceptance (.publishes reply) state = [] := by
            simp only [MessageService.acceptance, phase]
          rw [nothing]
          simp only [MessageService.step, phase]
          exact delivering.still rfl
  | marks =>
      let marked : MessageState := { state with
        outbox := LightningGoats.markEntry state.publisher state.outbox
        publisher := .idle }
      have marks (notPublishing : ∀ entry event, state.publisher ≠ .publishing entry event) :
          Delivering service (moves ++ cursorMove state marked) (accepted ++ []) marked :=
        (delivering.markEntry notPublishing).still (markEntry_cursor _ _)
      cases phase : state.publisher with
      | publishing entry event =>
          simp only [MessageService.step, phase]
          exact delivering.still rfl
      | _ =>
          simp only [marked, phase] at marks
          simp only [MessageService.step, phase]
          exact marks (by simp)
  | stops =>
      have stopped : Delivering service moves (accepted ++ []) { state with publisher := .idle } :=
        delivering.setPublisher [] fun _ _ _ => trivial
      rw [List.append_nil] at stopped
      exact stopped.still rfl

/-- A run keeps the invariant, with all that it adds to the history. -/
theorem Delivering.run (delivering : Delivering service moves accepted state)
    (labels : List MessageLabel) :
    Delivering service (moves ++ service.cursorMoves labels state)
      (accepted ++ service.acceptances labels state) (service.run labels state) := by
  induction labels generalizing moves accepted state with
  | nil =>
      rw [MessageService.cursorMoves, MessageService.acceptances, List.append_nil,
        List.append_nil]
      exact delivering
  | cons label labels induction =>
      have rest := induction (delivering.step label)
      rw [List.append_assoc, List.append_assoc] at rest
      exact rest

end Runs

end Invariant

/-! ## What is kept -/

/-- The cursor does not go back, and the rows stay what they are about. -/
structure KeepsMessages (before after : Outbox) : Prop where
  cursor : before.messageCursor ≤ after.messageCursor
  rows : ∀ row ∈ before.messages.rows, ∃ later ∈ after.messages.rows,
    later.eventId = row.eventId ∧ later.signedEventJson = row.signedEventJson ∧
      later.sourceEventSeq = row.sourceEventSeq

namespace KeepsMessages

variable {first second third before after : Outbox}

theorem refl (outbox : Outbox) : KeepsMessages outbox outbox :=
  ⟨Int.le_refl _, fun row member => ⟨row, member, rfl, rfl, rfl⟩⟩

theorem trans (left : KeepsMessages first second) (right : KeepsMessages second third) :
    KeepsMessages first third := by
  refine ⟨Int.le_trans left.cursor right.cursor, fun row member => ?_⟩
  rcases left.rows row member with ⟨later, isLater, sameId, sameJson, sameSource⟩
  rcases right.rows later isLater with ⟨last, isLast, lastId, lastJson, lastSource⟩
  exact ⟨last, isLast, lastId.trans sameId, lastJson.trans sameJson,
    lastSource.trans sameSource⟩

theorem advance {eventSeq : Nat} (advanced : advanceMessageCursor eventSeq before = .ok after) :
    KeepsMessages before after := by
  cases advanceMessageCursor_cases advanced with
  | inl same =>
      rw [same.2]
      exact refl before
  | inr ahead =>
      rw [ahead.2]
      exact ⟨Int.le_of_lt ahead.1, (refl before).rows⟩

theorem enqueue {sourceEventSeq : Nat} {eventId signedEventJson : String} {now : Int}
    (enqueued : enqueueSignedMessage sourceEventSeq eventId signedEventJson now before =
      .ok after) : KeepsMessages before after := by
  rcases enqueueSignedMessage_ok enqueued with ⟨ahead, fresh, isAfter⟩
  rw [isAfter]
  exact ⟨Int.le_of_lt ahead, fun row member =>
    ⟨row, Table.mem_rows_insert_old fresh member, rfl, rfl, rfl⟩⟩

theorem mark {eventId : String} {status : OutboxStatus} {lastError : Option String}
    (marked : markOutbox eventId status lastError before = .ok after) :
    KeepsMessages before after := by
  rcases markOutbox_ok marked with ⟨sameCursor, rows⟩
  refine ⟨Int.le_of_eq sameCursor.symm, fun row member =>
    ⟨row.mark eventId status lastError, ?_, by simp, by simp, by simp⟩⟩
  rw [rows]
  exact List.mem_map_of_mem member

theorem passEvent [NostrJson] (worker : MessageWorker) (now : Int) (outbox : Outbox) :
    KeepsMessages outbox (passEvent worker now outbox) := by
  unfold LightningGoats.passEvent
  cases worker with
  | skipping event =>
      dsimp only
      cases advanced : advanceMessageCursor event.seq outbox with
      | error error => exact refl outbox
      | ok committed => exact advance advanced
  | enqueueing event signed =>
      dsimp only
      cases enqueued : enqueueSignedMessage event.seq signed.id (NostrJson.encode signed) now
        outbox with
      | error error => exact refl outbox
      | ok committed => exact enqueue enqueued
  | _ => exact refl outbox

theorem markEntry (publisher : OutboxPublisher) (outbox : Outbox) :
    KeepsMessages outbox (markEntry publisher outbox) := by
  unfold LightningGoats.markEntry
  cases publisher with
  | published entry =>
      dsimp only
      cases marked : markOutboxPublished entry.eventId outbox with
      | error error => exact refl outbox
      | ok committed => exact mark marked
  | failing entry error =>
      dsimp only
      cases marked : markOutboxFailed entry.eventId error outbox with
      | error error => exact refl outbox
      | ok committed => exact mark marked
  | _ => exact refl outbox

theorem step [SerdeJson] [NostrJson] (service : MessageService) (label : MessageLabel)
    (state : MessageState) :
    KeepsMessages state.outbox (service.step label state).outbox := by
  cases label with
  | passes worker now => exact passEvent _ now state.outbox
  | marks =>
      cases phase : state.publisher with
      | publishing entry event =>
          simp only [MessageService.step, phase]
          exact refl _
      | _ =>
          simp only [MessageService.step, phase]
          exact markEntry _ state.outbox
  | ledger call now => exact refl _
  | appends eventType payload => exact refl _
  | abandons worker => exact refl _
  | stops => exact refl _
  | readsCursor worker =>
      simp only [MessageService.step]
      split
      · exact refl _
      · exact refl _
  | readsEvent worker =>
      simp only [MessageService.step]
      split
      · exact refl _
      · exact refl _
  | signs worker reply =>
      simp only [MessageService.step]
      split
      · exact refl _
      · exact refl _
  | fetches =>
      simp only [MessageService.step]
      split
      · exact refl _
      · exact refl _
  | publishes reply =>
      simp only [MessageService.step]
      split
      · exact refl _
      · exact refl _

theorem run [SerdeJson] [NostrJson] (service : MessageService) (labels : List MessageLabel)
    (state : MessageState) : KeepsMessages state.outbox (service.run labels state).outbox := by
  induction labels generalizing state with
  | nil => exact refl _
  | cons label labels induction => exact (step service label state).trans (induction _)

end KeepsMessages

/-- The cursor visits the events one after the other and never goes back. The rows
of the outbox belong to the events passed that are public, in their order. No row is
ever about something else, and those that were published come first. -/
theorem messages_passed_once [SerdeJson] [NostrJson] (service : MessageService)
    (labels : List MessageLabel) :
    let state := service.run labels .start
    let rows := state.outbox.messages.rows
    service.cursorMoves labels .start = hops 0 ((passedEvents state).map eventSeq) ∧
      rows.map OutboxRow.sourceEventSeq = ((passedEvents state).filter service.isPublic).map
        (fun entry => some (eventSeq entry)) ∧
      (∀ more, KeepsMessages state.outbox (service.run more state).outbox) ∧
      ∃ done waiting, rows = done ++ waiting ∧
        (∀ row ∈ done, row.status = .published ∧
          Accepted (service.acceptances labels .start) row.signedEventJson) ∧
        ∀ row ∈ waiting, row.status ≠ .published := by
  intro state rows
  have delivering : Delivering service (service.cursorMoves labels .start)
      (service.acceptances labels .start) state := Delivering.ofStart.run labels
  refine ⟨delivering.moved, delivering.queued, fun more => .run service more state, ?_⟩
  rcases delivering.queue with ⟨done, waiting, queue⟩
  refine ⟨done, waiting, queue.rows_eq, queue.done_published, fun row member published => ?_⟩
  have waits := queue.waiting_waits row member
  rw [isWaiting_of_published published] at waits
  cases waits

/-- What is published for an event is what the event says in public, signed by the
project, however often signing and publishing failed before, where stored events are
read back as they were written. -/
theorem published_says_its_event [SerdeJson] [NostrJson]
    (readable : ∀ event : SignedNostrEvent, NostrJson.decode (NostrJson.encode event) = some event)
    (service : MessageService) (labels : List MessageLabel) :
    let state := service.run labels .start
    ∀ row ∈ state.outbox.messages.rows, ∃ signed ∈ NostrJson.decode row.signedEventJson,
      signed.id = row.eventId ∧ signed.pubkey = service.projectPubkey ∧ signed.kind = 1 ∧
        (∃ entry ∈ passedEvents state, row.sourceEventSeq = some (eventSeq entry) ∧
          service.publicContent ⟨entry.1, entry.2⟩ = some signed.content) ∧
        (row.status = .published → signed ∈ service.acceptances labels .start) := by
  intro state row member
  have delivering : Delivering service (service.cursorMoves labels .start)
      (service.acceptances labels .start) state := Delivering.ofStart.run labels
  rcases delivering.signed row member with
    ⟨entry, isEntry, signed, source, sameId, sameJson, content, valid⟩
  have decoded : NostrJson.decode row.signedEventJson = some signed := by
    rw [sameJson, readable]
  refine ⟨signed, decoded, sameId.symm, ?_, ?_, ⟨entry, ?_, source, content⟩, ?_⟩
  · simp only [validateSignedEvent, bind_eq_ok, ensure_eq_ok] at valid
    rcases valid with ⟨_, samePubkey, _⟩
    exact samePubkey
  · simp only [validateSignedEvent, bind_eq_ok, ensure_eq_ok] at valid
    rcases valid with ⟨_, _, _, _, _, _, _, _, _, _, isKind⟩
    exact isKind
  · have inQueue : some (eventSeq entry) ∈
        state.outbox.messages.rows.map OutboxRow.sourceEventSeq := by
      rw [← source]
      exact List.mem_map_of_mem member
    rw [delivering.queued] at inQueue
    rcases List.mem_map.mp inQueue with ⟨other, isOther, same⟩
    have reached := (mem_passed.mp (List.mem_filter.mp isOther).1).2
    rw [Option.some.inj same] at reached
    exact mem_passed.mpr ⟨isEntry, reached⟩
  · intro published
    rcases delivering.queue with ⟨done, waiting, queue⟩
    rw [queue.rows_eq] at member
    cases List.mem_append.mp member with
    | inl isDone =>
        rcases (queue.done_published row isDone).2 with ⟨event, isAccepted, isEvent⟩
        rw [decoded] at isEvent
        cases isEvent
        exact isAccepted
    | inr waits =>
        have stillWaits := queue.waiting_waits row waits
        rw [isWaiting_of_published published] at stillWaits
        cases stillWaits

end LightningGoats
