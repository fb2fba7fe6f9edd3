import LightningGoats.Ledger.Announcements
import LightningGoats.Messaging.Overlay

/-! # The overlay shows every event once

Whatever is appended while a connection waits, what it has sent and what it has queued
continue each other: an event follows the one before it, and a snapshot covers
everything up to its number.
-/

namespace LightningGoats

open Outcome Relational LogCursor

/-! ## Windows -/

section Windows

variable {after through : Nat} {db : Db}

theorem windowRows_ascend (after through : Nat) (db : Db) :
    ((windowRows after through db).map Prod.fst).Pairwise (· < ·) :=
  List.pairwise_map.mpr (db.eventLog.ascending.filter _)

theorem mem_windowRows {entry : Nat × Event} :
    entry ∈ windowRows after through db ↔
      entry ∈ db.eventLog.entries ∧ after < entry.1 ∧ entry.1 ≤ through := by
  simp [windowRows]

theorem overlayEventWindow_some [OverlayJson] {events : List DurableEvent}
    (window : overlayEventWindow after through db = some events) :
    after ≤ through ∧ Consecutive after (events.map DurableEvent.seq) ∧
      ∀ event ∈ events, event.seq ≤ through ∧ (event.seq, event.event) ∈ db.eventLog.entries := by
  unfold overlayEventWindow at window
  split at window
  · cases window
  · rename_i bounds
    dsimp only at window
    split at window
    · cases window
    · rename_i complete
      cases window
      have rows : ∀ number ∈ (windowRows after through db).map Prod.fst,
          after < number ∧ number ≤ through := by
        intro number member
        rcases List.mem_map.mp member with ⟨entry, isEntry, rfl⟩
        exact (mem_windowRows.mp isEntry).2
      have length : (windowRows after through db).length = through - after := by omega
      refine ⟨by omega, ?_, fun event member => ?_⟩
      · rw [List.map_map]
        apply consecutive_of_length (windowRows_ascend after through db)
        · exact fun number member => (rows number member).1
        · intro number member
          have bounded := (rows number member).2
          rw [List.length_map, length]
          omega
      · rcases List.mem_map.mp member with ⟨entry, isEntry, rfl⟩
        have inWindow := mem_windowRows.mp isEntry
        exact ⟨inWindow.2.2, inWindow.1⟩

theorem le_latestEventSeq {entry : Nat × Event} (member : entry ∈ db.eventLog.entries) :
    entry.1 ≤ latestEventSeq db :=
  (le_foldl_max _ 0).2 entry.1 (List.mem_map_of_mem member)

theorem latestEventSeq_le : latestEventSeq db ≤ db.eventLog.sequence := by
  apply foldl_max_le (Nat.zero_le _)
  intro value member
  rcases List.mem_map.mp member with ⟨entry, isEntry, rfl⟩
  exact db.eventLog.bounded entry isEntry

theorem latestEventSeq_mono {later : Db} (extended : db.eventLog.Extends later.eventLog) :
    latestEventSeq db ≤ latestEventSeq later := by
  apply foldl_max_le (Nat.zero_le _)
  intro value member
  rcases List.mem_map.mp member with ⟨entry, isEntry, rfl⟩
  exact le_latestEventSeq (extended.mem_entries isEntry)

end Windows

/-! ## What is shown -/

section Shown

variable [SerdeJson] [OverlayJson]

inductive LogGrows (before : Db) : Db → Prop
  | call {label : LedgerLabel} {after : Db} (step : LedgerStep before label after) :
      LogGrows before after
  | append (eventType : String) (payload : List (String × JsonValue)) :
      LogGrows before (appendEventInTransaction eventType payload before).1

omit [OverlayJson] in
theorem LogGrows.extends {before after : Db} (grows : LogGrows before after) :
    before.eventLog.Extends after.eventLog := by
  cases grows with
  | call step => exact (ledgerStep_effect step).announces.eventsKept
  | append eventType payload => exact .insert _ _ (noClash_fresh _ _)

omit [OverlayJson] in
theorem extends_of_growth {before after : Db}
    (grown : Relation.ReflTransGen LogGrows before after) :
    before.eventLog.Extends after.eventLog := by
  induction grown with
  | refl => exact .refl _
  | tail _ grows induction => exact induction.trans grows.extends

/-- An event shows what it is in the log, or that it is not shown. A snapshot shows a
state of the ledger that the connection has seen, with every event up to its number. -/
def Shown (service : OverlayService) (start db : Db) : Notice OverlayBody OverlayBody → Prop
  | .resume _ _ => True
  | .entry number body => ∃ event, (number, event) ∈ db.eventLog.entries ∧
      (body = skippedWeather number ∨
        ∃ now, service.durableEventMessage ⟨number, event⟩ now = .ok body)
  | .state number body => ∃ past reason,
      Relation.ReflTransGen LogGrows start past ∧ Relation.ReflTransGen LogGrows past db ∧
      service.snapshot reason past = .ok (.snapshot number body) ∧
      ∀ entry ∈ db.eventLog.entries, entry.1 ≤ number → entry ∈ past.eventLog.entries

variable {service : OverlayService} {start db : Db}

omit [SerdeJson] [OverlayJson] in
theorem OverlayService.snapshot_ok {reason : Option String} {queued : Queued}
    (taken : service.snapshot reason db = .ok queued) :
    ∃ body, queued = .snapshot (latestEventSeq db) body := by
  simp only [OverlayService.snapshot, bind_eq_ok, pure_eq_ok] at taken
  rcases taken with ⟨message, isMessage, rfl⟩
  have numbered := (overlaySnapshotMessage_credit isMessage).1
  exact ⟨_, congrArg (Queued.snapshot · _) numbered⟩

theorem Shown.grow {after : Db} (grows : LogGrows db after)
    {notice : Notice OverlayBody OverlayBody} (shown : Shown service start db notice) :
    Shown service start after notice := by
  have extended := grows.extends
  cases notice with
  | resume after through => trivial
  | entry number body =>
      rcases shown with ⟨event, member, isBody⟩
      exact ⟨event, extended.mem_entries member, isBody⟩
  | state number body =>
      rcases shown with ⟨past, reason, before, since, snapshot, covers⟩
      refine ⟨past, reason, before, since.tail grows, snapshot, fun entry member within => ?_⟩
      cases extended.later entry member with
      | inl old => exact covers entry old within
      | inr later =>
          -- The number is no later than anything the log had then.
          rcases OverlayService.snapshot_ok snapshot with ⟨_, isSnapshot⟩
          cases isSnapshot
          have bounded := Nat.le_trans latestEventSeq_le (extends_of_growth since).grows
          omega

theorem shown_snapshot {reason : Option String} {queued : Queued} (now : Int)
    (grown : Relation.ReflTransGen LogGrows start db)
    (taken : service.snapshot reason db = .ok queued) :
    Shown service start db (queued.notice now) := by
  rcases OverlayService.snapshot_ok taken with ⟨body, rfl⟩
  exact ⟨db, reason, grown, .refl, taken, fun entry member _ => member⟩

end Shown

/-! ## Queues -/

section Queues

variable [SerdeJson] [OverlayJson] {service : OverlayService} {start db : Db}

structure Waiting (service : OverlayService) (start db : Db) (queued : Queued) : Prop where
  logged : queued.seq ≤ latestEventSeq db
  shown : ∀ now, Shown service start db (queued.notice now)

theorem Waiting.grow {after : Db} (grows : LogGrows db after) {queued : Queued}
    (waiting : Waiting service start db queued) : Waiting service start after queued :=
  ⟨Nat.le_trans waiting.logged (latestEventSeq_mono grows.extends),
    fun now => (waiting.shown now).grow grows⟩

theorem waiting_snapshot {reason : Option String} {queued : Queued}
    (grown : Relation.ReflTransGen LogGrows start db)
    (taken : service.snapshot reason db = .ok queued) :
    Waiting service start db queued := by
  refine ⟨?_, fun now => shown_snapshot now grown taken⟩
  rcases OverlayService.snapshot_ok taken with ⟨body, rfl⟩
  exact Nat.le_refl _

theorem waiting_event {seq : Nat} {event : Event} {now : Int} {body : OverlayBody}
    (member : (seq, event) ∈ db.eventLog.entries)
    (isBody : service.durableEventMessage ⟨seq, event⟩ now = .ok body)
    (weatherObservedAt : Option String) :
    Waiting service start db (.event seq body weatherObservedAt) := by
  refine ⟨le_latestEventSeq member, fun sendTime => ⟨event, member, ?_⟩⟩
  by_cases stale : (weatherObservedAt.isSome &&
      !freshObservation weatherObservedAt sendTime) = true
  · exact .inl (if_pos stale)
  · exact .inr ⟨now, isBody.trans (congrArg Except.ok (if_neg stale).symm)⟩

theorem renderWindow_some {clock : Nat → Int} {events : List DurableEvent} {size : Nat}
    {queue : List Queued} (logged : ∀ event ∈ events, (event.seq, event.event) ∈ db.eventLog.entries)
    (rendered : service.renderWindow clock events size = some queue) :
    queue.map Queued.seq = events.map DurableEvent.seq ∧
      ∀ queued ∈ queue, Waiting service start db queued ∧
        ∀ now, queued.notice now = .entry queued.seq (queued.currentBody now) := by
  induction events generalizing size queue with
  | nil =>
      cases rendered
      exact ⟨rfl, fun queued member => absurd member List.not_mem_nil⟩
  | cons event events induction =>
      rw [OverlayService.renderWindow] at rendered
      cases isBody : service.durableEventMessage event (clock event.seq) with
      | error error => rw [isBody] at rendered; cases rendered
      | ok body =>
          rw [isBody] at rendered
          dsimp only at rendered
          split at rendered
          · cases rendered
          · rcases Option.bind_eq_some_iff.mp rendered with ⟨rest, isRest, isQueue⟩
            cases isQueue
            have others := induction (fun other member =>
              logged other (List.mem_cons_of_mem _ member)) isRest
            refine ⟨congrArg (event.seq :: ·) others.1, fun queued member => ?_⟩
            cases List.mem_cons.mp member with
            | inr inRest => exact others.2 queued inRest
            | inl isFirst =>
                subst isFirst
                exact ⟨waiting_event (logged event List.mem_cons_self) isBody _, fun now => rfl⟩

omit [SerdeJson] in
theorem replay_some {after : Nat} {checkpoint : Queued} {clock : Nat → Int} {resume : OverlayResume}
    {replayed : List Queued} (isReplay : service.replay resume after checkpoint clock db = some replayed) :
    ((overlayEventWindow after checkpoint.seq db).bind fun events =>
      service.renderWindow clock events 0) = some replayed := by
  unfold OverlayService.replay at isReplay
  split at isReplay
  · rcases Option.bind_eq_some_iff.mp isReplay with ⟨queue, rendered, fits⟩
    dsimp only at fits
    split at fits
    · cases fits
      exact rendered
    · cases fits
  · cases isReplay

theorem renderedWindow_follows {clock : Nat → Int} {after through : Nat} {queue : List Queued}
    (rendered : ((overlayEventWindow after through db).bind fun events =>
      service.renderWindow clock events 0) = some queue) :
    after ≤ through ∧ Follows (some after) (queue.map (Queued.notice 0)) ∧
      ∀ queued ∈ queue, queued.seq ≤ through ∧ Waiting service start db queued := by
  rcases Option.bind_eq_some_iff.mp rendered with ⟨events, window, isQueue⟩
  have inWindow := overlayEventWindow_some window
  have parts := @renderWindow_some _ _ _ start _ _ _ _ _
    (fun event member => (inWindow.2.2 event member).2) isQueue
  refine ⟨inWindow.1, ?_, fun queued member => ⟨?_, (parts.2 queued member).1⟩⟩
  · have entries : queue.map (Queued.notice 0) =
        queue.map fun queued => .entry queued.seq (queued.currentBody 0) :=
      List.map_congr_left fun queued member => (parts.2 queued member).2 0
    rw [entries]
    apply follows_entries
    rw [parts.1]
    exact inWindow.2.1
  · have isSeq : queued.seq ∈ events.map DurableEvent.seq := by
      rw [← parts.1]
      exact List.mem_map_of_mem member
    rcases List.mem_map.mp isSeq with ⟨event, isEvent, sameSeq⟩
    rw [← sameSeq]
    exact (inWindow.2.2 event isEvent).1

omit [SerdeJson] in
theorem Queued.notice_cursor (queued : Queued) (now : Int) :
    (queued.notice now).cursor = queued.seq := by
  cases queued <;> rfl

omit [SerdeJson] in
theorem follows_next {cursor : Option Nat} {next : Queued} {queue : List Queued} (now : Int)
    (follows : Follows cursor ((next :: queue).map (Queued.notice 0))) :
    Follows cursor [next.notice now] ∧ Follows (some next.seq) (queue.map (Queued.notice 0)) := by
  cases next with
  | event seq body weatherObservedAt =>
      cases cursor with
      | none => exact False.elim follows
      | some cursor => exact ⟨⟨follows.1, trivial⟩, follows.2⟩
  | snapshot seq body =>
      cases cursor with
      | none => exact ⟨trivial, follows⟩
      | some cursor => exact ⟨⟨follows.1, trivial⟩, follows.2⟩

end Queues

/-! ## The connection -/

section Connection

variable [SerdeJson] [OverlayJson] {service : OverlayService} {resume : OverlayResume} {start : Db}
  {state : OverlayConnection}

/-- The client has everything up to the number that the connection remembers. -/
structure CaughtUp (state : OverlayConnection) (lastSeq : Nat) : Prop where
  atCursor : cursorAfter none state.sent = some lastSeq
  logged : lastSeq ≤ latestEventSeq state.db

def PhaseSound (service : OverlayService) (start : Db) (state : OverlayConnection) : Prop :=
  match state.phase with
  | .connecting | .unavailable => state.sent = []
  | .opened checkpoint => state.sent = [] ∧ ∃ reason past,
      Relation.ReflTransGen LogGrows past state.db ∧
      service.snapshot reason past = .ok checkpoint ∧ Waiting service start state.db checkpoint
  | .serving lastSeq queue =>
      Follows (cursorAfter none state.sent) (queue.map (Queued.notice 0)) ∧
      (∀ queued ∈ queue, Waiting service start state.db queued) ∧
      (queue = [] → CaughtUp state lastSeq)
  | .polling lastSeq _ | .missing lastSeq => CaughtUp state lastSeq
  | .closed => True

structure Overlaid (service : OverlayService) (start : Db) (state : OverlayConnection) : Prop where
  grown : Relation.ReflTransGen LogGrows start state.db
  follows : Follows none state.sent
  shown : ∀ notice ∈ state.sent, Shown service start state.db notice
  phase : PhaseSound service start state

omit [OverlayJson] in
theorem CaughtUp.grow {after : Db} {lastSeq : Nat} (grows : LogGrows state.db after)
    (caughtUp : CaughtUp state lastSeq) : CaughtUp { state with db := after } lastSeq :=
  ⟨caughtUp.atCursor, Nat.le_trans caughtUp.logged (latestEventSeq_mono grows.extends)⟩

theorem Overlaid.grow {after : Db} (grows : LogGrows state.db after)
    (overlaid : Overlaid service start state) :
    Overlaid service start { state with db := after } := by
  refine ⟨overlaid.grown.tail grows, overlaid.follows,
    fun notice member => (overlaid.shown notice member).grow grows, ?_⟩
  have sound := overlaid.phase
  rcases state with ⟨db, phase, sent⟩
  cases phase with
  | connecting => exact sound
  | unavailable => exact sound
  | closed => trivial
  | polling lastSeq latest => exact CaughtUp.grow grows sound
  | missing lastSeq => exact CaughtUp.grow grows sound
  | opened checkpoint =>
      rcases sound with ⟨nothing, reason, past, since, taken, waiting⟩
      exact ⟨nothing, reason, past, since.tail grows, taken, waiting.grow grows⟩
  | serving lastSeq queue =>
      exact ⟨sound.1, fun queued member => (sound.2.1 queued member).grow grows,
        fun empty => (sound.2.2 empty).grow grows⟩

/-- A step that sends nothing and leaves the ledger alone keeps what was sent. -/
theorem Overlaid.moves {phase : OverlayPhase} (overlaid : Overlaid service start state)
    (sound : PhaseSound service start { state with phase := phase }) :
    Overlaid service start { state with phase := phase } :=
  ⟨overlaid.grown, overlaid.follows, overlaid.shown, sound⟩

omit [SerdeJson] in
theorem follows_snapshot {cursor : Option Nat} {reason : Option String} {db : Db}
    {checkpoint : Queued} (behind : ∀ reached, cursor = some reached → reached ≤ latestEventSeq db)
    (taken : service.snapshot reason db = .ok checkpoint) :
    Follows cursor ([checkpoint].map (Queued.notice 0)) := by
  rcases OverlayService.snapshot_ok taken with ⟨body, rfl⟩
  cases cursor with
  | none => trivial
  | some reached => exact ⟨behind reached rfl, trivial⟩

theorem Overlaid.serve {reason : Option String} {checkpoint : Queued} {lastSeq : Nat}
    (overlaid : Overlaid service start state)
    (behind : ∀ reached, cursorAfter none state.sent = some reached →
      reached ≤ latestEventSeq state.db)
    (taken : service.snapshot reason state.db = .ok checkpoint) :
    Overlaid service start { state with phase := .serving lastSeq [checkpoint] } := by
  apply overlaid.moves
  refine ⟨follows_snapshot behind taken, fun queued member => ?_, fun empty => by cases empty⟩
  rw [List.mem_singleton.mp member]
  exact waiting_snapshot overlaid.grown taken

theorem Overlaid.opens {db : Db} {sent : List (Notice OverlayBody OverlayBody)}
    (overlaid : Overlaid service start ⟨db, .connecting, sent⟩) :
    Overlaid service start (service.step resume .opens ⟨db, .connecting, sent⟩) := by
  dsimp only [OverlayService.step]
  split
  · cases taken : service.snapshot none db with
    | error error => exact overlaid.moves trivial
    | ok checkpoint =>
        apply overlaid.moves
        exact ⟨overlaid.phase, none, db, .refl, taken, waiting_snapshot overlaid.grown taken⟩
  · exact overlaid.moves trivial

theorem Overlaid.resumes {db : Db} {checkpoint : Queued} {clock : Nat → Int}
    {sent : List (Notice OverlayBody OverlayBody)}
    (overlaid : Overlaid service start ⟨db, .opened checkpoint, sent⟩) :
    Overlaid service start (service.step resume (.resumes clock) ⟨db, .opened checkpoint, sent⟩) := by
  rcases overlaid.phase with ⟨nothing, reason, past, since, taken, waiting⟩
  cases nothing
  dsimp only [OverlayService.step]
  cases resume.after with
  | none =>
      apply overlaid.moves
      refine ⟨follows_snapshot (fun reached isReached => by cases isReached) taken, ?_,
        fun empty => by cases empty⟩
      intro queued member
      rw [List.mem_singleton.mp member]
      exact waiting
  | some after =>
      cases isReplay : service.replay resume after checkpoint clock db with
      | none =>
          dsimp only
          rw [isReplay]
          apply overlaid.moves
          exact Eq.refl ([] : List (Notice OverlayBody OverlayBody))
      | some replayed =>
          have window := @renderedWindow_follows _ _ _ start _ _ _ _ _ (replay_some isReplay)
          have within : ∀ notice ∈ replayed.map (Queued.notice 0),
              notice.cursor ≤ checkpoint.seq := by
            intro notice member
            rcases List.mem_map.mp member with ⟨queued, inQueue, rfl⟩
            rw [Queued.notice_cursor]
            exact (window.2.2 queued inQueue).1
          rcases cursorAfter_le window.1 within with ⟨last, isLast, notBeyond⟩
          dsimp only
          rw [isReplay]
          refine ⟨overlaid.grown, trivial, fun notice member => ?_, ?_, ?_, ?_⟩
          · cases List.mem_singleton.mp member
            trivial
          · rw [List.map_append]
            apply follows_append.mpr
            refine ⟨window.2.1, follows_snapshot (fun reached isReached => ?_) taken⟩
            have same : some last = some reached := isLast.symm.trans isReached
            cases same
            rcases OverlayService.snapshot_ok taken with ⟨body, rfl⟩
            exact notBeyond
          · intro queued member
            cases List.mem_append.mp member with
            | inl inQueue => exact (window.2.2 queued inQueue).2
            | inr isCheckpoint =>
                rw [List.mem_singleton.mp isCheckpoint]
                exact waiting
          · intro empty
            exact absurd empty (List.append_ne_nil_of_right_ne_nil _ (List.cons_ne_nil _ _))

theorem Overlaid.resnapshots {db : Db} {sent : List (Notice OverlayBody OverlayBody)}
    (overlaid : Overlaid service start ⟨db, .unavailable, sent⟩) :
    Overlaid service start (service.step resume .resnapshots ⟨db, .unavailable, sent⟩) := by
  have nothing : sent = [] := overlaid.phase
  dsimp only [OverlayService.step]
  cases taken : service.snapshot (some "resume_unavailable") db with
  | error error => exact overlaid.moves trivial
  | ok checkpoint =>
      apply overlaid.serve (fun reached isReached => ?_) taken
      rw [nothing] at isReached
      cases isReached

theorem Overlaid.sends {db : Db} {lastSeq : Nat} {next : Queued} {queue : List Queued}
    {sent : List (Notice OverlayBody OverlayBody)} {now : Int}
    (overlaid : Overlaid service start ⟨db, .serving lastSeq (next :: queue), sent⟩) :
    Overlaid service start
      (service.step resume (.sends now) ⟨db, .serving lastSeq (next :: queue), sent⟩) := by
  have sound := overlaid.phase
  have parts := follows_next now sound.1
  have waiting := sound.2.1 next List.mem_cons_self
  have isCursor : cursorAfter none (sent ++ [next.notice now]) = some next.seq := by
    rw [cursorAfter_concat, Queued.notice_cursor]
  refine ⟨overlaid.grown, follows_append.mpr ⟨overlaid.follows, parts.1⟩,
    fun notice member => ?_, ?_, ?_, ?_⟩
  · cases List.mem_append.mp member with
    | inl earlier => exact overlaid.shown notice earlier
    | inr isNext =>
        rw [List.mem_singleton.mp isNext]
        exact waiting.shown now
  · exact isCursor ▸ parts.2
  · exact fun queued member => sound.2.1 queued (List.mem_cons_of_mem _ member)
  · exact fun _ => ⟨isCursor, waiting.logged⟩

theorem Overlaid.polls {db : Db} {lastSeq : Nat} {sent : List (Notice OverlayBody OverlayBody)}
    (overlaid : Overlaid service start ⟨db, .serving lastSeq [], sent⟩) :
    Overlaid service start (service.step resume .polls ⟨db, .serving lastSeq [], sent⟩) := by
  dsimp only [OverlayService.step]
  split
  · exact overlaid
  · have caughtUp := overlaid.phase.2.2 rfl
    exact overlaid.moves ⟨caughtUp.atCursor, caughtUp.logged⟩

theorem Overlaid.reads {db : Db} {lastSeq latest : Nat} {clock : Nat → Int}
    {sent : List (Notice OverlayBody OverlayBody)}
    (overlaid : Overlaid service start ⟨db, .polling lastSeq latest, sent⟩) :
    Overlaid service start
      (service.step resume (.reads clock) ⟨db, .polling lastSeq latest, sent⟩) := by
  have caughtUp : CaughtUp ⟨db, .polling lastSeq latest, sent⟩ lastSeq := overlaid.phase
  dsimp only [OverlayService.step]
  split
  · rename_i messages rendered
    have window := @renderedWindow_follows _ _ _ start _ _ _ _ _ rendered
    apply overlaid.moves
    refine ⟨?_, fun queued member => (window.2.2 queued member).2,
      fun _ => ⟨caughtUp.atCursor, caughtUp.logged⟩⟩
    rw [caughtUp.atCursor]
    exact window.2.1
  · exact overlaid.moves ⟨caughtUp.atCursor, caughtUp.logged⟩

theorem Overlaid.snapshots {db : Db} {lastSeq : Nat} {sent : List (Notice OverlayBody OverlayBody)}
    (overlaid : Overlaid service start ⟨db, .missing lastSeq, sent⟩) :
    Overlaid service start (service.step resume .snapshots ⟨db, .missing lastSeq, sent⟩) := by
  have caughtUp : CaughtUp ⟨db, .missing lastSeq, sent⟩ lastSeq := overlaid.phase
  dsimp only [OverlayService.step]
  cases taken : service.snapshot (some "event_window_unavailable") db with
  | error error => exact overlaid.moves trivial
  | ok checkpoint =>
      apply overlaid.serve (fun reached isReached => ?_) taken
      have same : some lastSeq = some reached := caughtUp.atCursor.symm.trans isReached
      cases same
      exact caughtUp.logged

theorem Overlaid.step (label : OverlayLabel) (overlaid : Overlaid service start state) :
    Overlaid service start (service.step resume label state) := by
  rcases state with ⟨db, phase, sent⟩
  cases label with
  | ledger call now =>
      have step : LedgerStep db ⟨call, now, (execute call now db).1⟩ (execute call now db).2 := rfl
      exact overlaid.grow (.call step)
  | appends eventType payload => exact overlaid.grow (.append eventType payload)
  | closes => exact overlaid.moves trivial
  | opens => cases phase with
    | connecting => exact overlaid.opens
    | _ => exact overlaid
  | resumes clock => cases phase with
    | opened checkpoint => exact overlaid.resumes
    | _ => exact overlaid
  | resnapshots => cases phase with
    | unavailable => exact overlaid.resnapshots
    | _ => exact overlaid
  | sends now => cases phase with
    | serving lastSeq queue => cases queue with
      | nil => exact overlaid
      | cons next queue => exact overlaid.sends
    | _ => exact overlaid
  | polls => cases phase with
    | serving lastSeq queue => cases queue with
      | nil => exact overlaid.polls
      | cons next queue => exact overlaid
    | _ => exact overlaid
  | reads clock => cases phase with
    | polling lastSeq latest => exact overlaid.reads
    | _ => exact overlaid
  | snapshots => cases phase with
    | missing lastSeq => exact overlaid.snapshots
    | _ => exact overlaid

theorem Overlaid.run (resume : OverlayResume) (labels : List OverlayLabel) (overlaid : Overlaid service start state) :
    Overlaid service start (service.run resume labels state) := by
  induction labels generalizing state with
  | nil => exact overlaid
  | cons label rest induction => exact induction (overlaid.step label)

end Connection

/-- Whatever is appended and whenever the connection looks: each event that is sent
comes right after what the client has, each snapshot is not before it, no event is sent
twice, and events are passed over only by a snapshot of a state that has them. -/
theorem overlay_shows_each_event_once [SerdeJson] [OverlayJson] (service : OverlayService)
    (resume : OverlayResume) (db : Db) (labels : List OverlayLabel) :
    let state := service.run resume labels (.accept db)
    Follows none state.sent ∧ (entryNumbers state.sent).Pairwise (· < ·) ∧
      ∀ notice ∈ state.sent, Shown service db state.db notice := by
  have accepted : Overlaid service db (.accept db) :=
    ⟨.refl, trivial, fun notice member => absurd member List.not_mem_nil, rfl⟩
  have overlaid := accepted.run resume labels
  exact ⟨overlaid.follows, overlaid.follows.entries_once, overlaid.shown⟩

end LightningGoats
