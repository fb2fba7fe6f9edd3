import LightningGoats.Feeder.OwnerResult

/-! # Certified completions

A completion is reported only for an entry of the current ledger that the
committed snapshots around its completion time bear out: one of them holds the
entry, all later ones keep it, and no earlier one contradicts it.
-/

namespace LightningGoats

open Outcome

/-! ## What a certificate says -/

section Statements

variable [OwnerText]

/-- A snapshot is a valid ledger that holds `receipt` for a request. -/
def SnapshotHolds (requestId : String) (row : OwnerHistoryRowV2)
    (receipt : Option OwnerEntryV2) : Prop :=
  ∃ now snapshot, parseLedgerV2 now row.state = .ok snapshot ∧
    snapshot.receipt requestId = receipt

/-- A snapshot from before the completion: it lacks the request, or has accepted it at the
same time. -/
def EarlierSnapshot (entry : OwnerEntryV2) (row : OwnerHistoryRowV2) : Prop :=
  SnapshotHolds entry.requestId row none ∨
    ∃ accepted, SnapshotHolds entry.requestId row (some accepted) ∧
      accepted.status = "accepted" ∧ accepted.at' = entry.at'

/-- Rows in the order of their times, at most ten seconds from the completion. -/
structure NearCompletion (completedAt : DateTime) (rows : List OwnerHistoryRowV2) : Prop where
  ordered : rows.Pairwise fun earlier later => earlier.time ≤ later.time
  after : ∀ row ∈ rows, completedAt.timestampMillis - 10000 ≤ row.time
  before : ∀ row ∈ rows, row.time ≤ completedAt.timestampMillis + 10000

/-- One row holds the entry when it has been completed, and all later rows keep it. -/
def Certified (entry : OwnerEntryV2) (completedAt : DateTime)
    (rows : List OwnerHistoryRowV2) : Prop :=
  ∃ before row after, rows = before ++ row :: after ∧
    completedAt.timestampMillis ≤ row.time ∧
    SnapshotHolds entry.requestId row (some entry) ∧
    (∀ later ∈ after, SnapshotHolds entry.requestId later (some entry)) ∧
    ∀ earlier ∈ before, EarlierSnapshot entry earlier

structure CompleteEntry (entry : OwnerEntryV2) (completedAt : DateTime) : Prop where
  version : entry.version = "feeder-request-v2"
  identity : isOwnerId entry.requestId = true
  status : entry.status = "complete"
  reason : entry.reason = "complete"
  admitted : ∃ admitted, OwnerText.parseRfc3339 entry.at' = some admitted ∧
    946684800 ≤ admitted.timestamp ∧ ¬ completedAt.before admitted
  completed : ∃ updated, entry.updatedAt = some updated ∧
    OwnerText.parseRfc3339 updated = some completedAt

structure HistoryListing (server : OwnerServer) (completedAt : DateTime)
    (pages : List (List OwnerHistoryRowV2)) : Prop where
  fetched : ∀ page (known : page < pages.length),
    historyPage server completedAt page = .ok pages[page]
  ended : ∃ full last, pages = full ++ [last] ∧ (∀ page ∈ full, page.length = 8) ∧
    last.length < 8

end Statements

/-! ## Times -/

theorem timestampMillis_sub_ten (time : DateTime) :
    (time.addSeconds (-10)).timestampMillis = time.timestampMillis - 10000 := by
  unfold DateTime.addSeconds DateTime.timestampMillis
  split
  · simp only
    omega
  · simp only [show ¬ (0 : Int) < -10 by decide, show (-10 : Int) < 0 by decide, if_false,
      if_true]
    omega

theorem timestampMillis_add_ten_le (time : DateTime) :
    (time.addSeconds 10).timestampMillis ≤ time.timestampMillis + 10000 := by
  unfold DateTime.addSeconds DateTime.timestampMillis
  split
  · simp only
    omega
  · simp only [show (0 : Int) < 10 by decide, if_true]
    omega

/-! ## Valid ledgers -/

section Ledgers

variable [OwnerText]

theorem parseV2Time_of {now parsed : DateTime} {raw : String}
    (valid : parseV2Time now raw = .ok parsed) :
    OwnerText.parseRfc3339 raw = some parsed ∧ 946684800 ≤ parsed.timestamp := by
  simp only [parseV2Time, bind_eq_ok, require_eq_ok, ensure_eq_ok, pure_eq_ok] at valid
  rcases valid with ⟨found, parses, _, range, rfl⟩
  exact ⟨parses, range.1⟩

/-- What a ledger says of one entry: accepted, or complete at some time. -/
def ValidEntry (entry : OwnerEntryV2) : Prop :=
  entry.status = "accepted" ∨ ∃ completedAt, CompleteEntry entry completedAt

theorem checkEntry_of {now : Bool → DateTime} {seen : List String} {entry : OwnerEntryV2}
    (valid : checkEntry now seen entry = .ok ()) :
    entry.requestId ∉ seen ∧ ValidEntry entry := by
  simp only [checkEntry, bind_eq_ok, ensure_eq_ok] at valid
  rcases valid with ⟨_, identity, admitted, admittedAt, body⟩
  rcases parseV2Time_of admittedAt with ⟨parses, range⟩
  refine ⟨identity.2.2, ?_⟩
  split at body
  case h_1 status reason updated =>
    exact Or.inl status
  case h_2 completed status reason updated =>
    simp only [bind_eq_ok, ensure_eq_ok] at body
    rcases body with ⟨completedAt, completes, order⟩
    exact Or.inr ⟨completedAt, {
      version := identity.1
      identity := identity.2.1
      status := status
      reason := reason
      admitted := ⟨admitted, parses, range, order⟩
      completed := ⟨completed, updated, (parseV2Time_of completes).1⟩ }⟩
  case h_3 =>
    exact absurd body throw_ne_ok

theorem checkEntries_of {now : Nat → Bool → DateTime} {seen : List String}
    {entries : List OwnerEntryV2} (valid : checkEntries now seen entries = .ok ()) :
    (∀ entry ∈ entries, ValidEntry entry) ∧
      (entries.map OwnerEntryV2.requestId).Nodup ∧
      ∀ entry ∈ entries, entry.requestId ∉ seen := by
  induction entries generalizing seen with
  | nil => simp
  | cons entry entries induction =>
      simp only [checkEntries, bind_eq_ok] at valid
      rcases valid with ⟨_, first, rest⟩
      rcases checkEntry_of first with ⟨fresh, validEntry⟩
      rcases induction rest with ⟨others, distinct, unseen⟩
      have outside : entry.requestId ∉ entries.map OwnerEntryV2.requestId := by
        intro member
        rcases List.mem_map.mp member with ⟨other, known, same⟩
        exact unseen other known (same ▸ List.mem_cons_self)
      refine ⟨?_, List.nodup_cons.mpr ⟨outside, distinct⟩, ?_⟩
      · simpa using ⟨validEntry, others⟩
      · intro other member
        rcases List.mem_cons.mp member with rfl | later
        · exact fresh
        · exact fun known => unseen other later (List.mem_cons_of_mem _ known)

theorem parseLedgerV2_of {now : Nat → Bool → DateTime} {raw : String} {ledger : OwnerLedgerV2}
    (valid : parseLedgerV2 now raw = .ok ledger) :
    (∀ entry ∈ ledger.entries, ValidEntry entry) ∧
      (ledger.entries.map OwnerEntryV2.requestId).Nodup := by
  simp only [parseLedgerV2, bind_eq_ok, require_eq_ok, ensure_eq_ok, pure_eq_ok] at valid
  rcases valid with ⟨_, _, found, _, _, _, _, checked, rfl⟩
  exact ⟨(checkEntries_of checked).1, (checkEntries_of checked).2.1⟩

end Ledgers

theorem receipt_of {ledger : OwnerLedgerV2} {requestId : String} {receipt : OwnerEntryV2}
    (found : ledger.receipt requestId = some receipt) :
    receipt ∈ ledger.entries ∧ receipt.requestId = requestId :=
  ⟨List.mem_of_find?_eq_some found, by simpa using List.find?_some found⟩

/-! ## One row

The evidence is that of the rows read so far. A completion can only have been seen
if one of them certifies it, and none of them has to be certified before that.
-/

theorem checkReceipt_of {entry : OwnerEntryV2} {completedAt : DateTime} {rowTime : Int}
    {seenComplete now : Bool} {receipt : Option OwnerEntryV2}
    (checked : checkReceipt entry completedAt rowTime seenComplete receipt = .ok now) :
    (now = true ∧ receipt = some entry ∧ completedAt.timestampMillis ≤ rowTime) ∨
      (now = false ∧ seenComplete = false ∧
        ∀ held, receipt = some held → held.at' = entry.at' ∧ held.status ≠ "complete") := by
  cases receipt with
  | none =>
      simp only [checkReceipt, bind_eq_ok, ensure_eq_ok, pure_eq_ok] at checked
      rcases checked with ⟨_, unseen, rfl⟩
      exact Or.inr ⟨unseen, unseen, by simp⟩
  | some held =>
      simp only [checkReceipt, bind_eq_ok, ensure_eq_ok] at checked
      rcases checked with ⟨_, sameAdmission, rest⟩
      split at rest
      case isTrue complete =>
        simp only [bind_eq_ok, ensure_eq_ok, pure_eq_ok] at rest
        rcases rest with ⟨_, ⟨same, late⟩, rfl⟩
        exact Or.inl ⟨rfl, congrArg some same, late⟩
      case isFalse incomplete =>
        simp only [bind_eq_ok, ensure_eq_ok, pure_eq_ok] at rest
        rcases rest with ⟨_, unseen, rfl⟩
        refine Or.inr ⟨unseen, unseen, ?_⟩
        intro other same
        cases same
        exact ⟨sameAdmission, incomplete⟩

theorem NearCompletion.snoc {completedAt : DateTime} {rows : List OwnerHistoryRowV2}
    {row : OwnerHistoryRowV2}
    (bounded : NearCompletion completedAt rows)
    (ordered : ∀ earlier ∈ rows, earlier.time ≤ row.time)
    (after : completedAt.timestampMillis - 10000 ≤ row.time)
    (before : row.time ≤ completedAt.timestampMillis + 10000) :
    NearCompletion completedAt (rows ++ [row]) where
  ordered := List.pairwise_append.mpr ⟨bounded.ordered, List.pairwise_singleton _ _,
    by simpa using ordered⟩
  after := List.forall_mem_append.mpr ⟨bounded.after, by simpa using after⟩
  before := List.forall_mem_append.mpr ⟨bounded.before, by simpa using before⟩

section Rows

variable [OwnerText] {clock : Reading → DateTime} {entry : OwnerEntryV2}
  {completedAt : DateTime}

structure HistoryObserved (entry : OwnerEntryV2) (completedAt : DateTime) (evidence : Evidence)
    (rows : List OwnerHistoryRowV2) : Prop where
  bounded : NearCompletion completedAt rows
  last : ∀ row ∈ rows, row.time ≤ evidence.previousTime
  unseen : evidence.seenComplete = false → ∀ row ∈ rows, EarlierSnapshot entry row
  seen : evidence.seenComplete = true → Certified entry completedAt rows

theorem observed_initial : HistoryObserved entry completedAt Evidence.initial [] where
  bounded := ⟨List.Pairwise.nil, by simp, by simp⟩
  last := by simp
  unseen := by simp
  seen := by simp [Evidence.initial]

/-- A row that still holds the entry keeps a certificate, and one that is the first to hold it
makes one. -/
theorem certified_snoc {evidence : Evidence} {rows : List OwnerHistoryRowV2}
    {row : OwnerHistoryRowV2} (observed : HistoryObserved entry completedAt evidence rows)
    (holds : SnapshotHolds entry.requestId row (some entry))
    (late : completedAt.timestampMillis ≤ row.time) :
    Certified entry completedAt (rows ++ [row]) := by
  cases seen : evidence.seenComplete with
  | false => exact ⟨rows, row, [], rfl, late, holds, by simp, observed.unseen seen⟩
  | true =>
      rcases observed.seen seen with ⟨before, first, after, rfl, reached, held, kept, earlier⟩
      refine ⟨before, first, after ++ [row], by simp, reached, held, ?_, earlier⟩
      exact List.forall_mem_append.mpr ⟨kept, by simpa using holds⟩

theorem earlier_of {row : OwnerHistoryRowV2} {now : Nat → Bool → DateTime}
    {snapshot : OwnerLedgerV2} (valid : parseLedgerV2 now row.state = .ok snapshot)
    (incomplete : ∀ held, snapshot.receipt entry.requestId = some held →
      held.at' = entry.at' ∧ held.status ≠ "complete") : EarlierSnapshot entry row := by
  cases found : snapshot.receipt entry.requestId with
  | none => exact Or.inl ⟨now, snapshot, valid, found⟩
  | some held =>
      have sameAdmission := incomplete held found
      have validEntry := (parseLedgerV2_of valid).1 held (receipt_of found).1
      have accepted : held.status = "accepted" := by
        rcases validEntry with accepted | ⟨_, complete⟩
        · exact accepted
        · exact absurd complete.status sameAdmission.2
      exact Or.inr ⟨held, ⟨now, snapshot, valid, found⟩, accepted, sameAdmission.1⟩

theorem checkRow_observed {now : DateTime} {snapshotNow : Nat → Bool → DateTime}
    {evidence next : Evidence} {rows : List OwnerHistoryRowV2} {row : OwnerHistoryRowV2}
    (checked : checkRow now snapshotNow entry completedAt evidence row = .ok next)
    (observed : HistoryObserved entry completedAt evidence rows) :
    HistoryObserved entry completedAt next (rows ++ [row]) := by
  simp only [checkRow, bind_eq_ok, ensure_eq_ok, pure_eq_ok] at checked
  rcases checked with ⟨_, ⟨order, start, stop, _⟩, snapshot, valid, seen, receipt, rfl⟩
  rw [timestampMillis_sub_ten] at start
  have stops := Int.le_trans stop (timestampMillis_add_ten_le completedAt)
  have ordered : ∀ earlier ∈ rows, earlier.time ≤ row.time := fun earlier member =>
    Int.le_trans (observed.last earlier member) order
  have last : ∀ earlier ∈ rows ++ [row], earlier.time ≤ row.time :=
    List.forall_mem_append.mpr ⟨ordered, by simp⟩
  have bounded := observed.bounded.snoc ordered start stops
  rcases checkReceipt_of receipt with ⟨rfl, holds, late⟩ | ⟨rfl, unseen, incomplete⟩
  · exact {
      bounded := bounded
      last := last
      unseen := by simp
      seen := fun _ => certified_snoc observed ⟨snapshotNow, snapshot, valid, holds⟩ late }
  · exact {
      bounded := bounded
      last := last
      unseen := fun _ => List.forall_mem_append.mpr
        ⟨observed.unseen unseen, by simpa using earlier_of valid incomplete⟩
      seen := by simp }

/-! ## All rows of all pages -/

theorem checkRows_observed {page index : Nat} {evidence next : Evidence}
    {read rows : List OwnerHistoryRowV2}
    (checked : checkRows clock entry completedAt page index evidence rows = .ok next)
    (observed : HistoryObserved entry completedAt evidence read) :
    HistoryObserved entry completedAt next (read ++ rows) := by
  induction rows generalizing index evidence read with
  | nil =>
      simp only [checkRows, pure_eq_ok] at checked
      subst checked
      simpa using observed
  | cons row rows induction =>
      simp only [checkRows, bind_eq_ok] at checked
      rcases checked with ⟨middle, first, rest⟩
      simpa using induction rest (checkRow_observed first observed)

theorem historyPage_length {server : OwnerServer} {page : Nat} {rows : List OwnerHistoryRowV2}
    (fetched : historyPage server completedAt page = .ok rows) : rows.length ≤ 8 := by
  unfold historyPage at fetched
  split at fetched
  · exact absurd fetched throw_ne_ok
  · simp only [bind_eq_ok, ensure_eq_ok, require_eq_ok, pure_eq_ok] at fetched
    rcases fetched with ⟨_, _, _, _, _, _, _, matching, rfl⟩
    exact matching.2.1

/-- A scan that reports a completion has read a listing to its end and observed every row. -/
theorem scanPages_complete {server : OwnerServer} {remaining page : Nat} {evidence : Evidence}
    {read : List (List OwnerHistoryRowV2)}
    (scanned : scanPages server clock entry completedAt remaining page evidence =
      .ok .complete)
    (reached : read.length = page)
    (fetched : ∀ index (known : index < read.length),
      historyPage server completedAt index = .ok read[index])
    (full : ∀ rows ∈ read, rows.length = 8)
    (observed : HistoryObserved entry completedAt evidence read.flatten) :
    ∃ pages, HistoryListing server completedAt pages ∧ pages.length ≤ page + remaining ∧
      NearCompletion completedAt pages.flatten ∧ Certified entry completedAt pages.flatten := by
  induction remaining generalizing page evidence read with
  | zero => exact absurd scanned throw_ne_ok
  | succ remaining induction =>
      simp only [scanPages, bind_eq_ok] at scanned
      rcases scanned with ⟨rows, fetches, next, checked, rest⟩
      have observedRows := checkRows_observed checked observed
      have flattened : (read ++ [rows]).flatten = read.flatten ++ rows := by simp
      have fetchedAll : ∀ index (known : index < (read ++ [rows]).length),
          historyPage server completedAt index = .ok (read ++ [rows])[index] := by
        intro index known
        rcases Nat.lt_or_ge index read.length with earlier | last
        · rw [List.getElem_append_left earlier]
          exact fetched index earlier
        · have here : index = read.length := by
            rw [List.length_append, List.length_singleton] at known
            omega
          subst here
          simpa [reached] using fetches
      split at rest
      case isTrue short =>
        split at rest
        case isTrue seen =>
          refine ⟨read ++ [rows], ⟨fetchedAll, read, rows, rfl, full, short⟩, ?_, ?_⟩
          · rw [List.length_append, List.length_singleton]
            omega
          · rw [flattened]
            exact ⟨observedRows.bounded, observedRows.seen seen⟩
        case isFalse => cases rest
      case isFalse long =>
        have fullRows : rows.length = 8 := by
          have bounded := historyPage_length fetches
          omega
        rw [← flattened] at observedRows
        have later := induction rest (by simp [reached]) fetchedAll
          (List.forall_mem_append.mpr ⟨full, by simpa using fullRows⟩) observedRows
        rcases later with ⟨pages, listing, count, certified⟩
        exact ⟨pages, listing, by omega, certified⟩

theorem HistoryListing.length_flatten {server : OwnerServer} {pages : List (List OwnerHistoryRowV2)}
    (listing : HistoryListing server completedAt pages) :
    pages.flatten.length < 8 * pages.length := by
  rcases listing.ended with ⟨full, last, rfl, filled, short⟩
  have sum : (full.map List.length).sum = full.length * 8 := by
    rw [List.map_congr_left (g := fun _ => 8) filled, List.map_const', List.sum_replicate_nat]
  rw [List.flatten_append, List.length_append, List.length_flatten, sum]
  simp only [List.flatten_cons, List.flatten_nil, List.append_nil, List.length_append,
    List.length_singleton]
  omega

theorem parseResultV2_ne_complete (now : DateTime) (notified : String) (requestId : Uuid) :
    parseResultV2 now notified requestId ≠ .ok .complete := by
  intro complete
  unfold parseResultV2 at complete
  split at complete
  · cases complete
  · simp only [bind_eq_ok] at complete
    rcases complete with ⟨_, _, _, _, _, _, rest⟩
    split at rest
    · unfold notifiedOutcome at rest
      repeat' split at rest
      all_goals cases rest
    · cases rest

theorem feederResultV2_complete_iff (server : OwnerServer) (clock : Reading → DateTime)
    (requestId : Uuid) :
    feederResultV2 server clock requestId = .ok .complete ↔
      ∃ raw ledger entry, itemStateBounded server.ledgerState 8192 = .ok raw ∧
        parseLedgerV2 (fun place updated => clock (.ledger place updated)) raw = .ok ledger ∧
        ledger.receipt requestId.toText = some entry ∧
        entryOutcome server clock entry = .ok .complete := by
  constructor
  · intro complete
    simp only [feederResultV2, bind_eq_ok] at complete
    rcases complete with ⟨raw, stated, ledger, valid, rest⟩
    split at rest
    case h_1 entry found => exact ⟨raw, ledger, entry, stated, valid, found, rest⟩
    case h_2 missing =>
      simp only [bind_eq_ok] at rest
      rcases rest with ⟨notified, _, result⟩
      exact absurd result (parseResultV2_ne_complete _ notified requestId)
  · rintro ⟨raw, ledger, entry, stated, valid, found, complete⟩
    simp only [feederResultV2, stated, valid, found, bind, Except.bind, complete]

theorem scanPages_congr {left right : OwnerServer} (item : left.ledgerItem = right.ledgerItem)
    (history : left.history = right.history) (remaining page : Nat) (evidence : Evidence) :
    scanPages left clock entry completedAt remaining page evidence =
      scanPages right clock entry completedAt remaining page evidence := by
  induction remaining generalizing page evidence with
  | zero => rfl
  | succ remaining induction =>
      have pages : historyPage left completedAt page = historyPage right completedAt page := by
        rw [historyPage, historyPage, item, history]
      simp only [scanPages, pages, induction]

/-- Receipts come complete only with their certificate, whatever the notification says. -/
theorem owner_completion_certified (server : OwnerServer) (clock : Reading → DateTime)
    (requestId : Uuid) :
    (feederResultV2 server clock requestId = .ok .complete →
      ∃ raw ledger entry completedAt pages,
        itemStateBounded server.ledgerState 8192 = .ok raw ∧
        parseLedgerV2 (fun place updated => clock (.ledger place updated)) raw = .ok ledger ∧
        ledger.receipt requestId.toText = some entry ∧ CompleteEntry entry completedAt ∧
        HistoryListing server completedAt pages ∧ pages.length ≤ 8 ∧ pages.flatten.length < 64 ∧
        NearCompletion completedAt pages.flatten ∧ Certified entry completedAt pages.flatten) ∧
    (∀ ackState, feederResultV2 { server with ackState } clock requestId = .ok .complete ↔
      feederResultV2 server clock requestId = .ok .complete) ∧
    ∀ now notified, parseResultV2 now notified requestId ≠ .ok .complete := by
  refine ⟨?_, ?_, fun now notified => parseResultV2_ne_complete now notified requestId⟩
  · intro complete
    rcases (feederResultV2_complete_iff server clock requestId).mp complete with
      ⟨raw, ledger, entry, stated, valid, found, outcome⟩
    have validEntry := (parseLedgerV2_of valid).1 entry (receipt_of found).1
    unfold entryOutcome at outcome
    split at outcome
    · cases outcome
    case isFalse unaccepted =>
      simp only [bind_eq_ok, require_eq_ok] at outcome
      rcases outcome with ⟨updated, recorded, completedAt, parsed, scanned⟩
      have completeEntry : CompleteEntry entry completedAt := by
        rcases validEntry with accepted | ⟨other, completeEntry⟩
        · exact absurd accepted unaccepted
        · rcases completeEntry.completed with ⟨text, same, parses⟩
          rw [recorded] at same
          cases same
          rw [(parseV2Time_of parsed).1] at parses
          cases parses
          exact completeEntry
      rcases @scanPages_complete _ clock entry completedAt server 8 0 Evidence.initial []
        scanned rfl (by simp) (by simp) observed_initial with
        ⟨pages, listing, count, bounded, certified⟩
      have short := listing.length_flatten
      exact ⟨raw, ledger, entry, completedAt, pages, stated, valid, found, completeEntry,
        listing, by omega, by omega, bounded, certified⟩
  · intro ackState
    have same : ∀ entry, entryOutcome { server with ackState } clock entry =
        entryOutcome server clock entry := by
      intro entry
      have scans : ∀ completedAt remaining page evidence,
          scanPages { server with ackState } clock entry completedAt remaining page evidence =
            scanPages server clock entry completedAt remaining page evidence :=
        fun _ remaining page evidence => @scanPages_congr _ clock entry _
          { server with ackState } server rfl rfl remaining page evidence
      simp only [entryOutcome, scans]
    simp only [feederResultV2_complete_iff, same]

end Rows

/-! ## A completed request -/

/-- The ledger `done` says that the request of the UUID `1` was completed, the page `page` holds
it once, and every other text is refused. -/
@[reducible] def exampleOwnerText : OwnerText :=
  let entry : OwnerEntryV2 := ⟨"feeder-request-v2", (Uuid.mk 1).toText, "complete", "complete",
    "2026-01-01T00:00:00Z", some "2026-01-01T00:00:01Z"⟩
  { ledger := fun text =>
      if text = "done" then some ⟨"feeder-request-ledger/v2", [entry]⟩ else none
    history := fun body => (String.fromUTF8? body).bind fun text =>
      if text = "page" then some ⟨"Ledger", "1", [⟨1767225602000, "done"⟩]⟩ else none
    entry := fun text => if text = "result" then some entry else none
    parseRfc3339 := fun raw =>
      if raw = "2026-01-01T00:00:00Z" then some ⟨1767225600, 0⟩
      else if raw = "2026-01-01T00:00:01Z" then some ⟨1767225601, 0⟩
      else none }

def exampleOwnerServer : OwnerServer where
  ledgerItem := "Ledger"
  ledgerState := .answered 200 (some "done".toUTF8)
  ackState := .failed
  history _ := .answered 200 (some "page".toUTF8)

example : @feederResultV2 exampleOwnerText exampleOwnerServer (fun _ => ⟨1767225603, 0⟩) ⟨1⟩ =
    .ok .complete := by
  decide +kernel

/-- A page that cannot be read certifies nothing. -/
example : @feederResultV2 exampleOwnerText
    { exampleOwnerServer with history := fun _ => .answered 200 (some "other".toUTF8) }
    (fun _ => ⟨1767225603, 0⟩) ⟨1⟩ = .error .historyJson := by
  decide +kernel

end LightningGoats
