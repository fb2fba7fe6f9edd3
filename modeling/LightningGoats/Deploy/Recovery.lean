import LightningGoats.Deploy.Preparation
import LightningGoats.Foundation.Execution

/-! # Recovery from interrupted file transactions

Whatever interrupts a run, every destination is at its old or its new version,
and the copies are as they were recorded. Every such mixture is a state that a
run can start from, so a run that returns has brought all destinations to the
version it was asked for.
-/

namespace LightningGoats

open Interruptible Script

/-! ## The parts of a run -/

section Parts

variable [Host] {directory : Path} {records rows : List Record} {index : Nat} {record : Record}
  {property : FileSystem → Prop} {files : FileSystem} {version : FileVersion}

omit [Host] in
theorem drop_cons {rest : List Record} (suffix : records.drop index = record :: rest) :
    records[index]? = some record ∧ records.drop (index + 1) = rest := by
  constructor
  · rw [← Nat.add_zero index, ← List.getElem?_drop, suffix]
    rfl
  · rw [← List.drop_drop, suffix]
    rfl

theorem checkRecords_guarantees :
    Guarantees (· = files) (· = files) (checkRecords directory index rows) fun _ state =>
      (∀ (offset : Nat) (record : Record), rows[offset]? = some record →
        record.Intact directory files (index + offset)) ∧ state = files := by
  induction rows generalizing index with
  | nil => exact .pure fun _ same => ⟨nofun, same⟩
  | cons record rest induction =>
      refine (expect_eq_guarantees _ _ _).bind fun _ => .given fun isOld => ?_
      refine (expect_eq_guarantees _ _ _).bind fun _ => .given fun isNew => ?_
      refine (expect_guarantees _ _ _).bind fun _ => .given ?_
      rintro ⟨actual, found, consistent⟩
      refine induction.weaken (fun _ same => same) (fun _ same => same) ?_
      rintro _ state ⟨others, same⟩
      refine ⟨fun offset other isOther => ?_, same⟩
      cases offset with
      | zero =>
          cases isOther
          refine ⟨fun version => ?_, ?_⟩
          · cases version with
            | old => exact isOld
            | new => exact isNew
          · rw [Record.Consistent, found]
            exact (of_decide_eq_true consistent).imp (congrArg _) (congrArg _)
      | succ offset =>
          rw [← Nat.succ_add_eq_add_succ]
          exact others offset other isOther

theorem readBack_guarantees :
    Guarantees (· = files) (· = files) (readBack version rows) fun _ state =>
      (∀ record ∈ rows, files.fingerprint record.destination = .ok (record.at version)) ∧
        state = files := by
  induction rows with
  | nil => exact .pure fun _ same => ⟨nofun, same⟩
  | cons record rest induction =>
      refine (expect_eq_guarantees _ _ _).bind fun _ => .given fun found => ?_
      refine induction.weaken (fun _ same => same) (fun _ same => same) ?_
      rintro _ state ⟨others, same⟩
      exact ⟨fun other member => (List.mem_cons.mp member).elim (· ▸ found) (others other),
        same⟩

theorem loadManifest_guarantees {manifest : Manifest} {file : File}
    (stored : files.file (manifestPath directory) = .ok file)
    (reads : Host.loads file.contents = some manifest) :
    Guarantees (· = files) (· = files) (loadManifest directory) fun loaded state =>
      loaded = manifest ∧ state = files := by
  refine (readFile_guarantees fun _ same => same).bind fun text =>
    Guarantees.look (fun _ start => start.1) ?_
  rintro _ loaded ⟨rfl, found⟩ parsed
  rw [stored] at found
  cases found
  rw [reads] at parsed
  cases parsed
  exact ⟨rfl, rfl⟩

omit [Host] in
theorem lock_guarantees : Guarantees (· = files) (· = files) (lock directory)
    fun _ state => state = files :=
  (readFile_guarantees fun _ same => same).bind fun _ =>
    (Guarantees.attempt fun _ start => start.1).weaken (fun _ same => same)
      (fun _ start => start) fun _ _ start => start.1

/-! ## Replacing a destination -/

section Replacing

variable {names : List String} {temporary : Path}

/-- A temporary directory is outside everything that the transaction relies on. -/
theorem makeTemporary_guarantees (parent : Path) :
    Guarantees (Sound directory records) (Sound directory records)
      (makeTemporary parent names) fun temporary state =>
        (¬ Covered directory records temporary ∧
          ¬ Covered directory records (temporary.child "payload")) ∧
        Sound directory records state := by
  refine (Guarantees.attempt fun _ sound => sound).bind fun _ =>
    Guarantees.act (fun _ sound => sound) ?_
  intro state path next sound made
  dsimp only at made
  split at made
  · rename_i free found
    cases made
    have selected := List.find?_some found
    have absent := of_decide_eq_true selected
    have outside : ¬ Covered directory records path := fun covered =>
      sound.ne_none covered absent.1
    have payloadOutside : ¬ Covered directory records (path.child "payload") := fun covered =>
      sound.ne_none covered absent.2
    exact ⟨sound.set outside _, ⟨outside, payloadOutside⟩, sound.set outside _⟩
  · cases made

theorem removeFile_guarantees {path : Path} (free : ¬ Covered directory records path) :
    Guarantees (Sound directory records) (Sound directory records) (removeFile path)
      fun _ => Sound directory records := by
  refine (Guarantees.attempt fun _ sound => sound).bind fun _ =>
    Guarantees.act (fun _ sound => sound) ?_
  rintro state _ next sound removed
  cases removed
  exact ⟨sound.set free _, sound.set free _⟩

theorem replaceFile_guarantees (apart : Apart directory records) (member : record ∈ records)
    {staged : Path} (free : ¬ Covered directory records staged) :
    Guarantees (Sound directory records)
      (fun state => Sound directory records state ∧
        state.fingerprint staged = .ok (record.at version))
      (replaceFile staged record.destination) fun _ => Sound directory records := by
  refine (Guarantees.attempt fun _ start => start.1).bind fun _ =>
    Guarantees.act (fun _ start => start.1) ?_
  rintro state _ next ⟨sound, isVersion⟩ replaced
  rcases Outcome.bind_eq_ok.mp replaced with ⟨file, found, isNext⟩
  cases isNext
  rw [FileSystem.fingerprint, found] at isVersion
  have sound := (sound.set free none).replaced apart member (Except.ok.inj isVersion)
  exact ⟨sound, sound⟩

theorem replaceBody_guarantees (apart : Apart directory records)
    (found : records[index]? = some record) {staged : Path}
    (free : ¬ Covered directory records staged) (actual : Fingerprint) :
    Guarantees (Sound directory records) (Sound directory records) (do
      copyDurable (copyPath directory index version) staged (record.at version)
      guard
      let current ← fingerprint record.destination
      require (current = actual) .changedBeforeReplacement
      replaceFile staged record.destination
      sync)
      fun _ => Sound directory records := by
  have copies : Guarantees (Sound directory records) (Sound directory records)
      (copyDurable (copyPath directory index version) staged (record.at version))
      fun _ state => Sound directory records state ∧
        state.fingerprint staged = .ok (record.at version) := by
    refine .each fun files sound => (copyDurable_guarantees _ _).weaken
      (fun _ only => sound.onlyAt free only) (fun _ same => same) ?_
    rintro _ state ⟨_, only, isVersion⟩
    exact ⟨sound.onlyAt free only, isVersion⟩
  refine copies.bind fun _ => (Guarantees.attempt fun _ start => start.1).bind fun _ => ?_
  refine (fingerprint_guarantees fun _ start => start.1).bind fun current => ?_
  refine (Guarantees.require fun _ start => start.1.1).bind fun _ => ?_
  refine Guarantees.bind ((replaceFile_guarantees apart (List.mem_of_getElem? found) free).weaken
    (fun _ sound => sound) (fun _ start => start.1.1) fun _ _ sound => sound) fun _ => ?_
  exact Guarantees.attempt fun _ sound => sound

theorem replaceRecord_guarantees (apart : Apart directory records)
    (found : records[index]? = some record) :
    Guarantees (Sound directory records) (Sound directory records)
      (replaceRecord directory version names index record) fun _ => Sound directory records := by
  refine (Guarantees.attempt fun _ sound => sound).bind fun _ => ?_
  refine (fingerprint_guarantees fun _ sound => sound).bind fun actual => ?_
  split
  · exact .pure fun _ start => start.1
  · refine (Guarantees.require fun _ start => start.1).bind fun _ => ?_
    refine Guarantees.bind ((makeTemporary_guarantees _).weaken (fun _ sound => sound)
      (fun _ start => start.1.1) fun _ _ made => made) fun temporary => .given fun free => ?_
    refine Guarantees.bind ((replaceBody_guarantees apart found free.2 actual).cleanly
      (fun _ => ?_) ?_) fun _ => Guarantees.attempt fun _ sound => sound
    · exact (removeFile_guarantees free.2).bind fun _ => removeFile_guarantees free.1
    · exact (removeFile_guarantees free.2).bind fun _ => removeFile_guarantees free.1

theorem replaceRecords_guarantees (apart : Apart directory records)
    {names : Nat → List String} (suffix : records.drop index = rows) :
    Guarantees (Sound directory records) (Sound directory records)
      (replaceRecords directory version names index rows) fun _ => Sound directory records := by
  induction rows generalizing index with
  | nil => exact .pure fun _ sound => sound
  | cons record rest induction =>
      rcases drop_cons suffix with ⟨found, restSuffix⟩
      exact (replaceRecord_guarantees apart found).bind fun _ => induction restSuffix

end Replacing

/-! ## Whole runs -/

/-- A run that returns has brought every destination to the version it was asked for. -/
theorem executeTransaction_guarantees (apart : Apart directory records)
    (names : Nat → List String) (rollback : Bool) :
    Guarantees (Sound directory records) (Sound directory records)
      (executeTransaction directory names rollback) fun _ state =>
        Sound directory records state ∧ ∀ record ∈ records,
          state.fingerprint record.destination = .ok (record.at (.wanted rollback)) := by
  have locks : Guarantees (Sound directory records) (Sound directory records) (lock directory)
      fun _ => Sound directory records :=
    .still (fun _ sound => sound) fun _ sound => lock_guarantees.weaken (fun _ same => same)
      (fun _ same => same) fun _ _ same => ⟨same ▸ sound, same⟩
  have loads : Guarantees (Sound directory records) (Sound directory records)
      (loadManifest directory) fun manifest state =>
        manifest = ⟨1, records⟩ ∧ Sound directory records state := by
    refine .still (fun _ sound => sound) fun state sound => ?_
    rcases sound.manifest with ⟨file, stored, reads⟩
    refine (loadManifest_guarantees stored reads).weaken (fun _ same => same) (fun _ same => same) ?_
    rintro manifest next ⟨loaded, rfl⟩
    exact ⟨⟨loaded, sound⟩, rfl⟩
  have checks : Guarantees (Sound directory records) (Sound directory records)
      (checkRecords directory 0 records) fun _ => Sound directory records :=
    .still (fun _ sound => sound) fun _ sound => checkRecords_guarantees.weaken
      (fun _ same => same) (fun _ same => same) fun _ _ checked => ⟨checked.2 ▸ sound, checked.2⟩
  have reads : Guarantees (Sound directory records) (Sound directory records)
      (readBack (.wanted rollback) records) fun _ state =>
        Sound directory records state ∧ ∀ record ∈ records,
          state.fingerprint record.destination = .ok (record.at (.wanted rollback)) :=
    .still (fun _ sound => sound) fun _ sound => readBack_guarantees.weaken
      (fun _ same => same) (fun _ same => same)
      fun _ _ read => ⟨⟨read.2 ▸ sound, read.2 ▸ read.1⟩, read.2⟩
  refine locks.bind fun _ => loads.bind fun manifest => .given ?_
  rintro rfl
  refine (Guarantees.require fun _ sound => sound).bind fun _ => ?_
  refine (Guarantees.attempt fun _ start => start.1).bind fun _ => ?_
  refine Guarantees.bind (checks.weaken (fun _ sound => sound) (fun _ start => start.1)
    fun _ _ sound => sound) fun _ => ?_
  refine (replaceRecords_guarantees apart rfl).bind fun _ => ?_
  refine (Guarantees.attempt fun _ sound => sound).bind fun _ => ?_
  exact reads.bind fun _ => .pure fun _ reached => reached

/-- A run that finds a copy or a destination that is not as recorded changes nothing. -/
theorem executeTransaction_drift {manifest : Manifest} {file : File}
    (stored : files.file (manifestPath directory) = .ok file)
    (reads : Host.loads file.contents = some manifest)
    (found : manifest.files[index]? = some record)
    (drifted : ¬ record.Intact directory files index) (names : Nat → List String)
    (rollback : Bool) :
    Guarantees (· = files) (· = files) (executeTransaction directory names rollback)
      fun _ _ => False := by
  refine lock_guarantees.bind fun _ => ?_
  refine (loadManifest_guarantees stored reads).bind fun loaded => .given ?_
  rintro rfl
  refine (Guarantees.require fun _ same => same).bind fun _ => ?_
  refine (Guarantees.attempt fun _ start => start.1).bind fun _ => ?_
  refine Guarantees.bind (checkRecords_guarantees.weaken (fun _ same => same)
    (fun _ start => start.1) fun _ _ checked => checked) fun _ => .given fun intact => ?_
  have isIntact := intact index record found
  rw [Nat.zero_add] at isIntact
  exact absurd isIntact drifted

theorem replaceRecords_reached {names : Nat → List String}
    (reached : ∀ record ∈ rows, files.fingerprint record.destination = .ok (record.at version)) :
    Guarantees (· = files) (· = files) (replaceRecords directory version names index rows)
      fun _ state => state = files := by
  induction rows generalizing index with
  | nil => exact .pure fun _ same => same
  | cons record rest induction =>
      have here := reached record List.mem_cons_self
      have others := @induction (index + 1) fun other member =>
        reached other (List.mem_cons_of_mem _ member)
      refine Guarantees.bind ?_ fun _ => others
      refine (Guarantees.attempt fun _ same => same).bind fun _ => ?_
      refine (fingerprint_guarantees fun _ same => same).bind fun actual => ?_
      split
      · exact .pure fun _ start => start.1
      · rename_i different
        refine .absurd ?_
        rintro _ ⟨rfl, found⟩
        rw [here] at found
        exact different (Except.ok.inj found).symm

/-- A run changes nothing when every destination is already at the wanted version. -/
theorem executeTransaction_reached (sound : Sound directory records files)
    {rollback : Bool} (reached : ∀ record ∈ records,
      files.fingerprint record.destination = .ok (record.at (.wanted rollback)))
    (names : Nat → List String) :
    Guarantees (· = files) (· = files) (executeTransaction directory names rollback)
      fun _ state => state = files := by
  rcases sound.manifest with ⟨file, stored, reads⟩
  refine lock_guarantees.bind fun _ => ?_
  refine (loadManifest_guarantees stored reads).bind fun loaded => .given ?_
  rintro rfl
  refine (Guarantees.require fun _ same => same).bind fun _ => ?_
  refine (Guarantees.attempt fun _ start => start.1).bind fun _ => ?_
  refine Guarantees.bind (checkRecords_guarantees.weaken (fun _ same => same)
    (fun _ start => start.1) fun _ _ checked => checked.2) fun _ => ?_
  refine (replaceRecords_reached reached).bind fun _ => ?_
  refine (Guarantees.attempt fun _ same => same).bind fun _ => ?_
  exact readBack_guarantees.bind fun _ => .pure fun _ read => read.2

/-! ## Runs that are not interrupted -/

theorem fingerprint_returns {path : Path} {print : Fingerprint}
    (found : files.fingerprint path = .ok print) :
    Returns (· = files) (fingerprint path) fun actual state => actual = print ∧ state = files := by
  refine Returns.attempt.bind fun _ => .look ?_
  rintro _ rfl
  exact ⟨print, found, rfl, rfl⟩

theorem expect_returns {path : Path} {print : Fingerprint}
    (found : files.fingerprint path = .ok print) {expected : Fingerprint → Bool}
    (isExpected : expected print = true) (failure : TransactionError) :
    Returns (· = files) (expect path expected failure) fun _ state => state = files := by
  refine (fingerprint_returns found).bind fun actual => .given ?_
  rintro rfl
  exact .require isExpected

omit [Host] in
theorem readFile_returns {path : Path} {file : File} (found : files.file path = .ok file) :
    Returns (· = files) (readFile path) fun read state => read = file ∧ state = files := by
  refine Returns.attempt.bind fun _ => .look ?_
  rintro _ rfl
  exact ⟨file, found, rfl, rfl⟩

theorem checkRecords_returns
    (intact : ∀ (offset : Nat) (record : Record), rows[offset]? = some record →
      record.Intact directory files (index + offset)) :
    Returns (· = files) (checkRecords directory index rows) fun _ state => state = files := by
  induction rows generalizing index with
  | nil => exact .pure fun _ same => same
  | cons record rest induction =>
      have here := intact 0 record rfl
      have others := @induction (index + 1) fun offset other isOther => by
        rw [Nat.succ_add_eq_add_succ]
        exact intact (offset + 1) other isOther
      refine (expect_returns (here.1 .old) (decide_eq_true rfl) _).bind fun _ => ?_
      refine (expect_returns (here.1 .new) (decide_eq_true rfl) _).bind fun _ => ?_
      rcases here.2 with isOld | isNew
      · exact (expect_returns isOld (decide_eq_true (.inl rfl)) _).bind fun _ => others
      · exact (expect_returns isNew (decide_eq_true (.inr rfl)) _).bind fun _ => others

theorem replaceRecords_returns {names : Nat → List String}
    (reached : ∀ record ∈ rows, files.fingerprint record.destination = .ok (record.at version)) :
    Returns (· = files) (replaceRecords directory version names index rows)
      fun _ state => state = files := by
  induction rows generalizing index with
  | nil => exact .pure fun _ same => same
  | cons record rest induction =>
      have here := reached record List.mem_cons_self
      have others := @induction (index + 1) fun other member =>
        reached other (List.mem_cons_of_mem _ member)
      have skips : Returns (· = files)
          (replaceRecord directory version (names index) index record)
          fun _ state => state = files := by
        refine Returns.attempt.bind fun _ => ?_
        refine (fingerprint_returns here).bind fun actual => .given ?_
        rintro rfl
        rw [if_pos rfl]
        exact .pure fun _ same => same
      exact skips.bind fun _ => others

theorem readBack_returns
    (reached : ∀ record ∈ rows, files.fingerprint record.destination = .ok (record.at version)) :
    Returns (· = files) (readBack version rows) fun _ state => state = files := by
  induction rows with
  | nil => exact .pure fun _ same => same
  | cons record rest induction =>
      have here := reached record List.mem_cons_self
      refine (expect_returns here (decide_eq_true rfl) _).bind fun _ => ?_
      exact induction fun other member => reached other (List.mem_cons_of_mem _ member)

theorem executeTransaction_returns (sound : Sound directory records files)
    {rollback : Bool} (reached : ∀ record ∈ records,
      files.fingerprint record.destination = .ok (record.at (.wanted rollback)))
    (names : Nat → List String) :
    Returns (· = files) (executeTransaction directory names rollback)
      fun _ state => state = files := by
  rcases sound.lock with ⟨lockFile, isLock⟩
  rcases sound.manifest with ⟨text, stored, reads⟩
  have locks : Returns (· = files) (lock directory) fun _ state => state = files :=
    (readFile_returns isLock).bind fun _ => .given fun _ => .attempt
  have loads : Returns (· = files) (loadManifest directory) fun manifest state =>
      manifest = ⟨1, records⟩ ∧ state = files := by
    refine (readFile_returns stored).bind fun _ => .given ?_
    rintro rfl
    refine .look ?_
    rintro _ rfl
    exact ⟨⟨1, records⟩, by rw [reads], rfl, rfl⟩
  refine locks.bind fun _ => loads.bind fun manifest => .given ?_
  rintro rfl
  refine (Returns.require (decide_eq_true rfl)).bind fun _ => Returns.attempt.bind fun _ => ?_
  refine (checkRecords_returns fun offset record found => ?_).bind fun _ => ?_
  · rw [Nat.zero_add]
    exact sound.intact offset record found
  refine (replaceRecords_returns reached).bind fun _ => Returns.attempt.bind fun _ => ?_
  exact (readBack_returns reached).bind fun _ => .pure fun _ same => same

end Parts

/-! ## Sequences of runs -/

/-- One run of `execute` as an observer sees it: what it was asked, what interrupted it,
what it returned, and the states it left behind on the way. -/
structure ExecuteLabel where
  rollback : Bool
  names : Nat → List String
  fates : List Fate
  visited : List FileSystem
  result : Except (Stop TransactionError) Summary

section Runs

variable [Host] {directory : Path} {records : List Record} {files next : FileSystem}
  {label : ExecuteLabel}

def Executes (directory : Path) (before : FileSystem) (label : ExecuteLabel)
    (after : FileSystem) : Prop :=
  let ended := executeTransaction directory label.names label.rollback
    (.start before label.fates)
  ended.1 = label.result ∧ ended.2.visited = label.visited ∧ ended.2.state = after

theorem executes_of_eq {names : Nat → List String} {rollback : Bool} {fates : List Fate}
    {ended : Except (Stop TransactionError) Summary × World FileSystem}
    (isEnded : ended = executeTransaction directory names rollback (.start files fates)) :
    Executes directory files ⟨rollback, names, fates, ended.2.visited, ended.1⟩
      ended.2.state := by
  subst isEnded
  exact ⟨rfl, rfl, rfl⟩

theorem Executes.guaranteed {always before : FileSystem → Prop}
    {ended : Summary → FileSystem → Prop}
    (guarantees : Guarantees always before
      (executeTransaction directory label.names label.rollback) ended)
    (holds : before files) (executes : Executes directory files label next) :
    (∀ state ∈ label.visited, always state) ∧ Ends always ended label.result next := by
  rcases executes with ⟨isResult, isVisited, isNext⟩
  rcases guarantees (.start files label.fates) holds with ⟨⟨added, visited, kept⟩, outcome⟩
  rw [isResult, isNext] at outcome
  rw [isVisited] at visited
  refine ⟨?_, outcome⟩
  rw [visited]
  exact kept

theorem Executes.sound (apart : Apart directory records) (sound : Sound directory records files)
    (executes : Executes directory files label next) :
    (∀ state ∈ label.visited, Sound directory records state) ∧ Sound directory records next ∧
      ∀ summary, label.result = .ok summary → ∀ record ∈ records,
        next.fingerprint record.destination = .ok (record.at (.wanted label.rollback)) := by
  have guaranteed := executes.guaranteed (executeTransaction_guarantees apart _ _) sound
  refine ⟨guaranteed.1, ?_⟩
  cases result : label.result with
  | ok summary =>
      rw [result] at guaranteed
      exact ⟨guaranteed.2.1, fun _ _ => guaranteed.2.2⟩
  | error stop =>
      rw [result] at guaranteed
      exact ⟨guaranteed.2, nofun⟩

theorem Sound.consistent (sound : Sound directory records files) :
    ∀ record ∈ records, record.Consistent files := by
  intro record member
  rcases List.getElem?_of_mem member with ⟨index, found⟩
  exact (sound.intact index record found).2

theorem Sound.of_run (apart : Apart directory records) {labels : List ExecuteLabel}
    (run : Execution.Run (Executes directory) files labels next)
    (sound : Sound directory records files) :
    (∀ label ∈ labels, ∀ state ∈ label.visited, Sound directory records state) ∧
      Sound directory records next := by
  induction run with
  | nil => exact ⟨nofun, sound⟩
  | cons executes _ induction =>
      have one := executes.sound apart sound
      have others := induction one.2.1
      exact ⟨fun label member => (List.mem_cons.mp member).elim (· ▸ one.1) (others.1 label),
        others.2⟩

theorem Executes.again (sound : Sound directory records files)
    (reached : ∀ record ∈ records,
      files.fingerprint record.destination = .ok (record.at (.wanted label.rollback)))
    (executes : Executes directory files label next) :
    next = files ∧ (∀ state ∈ label.visited, state = files) ∧
      (label.fates = [] → ∃ summary, label.result = .ok summary) := by
  have guaranteed := executes.guaranteed (executeTransaction_reached sound reached _) rfl
  refine ⟨?_, guaranteed.1, fun calm => ?_⟩
  · cases result : label.result with
    | ok summary =>
        rw [result] at guaranteed
        exact guaranteed.2
    | error stop =>
        rw [result] at guaranteed
        exact guaranteed.2
  · have returns := executeTransaction_returns sound reached label.names
      (.start files label.fates) calm rfl
    rcases returns with ⟨_, summary, returned, _⟩
    exact ⟨summary, executes.1.symm.trans returned⟩

end Runs

/-- Whatever interrupts the runs of a prepared transaction, every destination is at its old
or its new version at all times, and a run that returns has brought all of them to the
version it was asked for; asking again changes nothing. A run that finds a copy or a
destination that is not as recorded changes nothing either. -/
theorem file_transactions_recover [Host] {directory : Path} {replacements : List Replacement}
    {start prepared : World FileSystem} {records : List Record}
    (preparation : prepare directory replacements start = (.ok records, prepared))
    (reads : Host.loads (Host.dump ⟨1, records⟩) = some ⟨1, records⟩)
    {labels : List ExecuteLabel} {after : FileSystem}
    (run : Execution.Run (Executes directory) prepared.state labels after) :
    (∀ label ∈ labels, ∀ state ∈ label.visited, ∀ record ∈ records, record.Consistent state) ∧
    (∀ record ∈ records, record.Consistent after) ∧
    (∀ label next, Executes directory after label next →
      ∀ summary, label.result = .ok summary →
        (∀ record ∈ records,
          next.fingerprint record.destination = .ok (record.at (.wanted label.rollback))) ∧
        ∀ again last, Executes directory next again last → again.rollback = label.rollback →
          last = next ∧ (∀ state ∈ again.visited, state = next) ∧
            (again.fates = [] → ∃ summary, again.result = .ok summary)) ∧
    ∀ files manifest file, files.file (manifestPath directory) = .ok file →
      Host.loads file.contents = some manifest →
      (∃ (index : Nat) (record : Record), manifest.files[index]? = some record ∧
        ¬ record.Intact directory files index) →
      ∀ label next, Executes directory files label next →
        next = files ∧ (∀ state ∈ label.visited, state = files) ∧
          ∀ summary, label.result ≠ .ok summary := by
  have ready : Apart directory records ∧ Sound directory records prepared.state := by
    have prepares := (@prepare_guarantees _ directory _ replacements start rfl).2
    rw [preparation] at prepares
    exact prepares reads
  have apart := ready.1
  have throughout := Sound.of_run apart run ready.2
  refine ⟨fun label member state visited => (throughout.1 label member state visited).consistent,
    throughout.2.consistent, fun label next executes summary returned => ?_, ?_⟩
  · have one := executes.sound apart throughout.2
    refine ⟨one.2.2 summary returned, fun again last executesAgain sameVersion => ?_⟩
    exact executesAgain.again one.2.1 (sameVersion ▸ one.2.2 summary returned)
  · rintro files manifest file stored isManifest ⟨index, record, found, drifted⟩ label next executes
    have guaranteed := executes.guaranteed
      (executeTransaction_drift stored isManifest found drifted _ _) rfl
    refine ⟨?_, guaranteed.1, fun summary returned => ?_⟩
    · cases result : label.result with
      | ok summary =>
          rw [result] at guaranteed
          exact guaranteed.2.elim
      | error stop =>
          rw [result] at guaranteed
          exact guaranteed.2
    · rw [returned] at guaranteed
      exact guaranteed.2

/-! ## An example

Two files with the contents `old0` and `old1`, replaced by `new0` and `new1`. The process
dies between the rename of the first and the sync of its directory.
-/

def exampleTarget (name : String) : Path :=
  ⟨true, ["srv", "goats", name]⟩

def examplePrint (sha256 : String) : Fingerprint where
  sha256 := sha256
  uid := 1000
  gid := 1000
  mode := 0o640
  xattrs := [("user.lg-test", "707265736572766564")]

def exampleRecord (name old new : String) : Record :=
  ⟨exampleTarget name, examplePrint old, examplePrint new⟩

def exampleFirst : Record :=
  exampleRecord "0" "2e4c6f56a5ed05059b4f4af463275c755336dacb43392511c41f6b21a7ba634c"
    "57772c02f89651e192a79b2deac8d332cc1a5b67bb21e93d2395e5455c1a9b7c"

def exampleSecond : Record :=
  exampleRecord "1" "872737ae8121bc1b984efcbd5f7931d3822326351a30518a018c4c502b95c533"
    "6039092f70864b935e614eaf0ff41bcb91357e8e746997f9af55f5b9f7f8f684"

def exampleManifest : Manifest :=
  ⟨1, [exampleFirst, exampleSecond]⟩

def Fingerprint.text (print : Fingerprint) : String :=
  "\x7b\"sha256\": \"" ++ print.sha256 ++ "\", \"uid\": 1000, \"gid\": 1000, " ++
    "\"mode\": 416, \"xattrs\": \x7b\"user.lg-test\": \"707265736572766564\"\x7d\x7d"

def Record.text (name : String) (record : Record) : String :=
  "\x7b\"destination\": \"/srv/goats/" ++ name ++ "\", \"old\": " ++ record.old.text ++
    ", \"new\": " ++ record.new.text ++ "\x7d"

def exampleText : List UInt8 :=
  ("\x7b\"version\": 1, \"files\": [" ++ exampleFirst.text "0" ++ ", " ++
    exampleSecond.text "1" ++ "]\x7d").toUTF8.toList

/-- The digests and the text of the one transaction. -/
@[reducible] def exampleHost : Host where
  sha256 contents :=
    if contents = [0x6f, 0x6c, 0x64, 0x30] then exampleFirst.old.sha256
    else if contents = [0x6e, 0x65, 0x77, 0x30] then exampleFirst.new.sha256
    else if contents = [0x6f, 0x6c, 0x64, 0x31] then exampleSecond.old.sha256
    else if contents = [0x6e, 0x65, 0x77, 0x31] then exampleSecond.new.sha256
    else ""
  dump manifest := if manifest = exampleManifest then exampleText else []
  loads contents := if contents = [] then none else some exampleManifest
  created := ⟨[], 0, 0, 0o600, []⟩

def exampleSource (name : String) : Path :=
  ⟨true, ["srv", "goats", "new" ++ name]⟩

def exampleFile (contents : List UInt8) : Entry :=
  .regular ⟨contents, 1000, 1000, 0o640, [("user.lg-test", "707265736572766564")]⟩

def exampleFiles : FileSystem := fun path =>
  if path = exampleTarget "0" then some (exampleFile [0x6f, 0x6c, 0x64, 0x30])
  else if path = exampleTarget "1" then some (exampleFile [0x6f, 0x6c, 0x64, 0x31])
  else if path = exampleSource "0" then
    some (.regular ⟨[0x6e, 0x65, 0x77, 0x30], 0, 0, 0o644, []⟩)
  else if path = exampleSource "1" then
    some (.regular ⟨[0x6e, 0x65, 0x77, 0x31], 0, 0, 0o644, []⟩)
  else none

def exampleDirectory : Path :=
  ⟨true, ["srv", "upgrade"]⟩

def examplePrepared : Except (Stop TransactionError) (List Record) × World FileSystem :=
  @prepare exampleHost exampleDirectory [⟨exampleTarget "0", exampleSource "0", exampleFirst.old⟩,
    ⟨exampleTarget "1", exampleSource "1", exampleSecond.old⟩] (.start exampleFiles [])

/-- Everything goes well up to the rename of the first file. -/
def exampleFates : List Fate :=
  List.replicate 25 .proceeds ++ [.dies]

def exampleCrashed : Except (Stop TransactionError) Summary × World FileSystem :=
  @executeTransaction exampleHost exampleDirectory (fun _ => ["a"]) false
    (.start examplePrepared.2.state exampleFates)

def exampleRolledBack : Except (Stop TransactionError) Summary × World FileSystem :=
  @executeTransaction exampleHost exampleDirectory (fun _ => ["b"]) true
    (.start exampleCrashed.2.state [])

def exampleApply : ExecuteLabel :=
  ⟨false, fun _ => ["a"], exampleFates, exampleCrashed.2.visited, exampleCrashed.1⟩

def exampleRollback : ExecuteLabel :=
  ⟨true, fun _ => ["b"], [], exampleRolledBack.2.visited, exampleRolledBack.1⟩

/-- The first file is new and the second one old when the process dies, and the rollback
brings both of them back. -/
theorem file_transactions_recover_example :
    exampleCrashed.1 = .error .died ∧
    @FileSystem.fingerprint exampleHost exampleCrashed.2.state (exampleTarget "0") =
      .ok exampleFirst.new ∧
    @FileSystem.fingerprint exampleHost exampleCrashed.2.state (exampleTarget "1") =
      .ok exampleSecond.old ∧
    exampleRollback.result = .ok ⟨1, "rollback", 2, false⟩ ∧
    ∀ record ∈ exampleManifest.files, @FileSystem.fingerprint exampleHost
      exampleRolledBack.2.state record.destination = .ok record.old := by
  have dies : exampleCrashed.1 = .error .died := by decide +kernel
  have renamed : @FileSystem.fingerprint exampleHost exampleCrashed.2.state (exampleTarget "0") =
      .ok exampleFirst.new := by decide +kernel
  have waits : @FileSystem.fingerprint exampleHost exampleCrashed.2.state (exampleTarget "1") =
      .ok exampleSecond.old := by decide +kernel
  have prepares : examplePrepared.1 = .ok exampleManifest.files := by decide +kernel
  have returns : exampleRollback.result = .ok ⟨1, "rollback", 2, false⟩ := by decide +kernel
  have preparation : examplePrepared = (.ok exampleManifest.files, examplePrepared.2) := by
    rw [← prepares]
  have reads : exampleHost.loads (exampleHost.dump exampleManifest) = some exampleManifest := by
    decide +kernel
  have crashes : @Executes exampleHost exampleDirectory examplePrepared.2.state exampleApply
      exampleCrashed.2.state := @executes_of_eq exampleHost _ _ _ _ _ _ (by rw [exampleCrashed])
  have rollsBack : @Executes exampleHost exampleDirectory exampleCrashed.2.state
      exampleRollback exampleRolledBack.2.state :=
    @executes_of_eq exampleHost _ _ _ _ _ _ (by rw [exampleRolledBack])
  have recovers := @file_transactions_recover exampleHost _ _ _ _ _ preparation reads _ _
    (.single crashes)
  have restored := (recovers.2.2.1 exampleRollback _ rollsBack _ returns).1
  exact ⟨dies, renamed, waits, returns, restored⟩

end LightningGoats
