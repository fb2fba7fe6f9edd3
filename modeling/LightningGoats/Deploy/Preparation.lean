import LightningGoats.Deploy.FileTransaction
import LightningGoats.Foundation.Outcome
import Mathlib.Data.List.Nodup

/-! # Prepared file transactions

What the file actions do, what a run of a transaction relies on, and that a
preparation that returns has brought it about.
-/

namespace LightningGoats

open Interruptible Script

/-! ## What the actions do -/

def FileSystem.OnlyAt (files : FileSystem) (path : Path) (other : FileSystem) : Prop :=
  ∀ unrelated, unrelated ≠ path → other unrelated = files unrelated

namespace FileSystem.OnlyAt

theorem refl (files : FileSystem) (path : Path) : files.OnlyAt path files :=
  fun _ _ => rfl

theorem set {files other : FileSystem} {path : Path} (only : files.OnlyAt path other)
    (entry : Option Entry) : files.OnlyAt path (other.set path entry) := by
  intro unrelated different
  rw [FileSystem.set_of_ne _ _ different]
  exact only unrelated different

end FileSystem.OnlyAt

section Actions

variable {always before : FileSystem → Prop} {files : FileSystem} {path : Path}

theorem readFile_guarantees (holds : ∀ state, before state → always state) :
    Guarantees always before (readFile path)
      fun file state => before state ∧ state.file path = .ok file :=
  (Guarantees.attempt holds).bind fun _ =>
    Guarantees.look holds fun _ _ start found => ⟨start, found⟩

theorem createFile_guarantees [Host] :
    Guarantees (files.OnlyAt path) (· = files) (createFile path) fun _ state =>
      files path = none ∧ state = files.set path (some (.regular Host.created)) := by
  have same : ∀ state, state = files → files.OnlyAt path state := by
    rintro state rfl
    exact .refl _ _
  refine (Guarantees.attempt same).bind fun _ => Guarantees.act same ?_
  rintro state result next rfl created
  split at created
  · rename_i absent
    cases created
    exact ⟨(FileSystem.OnlyAt.refl _ _).set _, absent, rfl⟩
  · cases created

theorem writeFile_guarantees (change : File → File) :
    Guarantees (files.OnlyAt path) (files.OnlyAt path) (writeFile path change)
      fun _ => files.OnlyAt path := by
  refine (Guarantees.attempt fun _ only => only).bind fun _ =>
    Guarantees.act (fun _ only => only) ?_
  intro state result next only written
  rcases Outcome.bind_eq_ok.mp written with ⟨file, _, isNext⟩
  cases isNext
  exact ⟨only.set _, only.set _⟩

theorem writeChunks_guarantees (chunks : List (List UInt8)) :
    Guarantees (files.OnlyAt path) (files.OnlyAt path) (writeChunks path chunks)
      fun _ => files.OnlyAt path := by
  induction chunks with
  | nil => exact .pure fun _ only => only
  | cons chunk rest induction => exact (writeFile_guarantees _).bind fun _ => induction

theorem removeXattr_guarantees (keep : Xattrs) (name : String) :
    Guarantees (files.OnlyAt path) (files.OnlyAt path) (removeXattr path keep name)
      fun _ => files.OnlyAt path := by
  unfold removeXattr
  split
  · exact .pure fun _ only => only
  · exact writeFile_guarantees _

theorem removeXattrs_guarantees (keep xattrs : Xattrs) :
    Guarantees (files.OnlyAt path) (files.OnlyAt path) (removeXattrs path keep xattrs)
      fun _ => files.OnlyAt path := by
  induction xattrs with
  | nil => exact .pure fun _ only => only
  | cons xattr rest induction =>
      exact (removeXattr_guarantees keep xattr.1).bind fun _ => induction

theorem setXattrs_guarantees (xattrs : Xattrs) :
    Guarantees (files.OnlyAt path) (files.OnlyAt path) (setXattrs path xattrs)
      fun _ => files.OnlyAt path := by
  induction xattrs with
  | nil => exact .pure fun _ only => only
  | cons xattr rest induction => exact (writeFile_guarantees _).bind fun _ => induction

variable [Host]

theorem fingerprint_guarantees (holds : ∀ state, before state → always state) :
    Guarantees always before (fingerprint path)
      fun actual state => before state ∧ state.fingerprint path = .ok actual :=
  (Guarantees.attempt holds).bind fun _ =>
    Guarantees.look holds fun _ _ start found => ⟨start, found⟩

/-- A copy touches only its destination, which did not exist, and what it returns from
has the wanted fingerprint there. -/
theorem copyDurable_guarantees (source : Path) (metadata : Fingerprint) :
    Guarantees (files.OnlyAt path) (· = files) (copyDurable source path metadata)
      fun _ state => files path = none ∧ files.OnlyAt path state ∧
        state.fingerprint path = .ok metadata := by
  have same : ∀ state, state = files → files.OnlyAt path state := by
    rintro state rfl
    exact .refl _ _
  refine (readFile_guarantees same).bind fun incoming => ?_
  have creates : Guarantees (files.OnlyAt path)
      (fun state => state = files ∧ state.file source = .ok incoming) (createFile path)
      fun _ state => files path = none ∧ files.OnlyAt path state := by
    refine createFile_guarantees.weaken (fun _ only => only) (fun _ start => start.1) ?_
    rintro _ state ⟨absent, rfl⟩
    exact ⟨absent, (FileSystem.OnlyAt.refl _ _).set _⟩
  refine creates.bind fun _ => .given fun absent => ?_
  refine (writeChunks_guarantees _).bind fun _ => ?_
  refine (writeFile_guarantees _).bind fun _ => ?_
  refine (writeFile_guarantees _).bind fun _ => ?_
  refine (readFile_guarantees fun _ only => only).bind fun outgoing => ?_
  refine Guarantees.bind ((removeXattrs_guarantees _ _).weaken (fun _ only => only)
    (fun _ start => start.1) fun _ _ only => only) fun _ => ?_
  refine (setXattrs_guarantees _).bind fun _ => ?_
  refine (Guarantees.attempt fun _ only => only).bind fun _ => ?_
  refine (fingerprint_guarantees fun _ only => only).bind fun staged => ?_
  refine (Guarantees.require fun _ start => start.1).weaken (fun _ only => only)
    (fun _ start => start) ?_
  rintro _ state ⟨⟨only, found⟩, isStaged⟩
  exact ⟨absent, only, by rw [found, of_decide_eq_true isStaged]⟩

theorem expect_guarantees (path : Path) (expected : Fingerprint → Bool)
    (failure : TransactionError) :
    Guarantees (· = files) (· = files) (expect path expected failure) fun _ state =>
      (∃ actual, files.fingerprint path = .ok actual ∧ expected actual = true) ∧
        state = files := by
  refine (fingerprint_guarantees fun _ same => same).bind fun actual => ?_
  refine (Guarantees.require fun _ start => start.1).weaken (fun _ same => same)
    (fun _ start => start) ?_
  rintro _ _ ⟨⟨rfl, found⟩, isTrue⟩
  exact ⟨⟨actual, found, isTrue⟩, rfl⟩

theorem expect_eq_guarantees (path : Path) (print : Fingerprint) (failure : TransactionError) :
    Guarantees (· = files) (· = files) (expect path (· = print) failure) fun _ state =>
      files.fingerprint path = .ok print ∧ state = files := by
  refine (expect_guarantees path _ failure).weaken (fun _ same => same) (fun _ start => start) ?_
  rintro _ state ⟨⟨actual, found, same⟩, unchanged⟩
  exact ⟨by rw [found, of_decide_eq_true same], unchanged⟩

end Actions

/-! ## The states that a run can start from -/

inductive Covered (directory : Path) (records : List Record) : Path → Prop
  | lock : Covered directory records (lockPath directory)
  | manifest : Covered directory records (manifestPath directory)
  | copy {index : Nat} {record : Record} (found : records[index]? = some record)
      (version : FileVersion) : Covered directory records (copyPath directory index version)
  | destination {record : Record} (member : record ∈ records) :
      Covered directory records record.destination

structure Apart (directory : Path) (records : List Record) : Prop where
  destinations : (records.map Record.destination).Nodup
  lock : ∀ record ∈ records, lockPath directory ≠ record.destination
  manifest : ∀ record ∈ records, manifestPath directory ≠ record.destination
  copies : ∀ record ∈ records, ∀ (index : Nat) copied, records[index]? = some copied →
    ∀ version, copyPath directory index version ≠ record.destination

section States

variable {directory : Path} {records : List Record} {files other : FileSystem} {path : Path}
  {record : Record}

theorem FileSystem.file_congr (same : other path = files path) :
    other.file path = files.file path := by
  rw [FileSystem.file, FileSystem.file, same]

theorem FileSystem.ne_none_of_file {file : File} (found : files.file path = .ok file) :
    files path ≠ none := by
  intro absent
  rw [FileSystem.file, absent] at found
  cases found

variable [Host]

def Record.Consistent (files : FileSystem) (record : Record) : Prop :=
  files.fingerprint record.destination = .ok record.old ∨
    files.fingerprint record.destination = .ok record.new

/-- The copies of a record have their recorded fingerprints, and its destination one
of the two. -/
def Record.Intact (directory : Path) (files : FileSystem) (index : Nat) (record : Record) :
    Prop :=
  (∀ version, files.fingerprint (copyPath directory index version) =
    .ok (record.at version)) ∧ record.Consistent files

structure Sound (directory : Path) (records : List Record) (files : FileSystem) : Prop where
  lock : ∃ file, files.file (lockPath directory) = .ok file
  manifest : ∃ file, files.file (manifestPath directory) = .ok file ∧
    Host.loads file.contents = some ⟨1, records⟩
  intact : ∀ (index : Nat) (record : Record), records[index]? = some record →
    record.Intact directory files index

theorem FileSystem.fingerprint_congr (same : other path = files path) :
    other.fingerprint path = files.fingerprint path := by
  rw [FileSystem.fingerprint, FileSystem.fingerprint, FileSystem.file_congr same]

theorem FileSystem.fingerprint_set (file : File) :
    (files.set path (some (.regular file))).fingerprint path = .ok file.fingerprint := by
  rw [FileSystem.fingerprint, FileSystem.file, FileSystem.set_self]
  rfl

theorem FileSystem.ne_none_of_fingerprint {print : Fingerprint}
    (found : files.fingerprint path = .ok print) : files path ≠ none := by
  intro absent
  rw [FileSystem.fingerprint, FileSystem.file, absent] at found
  cases found

namespace Sound

theorem congr (sound : Sound directory records files)
    (same : ∀ path, Covered directory records path → other path = files path) :
    Sound directory records other := by
  rcases sound.lock with ⟨lockFile, isLock⟩
  rcases sound.manifest with ⟨text, isText, reads⟩
  refine ⟨⟨lockFile, ?_⟩, ⟨text, ?_, reads⟩, fun index record found => ⟨fun version => ?_, ?_⟩⟩
  · rw [FileSystem.file_congr (same _ .lock), isLock]
  · rw [FileSystem.file_congr (same _ .manifest), isText]
  · rw [FileSystem.fingerprint_congr (same _ (.copy found version))]
    exact (sound.intact index record found).1 version
  · have member := List.mem_of_getElem? found
    rw [Record.Consistent, FileSystem.fingerprint_congr (same _ (.destination member))]
    exact (sound.intact index record found).2

theorem ne_none (sound : Sound directory records files)
    (covered : Covered directory records path) : files path ≠ none := by
  cases covered with
  | lock => exact FileSystem.ne_none_of_file sound.lock.choose_spec
  | manifest => exact FileSystem.ne_none_of_file sound.manifest.choose_spec.1
  | copy found version =>
      exact FileSystem.ne_none_of_fingerprint ((sound.intact _ _ found).1 version)
  | destination member =>
      rcases List.getElem?_of_mem member with ⟨index, found⟩
      rcases (sound.intact _ _ found).2 with isOld | isNew
      · exact FileSystem.ne_none_of_fingerprint isOld
      · exact FileSystem.ne_none_of_fingerprint isNew

theorem onlyAt (sound : Sound directory records files)
    (free : ¬ Covered directory records path) (only : files.OnlyAt path other) :
    Sound directory records other :=
  sound.congr fun _ covered => only _ fun same => free (same ▸ covered)

theorem set (sound : Sound directory records files) (free : ¬ Covered directory records path)
    (entry : Option Entry) : Sound directory records (files.set path entry) :=
  sound.onlyAt free (.set (.refl _ _) entry)

theorem replaced (sound : Sound directory records files) (apart : Apart directory records)
    (member : record ∈ records) {file : File} {version : FileVersion}
    (isVersion : file.fingerprint = record.at version) :
    Sound directory records (files.set record.destination (some (.regular file))) := by
  have same : ∀ path, path ≠ record.destination →
      files.set record.destination (some (.regular file)) path = files path :=
    fun _ different => FileSystem.set_of_ne _ _ different
  rcases sound.lock with ⟨lockFile, isLock⟩
  rcases sound.manifest with ⟨text, isText, reads⟩
  refine ⟨⟨lockFile, ?_⟩, ⟨text, ?_, reads⟩, fun index other found => ⟨fun kept => ?_, ?_⟩⟩
  · rw [FileSystem.file_congr (same _ (apart.lock record member)), isLock]
  · rw [FileSystem.file_congr (same _ (apart.manifest record member)), isText]
  · rw [FileSystem.fingerprint_congr (same _ (apart.copies record member index other found kept))]
    exact (sound.intact index other found).1 kept
  · by_cases sameDestination : other.destination = record.destination
    · have sameRecord : other = record := List.inj_on_of_nodup_map apart.destinations
        (List.mem_of_getElem? found) member sameDestination
      subst sameRecord
      rw [Record.Consistent, FileSystem.fingerprint_set, isVersion]
      cases version with
      | old => exact .inl rfl
      | new => exact .inr rfl
    · rw [Record.Consistent, FileSystem.fingerprint_congr (same _ sameDestination)]
      exact (sound.intact index other found).2

end Sound

end States

/-! ## Preparation -/

def FileSystem.Keeps (files other : FileSystem) : Prop :=
  ∀ path, files path ≠ none → other path = files path

namespace FileSystem.Keeps

variable {files middle other : FileSystem} {path : Path}

theorem trans (left : files.Keeps middle) (right : middle.Keeps other) : files.Keeps other := by
  intro path present
  have same := left path present
  rw [← same]
  exact right path (same ▸ present)

theorem of_onlyAt (absent : files path = none) (only : files.OnlyAt path other) :
    files.Keeps other :=
  fun _ present => only _ fun same => present (same ▸ absent)

theorem set (absent : files path = none) (entry : Option Entry) :
    files.Keeps (files.set path entry) :=
  of_onlyAt absent (.set (.refl _ _) entry)

theorem absent (keeps : files.Keeps other) (isNone : other path = none) : files path = none := by
  by_contra present
  exact present (keeps path present ▸ isNone)

theorem fingerprint [Host] (keeps : files.Keeps other) {print : Fingerprint}
    (found : files.fingerprint path = .ok print) : other.fingerprint path = .ok print := by
  rw [FileSystem.fingerprint_congr (keeps path (FileSystem.ne_none_of_fingerprint found))]
  exact found

end FileSystem.Keeps

section Preparation

variable [Host] {directory path : Path} {files : FileSystem} {index : Nat}
  {replacements : List Replacement}

abbrev Always (_ : FileSystem) : Prop :=
  True

omit [Host] in
theorem makeDirectory_created : Guarantees Always (· = files) (makeDirectory path)
    fun _ state => files path = none ∧ state = files.set path (some .directory) := by
  refine (Guarantees.attempt fun _ _ => trivial).bind fun _ =>
    Guarantees.act (fun _ _ => trivial) ?_
  rintro _ _ next rfl made
  split at made
  · rename_i absent
    cases made
    exact ⟨trivial, absent, rfl⟩
  · cases made

omit [Host] in
theorem writeFile_written (change : File → File) :
    Guarantees Always (· = files) (writeFile path change) fun _ state => ∃ file,
      files.file path = .ok file ∧ state = files.set path (some (.regular (change file))) := by
  refine (Guarantees.attempt fun _ _ => trivial).bind fun _ =>
    Guarantees.act (fun _ _ => trivial) ?_
  rintro _ _ next rfl written
  rcases Outcome.bind_eq_ok.mp written with ⟨file, found, isNext⟩
  cases isNext
  exact ⟨trivial, file, found, rfl⟩

theorem checkExpected_guarantees :
    Guarantees Always (· = files) (checkExpected replacements) fun _ state =>
      (∀ replacement ∈ replacements,
        files.fingerprint replacement.destination = .ok replacement.expected) ∧
      state = files := by
  induction replacements with
  | nil => exact .pure fun _ same => ⟨nofun, same⟩
  | cons replacement rest induction =>
      refine Guarantees.bind ((expect_eq_guarantees _ _ _).weaken (fun _ _ => trivial)
        (fun _ same => same) fun _ _ checked => checked) fun _ => .given fun found => ?_
      refine induction.weaken (fun _ _ => trivial) (fun _ same => same) ?_
      rintro _ state ⟨others, same⟩
      exact ⟨fun other member => (List.mem_cons.mp member).elim (· ▸ found) (others other), same⟩

def Record.Staged (directory : Path) (files state : FileSystem) (index : Nat)
    (record : Record) : Prop :=
  ∀ version, files (copyPath directory index version) = none ∧
    state.fingerprint (copyPath directory index version) = .ok (record.at version)

theorem copy_staged (source destination : Path) (metadata : Fingerprint) :
    Guarantees Always (· = files) (copyDurable source destination metadata) fun _ state =>
      files destination = none ∧ files.Keeps state ∧
        state.fingerprint destination = .ok metadata := by
  refine (copyDurable_guarantees _ _).weaken (fun _ _ => trivial) (fun _ same => same) ?_
  rintro _ state ⟨absent, only, found⟩
  exact ⟨absent, .of_onlyAt absent only, found⟩

theorem stageFiles_guarantees :
    Guarantees Always (· = files) (stageFiles directory index replacements) fun records state =>
      files.Keeps state ∧
      records.map Record.destination = replacements.map Replacement.destination ∧
      records.map Record.old = replacements.map Replacement.expected ∧
      ∀ (offset : Nat) (record : Record), records[offset]? = some record →
        record.Staged directory files state (index + offset) := by
  induction replacements generalizing index files with
  | nil =>
      refine .pure ?_
      rintro _ rfl
      exact ⟨fun _ _ => rfl, rfl, rfl, nofun⟩
  | cons replacement rest induction =>
      refine (fingerprint_guarantees fun _ _ => trivial).bind fun source => ?_
      refine Guarantees.bind ((copy_staged _ _ _).weaken (fun _ _ => trivial)
        (fun _ start => start.1) fun _ _ copied => copied) fun _ => ?_
      refine .each ?_
      rintro middle ⟨oldAbsent, keepsOld, isOld⟩
      refine (copy_staged _ _ _).bind fun _ => .each ?_
      rintro last ⟨newAbsent, keepsNew, isNew⟩
      refine induction.bind fun records => .pure ?_
      rintro state ⟨keeps, destinations, olds, staged⟩
      have keepsBoth := keepsOld.trans keepsNew
      refine ⟨keepsBoth.trans keeps, congrArg (_ :: ·) destinations, congrArg (_ :: ·) olds, ?_⟩
      intro offset record found
      cases offset with
      | zero =>
          cases found
          intro version
          cases version with
          | old => exact ⟨oldAbsent, keeps.fingerprint (keepsNew.fingerprint isOld)⟩
          | new => exact ⟨keepsOld.absent newAbsent, keeps.fingerprint isNew⟩
      | succ offset =>
          intro version
          rw [← Nat.succ_add_eq_add_succ]
          have here := staged offset record found version
          exact ⟨keepsBoth.absent here.1, here.2⟩

/-- The destinations of the records are at the versions that were expected. -/
theorem records_expected {records : List Record}
    (destinations : records.map Record.destination = replacements.map Replacement.destination)
    (olds : records.map Record.old = replacements.map Replacement.expected)
    (expected : ∀ replacement ∈ replacements,
      files.fingerprint replacement.destination = .ok replacement.expected)
    (index : Nat) (record : Record) (found : records[index]? = some record) :
    files.fingerprint record.destination = .ok record.old := by
  have sameDestination := congrArg (fun paths : List Path => paths[index]?) destinations
  have sameOld := congrArg (fun prints : List Fingerprint => prints[index]?) olds
  simp only [List.getElem?_map, found, Option.map_some] at sameDestination sameOld
  rcases Option.map_eq_some_iff.mp sameDestination.symm with ⟨replacement, isReplacement, same⟩
  rw [isReplacement] at sameOld
  rw [← same, Option.some.inj sameOld]
  exact expected replacement (List.mem_of_getElem? isReplacement)

/-- A prepared transaction is a state that a run can start from, if the manifest reads
back as it was written. -/
theorem prepare_guarantees :
    Guarantees Always (· = files) (prepare directory replacements) fun records state =>
      Host.loads (Host.dump ⟨1, records⟩) = some ⟨1, records⟩ →
        Apart directory records ∧ Sound directory records state := by
  refine (Guarantees.attempt fun _ _ => trivial).bind fun _ => ?_
  refine (Guarantees.require fun _ _ => trivial).bind fun _ => ?_
  refine .each ?_
  rintro start ⟨rfl, distinct⟩
  have distinct := (of_decide_eq_true distinct).2
  refine (Guarantees.require fun _ _ => trivial).bind fun _ => ?_
  refine Guarantees.bind (checkExpected_guarantees.weaken (fun _ _ => trivial)
    (fun _ start => start.1) fun _ _ checked => checked) fun _ => .given fun expected => ?_
  refine makeDirectory_created.bind fun _ => (Guarantees.attempt fun _ _ => trivial).bind
    fun _ => .each ?_
  rintro made ⟨directoryAbsent, isMade⟩
  refine stageFiles_guarantees.bind fun records => .each ?_
  rintro staged ⟨keepsStaged, destinations, olds, copies⟩
  refine Guarantees.bind (createFile_guarantees.weaken (fun _ _ => trivial)
    (fun _ same => same) fun _ _ created => created) fun _ => .each ?_
  rintro created ⟨manifestAbsent, isCreated⟩
  refine (writeFile_written _).bind fun _ => (Guarantees.attempt fun _ _ => trivial).bind
    fun _ => .each ?_
  rintro written ⟨file, _, isWritten⟩
  refine Guarantees.bind (createFile_guarantees.weaken (fun _ _ => trivial)
    (fun _ same => same) fun _ _ locked => locked) fun _ =>
      (Guarantees.attempt fun _ _ => trivial).bind fun _ => .pure ?_
  rintro state ⟨lockAbsent, isLocked⟩ reads
  have isFound := records_expected destinations olds expected
  have keepsMade : start.Keeps made := isMade ▸ FileSystem.Keeps.set directoryAbsent _
  have keepsWritten : staged.Keeps written := by
    refine .of_onlyAt manifestAbsent ?_
    rw [isWritten, isCreated]
    exact ((FileSystem.OnlyAt.refl _ _).set _).set _
  have keepsLocked : written.Keeps state := isLocked ▸ FileSystem.Keeps.set lockAbsent _
  have atStaged := fun index record found =>
    keepsStaged.fingerprint (keepsMade.fingerprint (isFound index record found))
  have atWritten := fun index record found =>
    keepsWritten.fingerprint (atStaged index record found)
  refine ⟨⟨destinations ▸ distinct, ?_, ?_, ?_⟩, ?_, ?_,
    fun index record found => ⟨fun version => ?_, ?_⟩⟩
  · intro record member same
    rcases List.getElem?_of_mem member with ⟨index, found⟩
    exact FileSystem.ne_none_of_fingerprint (atWritten index record found) (same ▸ lockAbsent)
  · intro record member same
    rcases List.getElem?_of_mem member with ⟨index, found⟩
    exact FileSystem.ne_none_of_fingerprint (atStaged index record found) (same ▸ manifestAbsent)
  · intro record member index copied isCopied version same
    rcases List.getElem?_of_mem member with ⟨position, found⟩
    have absent := (copies index copied isCopied version).1
    rw [Nat.zero_add, same] at absent
    exact FileSystem.ne_none_of_fingerprint
      (keepsMade.fingerprint (isFound position record found)) absent
  · rw [isLocked, FileSystem.file, FileSystem.set_self]
    exact ⟨_, rfl⟩
  · have isText : written (manifestPath directory) = some (.regular { file with
        contents := Host.dump ⟨1, records⟩ }) := by
      rw [isWritten, FileSystem.set_self]
    have present : written (manifestPath directory) ≠ none := by
      rw [isText]
      exact nofun
    refine ⟨{ file with contents := Host.dump ⟨1, records⟩ }, ?_, reads⟩
    rw [FileSystem.file, keepsLocked _ present, isText]
  · have copied := (copies index record found version).2
    rw [Nat.zero_add] at copied
    exact keepsLocked.fingerprint (keepsWritten.fingerprint copied)
  · exact .inl (keepsLocked.fingerprint (atWritten index record found))

end Preparation

end LightningGoats
