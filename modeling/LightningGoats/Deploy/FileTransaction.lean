import LightningGoats.Deploy.Files

/-! # Inactive file transactions

A transaction keeps a copy of the old and of the new version of every file it
replaces, and a manifest of their fingerprints. Applying it and rolling it back
are the same procedure: check everything, then replace each destination that is
not yet at the wanted version. Nothing else records how far a run has come.
-/

namespace LightningGoats

open Interruptible Script

inductive FileVersion
  | old
  | new
  deriving DecidableEq, Repr

def FileVersion.name : FileVersion → String
  | old => "old"
  | new => "new"

def Record.at (record : Record) : FileVersion → Fingerprint
  | .old => record.old
  | .new => record.new

structure Replacement where
  destination : Path
  source : Path
  expected : Fingerprint
  deriving DecidableEq, Repr

structure Summary where
  version : Nat
  direction : String
  filesVerified : Nat
  servicesActivated : Bool
  deriving DecidableEq, Repr

def FileVersion.wanted (rollback : Bool) : FileVersion :=
  if rollback then .old else .new

def copyPath (directory : Path) (index : Nat) (version : FileVersion) : Path :=
  directory.child (toString index ++ "." ++ version.name)

def manifestPath (directory : Path) : Path :=
  directory.child "TRANSACTION.json"

def lockPath (directory : Path) : Path :=
  directory.child "LOCK"

/-! ## The lock and the temporary directories -/

/-- Open the lock file and lock it. No other process holds the lock. -/
def lock (directory : Path) : FileScript Unit := do
  let _ ← readFile (lockPath directory)
  attempt .os

/-- `tempfile.mkdtemp`: the first of the drawn names that is free. Nothing is in
a directory that does not exist. -/
def makeTemporary (parent : Path) (names : List String) : FileScript Path := do
  attempt .os
  act fun files =>
    let paths := names.map fun name => parent.child (".lg-upgrade-" ++ name)
    match paths.find? fun path => files path = none ∧ files (path.child "payload") = none with
    | some path => .ok (path, files.set path (some .directory))
    | none => .error .fileExists

def removeTemporary (path : Path) : FileScript Unit := do
  removeFile (path.child "payload")
  removeFile path

section Scripts

variable [Host]

def expect (path : Path) (expected : Fingerprint → Bool) (failure : TransactionError) :
    FileScript Unit := do
  let actual ← fingerprint path
  require (expected actual) failure

/-! ## Preparation -/

def checkExpected : List Replacement → FileScript Unit
  | [] => pure ()
  | replacement :: rest => do
      expect replacement.destination (· = replacement.expected) .driftBeforePreparation
      checkExpected rest

def stageFiles (directory : Path) : Nat → List Replacement → FileScript (List Record)
  | _, [] => pure []
  | index, replacement :: rest => do
      let old := replacement.expected
      let source ← fingerprint replacement.source
      let new := { old with sha256 := source.sha256 }
      copyDurable replacement.destination (copyPath directory index .old) old
      copyDurable replacement.source (copyPath directory index .new) new
      let records ← stageFiles directory (index + 1) rest
      return ⟨replacement.destination, old, new⟩ :: records

def prepare (directory : Path) (replacements : List Replacement) :
    FileScript (List Record) := do
  guard
  let destinations := replacements.map Replacement.destination
  require (destinations ≠ [] ∧ destinations.Nodup) .destinationsNotUnique
  require (destinations.all Path.isAbsolute) .destinationNotAbsolute
  checkExpected replacements
  makeDirectory directory
  sync
  let records ← stageFiles directory 0 replacements
  createFile (manifestPath directory)
  writeFile (manifestPath directory) fun file =>
    { file with contents := Host.dump ⟨1, records⟩ }
  sync
  createFile (lockPath directory)
  sync
  return records

/-! ## Execution -/

def loadManifest (directory : Path) : FileScript Manifest := do
  let text ← readFile (manifestPath directory)
  look fun _ =>
    match Host.loads text.contents with
    | some manifest => .ok manifest
    | none => .error .jsonDecode

def checkRecords (directory : Path) : Nat → List Record → FileScript Unit
  | _, [] => pure ()
  | index, record :: rest => do
      expect (copyPath directory index .old) (· = record.old) .corruption
      expect (copyPath directory index .new) (· = record.new) .corruption
      expect record.destination (fun actual => actual = record.old ∨ actual = record.new) .drift
      checkRecords directory (index + 1) rest

def replaceRecord (directory : Path) (version : FileVersion) (names : List String) (index : Nat)
    (record : Record) : FileScript Unit := do
  guard
  let actual ← fingerprint record.destination
  if actual = record.at version then pure ()
  else do
    require (actual = record.old ∨ actual = record.new) .driftDuring
    let temporary ← makeTemporary record.destination.parent names
    let staged := temporary.child "payload"
    cleanly (do
      copyDurable (copyPath directory index version) staged (record.at version)
      guard
      let current ← fingerprint record.destination
      require (current = actual) .changedBeforeReplacement
      replaceFile staged record.destination
      sync) (removeTemporary temporary)
    -- `after_replace`
    attempt .guard

def replaceRecords (directory : Path) (version : FileVersion) (names : Nat → List String) :
    Nat → List Record → FileScript Unit
  | _, [] => pure ()
  | index, record :: rest => do
      replaceRecord directory version (names index) index record
      replaceRecords directory version names (index + 1) rest

def readBack (version : FileVersion) : List Record → FileScript Unit
  | [] => pure ()
  | record :: rest => do
      expect record.destination (· = record.at version) .readbackMismatch
      readBack version rest

/-- Apply a transaction or roll it back. `names` are the temporary names drawn
for each file. -/
def executeTransaction (directory : Path) (names : Nat → List String) (rollback : Bool) :
    FileScript Summary := do
  lock directory
  let manifest ← loadManifest directory
  require (manifest.version = 1) .unknownVersion
  let rows := manifest.files
  guard
  checkRecords directory 0 rows
  let version := FileVersion.wanted rollback
  replaceRecords directory version names 0 rows
  guard
  readBack version rows
  return ⟨1, if rollback then "rollback" else "apply", rows.length, false⟩

end Scripts

end LightningGoats
