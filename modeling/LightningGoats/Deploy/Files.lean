import LightningGoats.Foundation.Script
import Mathlib.Data.List.Defs
import Mathlib.Data.String.Basic

/-! # Files and their fingerprints

The file system as the upgrade scripts see it: regular files with their bytes
and metadata, and what else a path can name. Every action on it is a point at
which the script can fail or be killed.
-/

namespace LightningGoats

open Interruptible Script

structure Path where
  isAbsolute : Bool
  parts : List String
  deriving DecidableEq, Repr

namespace Path

def child (path : Path) (name : String) : Path :=
  { path with parts := path.parts ++ [name] }

def parent (path : Path) : Path :=
  { path with parts := path.parts.dropLast }

end Path

/-- Extended attributes in the order of their names, so that equal lists are
equal dictionaries. -/
abbrev Xattrs := List (String × String)

namespace Xattrs

def set (name value : String) : Xattrs → Xattrs
  | [] => [(name, value)]
  | (other, kept) :: rest =>
      if name < other then (name, value) :: (other, kept) :: rest
      else if name = other then (name, value) :: rest
      else (other, kept) :: set name value rest

def remove (name : String) (xattrs : Xattrs) : Xattrs :=
  xattrs.filter fun xattr => xattr.1 ≠ name

end Xattrs

structure File where
  contents : List UInt8
  uid : Nat
  gid : Nat
  mode : Nat
  xattrs : Xattrs
  deriving DecidableEq, Repr

inductive Entry
  | regular (file : File)
  | directory
  | special
  deriving DecidableEq, Repr

abbrev FileSystem := Path → Option Entry

namespace FileSystem

def set (files : FileSystem) (path : Path) (entry : Option Entry) : FileSystem :=
  fun other => if other = path then entry else files other

@[simp] theorem set_self (files : FileSystem) (path : Path) (entry : Option Entry) :
    files.set path entry path = entry :=
  if_pos rfl

theorem set_of_ne (files : FileSystem) {path other : Path} (entry : Option Entry)
    (different : other ≠ path) : files.set path entry other = files other :=
  if_neg different

end FileSystem

structure Fingerprint where
  sha256 : String
  uid : Nat
  gid : Nat
  mode : Nat
  xattrs : Xattrs
  deriving DecidableEq, Repr

structure Record where
  destination : Path
  old : Fingerprint
  new : Fingerprint
  deriving DecidableEq, Repr

structure Manifest where
  version : Nat
  files : List Record
  deriving DecidableEq, Repr

/-- What the scripts use of the host: the digest of a content, the JSON text of a
manifest, and the metadata of a file that has just been created. -/
class Host where
  sha256 : List UInt8 → String
  dump : Manifest → List UInt8
  loads : List UInt8 → Option Manifest
  created : File

inductive TransactionError
  | guard
  | os
  | fileNotFound
  | fileExists
  | jsonDecode
  | notRegular
  | stagedMismatch
  | destinationsNotUnique
  | destinationNotAbsolute
  | driftBeforePreparation
  | unknownVersion
  | corruption
  | drift
  | driftDuring
  | changedBeforeReplacement
  | readbackMismatch
  deriving DecidableEq, Repr

/-- The messages of the scripts. The first five stand for what the guard and the
operating system report themselves. -/
def TransactionError.message : TransactionError → String
  | guard => "guard"
  | os => "OSError"
  | fileNotFound => "FileNotFoundError"
  | fileExists => "FileExistsError"
  | jsonDecode => "JSONDecodeError"
  | notRegular => "transaction input must be a regular file"
  | stagedMismatch => "staged file fingerprint mismatch"
  | destinationsNotUnique => "destinations must be nonempty and unique"
  | destinationNotAbsolute => "destinations must be absolute"
  | driftBeforePreparation => "destination drift before preparation"
  | unknownVersion => "unknown transaction version"
  | corruption => "transaction backup/staging corruption"
  | drift => "destination drift; manual reconciliation required"
  | driftDuring => "destination drift during transaction"
  | changedBeforeReplacement => "destination changed before replacement"
  | readbackMismatch => "final transaction readback mismatch"

abbrev FileScript := Script FileSystem TransactionError

/-! ## Actions -/

def FileSystem.file (files : FileSystem) (path : Path) : Except TransactionError File :=
  match files path with
  | some (.regular file) => .ok file
  | some _ => .error .notRegular
  | none => .error .fileNotFound

def readFile (path : Path) : FileScript File := do
  attempt .os
  look fun files => files.file path

def makeDirectory (path : Path) : FileScript Unit := do
  attempt .os
  act fun files =>
    match files path with
    | none => .ok ((), files.set path (some .directory))
    | some _ => .error .fileExists

def writeFile (path : Path) (change : File → File) : FileScript Unit := do
  attempt .os
  act fun files => do
    let file ← files.file path
    return ((), files.set path (some (.regular (change file))))

def removeFile (path : Path) : FileScript Unit := do
  attempt .os
  act fun files => .ok ((), files.set path none)

/-- `os.replace`: the destination is the source file from one moment to the next. -/
def replaceFile (source destination : Path) : FileScript Unit := do
  attempt .os
  act fun files => do
    let file ← files.file source
    return ((), (files.set source none).set destination (some (.regular file)))

/-- `os.fsync` of a file or a directory. -/
def sync : FileScript Unit :=
  attempt .os

def guard : FileScript Unit :=
  attempt .guard

def writeChunks (destination : Path) : List (List UInt8) → FileScript Unit
  | [] => pure ()
  | chunk :: rest => do
      writeFile destination fun file => { file with contents := file.contents ++ chunk }
      writeChunks destination rest

def removeXattr (destination : Path) (keep : Xattrs) (name : String) : FileScript Unit :=
  if keep.any fun kept => kept.1 = name then pure ()
  else writeFile destination fun file => { file with xattrs := Xattrs.remove name file.xattrs }

def removeXattrs (destination : Path) (keep : Xattrs) : Xattrs → FileScript Unit
  | [] => pure ()
  | xattr :: rest => do
      removeXattr destination keep xattr.1
      removeXattrs destination keep rest

def setXattrs (destination : Path) : Xattrs → FileScript Unit
  | [] => pure ()
  | xattr :: rest => do
      writeFile destination fun file =>
        { file with xattrs := Xattrs.set xattr.1 xattr.2 file.xattrs }
      setXattrs destination rest

section Fingerprints

variable [Host]

def File.fingerprint (file : File) : Fingerprint :=
  ⟨Host.sha256 file.contents, file.uid, file.gid, file.mode, file.xattrs⟩

def FileSystem.fingerprint (files : FileSystem) (path : Path) :
    Except TransactionError Fingerprint :=
  (files.file path).map File.fingerprint

def fingerprint (path : Path) : FileScript Fingerprint := do
  attempt .os
  look fun files => files.fingerprint path

/-- `open(path, "x")`: the file must not exist. -/
def createFile (path : Path) : FileScript Unit := do
  attempt .os
  act fun files =>
    match files path with
    | none => .ok ((), files.set path (some (.regular Host.created)))
    | some _ => .error .fileExists

def copyDurable (source destination : Path) (metadata : Fingerprint) : FileScript Unit := do
  let incoming ← readFile source
  createFile destination
  writeChunks destination (incoming.contents.toChunks (1024 * 1024))
  writeFile destination fun file => { file with uid := metadata.uid, gid := metadata.gid }
  writeFile destination fun file => { file with mode := metadata.mode }
  let outgoing ← readFile destination
  removeXattrs destination metadata.xattrs outgoing.xattrs
  setXattrs destination metadata.xattrs
  sync
  let staged ← fingerprint destination
  require (staged = metadata) .stagedMismatch

end Fingerprints

end LightningGoats
