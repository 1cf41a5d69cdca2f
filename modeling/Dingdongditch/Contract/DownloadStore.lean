import Mathlib.Data.List.Basic
import Mathlib.Logic.Function.Basic
import Dingdongditch.Contract.Download
import Dingdongditch.Interaction.Stateful

/-!
# Committing a download

The transaction that turns a staged file into an artifact of the session: the staged
bytes are verified, copied under a name of their own, verified again and published under
the name that the collision policy selects.
-/

namespace Dingdongditch.Download

open Interaction Text

/-! ## The completed downloads -/

abbrev Bytes : Type := List UInt8

/-- The components of a path below the directory of the completed downloads. -/
abbrev Path : Type := List (List Char)

inductive Entry
  | file (content : Bytes)
  | directory
  | symlink (resolves : Bool)
  deriving DecidableEq, Repr

/-- `path.exists()`, which follows a link. -/
def Entry.isFound : Entry → Bool
  | .file _ => true
  | .directory => true
  | .symlink resolves => resolves

abbrev Tree : Type := Path → Option Entry

namespace Tree

/-- What is not a directory. -/
def files (tree : Tree) (path : Path) : Option Entry := (tree path).filter (· ≠ .directory)

def isFound (tree : Tree) (path : Path) : Bool := (tree path).any Entry.isFound

def contentAt (tree : Tree) (path : Path) : Bytes :=
  match tree path with
  | some (.file content) => content
  | _ => []

/-- The directories on the way to `path` that are missing are made. -/
def withDirectories (tree : Tree) (path : Path) : Tree := fun other =>
  if other.isPrefixOf path ∧ tree other = none then some .directory else tree other

/-- Everything on the way to `path` that exists is a directory. -/
def allowsDirectory (tree : Tree) (path : Path) : Bool :=
  path.inits.all fun ancestor => tree ancestor = none || tree ancestor = some .directory

end Tree

/-! ## Exceptions -/

inductive OsErrorKind
  | permission | fileExists | other
  deriving DecidableEq, Repr

structure OsError where
  kind : OsErrorKind
  message : String
  deriving DecidableEq, Repr

inductive CommitError
  | timeout (phase : String)
  | security (e : DownloadError)
  | os (e : OsError)
  deriving DecidableEq, Repr

/-- `DownloadTimeoutError(phase)` as a text. -/
def timeoutMessage (phase : String) : String := "download deadline expired during " ++ phase

/-- What the transaction raises for an exception of its body. -/
def CommitError.translate : CommitError → CommitError
  | .timeout phase => .timeout phase
  | .security e => .security e
  | .os e =>
      match e.kind with
      | .permission => .security ⟨e.message, .permissionDenied⟩
      | .fileExists => .security ⟨e.message, .collisionRejected⟩
      | .other => .security ⟨e.message, .atomicCommitFailed⟩

/-- What `verify_handle` raises for an exception of its reading loop; a
`DownloadTimeoutError` is an `OSError`. -/
def CommitError.checksumFailed : CommitError → CommitError
  | .timeout phase => .security ⟨"checksum failed: " ++ timeoutMessage phase, .checksumFailed⟩
  | .security e => .security e
  | .os e => .security ⟨"checksum failed: " ++ e.message, .checksumFailed⟩

/-! ## The environment of a commit -/

/-- `st_dev`, `st_ino`, `st_size`, `st_mtime_ns` and `st_ctime_ns`. -/
structure FileIdentity where
  stDev : Nat
  stIno : Nat
  stSize : Nat
  stMtimeNs : Nat
  stCtimeNs : Nat
  deriving DecidableEq, Repr

structure Stat where
  regular : Bool
  identity : FileIdentity
  deriving DecidableEq, Repr

/-- The two files that are verified: the one the producer saved, and the copy of it. -/
inductive Handle
  | staged | candidate
  deriving DecidableEq, Repr

/-- The steps that the file system may fail. -/
inductive FsStep
  | makeDirectories | openStaging | fstat (handle : Handle) | seek (handle : Handle)
  | read (handle : Handle) | createCommit | write | fsync | unlinkChanged | openCandidate
  | replace | link | unlinkCommit | unlinkStaging | cleanUp
  deriving DecidableEq, Repr

/-- What is asked of directories, besides their entries: `_assert_contained`,
`_DirectoryGuard(…)` and `assert_stable`. -/
inductive DirectoryCheck
  | containedDirectory | pinStaging | pinDestination | stableStaging | stableDestination
  | containedFile
  deriving DecidableEq, Repr

inductive StorageCall
  | monotonic
  | fails (step : FsStep)
  | stat (handle : Handle)
  /-- What the reads of the staged file return, from its start. -/
  | reads
  /-- How many bytes a write takes. -/
  | written (view : Bytes)
  | directory (check : DirectoryCheck)
  deriving DecidableEq, Repr

/-- The clock, the failures of the file system and the file that its producer may still
write to. -/
def StorageSig : Sig where
  Call := StorageCall
  Answer
    | .monotonic => Int
    | .fails _ => Option OsError
    | .stat _ => Stat
    | .reads => List Bytes
    | .written _ => Nat
    | .directory _ => Option CommitError

abbrev Commit (α : Type) : Type := Act StorageSig Tree CommitError α

/-- What the standard library computes. -/
structure Library where
  tables : UnicodeTables
  lower : List Char → List Char
  guessType : List Char → Option (List Char)
  sha256 : Bytes → String

structure DownloadRequest where
  preferredFilename : Option (List Char) := none
  destinationSubdirectory : Option (List Char) := none
  collisionPolicy : DownloadCollisionPolicy := .uniquify
  checksumPolicy : DownloadChecksumPolicy := .sha256
  minimumBytes : Option Nat := none
  maximumBytes : Option Nat := none
  allowedExtensions : List (List Char) := []
  allowedMimeTypes : List (List Char) := []
  deriving DecidableEq, Repr

/-- The arguments of one `_commit`, with the policy of its store and the name that
`uuid4` gives the copy. -/
structure Attempt where
  policy : DownloadPolicy := {}
  requestedName : List Char
  request : DownloadRequest
  suggested : Option (List Char) := none
  responseMime : Option (List Char) := none
  deadlineMs : Int
  uuid : List Char
  deriving DecidableEq, Repr

def Attempt.commitName (a : Attempt) : List Char := '.' :: a.uuid ++ ".commit".toList

section Commit

variable (library : Library) (a : Attempt)

/-- `deadline.check(phase)` -/
def check (phase : String) : Commit Unit :=
  Act.attempt (S := StorageSig) .monotonic fun (now : Int) =>
    if a.deadlineMs - now ≤ 0 then .error (.timeout phase) else .ok ()

/-- A step of the file system, which fails or not. -/
def step (s : FsStep) : Commit Unit :=
  Act.attempt (S := StorageSig) (.fails s) fun (failure : Option OsError) =>
    match failure with
    | some e => .error (.os e)
    | none => .ok ()

/-- The check of a directory, which passes or raises. -/
def checkDirectory (c : DirectoryCheck) : Commit Unit :=
  Act.attempt (S := StorageSig) (.directory c) fun (failure : Option CommitError) =>
    match failure with
    | some e => .error e
    | none => .ok ()

def secured {α : Type} (outcome : Except DownloadError α) : Commit α :=
  Act.ofExcept (outcome.mapError .security)

/-- `except OSError: pass` -/
def passOsError : CommitError → Commit Unit
  | .security e => throw (.security e)
  | _ => pure ()

/-- `try: … except OSError: pass` -/
def swallow (m : Commit Unit) : Commit Unit := tryCatch m passOsError

/-! ## Verification -/

inductive DownloadMimeSource
  | responseHeader | contentSignature | extension | unknown
  deriving DecidableEq, Repr

structure MimeEvidence where
  responseHeader : Option (List Char)
  contentSignature : Option (List Char)
  extension : Option (List Char)
  conflict : Bool
  deriving DecidableEq, Repr

/-- What `verify_handle` returns. -/
structure Verified where
  size : Nat
  mime : Option (List Char)
  mimeSource : DownloadMimeSource
  mimeEvidence : MimeEvidence
  checksum : Option String
  identity : FileIdentity
  internalChecksum : String
  deriving DecidableEq, Repr

def isUtf8 (content : Bytes) : Bool := (ByteArray.mk content.toArray).validateUTF8

/-- The magic numbers and their types. -/
def signatures : List (Bytes × String) :=
  [([0x4D, 0x5A], "application/x-msdownload"),
    ([0x7F, 0x45, 0x4C, 0x46], "application/x-executable"),
    ([0x25, 0x50, 0x44, 0x46, 0x2D], "application/pdf"),
    ([0x89, 0x50, 0x4E, 0x47, 0x0D, 0x0A, 0x1A, 0x0A], "image/png"),
    ([0x50, 0x4B, 0x03, 0x04], "application/zip"),
    ([0xFF, 0xD8, 0xFF], "image/jpeg")]

/-- `_signature_mime` -/
def signatureMime (start : Bytes) : Option (List Char) :=
  match signatures.find? fun (magic, _) => magic.isPrefixOf start with
  | some (_, mime) => some mime.toList
  | none => if start ≠ [] ∧ 0 ∉ start ∧ isUtf8 start then some "text/plain".toList else none

def isMimeChar (c : Char) : Bool :=
  ('a' ≤ c && c ≤ 'z') || c.isDigit || c ∈ "!#$&^_.+-".toList

/-- `[a-z0-9!#$&^_.+-]+/[a-z0-9!#$&^_.+-]+` -/
def isMime (value : List Char) : Bool :=
  match partition '/' value with
  | some (type, subtype) =>
      type ≠ [] && type.all isMimeChar && subtype ≠ [] && subtype.all isMimeChar
  | none => false

/-- `normalize_mime` -/
def normalizeMime (value : Option (List Char)) : Option (List Char) :=
  value.bind fun value =>
    let normalized := library.lower (stripBy isSpace (cut ';' value).1)
    if value ≠ [] ∧ isMime normalized then some normalized else none

/-- The evidence of the type of a file. -/
def mimeEvidence (name : List Char) (content : Bytes) : MimeEvidence :=
  let responseHeader := normalizeMime library a.responseMime
  let contentSignature := signatureMime (content.take 4096)
  let extension := normalizeMime library (library.guessType name)
  { responseHeader
    contentSignature
    extension
    conflict := 1 < ([responseHeader, contentSignature, extension].filterMap id).eraseDups.length }

/-- The type that the evidence is taken to show. -/
def authoritativeMime (evidence : MimeEvidence) : Option (List Char) × DownloadMimeSource :=
  match evidence.responseHeader, evidence.contentSignature, evidence.extension with
  | some mime, _, _ => (some mime, .responseHeader)
  | none, some mime, _ => (some mime, .contentSignature)
  | none, none, some mime =>
      if a.policy.allowExtensionDerivedMime then (some mime, .extension) else (none, .unknown)
  | none, none, none => (none, .unknown)

local instance lawfulBEq_text : LawfulBEq (List Char) := inferInstance

/-- The checks of the size and of the extension. -/
def checkSize (stat : Stat) (name : List Char) : Except DownloadError Unit :=
  let size := stat.identity.stSize
  let extension := library.lower (splitSuffix name).2
  let extensions := a.request.allowedExtensions
  if !stat.regular then reject .checksumFailed "staging object is not a regular file"
  else if a.request.minimumBytes.any (size < ·) then
    reject .sizeLimitExceeded "download is below minimum byte size"
  else if a.request.maximumBytes.any (· < size) then
    reject .sizeLimitExceeded "download exceeds maximum byte size"
  else if extensions ≠ [] ∧ extension ∉ extensions.map library.lower then
    reject .extensionNotAllowed "download extension is not allowed"
  else .ok ()

/-- The checks of the type. -/
def checkMime (evidence : MimeEvidence) : Except DownloadError Unit :=
  let allowed := a.request.allowedMimeTypes.map library.lower
  let mime := (authoritativeMime a evidence).1
  if allowed = [] then .ok ()
  else if mime = none ∧ !a.policy.allowUnknownMime then
    reject .mimeTypeNotAllowed "authoritative MIME evidence is unavailable"
  else if mime.any (· ∉ allowed) then
    reject .mimeTypeNotAllowed "download MIME type is not allowed"
  else if evidence.conflict ∧ evidence.contentSignature.any (· ∉ allowed) then
    reject .mimeTypeNotAllowed "MIME evidence conflicts with content signature"
  else .ok ()

/-- `os.fstat`.  The copy is a regular file that nobody else writes to. -/
def fstat (copy : Path) (handle : Handle) : Commit Stat := do
  step (.fstat handle)
  let observed : Stat ← Act.ask (S := StorageSig) (.stat handle)
  match handle with
  | .staged => return observed
  | .candidate =>
      let tree ← get
      let size := (tree.contentAt copy).length
      return { regular := true, identity := { observed.identity with stSize := size } }

/-- What `os.read(fd, 1024 * 1024)` returns until it returns nothing. -/
def readChunks (copy : Path) (handle : Handle) : Commit (List Bytes) :=
  match handle with
  | .staged => do
      let chunks : List Bytes ← Act.ask (S := StorageSig) .reads
      return chunks.takeWhile (· ≠ [])
  | .candidate => do
      let tree ← get
      return (tree.contentAt copy).toChunks 1048576

/-- The loop that hashes a file. -/
def hashLoop (handle : Handle) : List Bytes → Commit Unit
  | [] => do
      check a "hash_verification"
      step (.read handle)
  | _ :: rest => do
      check a "hash_verification"
      step (.read handle)
      hashLoop handle rest

/-- `verify_handle` -/
def verifyHandle (copy : Path) (handle : Handle) (name : List Char) : Commit Verified := do
  let before ← fstat copy handle
  secured (checkSize library a before name)
  step (.seek handle)
  let chunks ← readChunks copy handle
  Act.mapError CommitError.checksumFailed (hashLoop a handle chunks)
  let after ← fstat copy handle
  secured (if after.identity ≠ before.identity then
    reject .checksumFailed "staging object changed during verification" else .ok ())
  let content := chunks.flatten
  let evidence := mimeEvidence library a name content
  secured (checkMime library a evidence)
  return {
    size := before.identity.stSize
    mime := (authoritativeMime a evidence).1
    mimeSource := (authoritativeMime a evidence).2
    mimeEvidence := evidence
    checksum :=
      match a.request.checksumPolicy with
      | .sha256 => some (library.sha256 content)
      | .none => none
    identity := before.identity
    internalChecksum := library.sha256 content }

/-! ## Files -/

def fileExists : OsError := ⟨.fileExists, "[Errno 17] File exists"⟩

/-- `os.open(path, O_CREAT | O_EXCL | O_WRONLY)` -/
def createFile (path : Path) : Commit Unit := do
  let tree ← get
  if (tree path).isSome then throw (.os fileExists)
  else set (Function.update tree path (some (.file [])))

/-- `os.write` at the end of the file. -/
def appendFile (path : Path) (view : Bytes) : Commit Unit :=
  modify fun (tree : Tree) => Function.update tree path (some (.file (tree.contentAt path ++ view)))

/-- `os.link`, which does not replace. -/
def linkFile (source target : Path) : Commit Unit := do
  let tree ← get
  if (tree target).isSome then throw (.os fileExists)
  else set (Function.update tree target (tree source))

/-- `os.replace` -/
def replaceFile (source target : Path) : Commit Unit := do
  let tree ← get
  if tree target = some .directory then throw (.os ⟨.other, "[Errno 21] Is a directory"⟩)
  else set (Function.update (Function.update tree target (tree source)) source none)

/-- `os.unlink` -/
def unlinkFile (path : Path) : Commit Unit := do
  let tree ← get
  match tree path with
  | none => throw (.os ⟨.other, "[Errno 2] No such file or directory"⟩)
  | some .directory => throw (.os ⟨.other, "[Errno 21] Is a directory"⟩)
  | some _ => set (Function.update tree path none)

/-! ## The transaction -/

/-- The loop that writes one chunk; a write takes at least one byte, or raises. -/
def writeAll (copy : Path) : Nat → Bytes → Commit Unit
  | 0, _ => return ()
  | fuel + 1, view =>
      if view = [] then return ()
      else do
        check a "atomic_commit"
        step .write
        let answer : Nat ← Act.ask (S := StorageSig) (.written view)
        let written := min answer view.length
        if written = 0 then throw (.os ⟨.other, "short write while committing download"⟩)
        else do
          appendFile copy (view.take written)
          writeAll copy fuel (view.drop written)

/-- The loop that copies the staged file. -/
def copyLoop (copy : Path) : List Bytes → Commit Unit
  | [] => do
      check a "atomic_commit"
      step (.read .staged)
  | chunk :: rest => do
      check a "atomic_commit"
      step (.read .staged)
      writeAll a copy chunk.length chunk
      copyLoop copy rest

/-- The staged bytes are copied; the bytes that `copied_digest` has seen. -/
def copyStaged (copy : Path) : Commit Bytes := do
  step .createCommit
  createFile copy
  step (.seek .staged)
  let chunks ← readChunks copy .staged
  copyLoop a copy chunks
  step .fsync
  return chunks.flatten

/-- The copy gets the name of the artifact. -/
def publish (copy destination : Path) : Commit Unit :=
  match a.request.collisionPolicy with
  | .replace => do
      checkDirectory .stableDestination
      step .replace
      replaceFile copy destination
  | _ => do
      step .link
      linkFile copy destination
      -- the artifact is there already when this removal fails
      step .unlinkCommit
      unlinkFile copy

/-- The copy is what was staged. -/
def sameFile (staged candidate : Verified) : Except DownloadError Unit :=
  if candidate.size ≠ staged.size ∨ candidate.internalChecksum ≠ staged.internalChecksum then
    reject .checksumFailed "commit candidate integrity mismatch"
  else .ok ()

/-- From the creation of the copy to its publication. -/
def publishStaged (copy destination : Path) (safeName : List Char) (staged : Verified) :
    Commit Unit := do
  let copied ← copyStaged a copy
  let after ← fstat copy .staged
  if after.identity ≠ staged.identity ∨ library.sha256 copied ≠ staged.internalChecksum then do
    swallow do
      step .unlinkChanged
      unlinkFile copy
    throw (.security ⟨"staging object changed before atomic commit", .checksumFailed⟩)
  else do
    step .openCandidate
    let candidate ← verifyHandle library a copy .candidate safeName
    secured (sameFile staged candidate)
    checkDirectory .stableDestination
    publish a copy destination
    swallow (step .unlinkStaging)

/-- The `finally` block. -/
def cleanUp (copy : Path) : Commit Unit := do
  let tree ← get
  if tree.isFound copy then
    swallow do
      step .cleanUp
      unlinkFile copy

/-- From the opening of the staged file to the choice of the name of the copy. -/
def examineStaged (directory : Path) (safeName : List Char) : Commit (Verified × List Char) := do
  step .openStaging
  checkDirectory .pinStaging
  checkDirectory .pinDestination
  check a "integrity_verification"
  let staged ← verifyHandle library a (directory ++ [a.commitName]) .staged safeName
  checkDirectory .stableStaging
  checkDirectory .stableDestination
  let tree ← get
  let final ← secured
    (select (fun name => tree.isFound (directory ++ [name])) safeName a.request.collisionPolicy)
  checkDirectory .containedFile
  check a "atomic_commit"
  return (staged, final)

structure DownloadArtifact where
  /-- The path below the completed downloads. -/
  path : Path
  filename : List Char
  byteSize : Nat
  mimeType : Option (List Char)
  mimeSource : DownloadMimeSource
  mimeEvidence : MimeEvidence
  checksum : Option String
  suggestedFilename : Option (List Char)
  preferredFilename : Option (List Char)
  filenameSanitized : Bool
  deriving DecidableEq, Repr

/-- `_secure_create_chain` of the destination. -/
def makeDirectories (directory : Path) : Commit Unit := do
  step .makeDirectories
  let tree ← get
  secured (if !tree.allowsDirectory directory then
    reject .pathEscapeDetected "unsafe existing ancestor" else .ok ())
  set (tree.withDirectories directory)

/-- `_commit` -/
def commit : Commit DownloadArtifact := do
  check a "destination_validation"
  let (safeName, changed) ← secured (filename library.tables a.policy a.requestedName)
  let directory ← secured (subdirectory library.tables a.policy a.request.destinationSubdirectory)
  makeDirectories directory
  checkDirectory .containedDirectory
  let (staged, final) ←
    Act.mapError CommitError.translate (examineStaged library a directory safeName)
  let copy := directory ++ [a.commitName]
  let destination := directory ++ [final]
  -- before the copy has its name the `finally` block removes nothing
  Act.andFinally
    (Act.mapError CommitError.translate (publishStaged library a copy destination safeName staged))
    (cleanUp copy)
  return {
    path := destination
    filename := final
    byteSize := staged.size
    mimeType := staged.mime
    mimeSource := staged.mimeSource
    mimeEvidence := staged.mimeEvidence
    checksum := staged.checksum
    suggestedFilename := a.suggested
    preferredFilename := a.request.preferredFilename
    filenameSanitized := changed }

end Commit

end Dingdongditch.Download
