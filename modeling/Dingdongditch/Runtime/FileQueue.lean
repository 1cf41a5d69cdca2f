import Dingdongditch.Contract.Value
import Dingdongditch.Interaction.Clients
import Dingdongditch.Store.Directory

/-!
# The file queue

A queue of messages in three directories.  Publishing links a complete file into
`pending`, claiming moves a file to `claimed`, and completing writes the result to
`completed` and removes the claimed file.  The operations of the file system are
indivisible; publishers and workers interleave between them.

A temporary file is known to its writer alone, and is modelled by its content.
-/

namespace Dingdongditch.FileQueue

open Interaction Store

/-- What an operation of the queue raises. -/
inductive Failure
  /-- `FileExistsError` of the link -/
  | fileExists
  /-- `FileNotFoundError` of the removal -/
  | fileNotFound
  /-- `PublicationUnavailableError` -/
  | unavailable
  | invalidMessageId
  | notOwned
  | raised (e : PyException)
  deriving DecidableEq, Repr

/-- The turning of payloads and results into texts. -/
structure Codec (P : Type) where
  dumps : P → Except PyException String
  loads : String → Option P

/-- A message that a worker owns, with the directory that its file is in. -/
structure ClaimedMessage (P : Type) where
  directory : String
  messageId : String
  unique : String
  payload : P
  deriving DecidableEq

/-- The name of the claimed file. -/
def ClaimedMessage.file {P : Type} (claim : ClaimedMessage P) : String × String :=
  (claim.messageId, claim.unique)

/-- The locks: the lease of the claiming worker, and the guards of publications. -/
inductive Lock
  | claim
  | pending (messageId : String)
  | completed (messageId : String)
  deriving DecidableEq, Repr

structure Files where
  pending : Directory String String := []
  claimed : Directory (String × String) String := []
  completed : Directory String String := []
  locks : List Lock := []

/-- The file system asks nothing. -/
def NoSig : Sig where
  Call := Empty
  Answer := Empty.elim

abbrev FilesAct (α : Type) : Type := Act NoSig Files Failure α

inductive Method (P : Type)
  /-- `os.link` of a temporary file with this content -/
  | link (messageId content : String)
  /-- `sorted(self.pending.glob("*.json"))` -/
  | listPending
  | readPending (messageId : String)
  /-- `os.replace(pending, claimed)`; `false` when there is no such pending file -/
  | move (messageId unique : String)
  /-- The ownership check of `complete`, which is to publish this result. -/
  | owns (claim : ClaimedMessage P) (result : P)
  /-- `os.replace` of a temporary file with this content -/
  | replaceCompleted (messageId content : String)
  | unlinkClaimed (file : String × String)
  | acquire (lock : Lock)
  | release (lock : Lock)

variable {P : Type}

def Method.Reply : Method P → Type
  | .link _ _ => Unit
  | .listPending => List String
  | .readPending _ => Option String
  | .move _ _ => Bool
  | .owns _ _ => Bool
  | .replaceCompleted _ _ => Unit
  | .unlinkClaimed _ => Unit
  | .acquire _ => Unit
  | .release _ => Unit

/-- A move of a pending file. -/
def Files.move (files : Files) (messageId unique content : String) : Files := { files with
  pending := files.pending.remove messageId
  claimed := files.claimed.write (messageId, unique) content }

/-- The order of the names of the pending files. -/
def nameLe (a b : String) : Bool := a ++ ".json" ≤ b ++ ".json"

/-- An indivisible operation. -/
def atomically {α : Type} (f : Files → Except Failure α × Files) : FilesAct α :=
  fun files => .done (f files)

/-- A lease is waited for. -/
def acquire (lock : Lock) : FilesAct Unit := fun files =>
  if lock ∈ files.locks then .diverge
  else .done (.ok (), { files with locks := lock :: files.locks })

/-- `directory` is that of the claimed files of this queue. -/
def body (directory : String) : (method : Method P) → FilesAct method.Reply
  | .link messageId content => atomically fun files =>
      if files.pending.Has messageId then (.error .fileExists, files)
      else (.ok (), { files with pending := files.pending.write messageId content })
  | .listPending => atomically fun files =>
      (.ok ((files.pending.map Prod.fst).mergeSort nameLe), files)
  | .readPending messageId => atomically fun files => (.ok (files.pending.lookup messageId), files)
  | .move messageId unique => atomically fun files =>
      match files.pending.lookup messageId with
      | none => (.ok false, files)
      | some content => (.ok true, files.move messageId unique content)
  | .owns claim _ => atomically fun files =>
      (.ok (decide (claim.directory = directory ∧ files.claimed.Has claim.file)), files)
  | .replaceCompleted messageId content => atomically fun files =>
      (.ok (), { files with completed := files.completed.write messageId content })
  | .unlinkClaimed file => atomically fun files =>
      (if files.claimed.Has file then .ok () else .error .fileNotFound,
        { files with claimed := files.claimed.remove file })
  | .acquire lock => acquire lock
  | .release lock => atomically fun files => (.ok (), { files with locks := files.locks.erase lock })

def fileSystem (P : Type) (directory : String) : Component NoSig Files Failure where
  Method := Method P
  Reply := Method.Reply
  body := body directory

/-! ## The operations -/

inductive WorldCall
  /-- `uuid.uuid4().hex` -/
  | uuid
  /-- The writing of a temporary file. -/
  | writeTemporary (content : String)

def WorldSig : Sig where
  Call := WorldCall
  Answer
    | .uuid => String
    | .writeTemporary _ => Except Failure Unit

variable {directory : String}

abbrev QueueSig (P : Type) (directory : String) : Sig := (fileSystem P directory).calls.sum WorldSig

abbrev QueueAct (P : Type) (directory : String) (α : Type) : Type :=
  Act (QueueSig P directory) Unit Failure α

/-- An operation of the file system. -/
def file (method : Method P) : QueueAct P directory method.Reply :=
  Act.attempt (S := QueueSig P directory) (.inl method) id

def uuid : QueueAct P directory String := Act.ask (S := QueueSig P directory) (.inr .uuid)

def writeTemporary (content : String) : QueueAct P directory Unit :=
  Act.attempt (S := QueueSig P directory) (.inr (.writeTemporary content)) id

/-- The close of a lease, which does not fail. -/
def unlock (lock : Lock) : QueueAct P directory Unit :=
  Act.attempt (S := QueueSig P directory) (.inl (.release lock)) fun _ => .ok ()

/-- What is done under a lock. -/
def withLock {α : Type} (lock : Lock) (work : QueueAct P directory α) : QueueAct P directory α := do
  file (.acquire lock)
  work.andFinally (unlock lock)

inductive Reply (P : Type)
  | published (messageId : String)
  | claimed (claim : Option (ClaimedMessage P))
  | completed (messageId : String)

/-- A character of a message identifier. -/
def isIdChar (c : Char) : Bool := c.isAlphanum || c = '-' || c = '_'

variable (codec : Codec P)

/-- A text for a payload. -/
def encode (payload : P) : Except Failure String := (codec.dumps payload).mapError .raised

/-- `message_id or uuid.uuid4().hex` -/
def chooseId (messageId : Option String) : QueueAct P directory String :=
  match messageId.filter (· ≠ "") with
  | some messageId => pure messageId
  | none => uuid

/-- `publish` -/
def publish (payload : P) (messageId : Option String) : QueueAct P directory (Reply P) := do
  let messageId ← chooseId messageId
  if messageId = "" ∨ !messageId.toList.all isIdChar then throw .invalidMessageId
  let encoded ← Act.ofExcept (encode codec payload)
  writeTemporary encoded
  file (.link messageId encoded)
  return .published messageId

/-- `read_published_json` of a pending file -/
def readPublished (messageId : String) : QueueAct P directory P := do
  let content : Option String ← withLock (.pending messageId) (file (.readPending messageId))
  match (content.filter (· ≠ "")).bind codec.loads with
  | some payload => return payload
  | none => throw .unavailable

/-- The first message of a listing that this worker gets. -/
def claimFirst : List String → QueueAct P directory (Option (ClaimedMessage P))
  | [] => return none
  | messageId :: later => do
      let payload ← readPublished codec messageId
      let unique ← uuid
      let moved : Bool ← file (.move messageId unique)
      if moved then return some ⟨directory, messageId, unique, payload⟩
      else claimFirst later

/-- `claim` -/
def claim : QueueAct P directory (Reply P) := do
  let claimed ← withLock .claim (do
    let listed : List String ← file .listPending
    claimFirst codec listed)
  return .claimed claimed

/-- `complete` -/
def complete (claim : ClaimedMessage P) (result : P) : QueueAct P directory (Reply P) := do
  let owned : Bool ← file (.owns claim result)
  if !owned then throw .notOwned
  let encoded ← Act.ofExcept (encode codec result)
  withLock (.completed claim.messageId) do
    writeTemporary encoded
    file (.replaceCompleted claim.messageId encoded)
  file (.unlinkClaimed claim.file)
  return .completed claim.messageId

/-- What publishers and workers do. -/
inductive Task (P : Type)
  | publish (payload : P) (messageId : Option String)
  | claim
  | complete (claim : ClaimedMessage P) (result : P)

def Task.act : Task P → QueueAct P directory (Reply P)
  | Task.publish payload messageId => FileQueue.publish codec payload messageId
  | Task.claim => FileQueue.claim codec
  | Task.complete claimed result => FileQueue.complete codec claimed result

def Task.program (task : Task P) : Prog (QueueSig P directory) (Except Failure (Reply P) × Unit) :=
  Task.act codec task ()

end Dingdongditch.FileQueue
