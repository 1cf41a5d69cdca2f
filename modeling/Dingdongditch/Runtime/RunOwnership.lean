import Dingdongditch.Runtime.FileQueue
import Dingdongditch.Text.Json

/-!
# Run generations

A run owns a directory of its own under `generations`, a generation.  It is built
under a name that no generation has, and moved to its place when it is complete; then
its lease is taken and `current` names it.  The owner publishes the completion of the
run into it, once.  The operations of the file system are indivisible; the owners of
runs interleave between them, and may stop anywhere.

A temporary file is known to its writer alone, and is modelled by its content.  The
lock of a publication is one of the calls that may fail: nothing here rests on its
being exclusive.
-/

namespace Dingdongditch.RunOwnership

open Interaction Store Text
open FileQueue (NoSig isIdChar)

/-- What an operation on a run raises. -/
inductive Failure
  /-- `FileExistsError` of `mkdir` -/
  | fileExists
  /-- `FileNotFoundError` -/
  | notFound
  /-- The `OSError` of a directory that has files. -/
  | notEmpty
  /-- The `OSError` of a lease that another owner holds. -/
  | leased
  | invalidGenerationId
  | invalidOutcome
  | alreadyTerminal
  | raised (e : PyException)
  deriving DecidableEq

variable {F : Type}

/-- What is in a file. -/
inductive Content (F : Type)
  | bytes (bytes : List UInt8)
  | document (fields : List (String × Json F))

/-- The files of one directory. -/
abbrev Contents (F : Type) : Type := Directory String (Content F)

/-- `root` -/
structure Root (F : Type) where
  /-- The directories under `generations`. -/
  generations : Directory String (Contents F) := []
  /-- The generations whose `.lease` is locked. -/
  leased : List String := []
  /-- The text of `current`. -/
  current : Option String := none

inductive Method (F : Type)
  /-- `mkdir(parents=False, exist_ok=False)` -/
  | mkdir (name : String)
  /-- `mkdir(parents=True, exist_ok=True)` -/
  | ensure (name : String)
  /-- The opening of a file for writing, or `os.replace` of a temporary file onto it. -/
  | write (name file : String) (content : Content F)
  /-- `os.replace` of a directory onto another -/
  | replace (source destination : String)
  | exists (name : String)
  | iterdir (name : String)
  /-- `unlink(missing_ok=True)` -/
  | unlink (name file : String)
  | rmdir (name : String)
  /-- `flock(LOCK_EX | LOCK_NB)` of the `.lease` of a generation -/
  | lock (generationId : String)
  | unlock (generationId : String)
  /-- `os.replace` of a temporary file onto `current` -/
  | replaceCurrent (generationId : String)

def Method.Reply : Method F → Type
  | .mkdir _ => Unit
  | .ensure _ => Unit
  | .write _ _ _ => Unit
  | .replace _ _ => Unit
  | .exists _ => Bool
  | .iterdir _ => List String
  | .unlink _ _ => Unit
  | .rmdir _ => Unit
  | .lock _ => Unit
  | .unlock _ => Unit
  | .replaceCurrent _ => Unit

namespace Root

/-- The root with another content of one directory. -/
def put (root : Root F) (name : String) (contents : Contents F) : Root F :=
  { root with generations := root.generations.write name contents }

/-- An operation on the files of a directory. -/
def inside {α : Type} (root : Root F) (name : String) (f : Contents F → Except Failure α × Contents F) :
    Except Failure α × Root F :=
  match root.generations.lookup name with
  | none => (.error .notFound, root)
  | some contents => ((f contents).1, root.put name (f contents).2)

/-- `os.replace` moves a directory to a place where none is, or one without files. -/
def replace (root : Root F) (source destination : String) : Except Failure Unit × Root F :=
  match root.generations.lookup source with
  | none => (.error .notFound, root)
  | some contents =>
      if (root.generations.lookup destination).getD [] = [] then
        (.ok (), { root with
          generations := (root.generations.remove source).write destination contents })
      else (.error .notEmpty, root)

def rmdir (root : Root F) (name : String) : Except Failure Unit × Root F :=
  match root.generations.lookup name with
  | none => (.error .notFound, root)
  | some [] => (.ok (), { root with generations := root.generations.remove name })
  | some (_ :: _) => (.error .notEmpty, root)

/-- `_lock`: a file that is there is not empty, and is locked unless it already is. -/
def lock (root : Root F) (generationId : String) : Except Failure Unit × Root F :=
  if ¬ root.generations.Has generationId then (.error .notFound, root)
  else if generationId ∈ root.leased then (.error .leased, root)
  else (.ok (), { root with leased := generationId :: root.leased })

/-- What an indivisible operation answers and leaves. -/
def apply (root : Root F) : (method : Method F) → Except Failure method.Reply × Root F
  | .mkdir name =>
      if root.generations.Has name then (.error .fileExists, root) else (.ok (), root.put name [])
  | .ensure name => (.ok (), if root.generations.Has name then root else root.put name [])
  | .write name file content => root.inside name fun contents => (.ok (), contents.write file content)
  | .replace source destination => root.replace source destination
  | .exists name => (.ok (decide (root.generations.Has name)), root)
  | .iterdir name => root.inside name fun contents => (.ok (contents.map Prod.fst), contents)
  | .unlink name file => root.inside name fun contents => (.ok (), contents.remove file)
  | .rmdir name => root.rmdir name
  | .lock generationId => root.lock generationId
  | .unlock generationId => (.ok (), { root with leased := root.leased.erase generationId })
  | .replaceCurrent generationId => (.ok (), { root with current := some generationId })

end Root

def fileSystem (F : Type) : Component NoSig (Root F) Failure where
  Method := Method F
  Reply := Method.Reply
  body method := fun root => .done (root.apply method)

/-! ## The operations -/

inductive WorldCall (F : Type)
  /-- `uuid.uuid4().hex` -/
  | uuid
  /-- `os.getpid()` -/
  | pid
  /-- `socket.gethostname()` -/
  | hostname
  /-- `time.time()` -/
  | time
  /-- The making of the directories above the generations. -/
  | mkdirRoot
  /-- `json.dumps` -/
  | dumps (fields : List (String × Json F))
  /-- The lock of a publication, which is waited for. -/
  | guard
  /-- The writing of a temporary file. -/
  | writeTemporary
  /-- `os.fsync` -/
  | fsync

def WorldSig (F : Type) : Sig where
  Call := WorldCall F
  Answer
    | .uuid => String
    | .pid => Int
    | .hostname => String
    | .time => F
    | .mkdirRoot => Except Failure Unit
    | .dumps _ => Except Failure Unit
    | .guard => Except Failure Unit
    | .writeTemporary => Except Failure Unit
    | .fsync => Except Failure Unit

/-- `RunDirectoryLease`, as far as it changes: `_handle is not None` and `_finished`. -/
structure Lease where
  held : Bool := false
  finished : Bool := false

abbrev RunSig (F : Type) : Sig := (fileSystem F).calls.sum (WorldSig F)

abbrev RunAct (F α : Type) : Type := Act (RunSig F) Lease Failure α

/-- An operation of the file system. -/
def file (method : Method F) : RunAct F method.Reply :=
  Act.attempt (S := RunSig F) (.inl method) id

def uuid : RunAct F String := Act.ask (S := RunSig F) (.inr .uuid)

def pid : RunAct F Int := Act.ask (S := RunSig F) (.inr .pid)

def hostname : RunAct F String := Act.ask (S := RunSig F) (.inr .hostname)

def time : RunAct F F := Act.ask (S := RunSig F) (.inr .time)

def mkdirRoot : RunAct F Unit := Act.attempt (S := RunSig F) (.inr .mkdirRoot) id

def dumps (fields : List (String × Json F)) : RunAct F Unit :=
  Act.attempt (S := RunSig F) (.inr (.dumps fields)) id

def guard : RunAct F Unit := Act.attempt (S := RunSig F) (.inr .guard) id

def writeTemporary : RunAct F Unit := Act.attempt (S := RunSig F) (.inr .writeTemporary) id

def fsync : RunAct F Unit := Act.attempt (S := RunSig F) (.inr .fsync) id

def refuse (bad : Bool) (e : Failure) : RunAct F Unit :=
  Act.ofExcept (if bad then .error e else .ok ())

/-- The name of the file that a publication locks. -/
def lockFile (name : String) : String := "." ++ name ++ ".publication.lock"

/-- `publish_bytes` into a directory -/
def publishBytes (name path : String) (content : Content F) : RunAct F Unit := do
  file (.ensure name)
  file (.ensure name)
  file (.write name (lockFile path) (.bytes [0]))
  guard
  writeTemporary
  file (.write name path content)

/-- `publish_json` -/
def publishJson (name path : String) (fields : List (String × Json F)) : RunAct F Unit := do
  dumps fields
  publishBytes name path (.document fields)

/-- `publish_text(root / "current", generation_id)` -/
def publishCurrent (generationId : String) : RunAct F Unit := do
  mkdirRoot
  guard
  writeTemporary
  file (.replaceCurrent generationId)

/-- `generation_id or uuid.uuid4().hex` -/
def chooseId (generationId : Option String) : RunAct F String :=
  match generationId.filter (· ≠ "") with
  | some generationId => pure generationId
  | none => uuid

/-- A name that a generation may have. -/
def IsGenerationId (name : String) : Prop := name ≠ "" ∧ name.toList.all isIdChar

instance (name : String) : Decidable (IsGenerationId name) := inferInstanceAs (Decidable (_ ∧ _))

/-- The content of `owner.json`. -/
def ownerDocument (generationId host : String) (pid : Int) (now : F) : List (String × Json F) := [
  ("generation_id", .str generationId),
  ("pid", .int pid),
  ("host", .str host),
  ("created_at_epoch", .float now)]

/-- The content of `manifest.json`. -/
def manifestDocument (generationId : String) (now : F) : List (String × Json F) := [
  ("generation_id", .str generationId),
  ("state", .str "active"),
  ("published_at_epoch", .float now)]

/-- The content of `completion.json`. -/
def completionDocument (generationId outcome : String) (now : F) (detail : List (String × Json F)) :
    List (String × Json F) := [
  ("generation_id", .str generationId),
  ("state", .str "terminal"),
  ("outcome", .str outcome),
  ("finished_at_epoch", .float now),
  ("detail", .dict detail)]

/-- The files of a new generation, and its move to its place. -/
def build (staging generationId : String) : RunAct F Unit := do
  let pid ← pid
  let host ← hostname
  let created ← time
  publishJson staging "owner.json" (ownerDocument generationId host pid created)
  let published ← time
  publishJson staging "manifest.json" (manifestDocument generationId published)
  file (.write staging ".lease" (.bytes []))
  file (.write staging ".lease" (.bytes [0]))
  fsync
  file (.replace staging generationId)

/-- The files that are removed, as they were listed. -/
def unlinkAll (staging : String) : List String → RunAct F Unit
  | [] => pure ()
  | item :: later => do
      file (.unlink staging item)
      unlinkAll staging later

def unlinkFiles (staging : String) (there : Bool) : RunAct F Unit :=
  if there then do
    let items : List String ← file (.iterdir staging)
    unlinkAll staging items
  else pure ()

/-- The removal of what was built. -/
def clean (staging : String) : RunAct F Unit := do
  let there : Bool ← file (.exists staging)
  unlinkFiles staging there
  let still : Bool ← file (.exists staging)
  if still then file (.rmdir staging)

/-- `acquire_run_generation`; the lease is the state. -/
def acquireRunGeneration (generationId : Option String) : RunAct F String := do
  mkdirRoot
  let generationId ← chooseId generationId
  refuse (¬ IsGenerationId generationId) .invalidGenerationId
  let unique ← uuid
  let staging := ".building-" ++ generationId ++ "-" ++ unique
  file (.mkdir staging)
  tryCatch (build staging generationId) fun e => do
    clean staging
    throw e
  file (.lock generationId)
  set { held := true : Lease }
  publishCurrent generationId
  return generationId

def outcomes : List String := ["completed", "failed", "stopped"]

/-- `finish` -/
def finish (generationId outcome : String) (detail : List (String × Json F)) : RunAct F Unit := do
  refuse (outcome ∉ outcomes) .invalidOutcome
  let lease ← get
  refuse lease.finished .alreadyTerminal
  let now ← time
  publishJson generationId "completion.json" (completionDocument generationId outcome now detail)
  modify fun lease => { lease with finished := true }

/-- The completion of a run whose owner gave none. -/
def finishStopped (generationId : String) (lease : Lease) : RunAct F Unit :=
  if lease.finished then pure ()
  else finish generationId "stopped" [("reason", .str "owner_closed_without_outcome")]

/-- The end of a lease that is held. -/
def closeHeld (generationId : String) (lease : Lease) : RunAct F Unit :=
  Act.andFinally
    (do
      finishStopped generationId lease
      file (.unlock generationId))
    (modify fun lease => { lease with held := false })

/-- `close` -/
def close (generationId : String) : RunAct F Unit := do
  let lease ← get
  if lease.held then closeHeld generationId lease

/-- What the owner of a run does with its lease. -/
inductive Use (F : Type)
  | finish (outcome : String) (detail : List (String × Json F))
  | close

def Use.act (generationId : String) : Use F → RunAct F Unit
  | .finish outcome detail => RunOwnership.finish generationId outcome detail
  | .close => RunOwnership.close generationId

/-- The uses of a lease, of which each may raise. -/
def useAll (generationId : String) : List (Use F) → RunAct F Unit
  | [] => pure ()
  | use :: later => do
      tryCatch (use.act generationId) fun _ => pure ()
      useAll generationId later

/-- A run: a generation is acquired, and its lease is used. -/
structure Task (F : Type) where
  generationId : Option String := none
  uses : List (Use F) := []

def Task.act (task : Task F) : RunAct F Unit := do
  let generationId ← acquireRunGeneration task.generationId
  useAll generationId task.uses

def Task.program (task : Task F) : Prog (RunSig F) (Except Failure Unit × Lease) :=
  task.act {}

end Dingdongditch.RunOwnership
