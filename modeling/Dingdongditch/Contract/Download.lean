import Dingdongditch.Contract.Target
import Dingdongditch.Text.Percent
import Mathlib.Algebra.GroupWithZero.Nat

/-!
# Download contracts

The policy of a session, the names under which it stores what a page offers, and the
choice of a name that is not taken.
-/

namespace Dingdongditch

open Text

inductive DownloadCollisionPolicy
  | uniquify | reject | replace
  deriving DecidableEq, Repr

inductive DownloadChecksumPolicy
  | sha256 | none
  deriving DecidableEq, Repr

inductive DownloadFailureReason
  | checksumFailed | filenameRejected | destinationRejected | pathEscapeDetected
  | collisionRejected | sizeLimitExceeded | extensionNotAllowed | mimeTypeNotAllowed
  | permissionDenied | atomicCommitFailed | downloadTimeout
  deriving DecidableEq, Repr

structure DownloadPolicy where
  maxFilenameLength : Nat := 180
  maxSubdirectoryDepth : Nat := 8
  allowUnknownMime : Bool := false
  allowExtensionDerivedMime : Bool := false
  deriving DecidableEq, Repr

def DownloadPolicy.validate (policy : DownloadPolicy) : Except PyException Unit := do
  rejectIf (policy.maxFilenameLength < 32) "max_filename_length must be >= 32"
  rejectIf (policy.maxSubdirectoryDepth > 32) "max_subdirectory_depth must be between 0 and 32"

/-- `DownloadSecurityError` -/
structure DownloadError where
  message : String
  reason : DownloadFailureReason
  deriving DecidableEq, Repr

/-- The tables of `unicodedata` and of `str.upper`, which maps each character to one or
more; a left parenthesis has no other case. -/
structure UnicodeTables where
  nfc : List Char → List Char
  upperChar : Char → List Char
  upper_paren : upperChar '(' = ['(']

def UnicodeTables.upper (tables : UnicodeTables) (s : List Char) : List Char :=
  s.flatMap tables.upperChar

/-! ## Names -/

namespace Download

/-- `_RESERVED` -/
def RESERVED : List (List Char) :=
  (["CON", "PRN", "AUX", "NUL"] ++
    ((List.range 9).map fun i => "COM" ++ toString (i + 1)) ++
    (List.range 9).map fun i => "LPT" ++ toString (i + 1)).map String.toList

/-- `_CONTROL` -/
def isControl (c : Char) : Bool := c.toNat < 0x20 || c.toNat = 0x7F

/-- `_DRIVE` -/
def hasDrive : List Char → Bool
  | letter :: ':' :: _ => letter.isAlpha
  | _ => false

/-- The characters that `rstrip(" .")` drops. -/
def isTrailing (c : Char) : Bool := c = ' ' || c = '.'

/-- `value.split(".", 1)[0]` -/
def firstPart (value : List Char) : List Char := (cut '.' value).1

/-- `Path(value).stem` and `Path(value).suffix` of a name. -/
def splitSuffix (name : List Char) : List Char × List Char :=
  match rpartition '.' name with
  | some (before, after) =>
      if before ≠ [] ∧ after ≠ [] then (before, '.' :: after) else (name, [])
  | none => (name, [])

/-- `len(value.encode("utf-8"))` -/
def utf8Length (value : List Char) : Nat := (value.map Char.utf8Size).sum

section Resolver

variable (tables : UnicodeTables) (policy : DownloadPolicy)

def isReserved (value : List Char) : Bool := tables.upper (firstPart value) ∈ RESERVED

def reject {α : Type} (reason : DownloadFailureReason) (message : String) : Except DownloadError α :=
  .error ⟨message, reason⟩

/-- `unicodedata.normalize("NFC", unquote(value))` -/
def decoded (value : List Char) : List Char := tables.nfc (unquote value)

/-- The part of a name that is kept where it is too long. -/
def truncate (value : List Char) : Except DownloadError (List Char) :=
  let suffix := (splitSuffix value).2
  if value.length > policy.maxFilenameLength then
    if policy.maxFilenameLength < suffix.length + 1 then
      reject .filenameRejected "filename suffix leaves no safe stem"
    else .ok (value.take (policy.maxFilenameLength - suffix.length) ++ suffix)
  else .ok value

/-- `SafeFilenameResolver.filename` -/
def filename (value : List Char) : Except DownloadError (List Char × Bool) := do
  let original := value
  let value := decoded tables value
  if value = [] ∨ value = ['.'] ∨ value = ['.', '.'] ∨ value.any isControl then
    reject .filenameRejected "unsafe or empty filename"
  else if '/' ∈ value ∨ '\\' ∈ value ∨ hasDrive value then
    reject .filenameRejected "filename contains path components"
  else if ':' ∈ value then
    reject .filenameRejected "filename contains alternate-stream/device separator"
  else
    let value := rstripBy isTrailing value
    if value = [] ∨ stripBy (fun c => c = '.') value = [] then
      reject .filenameRejected "filename normalizes to empty"
    else if isReserved tables value then
      reject .filenameRejected "reserved platform filename"
    else do
      let value ← truncate policy value
      if value.length > policy.maxFilenameLength ∨ utf8Length value > 255 then
        reject .filenameRejected "filename exceeds platform-safe length"
      else return (value, decide (value ≠ original))

/-- The check of one component of the destination. -/
def component (part : List Char) : Except DownloadError Unit :=
  if part = [] ∨ part = ['.'] ∨ part = ['.', '.'] ∨ part.any isControl ∨ ':' ∈ part ∨
      rstripBy isTrailing part ≠ part then
    reject .pathEscapeDetected "unsafe destination component"
  else if isReserved tables part then
    reject .destinationRejected "reserved destination component"
  else .ok ()

def isSeparator (c : Char) : Bool := c = '\\' || c = '/'

/-- `re.split(r"[\\/]", decoded)` -/
def components (value : List Char) : List (List Char) := value.splitOnP isSeparator

/-- `SafeFilenameResolver.subdirectory`: the components of the path. -/
def subdirectory (value : Option (List Char)) : Except DownloadError (List (List Char)) :=
  match value.getD [] with
  | [] => .ok []
  | value =>
      let decoded := decoded tables value
      if '\x00' ∈ decoded ∨ hasDrive decoded ∨ decoded.head?.any isSeparator then
        reject .destinationRejected "absolute/device destination rejected"
      else if (components decoded).length > policy.maxSubdirectoryDepth then
        reject .destinationRejected "destination too deep"
      else do
        (components decoded).forM (component tables)
        return components decoded

end Resolver

/-! ## Collisions -/

/-- ` (index)` -/
def collisionTag (index : Nat) : List Char := " (".toList ++ Nat.toDigits 10 index ++ [')']

/-- `path.with_name(f"{path.stem} ({index}){path.suffix}")` -/
def uniquified (name : List Char) (index : Nat) : List Char :=
  (splitSuffix name).1 ++ collisionTag index ++ (splitSuffix name).2

/-- `CollisionResolver.select` in a directory in which the names with `taken` exist. -/
def select (taken : List Char → Bool) (name : List Char) (policy : DownloadCollisionPolicy) :
    Except DownloadError (List Char) :=
  if !taken name then .ok name
  else
    match policy with
    | .reject => reject .collisionRejected "destination already exists"
    | .replace => .ok name
    | .uniquify =>
        match (List.range' 1 9999).find? fun index => !taken (uniquified name index) with
        | some index => .ok (uniquified name index)
        | none => reject .collisionRejected "unable to select collision-safe path"

end Download

end Dingdongditch
