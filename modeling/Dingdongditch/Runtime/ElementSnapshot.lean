import Dingdongditch.Runtime.Backend
import Dingdongditch.Runtime.TargetResolver
import Dingdongditch.Text.Dict

/-!
# Element snapshots

What the backend reports about one target: it is resolved once, and the element is
read by one script, or reader by reader where the script is not supported.
-/

namespace Dingdongditch.Resolver

open Interaction Text

inductive SnapshotAvailability
  | available | missing | ambiguous | unavailable
  deriving DecidableEq, Repr

/-- A snapshot, with the failure kind of the resolution trace that it holds. -/
structure ElementStateSnapshot where
  availability : SnapshotAvailability
  matchCount : Nat
  exists_ : Bool
  ambiguous : Bool := false
  visible : Option Bool := none
  inViewport : Option Bool := none
  text : Option String := none
  attributes : List (String × Option String) := []
  fileNames : List String := []
  fileCount : Option Int := none
  error : Option String := none
  failureKind : Option String := none
  deriving DecidableEq, Repr

/-- `to_legacy_state`; a key that is missing reads as `None`. -/
def ElementStateSnapshot.toLegacyState (snapshot : ElementStateSnapshot) : ElementState :=
  match snapshot.availability with
  | .missing => { exists_ := false }
  | .ambiguous => { exists_ := true, ambiguous := true }
  | _ => {
      exists_ := snapshot.exists_
      visible := snapshot.visible
      inViewport := snapshot.inViewport
      text := some (snapshot.text.getD "")
      attributes := snapshot.attributes
      fileNames := snapshot.fileNames
      fileCount := snapshot.fileCount }

def LEGACY_ATTRIBUTE_NAMES : List String :=
  ["data-state", "aria-pressed", "value", "class", "id", "data-testid", "data-purpose", "data-value",
    "data-agree", "data-prefers"]

/-- `tuple(dict.fromkeys((*LEGACY_ATTRIBUTE_NAMES, *attribute_names)))[:24]` -/
def snapshotNames (attributeNames : List String) : List String :=
  (LEGACY_ATTRIBUTE_NAMES ++ attributeNames).eraseDups.take 24

/-- `_element_in_viewport`, which catches every exception. -/
def elementInViewport (element : Element) : PageAct (Option Bool) :=
  Act.attempt (S := PageSig) (.inViewport element) fun answer => match answer with
    | .ok (inside : Bool) => .ok (some inside)
    | .error _ => .ok none

/-- The attributes that the serial snapshot reads. -/
def readAttributes (element : Element) (names : List String) :
    PageAct (List (String × Option String)) :=
  names.mapM fun name => do
    let value : Option String ← readOr (.readAttribute element name) none
    return (name, value)

/-- `handle.inner_text() if visible else handle.text_content()` -/
def serialText (element : Element) (visible : Bool) : PageAct (Option String) :=
  if visible then do
    let text : String ← read (.innerText element)
    return some text
  else read (.textContent element)

/-- `_serial_element_snapshot` -/
def serialElementSnapshot (element : Element) (fallbackError : String)
    (attributeNames : List String) : PageAct ElementStateSnapshot := do
  let visible : Bool ← read (.isVisible element)
  let _enabled : Bool ← read (.isEnabled element)
  let text ← serialText element visible
  let attributes ← readAttributes element (snapshotNames attributeNames)
  let value ← caught (.inputValue element)
  let attributes := match value with
    | .ok (value : String) => assign attributes "value" (some value)
    | .error _ => attributes
  let _checked ← caught (.isChecked element)
  let files : Option (List String) ← readOr (.uploadedFiles element) none
  let fileNames := files.getD []
  let inViewport ← elementInViewport element
  return {
    availability := .available
    matchCount := 1
    exists_ := true
    visible := some visible
    inViewport
    text := some (text.getD "")
    attributes
    fileNames
    fileCount := some fileNames.length
    error := some fallbackError }

/-- `_atomic_element_snapshot`, and the serial one where it is not supported. -/
def elementSnapshot (element : Element) (attributeNames : List String) :
    PageAct ElementStateSnapshot := do
  let result : AtomicResult ← read (.atomicSnapshot element (snapshotNames attributeNames))
  match result with
  | .unsupported reason => serialElementSnapshot element reason attributeNames
  | .disconnected =>
      return {
        availability := .unavailable
        matchCount := 1
        exists_ := true
        error := some "element detached during atomic snapshot" }
  | .connected raw =>
      return {
        availability := .available
        matchCount := 1
        exists_ := true
        visible := some raw.visible
        inViewport := some raw.inViewport
        text := some raw.text
        attributes := raw.attributes
        fileNames := raw.fileNames
        fileCount := some raw.fileCount }

/-- `capture_element_snapshot` -/
def captureElementSnapshot (target : Target) (framePath : List Target)
    (attributeNames : List String) : PageAct ElementStateSnapshot := do
  let resolved ← resolveScopedTarget target framePath
  if resolved.matchCount = 0 then
    return {
      availability := .missing, matchCount := 0, exists_ := false
      failureKind := resolved.failureKind }
  match resolved.element with
  | none =>
      return {
        availability := .ambiguous, matchCount := resolved.matchCount, exists_ := true
        ambiguous := true, failureKind := resolved.failureKind }
  | some element => elementSnapshot element attributeNames

/-- `read_element_state` -/
def readElementState (target : Target) (framePath : List Target) (attributeNames : List String) :
    PageAct ElementState := do
  let snapshot ← captureElementSnapshot target framePath attributeNames
  return snapshot.toLegacyState

end Dingdongditch.Resolver
