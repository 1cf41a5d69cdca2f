import Dingdongditch.Interaction.Stateful
import Dingdongditch.Observation.Capture
import Dingdongditch.Observation.Records
import Dingdongditch.Text.CodePoints
import Mathlib.Algebra.GroupWithZero.Nat

/-!
# The page observer

`observePage` captures the page once, derives an observation from the capture, seals
it with the hash of its content, and publishes it with its commit.  Clocks,
identifiers, the page and the disk are the environment.
-/

namespace Dingdongditch.Observation

open Interaction Text

variable {F : Type} [Floating F] [Json.ReadsFloat F]

/-! ## The backend -/

inductive BrowserProfile
  | benchmark | dingdong | default
  deriving DecidableEq, Repr

def BrowserProfile.value : BrowserProfile → String
  | .benchmark => "benchmark"
  | .dingdong => "dingdong"
  | .default => "default"

/-- `BrowserConfig.profile`: a member of the enumeration, or the name of a profile. -/
inductive ProfileChoice
  | builtin (profile : BrowserProfile)
  | named (name : String)
  deriving DecidableEq, Repr

/-- `profile.value`, which a name does not have. -/
def ProfileChoice.valueAttribute : ProfileChoice → Except PyException String
  | .builtin profile => .ok profile.value
  | .named _ => .error (.attributeError "'str' object has no attribute 'value'")

structure Backend where
  isStarted : Bool
  profile : ProfileChoice
  backendIdentity : String
  browserIdentity : String
  browserSessionId : Option String
  contextId : Option String
  pageId : Option String
  generation : Int
  deriving DecidableEq, Repr

/-- `_browser_binding` -/
def browserBinding (backend : Backend) : List (String × Json F) :=
  [("backend_identity", .str backend.backendIdentity),
    ("browser_identity", .str backend.browserIdentity),
    ("browser_session_id", optionalText backend.browserSessionId),
    ("session_identity", optionalText backend.browserSessionId),
    ("context_id", optionalText backend.contextId),
    ("page_id", optionalText backend.pageId),
    ("backend_generation", .int backend.generation),
    ("binding_generation", .int backend.generation)]

/-! ## The environment -/

inductive ObserveCall
  | nowMs
  | monotonicMs
  | uuid
  | isoNow
  | quiesce (quietMs budgetMs : Int)
  | snapshot (maxElements maxTextBlocks maxRegions maxScrollables maxTextLength : Int)
  | publish (name : String) (text : List Char)
  deriving DecidableEq, Repr

abbrev ObserveCall.Answer (F : Type) : ObserveCall → Type
  | .nowMs => Int
  | .monotonicMs => Int
  | .uuid => String
  | .isoNow => String
  | .quiesce _ _ => Except PyException Unit
  | .snapshot _ _ _ _ _ => Except PyException (RawJson F)
  | .publish _ _ => Except PyException Unit

abbrev ObserveSig (F : Type) : Sig := ⟨ObserveCall, ObserveCall.Answer F⟩

/-- What an observer remembers, and the files of its store. -/
structure ObserverState (F : Type) where
  memory : Memory F
  files : Store.Directory String (List Char)

abbrev ObserveAct (F α : Type) : Type := Act (ObserveSig F) (ObserverState F) PyException α

/-- What an observer takes from the libraries below it. -/
structure ObserverHost (F : Type) where
  /-- `sha256(text.encode()).hexdigest()` -/
  sha256 : List Char → String
  /-- `str.lower` -/
  lower : List Char → List Char
  math : Arithmetic F

namespace ObserveAct

def nowMs : ObserveAct F Int := Act.ask (S := ObserveSig F) .nowMs

def monotonicMs : ObserveAct F Int := Act.ask (S := ObserveSig F) .monotonicMs

def uuid : ObserveAct F String := Act.ask (S := ObserveSig F) .uuid

def isoNow : ObserveAct F String := Act.ask (S := ObserveSig F) .isoNow

end ObserveAct

open ObserveAct

/-- `if cond: raise e` -/
def raiseWhen (cond : Bool) (e : PyException) : ObserveAct F Unit :=
  if cond then throw e else return ()

/-- `require_budget` -/
def requireBudget (deadline : Int) (phase : String) : ObserveAct F Int := do
  let now ← monotonicMs
  raiseWhen (deadline - now ≤ 0) ⟨.other, "observation_budget_exceeded:" ++ phase, none⟩
  return deadline - now

/-! ## Sections of an observation -/

/-- The lists that are cut where the payload is too large, and whether they were. -/
structure Sections (F : Type) where
  visibleText : List (Json F)
  relationships : List (Json F)
  elements : List (Json F)
  truncated : Bool := false

namespace Sections

/-- The last text is dropped first, then a relationship, then an element. -/
def drop (s : Sections F) : Sections F :=
  if s.visibleText ≠ [] then { s with visibleText := s.visibleText.dropLast, truncated := true }
  else if s.relationships ≠ [] then
    { s with relationships := s.relationships.dropLast, truncated := true }
  else { s with elements := s.elements.dropLast, truncated := true }

def count (s : Sections F) : Nat :=
  s.visibleText.length + s.relationships.length + s.elements.length

/-- One item is dropped in a round, while the payload is too large and items are left. -/
def cut (size : Sections F → Nat) (limit : Int) : (rounds : Nat) → Sections F → Sections F
  | 0, s => if limit < size s then { s with truncated := true } else s
  | rounds + 1, s => if limit < size s then cut size limit rounds s.drop else s

def fit (size : Sections F → Nat) (limit : Int) (s : Sections F) : Sections F :=
  cut size limit s.count s

end Sections

/-! ## The values of an observation -/

/-- The identifiers and the times of one capture. -/
structure Moment where
  transactionId : String
  snapshotId : String
  observationId : String
  commitId : String
  startedAtMs : Int
  capturedAtMs : Int
  timestamp : String
  deriving DecidableEq, Repr

def OBSERVATION_STATES : List String :=
  ["requested", "binding", "capturing", "validating", "deriving", "sealed", "committed"]

def EVIDENCE_SOURCES : List String :=
  ["DOM", "ARIA", "accessible-name rules", "computed visibility", "bounding geometry", "hit testing"]

section Values

variable (host : ObserverHost F) (backend : Backend) (options : PageObservationOptions F)
  (capture : Capture F) (moment : Moment)

def diagnostics (truncated : Bool) : Json F :=
  .dict [
    ("capture_duration_ms", .int (moment.capturedAtMs - moment.startedAtMs)),
    ("timing", .dict [
      ("observation_budget_ms", .int options.observationBudgetMs),
      ("mutation_quiescence_ms", .int options.mutationQuiescenceMs),
      ("quiescence_enforced", .bool true),
      ("budget_enforced_before_publication", .bool true)]),
    ("truncated", .dict [
      ("interactive_elements", .bool (capture.elements.length < capture.totalElements)),
      ("regions", .bool (capture.regions.length < capture.totalRegions)),
      ("visible_text", capture.textLimitReached),
      ("relationships", .bool false),
      ("payload", .bool truncated)]),
    ("counts_before_limits", .dict [
      ("interactive_elements", .int capture.totalElements),
      ("regions", .int capture.totalRegions)]),
    ("evidence_sources", .list (EVIDENCE_SOURCES.map .str)),
    ("transaction", .dict [
      ("transaction_id", .str moment.transactionId),
      ("state", .str "committed"),
      ("states", .list (OBSERVATION_STATES.map .str)),
      ("capture_mode", .str "atomic_snapshot_core"),
      ("locator_attestation_boundary", .str "independent"),
      ("observation_budget_ms", .int options.observationBudgetMs)])]

/-- The document of the capture, and what more is said of scrolling. -/
def scrollContext : Json F :=
  .dict ([
    ("viewport_width", capture.viewportWidth),
    ("viewport_height", capture.viewportHeight.toJson),
    ("can_scroll_up", .bool (host.math.lt (.int 0) capture.scrollY)),
    ("can_scroll_down", .bool (host.math.lt
      (host.math.add capture.scrollY capture.viewportHeight) capture.documentHeight)),
    ("scrollable_containers", capture.scrollables)].foldl
      (fun d entry => assign d entry.1 entry.2) capture.document)

def fingerprint : String := host.sha256 capture.signature.toList

def freshness : Json F :=
  .dict [
    ("fingerprint", .str (fingerprint host capture)),
    ("max_age_ms", .int options.freshnessMaxAgeMs),
    ("page_id", optionalText backend.pageId),
    ("captured_at_ms", .int moment.capturedAtMs)]

/-- `observation_values`, with the given sections. -/
def observationValues (profile : String) (s : Sections F) : ObservationField → Json F
  | .observationId => .str moment.observationId
  | .timestamp => .str moment.timestamp
  | .capturedAtMs => .int moment.capturedAtMs
  | .browserProfile => .str profile
  | .url => .str capture.url
  | .title => .str capture.title
  | .viewport => .dict capture.viewport
  | .document => .dict capture.document
  | .focus => capture.focus
  | .overlays => .list capture.overlays
  | .regions => .list (capture.regions.map fun region => .dict region.entries)
  | .visibleText => .list s.visibleText
  | .interactiveElements => .list s.elements
  | .spatialRelationships => .list s.relationships
  | .scrollContext => scrollContext host capture
  | .freshness => freshness host backend options capture moment
  | .diagnostics => diagnostics options capture moment s.truncated
  | .transactionId => .str moment.transactionId
  | .snapshotId => .str moment.snapshotId
  | .commitId => .str moment.commitId
  | .observationHash => .str ""
  | .provenance => .list [.str "web_untrusted"]

/-- `len(json.dumps(observation_values, ensure_ascii=False).encode())` -/
def payloadSize (values : ObservationField → Json F) : Nat :=
  ((Json.dumpsText (.dict (PageObservation.mk values).toDict)).map Char.utf8Size).sum

/-- The sections of an observation, as many as the payload may hold. -/
def fittedSections (profile : String) : Sections F :=
  Sections.fit
    (fun s => payloadSize (observationValues host backend options capture moment profile s))
    options.maxPayloadBytes {
      visibleText := capture.textBlocks
      relationships := relationships host.math options capture.elements
      elements := capture.elements.map fun e =>
        withCandidates host.lower capture.elements capture.regions e host.math }

/-- The values of the observation that is published, without its hash. -/
def unsealedObservation (profile : String) : PageObservation F :=
  ⟨observationValues host backend options capture moment profile
    (fittedSections host backend options capture moment profile)⟩

/-- The observation with the hash of its content. -/
def sealedValues (profile : String) (field : ObservationField) : Json F :=
  let unsealed := unsealedObservation host backend options capture moment profile
  if field = .observationHash then .str (canonicalHash host.sha256 unsealed.toDict)
  else unsealed.value field

end Values

/-- `SnapshotCore.to_dict` -/
def snapshotCore (backend : Backend) (capture : Capture F) (moment : Moment) (snapshotHash : String) :
    Json F :=
  .dict [
    ("snapshot_id", .str moment.snapshotId),
    ("transaction_id", .str moment.transactionId),
    ("captured_at_ms", .int moment.capturedAtMs),
    ("browser_binding", .dict (browserBinding backend)),
    ("signature", .str capture.signature),
    ("payload_hash", .str snapshotHash),
    ("capture_evidence", .dict [("mode", .str "single_browser_evaluation"), ("complete", .bool true)])]

def commitOf (backend : Backend) (capture : Capture F) (moment : Moment) (snapshotHash : String)
    (observationHash : Json F) (committedAtMs : Int) : ObservationCommit F where
  commitId := .str moment.commitId
  transactionId := .str moment.transactionId
  observationId := .str moment.observationId
  snapshotId := .str moment.snapshotId
  observationHash := observationHash
  committedAtMs := .int committedAtMs
  browserBinding := .dict (browserBinding backend)
  evidence := .dict [("snapshot_core", snapshotCore backend capture moment snapshotHash)]

/-! ## Publication -/

def recordName (commitId : String) : String := commitId ++ ".json"

/-- The text of a durable bundle. -/
def recordText (record : Record F) : List Char :=
  Json.render .indented 0 ((Json.dict [
    ("schema_version", .str "1.0.0"),
    ("observation", .dict record.1.toDict),
    ("commit", .dict record.2.toDict)]).normalize id)

/-- `_publish_durable_commit` -/
def publishDurableCommit (commitId : String) (record : Record F) : ObserveAct F Unit := do
  Act.attempt (S := ObserveSig F) (.publish (recordName commitId) (recordText record)) id
  modify fun s => { s with files := s.files.write (recordName commitId) (recordText record) }

/-- The observation and its commit are remembered, and the oldest ones forgotten. -/
def rememberRecord (record : Record F) : ObserveAct F Unit :=
  modify fun s =>
    let memory := s.memory.remember record
    { s with memory := if 20 < memory.length then memory.tail else memory }

/-! ## Observing -/

section Observing

variable (host : ObserverHost F) (backend : Backend) (options : PageObservationOptions F)

/-- What the page returns, once it is quiet. -/
def capturePage (deadline : Int) : ObserveAct F (RawJson F) := do
  let remaining ← requireBudget deadline "quiescence"
  Act.attempt (S := ObserveSig F) (.quiesce options.mutationQuiescenceMs remaining) id
  let _ ← requireBudget deadline "capture"
  Act.attempt (S := ObserveSig F)
    (.snapshot options.maxInteractiveElements options.maxTextBlocks options.maxRegions
      options.maxScrollableContainers options.maxTextLength) id

/-- `isinstance(raw, dict) and isinstance(raw.get("signature"), str)` -/
def hasSignature (raw : RawJson F) : Bool :=
  match raw with
  | .dict entries => match entries.lookup "signature" with
      | some (.str _) => true
      | _ => false
  | _ => false

/-- `json.dumps(raw, …).encode()`: the capture as JSON. -/
def encodeCapture (raw : RawJson F) : Except PyException (Json F) :=
  match raw.encode with
  | some value => .ok value
  | none => .error (.valueError "'utf-8' codec can't encode: surrogates not allowed")

/-- The end of `_capture_once`: the observation is sealed, published and remembered. -/
def sealAndPublish (deadline : Int) (capture : Capture F) (snapshotHash : String) (moment : Moment)
    (profile : String) : ObserveAct F (PageObservation F) := do
  let observation ← Act.ofExcept (match PageObservation.make
      (sealedValues host backend options capture moment profile) with
    | some observation => .ok observation
    | none => .error (.valueError "observation provenance is invalid"))
  let _ ← requireBudget deadline "publication"
  let committedAtMs ← nowMs
  let commit := commitOf backend capture moment snapshotHash (observation.value .observationHash)
    committedAtMs
  publishDurableCommit moment.commitId (observation, commit)
  rememberRecord (observation, commit)
  return observation

/-- `_capture_once` -/
def captureOnce (transactionId : String) : ObserveAct F (PageObservation F) := do
  let startedAtMs ← nowMs
  let budgetStarted ← monotonicMs
  let deadline := budgetStarted + options.observationBudgetMs
  let raw ← capturePage options deadline
  raiseWhen (!hasSignature raw)
    (.valueError "atomic snapshot returned an invalid capture envelope")
  let _ ← requireBudget deadline "validation"
  let snapshotId ← uuid
  let value ← Act.ofExcept (encodeCapture raw)
  let snapshotHash := host.sha256 (Json.render .compact 0 (value.normalize id))
  -- a capture of another shape raises where its fields are read
  let capture ← Act.ofExcept (match Capture.ofJson value with
    | some capture => .ok capture
    | none => .error ⟨.other, "capture field", none⟩)
  let _ ← requireBudget deadline "derivation"
  let observationId ← uuid
  let commitId ← uuid
  let capturedAtMs ← nowMs
  let timestamp ← isoNow
  let profile ← Act.ofExcept backend.profile.valueAttribute
  sealAndPublish host backend options deadline capture snapshotHash
    ⟨transactionId, snapshotId, observationId, commitId, startedAtMs, capturedAtMs, timestamp⟩ profile

/-- `observe_page` -/
def observePage : ObserveAct F (PageObservation F) := do
  Act.ofExcept (options.validate host.math)
  raiseWhen (!backend.isStarted)
    ⟨.runtimeError, "page observation requires an active backend", none⟩
  let transactionId ← uuid
  let _ ← nowMs
  captureOnce host backend options transactionId

end Observing

end Dingdongditch.Observation
