import Dingdongditch.Contract.Operation
import Dingdongditch.Contract.ReceiptChain
import Dingdongditch.Store.Directory
import Dingdongditch.Text.JsonKeys
import Dingdongditch.Text.JsonLayout

/-!
# Observation records

A published observation, the commit that seals it, and how a stored record is
admitted again: the record has to be well formed, its observation has to carry the
hash of its content that the commit names, and the commit has to belong to the
browser generation that reads it.
-/

namespace Dingdongditch

open Text

def ProvenanceClass.value : ProvenanceClass → String
  | .userAuthority => "user_authority"
  | .hostPolicy => "host_policy"
  | .agentReasoning => "agent_reasoning"
  | .webUntrusted => "web_untrusted"
  | .thirdPartyContent => "third_party_content"
  | .secretProvider => "secret_provider"
  | .systemRuntime => "system_runtime"

/-- `ProvenanceClass(value)` -/
def ProvenanceClass.ofValue (value : String) : Option ProvenanceClass :=
  [userAuthority, hostPolicy, agentReasoning, webUntrusted, thirdPartyContent, secretProvider,
    systemRuntime].find? (·.value = value)

namespace Observation

variable {F : Type} [Floating F] [Json.ReadsFloat F]

/-! ## Observations -/

inductive ObservationField
  | observationId | timestamp | capturedAtMs | browserProfile | url | title | viewport | document
  | focus | overlays | regions | visibleText | interactiveElements | spatialRelationships
  | scrollContext | freshness | diagnostics | transactionId | snapshotId | commitId
  | observationHash | provenance
  deriving DecidableEq, Repr

namespace ObservationField

def all : List ObservationField :=
  [observationId, timestamp, capturedAtMs, browserProfile, url, title, viewport, document, focus,
    overlays, regions, visibleText, interactiveElements, spatialRelationships, scrollContext,
    freshness, diagnostics, transactionId, snapshotId, commitId, observationHash, provenance]

def name : ObservationField → String
  | observationId => "observation_id"
  | timestamp => "timestamp"
  | capturedAtMs => "captured_at_ms"
  | browserProfile => "browser_profile"
  | url => "url"
  | title => "title"
  | viewport => "viewport"
  | document => "document"
  | focus => "focus"
  | overlays => "overlays"
  | regions => "regions"
  | visibleText => "visible_text"
  | interactiveElements => "interactive_elements"
  | spatialRelationships => "spatial_relationships"
  | scrollContext => "scroll_context"
  | freshness => "freshness"
  | diagnostics => "diagnostics"
  | transactionId => "transaction_id"
  | snapshotId => "snapshot_id"
  | commitId => "commit_id"
  | observationHash => "observation_hash"
  | provenance => "provenance"

/-- The value of a field that is not given. -/
def default : ObservationField → Option (Json F)
  | transactionId | snapshotId | commitId | observationHash => some (.str "")
  | provenance => some (.list [.str "web_untrusted"])
  | _ => none

end ObservationField

/-- `PageObservation`, by the values of its fields. -/
structure PageObservation (F : Type) where
  value : ObservationField → Json F

/-- What iterating over the declared provenance yields; `none` where it raises. -/
def provenanceItems : Json F → Option (List (Json F))
  | .list items => some items
  | .dict entries => some (entries.map fun entry => .str entry.1)
  | .str s => some (s.toList.map fun c => .str (String.ofList [c]))
  | _ => none

/-- The provenance of an observation: every label is known, and stands once. -/
def normalizeProvenance (declared : Json F) : Option (Json F) := do
  let items ← if ReceiptChain.truthy declared then provenanceItems declared
    else some [.str ProvenanceClass.webUntrusted.value]
  let classes ← items.mapM fun item => match item with
    | .str text => ProvenanceClass.ofValue text
    | _ => none
  return .list ((mergeProvenance [] classes).map fun label => .str label.value)

namespace PageObservation

/-- `PageObservation(**values)`; `none` is an exception. -/
def make (values : ObservationField → Json F) : Option (PageObservation F) :=
  (normalizeProvenance (values .provenance)).map fun provenance =>
    ⟨fun field => if field = .provenance then provenance else values field⟩

def toDict (observation : PageObservation F) : List (String × Json F) :=
  ObservationField.all.map fun field => (field.name, observation.value field)

/-- `from_dict`: no other keys, and every field without a default. -/
def fromDict (entries : List (String × Json F)) : Option (PageObservation F) :=
  let given (field : ObservationField) : Option (Json F) :=
    (entries.lookup field.name).or field.default
  if (entries.all fun entry => ObservationField.all.any fun field => field.name = entry.1) &&
      (ObservationField.all.all fun field => (given field).isSome) then
    make fun field => (given field).getD .null
  else none

/-- `==`, on dictionaries in any order. -/
def Same (a b : PageObservation F) : Prop :=
  ∀ field, (a.value field).normalize id = (b.value field).normalize id

/-- The observation with its hash left out. -/
def unsealed (observation : PageObservation F) : PageObservation F :=
  ⟨fun field => if field = .observationHash then .str "" else observation.value field⟩

end PageObservation

/-- `hashlib.sha256(json.dumps(values, …).encode()).hexdigest()`, on the canonical text. -/
def canonicalHash (sha256 : List Char → String) (values : List (String × Json F)) : String :=
  sha256 (Json.render .compact 0 ((Json.dict values).normalize id))

/-- `_verify_observation_hash` -/
def verifyObservationHash (sha256 : List Char → String) (observation : PageObservation F) : Bool :=
  Json.pyEq (.str (canonicalHash sha256 observation.unsealed.toDict))
    (observation.value .observationHash)

/-! ## Commits -/

/-- `ObservationCommit`; its state is `COMMITTED`. -/
structure ObservationCommit (F : Type) where
  commitId : Json F
  transactionId : Json F
  observationId : Json F
  snapshotId : Json F
  observationHash : Json F
  committedAtMs : Json F
  browserBinding : Json F
  evidence : Json F

namespace ObservationCommit

def toDict (commit : ObservationCommit F) : List (String × Json F) :=
  [("commit_id", commit.commitId), ("transaction_id", commit.transactionId),
    ("observation_id", commit.observationId), ("snapshot_id", commit.snapshotId),
    ("observation_hash", commit.observationHash), ("committed_at_ms", commit.committedAtMs),
    ("state", .str "committed"), ("browser_binding", commit.browserBinding),
    ("evidence", commit.evidence)]

def fieldNames : List String :=
  ["commit_id", "transaction_id", "observation_id", "snapshot_id", "observation_hash",
    "committed_at_ms", "state", "browser_binding", "evidence"]

/-- `ObservationCommit(**raw_commit)`, with a state that has to be `committed`. -/
def fromDict (entries : List (String × Json F)) : Option (ObservationCommit F) := do
  let .str "committed" ← entries.lookup "state" | none
  if !(entries.all fun entry => fieldNames.contains entry.1) then none
  let commitId ← entries.lookup "commit_id"
  let transactionId ← entries.lookup "transaction_id"
  let observationId ← entries.lookup "observation_id"
  let snapshotId ← entries.lookup "snapshot_id"
  let observationHash ← entries.lookup "observation_hash"
  let committedAtMs ← entries.lookup "committed_at_ms"
  let browserBinding ← entries.lookup "browser_binding"
  let evidence ← entries.lookup "evidence"
  return {
    commitId, transactionId, observationId, snapshotId, observationHash, committedAtMs
    browserBinding, evidence }

/-- `==`, on dictionaries in any order. -/
def Same (a b : ObservationCommit F) : Prop :=
  (Json.dict a.toDict).normalize id = (Json.dict b.toDict).normalize id

end ObservationCommit

/-! ## Bindings -/

def BINDING_KEYS : List String :=
  ["backend_identity", "browser_identity", "session_identity", "context_id", "page_id",
    "binding_generation"]

/-- `_binding_identity`, of a dictionary. -/
def bindingIdentity (binding : List (String × Json F)) : List (Json F) :=
  BINDING_KEYS.map (Json.get binding)

/-- `==` of tuples -/
def sameIdentity (a b : List (Json F)) : Bool := a.length = b.length && (a.zip b).all fun p => Json.pyEq p.1 p.2

/-! ## Stored records -/

/-- The items of `dict(value)`, for one pair. -/
def pairOf : Json F → Option (String × Json F)
  | .list [.str key, value] => some (key, value)
  | .str s => match s.toList with
      | [a, b] => some (String.ofList [a], .str (String.ofList [b]))
      | _ => none
  | .dict [a, b] => some (a.1, .str b.1)
  | _ => none

/-- `dict(value)`, where its keys are strings; `none` is an exception. -/
def dictOf : Json F → Option (List (String × Json F))
  | .dict entries => some entries
  | .list items => (items.mapM pairOf).map fun pairs =>
      pairs.foldl (fun d pair => assign d pair.1 pair.2) []
  | .str "" => some []
  | _ => none

/-- `read_published_json`; `none` where a publication is absent or no document.  A text
with half of a surrogate pair is not read: no observation that holds it has a hash. -/
def readPublishedJson (text : List Char) : Option (Json F) := (Json.loads text).map Json.lastWins

/-- `path.stem`, of a name that ends in `.json`. -/
def stemOf (name : String) : String :=
  if name = ".json" then name else String.ofList (name.toList.take (name.toList.length - 5))

/-- `value[key]`; `none` is an exception that is skipped. -/
def subscript (value : Json F) (key : String) : Option (Json F) :=
  match value with
  | .dict entries => entries.lookup key
  | _ => none

/-- `.get`, of a value that has to be a dictionary. -/
def mappingOf (value : Json F) : Except PyException (List (String × Json F)) :=
  match value with
  | .dict entries => .ok entries
  | _ => .error (.attributeError "no attribute 'get'")

abbrev Record (F : Type) : Type := PageObservation F × ObservationCommit F

/-- The record of a payload, with the version that it names. -/
def recordOf (payload : Json F) : Option (Json F × Record F) := do
  let observation ← (subscript payload "observation").bind dictOf
  let observation ← PageObservation.fromDict observation
  let commit ← (subscript payload "commit").bind dictOf
  let commit ← ObservationCommit.fromDict commit
  return ((subscript payload "schema_version").getD .null, observation, commit)

/-- The checks on one stored record: `none` where it is skipped. -/
def admitRecord (sha256 : List Char → String) (binding : List (String × Json F)) (name : String)
    (text : List Char) : Except PyException (Option (Record F)) := do
  let some (version, observation, commit) := (readPublishedJson text).bind recordOf
    | return none
  if !Json.pyEq version (.str "1.0.0") || !Json.pyEq (.str (stemOf name)) commit.commitId ||
      !Json.pyEq commit.observationId (observation.value .observationId) ||
      !Json.pyEq commit.commitId (observation.value .commitId) ||
      !Json.pyEq commit.observationHash (observation.value .observationHash) then
    return none
  let committed ← mappingOf commit.browserBinding
  let some core := (subscript commit.evidence "snapshot_core").bind fun core =>
      subscript core "browser_binding"
    | return none
  let captured ← mappingOf core
  if !sameIdentity (bindingIdentity committed) (bindingIdentity captured) ||
      !verifyObservationHash sha256 observation then
    return none
  -- evidence of another browser generation stays on disk
  if !sameIdentity (bindingIdentity committed) (bindingIdentity binding) then
    return none
  match observation.value .observationId with
  | .list _ | .dict _ => .error ⟨.other, "unhashable type", none⟩
  | _ => return some (observation, commit)

/-- The records of files, in order. -/
def admitAll (sha256 : List Char → String) (binding : List (String × Json F)) :
    List (String × List Char) → Except PyException (List (Record F))
  | [] => .ok []
  | (name, text) :: files => do
      let admitted ← admitRecord sha256 binding name text
      let others ← admitAll sha256 binding files
      return admitted.toList ++ others

/-! ## Memory -/

/-- Records by the identifier of their observation, oldest first. -/
abbrev Memory (F : Type) : Type := List (Record F)

namespace Memory

/-- `self._observations[observation.observation_id] = observation`, and the commit -/
def remember (memory : Memory F) (record : Record F) : Memory F :=
  let known (other : Record F) : Bool :=
    Json.pyEq (other.1.value .observationId) (record.1.value .observationId)
  if memory.any known then memory.map fun other => if known other then record else other
  else memory ++ [record]

/-- `self._observations.get(observation_id)` -/
def find (memory : Memory F) (observationId : String) : Option (Record F) :=
  memory.find? fun record => Json.pyEq (record.1.value .observationId) (.str observationId)

end Memory

/-- The names that `glob("*.json")` yields. -/
def isRecordFile (name : String) : Bool := ".json".toList.isSuffixOf name.toList

/-- `_load_durable_commits`, of a new observer. -/
def loadDurableCommits (sha256 : List Char → String) (binding : List (String × Json F))
    (files : Store.Directory String (List Char)) : Except PyException (Memory F) := do
  let records ← admitAll sha256 binding (Json.sortEntries (files.filter fun file => isRecordFile file.1))
  return records.foldl Memory.remember []

end Observation

end Dingdongditch
