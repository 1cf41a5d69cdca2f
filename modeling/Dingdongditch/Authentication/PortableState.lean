import Dingdongditch.Contract.Value
import Dingdongditch.Text.Checks
import Dingdongditch.Text.Json
import Dingdongditch.Text.Pattern
import Dingdongditch.Text.Url
import Mathlib.Algebra.GroupWithZero.Nat

/-!
# Portable browser state

The document that carries cookies, local storage and IndexedDB state from one
browser to another: what an export leaves out, and what an import accepts.  The
exporter and the importer share `validateStorageState`, and read JSON values.
-/

namespace Dingdongditch

open Text

namespace PortableState

variable {F : Type}

def schemaVersion : Int := 2

def kind : String := "dingdongditch_portable_browser_state"

def defaultMaxAgeMs : Int := 24 * 60 * 60 * 1000

/-- An `AuthenticationError` of kind `SESSION_INVALID`. -/
def sessionInvalid (message : String) : PyException :=
  ⟨.authenticationError, message, some "session_invalid"⟩

/-- An `AuthenticationError` of kind `SESSION_UNSUPPORTED`. -/
def sessionUnsupported (message : String) : PyException :=
  ⟨.authenticationError, message, some "session_unsupported"⟩

/-- An `AuthenticationError` of kind `SESSION_STALE`. -/
def sessionStale (message : String) : PyException :=
  ⟨.authenticationError, message, some "session_stale"⟩

def rejectWith (bad : Bool) (e : PyException) : Except PyException Unit :=
  if bad then .error e else .ok ()

/-! ## Sensitive entries -/

def sensitiveWords : List String :=
  ["secret", "password", "passwd", "token", "authorization", "credential", "apikey", "api_key",
   "api-key", "session", "private", "otp", "totp"]

/-- `_SENSITIVE_STORAGE_KEY.search(name)` -/
def sensitiveStorageKey (name : String) : Bool :=
  name.toList.tails.any fun text => sensitiveWords.any fun word => (afterWord word.toList text).isSome

/-- `_TOKENISH_VALUE.search(value)` -/
def tokenishValue (value : String) : Bool :=
  let text := value.toList
  ((afterWord "bearer".toList text).any fun rest => rest.head?.any isSpace) ||
    ["eyj", "sk-"].any fun word => (afterWord word.toList text).any fun rest =>
      12 ≤ (rest.takeWhile isTokenChar).length

/-- What an export leaves out of local storage, and an import refuses. -/
def isSensitive (item : String × String) : Bool :=
  sensitiveStorageKey item.1 || tokenishValue item.2

/-! ## Origins -/

/-- `_safe_origin` -/
def safeOrigin (codec : HostCodec) (value : Json F) : Except PyException String :=
  match value with
  | .str text =>
      match urlsplit codec text.toList with
      | none => .error (sessionInvalid "session file contains a malformed origin")
      | some parsed =>
          if (parsed.scheme ≠ "http".toList ∧ parsed.scheme ≠ "https".toList) ∨ parsed.netloc = [] ∨
              '@' ∈ parsed.netloc ∨ parsed.query ≠ [] ∨ parsed.fragment ≠ [] ∨
              (parsed.path ≠ [] ∧ parsed.path ≠ ['/']) then
            .error (sessionInvalid "session file contains an unsafe storage origin")
          else .ok (String.ofList (parsed.scheme ++ ':' :: '/' :: '/' :: parsed.netloc))
  | _ => .error (sessionInvalid "session file contains a non-string origin")

/-! ## The storage state -/

/-- A storage origin, in its canonical form. -/
structure PortableOrigin (F : Type) where
  origin : String
  localStorage : List (String × String)
  indexedDB : Option (List (Json F)) := none

structure StorageState (F : Type) where
  cookies : List (List (String × Json F))
  origins : List (PortableOrigin F)

def itemJson (item : String × String) : Json F :=
  .dict [("name", .str item.1), ("value", .str item.2)]

def PortableOrigin.toJson (o : PortableOrigin F) : Json F :=
  .dict ([("origin", .str o.origin), ("localStorage", .list (o.localStorage.map itemJson))] ++
    o.indexedDB.toList.map fun databases => ("indexedDB", .list databases))

def StorageState.toJson (s : StorageState F) : Json F :=
  .dict [("cookies", .list (s.cookies.map .dict)), ("origins", .list (s.origins.map (·.toJson)))]

/-- The value of a key, where it is a string. -/
def strField (entries : List (String × Json F)) (key : String) : Option String :=
  match Json.get entries key with
  | .str s => some s
  | _ => none

def checkCookie (cookie : Json F) : Except PyException (List (String × Json F)) :=
  match cookie with
  | .dict entries =>
      match strField entries "name", strField entries "value", strField entries "domain",
        strField entries "path" with
      | some name, some value, some domain, some path => do
          rejectWith (512 < name.length || 16384 < value.length || domain = "" ||
            path.toList.head? ≠ some '/') (sessionInvalid "session file contains an unsafe cookie")
          return entries
      | _, _, _, _ => .error (sessionInvalid "session file contains an invalid cookie")
  | _ => .error (sessionInvalid "session file contains an invalid cookie")

def checkItem (rejectSensitive : Bool) (item : Json F) : Except PyException (String × String) :=
  match item with
  | .dict entries =>
      match strField entries "name", strField entries "value" with
      | some name, some value => do
          rejectWith (2048 < name.length || 65536 < value.length)
            (sessionInvalid "session file contains oversized local storage")
          rejectWith (rejectSensitive && isSensitive (name, value))
            (sessionInvalid "session file contains excluded sensitive local storage")
          return (name, value)
      | _, _ => .error (sessionInvalid "session file contains invalid local storage entries")
  | _ => .error (sessionInvalid "session file contains invalid local storage entries")

/-- A database is a dictionary with a name. -/
def namesDatabase (database : Json F) : Bool :=
  match database with
  | .dict entries => (strField entries "name").isSome
  | _ => false

def checkIndexedDB (allowIndexedDB : Bool) (value : Json F) :
    Except PyException (Option (List (Json F))) :=
  match value with
  | .null => .ok none
  | value => do
      rejectWith (!allowIndexedDB)
        (sessionUnsupported "session state requests unsupported IndexedDB import")
      match value with
      | .list databases =>
          rejectWith (64 < databases.length || !databases.all namesDatabase)
            (sessionInvalid "session file contains invalid IndexedDB state")
          return some databases
      | _ => throw (sessionInvalid "session file contains invalid IndexedDB state")

variable (codec : HostCodec) (allowIndexedDB rejectSensitive : Bool)

/-- One origin, after those of `seen`. -/
def checkOrigin (seen : List String) (origin : Json F) : Except PyException (PortableOrigin F) :=
  match origin with
  | .dict entries =>
      match Json.get entries "localStorage" with
      | .list storage => do
          let canonical ← safeOrigin codec (Json.get entries "origin")
          rejectWith (canonical ∈ seen)
            (sessionInvalid "session file contains duplicate storage origins")
          rejectWith (1024 < storage.length)
            (sessionInvalid "session file local storage exceeds entry limits")
          let items ← storage.mapM (checkItem rejectSensitive)
          let databases ← checkIndexedDB allowIndexedDB (Json.get entries "indexedDB")
          return ⟨canonical, items, databases⟩
      | _ => .error (sessionInvalid "session file contains invalid origin storage")
  | _ => .error (sessionInvalid "session file contains invalid origin storage")

def checkOrigins (seen : List String) : List (Json F) → Except PyException (List (PortableOrigin F))
  | [] => .ok []
  | origin :: origins => do
      let first ← checkOrigin codec allowIndexedDB rejectSensitive seen origin
      let later ← checkOrigins (seen ++ [first.origin]) origins
      return first :: later

/-- `_validate_storage_state` -/
def validateStorageState (state : Json F) : Except PyException (StorageState F) :=
  match state with
  | .dict entries =>
      match Json.get entries "cookies", Json.get entries "origins" with
      | .list cookies, .list origins => do
          rejectWith (1024 < cookies.length || 256 < origins.length)
            (sessionInvalid "session file exceeds portable state entry limits")
          let cookies ← cookies.mapM checkCookie
          let origins ← checkOrigins codec allowIndexedDB rejectSensitive [] origins
          return ⟨cookies, origins⟩
      | _, _ => .error (sessionInvalid "session file must contain cookies and origins arrays")
  | _ => .error (sessionInvalid "session file must contain cookies and origins arrays")

/-! ## Export -/

inductive Feature
  | cookies
  | localStorage
  | indexedDB
  deriving DecidableEq, Repr

def Feature.value : Feature → String
  | .cookies => "cookies"
  | .localStorage => "local_storage"
  | .indexedDB => "indexed_db"

def Feature.all : List Feature := [.cookies, .localStorage, .indexedDB]

structure Policy where
  includeCookies : Bool := true
  includeLocalStorage : Bool := true
  includeIndexedDB : Bool := false
  deriving DecidableEq, Repr

structure Receipt where
  direction : String
  includedFeatures : List Feature
  excludedFeatures : List Feature
  cookieCount : Nat
  originCount : Nat
  sensitiveLocalStorageEntriesExcluded : Nat := 0
  stateAgeMs : Option Int := none
  status : String := "completed"
  schemaVersion : Int := PortableState.schemaVersion
  limitations : List String :=
    ["no_session_storage", "no_password_manager_or_credential_vault",
     "no_browser_profile_internals", "no_service_worker_cache_or_extension_state"]
  deriving DecidableEq, Repr

namespace Policy

/-- `validate` -/
def validate (policy : Policy) : Except PyException Unit :=
  rejectWith (!(policy.includeCookies || policy.includeLocalStorage || policy.includeIndexedDB))
    (.valueError "portable state policy must include at least one feature")

def includes (policy : Policy) : Feature → Bool
  | .cookies => policy.includeCookies
  | .localStorage => policy.includeLocalStorage
  | .indexedDB => policy.includeIndexedDB

/-- `_features_for_policy` -/
def features (policy : Policy) : List Feature := Feature.all.filter policy.includes

end Policy

/-- One origin of the exported state. -/
def exportOrigin (policy : Policy) (o : PortableOrigin F) : PortableOrigin F where
  origin := o.origin
  localStorage := if policy.includeLocalStorage then o.localStorage.filter (!isSensitive ·) else []
  indexedDB := if policy.includeIndexedDB then o.indexedDB else none

/-- The entries of one origin that an export leaves out as sensitive. -/
def sensitiveExcluded (policy : Policy) (o : PortableOrigin F) : Nat :=
  if policy.includeLocalStorage then o.localStorage.countP isSensitive else 0

/-- The exported document. -/
structure Document (F : Type) where
  createdAtEpochMs : Int
  portableFeatures : List Feature
  storageState : StorageState F

def Document.toJson (d : Document F) : Json F := .dict [
  ("schema_version", .int schemaVersion),
  ("kind", .str kind),
  ("created_at_epoch_ms", .int d.createdAtEpochMs),
  ("portable_features", .list (d.portableFeatures.map fun feature => .str feature.value)),
  ("storage_state", d.storageState.toJson)]

/-- `build_portable_state`, at the time `nowMs` -/
def buildPortableState (rawState : Json F) (policy : Policy) (createdAtEpochMs : Option Int)
    (nowMs : Int) : Except PyException (Document F × Receipt) := do
  policy.validate
  let raw ← validateStorageState codec policy.includeIndexedDB false rawState
  let state : StorageState F := {
    cookies := if policy.includeCookies then raw.cookies else []
    origins := raw.origins.map (exportOrigin policy) }
  let document : Document F := {
    createdAtEpochMs := createdAtEpochMs.getD nowMs
    portableFeatures := policy.features
    storageState := state }
  return (document, {
    direction := "export"
    includedFeatures := policy.features
    excludedFeatures := Feature.all.filter (!policy.includes ·)
    cookieCount := state.cookies.length
    originCount := state.origins.length
    sensitiveLocalStorageEntriesExcluded := (raw.origins.map (sensitiveExcluded policy)).sum })

/-! ## Import -/

/-- The membership of a value in the set of features, where it can be hashed. -/
def checkFeature (item : Json F) : Except PyException Feature :=
  match item with
  | .str s =>
      match Feature.all.find? (·.value = s) with
      | some feature => .ok feature
      | none => .error (sessionInvalid "session file has ambiguous portable features")
  | .list _ => .error ⟨.other, "unhashable type: 'list'", none⟩
  | .dict _ => .error ⟨.other, "unhashable type: 'dict'", none⟩
  | _ => .error (sessionInvalid "session file has ambiguous portable features")

/-- `validate_portable_document`, at the time `nowMs` -/
def validatePortableDocument [Floating F] (raw : Json F) (maxAgeMs : Int) (allowIndexedDB : Bool)
    (nowMs : Int) : Except PyException (StorageState F × Receipt) := do
  rejectWith (maxAgeMs < 1 || 30 * 24 * 60 * 60 * 1000 < maxAgeMs)
    (sessionInvalid "portable state max age is invalid")
  match raw with
  | .dict entries => do
      rejectWith (!Json.pyEq (Json.get entries "schema_version") (.int schemaVersion) ||
          !Json.pyEq (Json.get entries "kind") (.str kind))
        (sessionInvalid "session file has an unsupported schema")
      match Json.get entries "created_at_epoch_ms" with
      | .int created => do
          let age := nowMs - created
          rejectWith (age < 0 || maxAgeMs < age)
            (sessionStale "portable session state is stale or clock-ambiguous")
          match Json.get entries "portable_features" with
          | .list featuresRaw => do
              let features ← featuresRaw.mapM checkFeature
              rejectWith (¬ features.Nodup)
                (sessionInvalid "session file has ambiguous portable features")
              let state ← validateStorageState codec allowIndexedDB true
                (Json.get entries "storage_state")
              let hasIndexedDB := state.origins.any (·.indexedDB.isSome)
              rejectWith (hasIndexedDB && Feature.indexedDB ∉ features)
                (sessionInvalid "session file IndexedDB feature declaration is ambiguous")
              rejectWith (hasIndexedDB && !allowIndexedDB)
                (sessionUnsupported "IndexedDB import requires a new browser context")
              return (state, {
                direction := "import"
                includedFeatures := features
                excludedFeatures := Feature.all.filter (· ∉ features)
                cookieCount := state.cookies.length
                originCount := state.origins.length
                stateAgeMs := some (max 0 age) })
          | _ => throw (sessionInvalid "session file has ambiguous portable features")
      | _ => throw (sessionInvalid "session file is missing a creation timestamp")
  | _ => throw (sessionInvalid "session file must be an object")

end PortableState

end Dingdongditch
