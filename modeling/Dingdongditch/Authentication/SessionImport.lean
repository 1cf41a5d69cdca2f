import Mathlib.Logic.Function.Basic
import Dingdongditch.Authentication.PortableState
import Dingdongditch.Interaction.Calm
import Dingdongditch.Text.JsonKeys
import Dingdongditch.Text.JsonText

/-!
# The import of a session into a running browser

A session file is read and validated before the browser context is touched.  Then the
cookies are replaced and every origin is visited, one browser call after the other; each
call may fail, and a call that fails may have done a part of its work.
-/

namespace Dingdongditch.SessionImport

open Interaction Text PortableState

variable {F : Type}

/-! ## Errors -/

/-- What the handlers of an import tell apart. -/
inductive RaisedType
  | authenticationError | osError | unicodeError | jsonDecodeError | other
  deriving DecidableEq, Repr

structure Raised where
  type : RaisedType
  message : String
  kind : Option String := none
  recovery : Option String := none
  deriving DecidableEq, Repr

def authenticationError (message kind : String) (recovery : Option String) : Raised :=
  ⟨.authenticationError, message, some kind, recovery⟩

def Raised.ofPy (e : PyException) : Raised where
  type := if e.type = .authenticationError then .authenticationError else .other
  message := e.message
  kind := e.failureKind

/-- What `import_session` raises for an exception of its body. -/
def Raised.handled (e : Raised) : Raised :=
  match e.type with
  | .authenticationError => e
  | .osError | .unicodeError | .jsonDecodeError =>
      authenticationError "session file is unreadable or corrupt" "session_invalid"
        (some "Use a valid exported session file.")
  | .other =>
      authenticationError "session import failed safely" "session_io_error"
        (some "Clear the profile session and retry.")

/-! ## The browser context -/

abbrev Cookie (F : Type) : Type := List (String × Json F)

structure BrowserContext (F : Type) where
  cookies : List (Cookie F)
  localStorage : String → List (String × String)

/-- What a page of the context stores itself. -/
inductive Change (F : Type)
  | cookies (cookies : List (Cookie F))
  | storage (origin : String) (items : List (String × String))

/-- What a `localStorage.setItem` for each item makes of an empty storage -/
def stored (items : List (String × String)) : List (String × String) :=
  items.foldl (fun entries (name, value) => assign entries name value) []

namespace BrowserContext

variable (context : BrowserContext F)

def apply : Change F → BrowserContext F
  | .cookies cookies => { context with cookies := cookies }
  | .storage origin items =>
      { context with localStorage := Function.update context.localStorage origin items }

/-- `localStorage.clear()`, and then the items -/
def store (origin : String) (items : List (String × String)) : BrowserContext F :=
  context.apply (.storage origin (stored items))

end BrowserContext

/-! ## Browser steps -/

inductive ImportCall (F : Type)
  /-- `source.stat().st_size` -/
  | stat
  | readText
  | now
  | clearCookies
  | addCookies (cookies : List (Cookie F))
  | newPage
  | goto (origin : String)
  /-- The script that replaces the local storage, in the page that was sent to the origin -/
  | evaluate (origin : String) (items : List (String × String))
  | closePage

namespace ImportCall

/-- The origin that a script answers with is that of its page. -/
@[reducible] def Value : ImportCall F → Type
  | stat => Nat
  | readText => List Char
  | now => Int
  | evaluate _ _ => String
  | _ => Unit

/-- What a failed call has done: the cookies that it left, or where a script was and how many items
it had set. -/
@[reducible] def Partly : ImportCall F → Type
  | clearCookies | addCookies _ => List (Cookie F)
  | evaluate _ _ => Option (String × Nat)
  | _ => Unit

/-- Neither the file nor the clock -/
def isBrowser : ImportCall F → Bool
  | stat | readText | now => false
  | _ => true

end ImportCall

structure Answered (call : ImportCall F) where
  /-- What pages of the context have stored by then. -/
  pages : List (Change F) := []
  result : Except (Raised × call.Partly) call.Value

def ImportSig (F : Type) : Sig where
  Call := ImportCall F
  Answer := Answered

abbrev Import (F : Type) : Type → Type := Act (ImportSig F) (BrowserContext F) Raised

section Steps

-- what `add_cookies` makes of a jar and one cookie
variable (put : List (Cookie F) → Cookie F → List (Cookie F))

/-- What a call does to the context. -/
def effect (call : ImportCall F) (result : Except (Raised × call.Partly) call.Value)
    (context : BrowserContext F) : BrowserContext F :=
  match call, result with
  | .clearCookies, .ok _ => { context with cookies := [] }
  | .clearCookies, .error (_, left) => { context with cookies := left }
  | .addCookies cookies, .ok _ => { context with cookies := cookies.foldl put context.cookies }
  | .addCookies _, .error (_, left) => { context with cookies := left }
  | .evaluate _ items, .ok origin => context.store origin items
  | .evaluate _ items, .error (_, some (origin, count)) => context.store origin (items.take count)
  | _, _ => context

def step (call : ImportCall F) : Import F call.Value := do
  let answer : Answered call ← Act.ask (S := ImportSig F) call
  modify fun context => effect put call answer.result (answer.pages.foldl BrowserContext.apply context)
  Act.ofExcept (answer.result.mapError (·.1))

def addCookies (cookies : List (Cookie F)) : Import F Unit :=
  match cookies with
  | [] => pure ()
  | cookies => step put (.addCookies cookies)

/-- The visit to one origin -/
def importOrigin (origin : PortableOrigin F) : Import F Unit := do
  step put .newPage
  Act.andFinally (do
    step put (.goto origin.origin)
    let _ ← step put (.evaluate origin.origin origin.localStorage)
    pure ()) (step put .closePage)

def importOrigins : List (PortableOrigin F) → Import F Unit
  | [] => pure ()
  | origin :: rest => do
      importOrigin put origin
      importOrigins rest

end Steps

/-! ## Legacy files -/

section Legacy

variable (codec : HostCodec)

def legacyCookie (cookie : Json F) : Except PyException (Cookie F) :=
  match cookie with
  | .dict entries =>
      match strField entries "name", strField entries "value", strField entries "domain",
        strField entries "path" with
      | some _, some _, some _, some _ => .ok entries
      | _, _, _, _ => .error (sessionInvalid "session file contains an invalid cookie")
  | _ => .error (sessionInvalid "session file contains an invalid cookie")

def legacyItem (item : Json F) : Except PyException (String × String) :=
  match item with
  | .dict entries =>
      match strField entries "name", strField entries "value" with
      | some name, some value => .ok (name, value)
      | _, _ => .error (sessionInvalid "session file contains invalid local storage entries")
  | _ => .error (sessionInvalid "session file contains invalid local storage entries")

def legacyOrigin (origin : Json F) : Except PyException (PortableOrigin F) :=
  match origin with
  | .dict entries =>
      match Json.get entries "origin", Json.get entries "localStorage" with
      | .str name, .list items =>
          match safeOrigin codec (.str name : Json F) with
          | .error _ => .error (sessionInvalid "session file contains an unsafe storage origin")
          | .ok _ => do
              let pairs ← items.mapM legacyItem
              return { origin := name, localStorage := pairs }
      | _, _ => .error (sessionInvalid "session file contains invalid origin storage")
  | _ => .error (sessionInvalid "session file contains invalid origin storage")

/-- `validate_session_state`, of the entries of a file; origins are left as they are written. -/
def validateSessionState (entries : List (String × Json F)) : Except PyException (StorageState F) :=
  match Json.get entries "storage_state" with
  | .dict state =>
      match Json.get state "cookies", Json.get state "origins" with
      | .list cookies, .list origins => do
          let cookies ← cookies.mapM legacyCookie
          let origins ← origins.mapM (legacyOrigin codec)
          return ⟨cookies, origins⟩
      | _, _ => .error (sessionInvalid "session file must contain Playwright cookies and origins arrays")
  | _ => .error (sessionInvalid "session file must contain Playwright cookies and origins arrays")

def legacyReceipt (state : StorageState F) : Receipt where
  schemaVersion := 1
  direction := "import"
  status := "completed_legacy"
  includedFeatures := [.cookies, .localStorage]
  excludedFeatures := [.indexedDB]
  cookieCount := state.cookies.length
  originCount := state.origins.length
  limitations := ["legacy_state_has_no_staleness_timestamp"]

end Legacy

/-! ## The import -/

section Imports

variable [Floating F] [Json.ReadsFloat F] (codec : HostCodec)
  (put : List (Cookie F) → Cookie F → List (Cookie F))

def maxPortableStateBytes : Nat := 10 * 1024 * 1024

/-- `json.loads` -/
def loads (text : List Char) : Except Raised (Json F) :=
  match Json.loads text with
  | some value => .ok value.lastWins
  | none => .error ⟨.jsonDecodeError, "", none, none⟩

/-- `raw.get("schema_version") == 1 and "kind" not in raw` -/
def isLegacy (entries : List (String × Json F)) : Bool :=
  Json.pyEq (Json.get entries "schema_version") (.int 1) && !entries.any (·.1 == "kind")

/-- The validation of what a file holds. -/
def validateFile (raw : Json F) (maxAgeMs : Int) : Import F (StorageState F × Receipt) :=
  match raw with
  | .dict entries =>
      if isLegacy entries then
        Act.ofExcept (((validateSessionState codec entries).map fun state =>
          (state, legacyReceipt state)).mapError Raised.ofPy)
      else do
        let nowMs ← step put .now
        Act.ofExcept ((validatePortableDocument codec raw maxAgeMs false nowMs).mapError Raised.ofPy)
  | _ => throw ⟨.other, "object has no attribute 'get'", none, none⟩

/-- What is read before the context is touched. -/
def readState (maxAgeMs : Int) : Import F (StorageState F × Receipt) := do
  let size ← step put .stat
  if size > maxPortableStateBytes then
    throw (authenticationError "session file exceeds the 10 MiB safety limit" "session_invalid" none)
  else
    let text ← step put .readText
    let raw ← Act.ofExcept (loads text)
    validateFile codec put raw maxAgeMs

/-- The body of `import_session` -/
def importFile (maxAgeMs : Int) : Import F Receipt := do
  let (state, receipt) ← readState codec put maxAgeMs
  step put .clearCookies
  addCookies put state.cookies
  importOrigins put state.origins
  pure receipt

/-- `import_session`, of a capability that may have no context -/
def importSession (hasContext : Bool) (maxAgeMs : Int) : Import F Receipt :=
  if hasContext then tryCatch (importFile codec put maxAgeMs) fun e => throw e.handled
  else throw (authenticationError "session operation requires a running browser profile"
    "browser_not_ready" none)

end Imports

end Dingdongditch.SessionImport
