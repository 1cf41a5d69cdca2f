import Dingdongditch.Contract.Value
import Dingdongditch.Text.Checks

/-!
# Locators and expectations

Host-declared targets and browser-observable expectations.  Strings that only
a nested contract reads (constraint lists, compiled name patterns, the Unicode
case test of an HTTP method) are kept as the outcome of that contract's own
check, so that every outcome is covered.
-/

namespace Dingdongditch

open Text

/-- `if bad: raise ValueError(message)` -/
def rejectIf (bad : Bool) (message : String) : Except PyException Unit :=
  if bad then .error (.valueError message) else .ok ()

@[simp] theorem rejectIf_eq_ok {bad : Bool} {message : String} :
    rejectIf bad message = .ok () ↔ bad = false := by
  cases bad <;> simp [rejectIf]

theorem rejectIf_bind_ok {α : Type} {bad : Bool} {message : String}
    {f : Unit → Except PyException α} {a : α} :
    (rejectIf bad message >>= f) = .ok a ↔ bad = false ∧ f () = .ok a := by
  cases bad <;> simp [rejectIf, bind, Except.bind]

/-- A nested contract object of which the modelled code only asks whether its
own `validate` accepts it; `rejection` is the exception that `validate` raises. -/
structure Declared where
  name : String
  rejection : Option PyException := none
  deriving DecidableEq, Repr

def Declared.validate (declared : Declared) : Except PyException Unit :=
  match declared.rejection with
  | none => .ok ()
  | some e => .error e

inductive LocatorStrategy
  | testId | roleName | placeholder | exactText | css
  deriving DecidableEq, Repr

def LocatorStrategy.value : LocatorStrategy → String
  | .testId => "test_id"
  | .roleName => "role_name"
  | .placeholder => "placeholder"
  | .exactText => "exact_text"
  | .css => "css"

inductive NameMatchMode
  | contains
  | exact
  /-- `rejection` is what `compile_name_regex` raises for the locator's name. -/
  | regex (rejection : Option String)
  deriving DecidableEq, Repr

structure Locator where
  strategy : LocatorStrategy
  value : String := ""
  role : Option String := none
  name : Option String := none
  nameMatch : Option NameMatchMode := none
  constraints : List Declared := []
  deriving DecidableEq, Repr

/-- Truth of an optional string: `None` and `""` are false. -/
def given (text : Option String) : Bool := text.getD "" ≠ ""

def Locator.validate (locator : Locator) : Except PyException Unit := do
  match locator.strategy with
  | .roleName =>
      rejectIf (!given locator.role || !given locator.name) "role_name locator requires role and name"
      match locator.nameMatch with
      | some (.regex (some message)) => throw (.valueError message)
      | _ => pure ()
  | strategy =>
      rejectIf (locator.value = "") (strategy.value ++ " locator requires value")
      rejectIf locator.nameMatch.isSome "name_match is only valid for role_name locators"
      rejectIf (locator.role.isSome || locator.name.isSome)
        (strategy.value ++ " locator must not include role/name fields")
  locator.constraints.forM Declared.validate

def maxFramePathDepth : Nat := 8

/-- `frame_path` when it is declared, else the legacy one-hop `frame`. -/
def resolvedFramePath (frame : Option Locator) (framePath : List Locator) : List Locator :=
  if framePath.isEmpty then frame.toList else framePath

/-- The frame-scope check that actions and expectations share. -/
def validateFrameScope (frame : Option Locator) (framePath : List Locator) :
    Except PyException Unit := do
  rejectIf (frame.isSome && !framePath.isEmpty) "frame and frame_path are mutually exclusive"
  frame.forM Locator.validate
  rejectIf (framePath.length > maxFramePathDepth)
    ("frame_path supports at most " ++ toString maxFramePathDepth ++ " declared hops")
  framePath.forM Locator.validate

inductive UrlMatchMode
  | exact | contains
  deriving DecidableEq, Repr

inductive TextMatchMode
  | contains | exact
  deriving DecidableEq, Repr

inductive NetworkUrlMatchMode
  | contains | exact | pathExact | pathContains
  deriving DecidableEq, Repr

inductive ExpectationType
  | url | elementExists | elementVisible | elementInViewport | text | attribute | network
  | uploadFileNames | uploadFileCount
  deriving DecidableEq, Repr

def ExpectationType.value : ExpectationType → String
  | .url => "url"
  | .elementExists => "element_exists"
  | .elementVisible => "element_visible"
  | .elementInViewport => "element_in_viewport"
  | .text => "text"
  | .attribute => "attribute"
  | .network => "network"
  | .uploadFileNames => "upload_file_names"
  | .uploadFileCount => "upload_file_count"

/-- An HTTP method with the outcome of `text.isalpha() and text == text.upper()`. -/
structure HttpMethod where
  text : String
  isUpperAlpha : Bool := true
  deriving DecidableEq, Repr

structure Expectation where
  type : ExpectationType
  urlValue : Option String := none
  urlMatch : UrlMatchMode := .exact
  locator : Option Locator := none
  exists_ : Option Bool := none
  visible : Option Bool := none
  inViewport : Option Bool := none
  textValue : Option String := none
  textMatch : TextMatchMode := .contains
  attributeName : Option String := none
  attributeValue : Option String := none
  networkUrlSubstring : Option String := none
  networkMethod : Option HttpMethod := none
  networkStatus : Option Int := none
  networkUrlMatch : NetworkUrlMatchMode := .contains
  networkRequestObserved : Bool := true
  networkResponseObserved : Option Bool := none
  networkMaxElapsedMs : Option Int := none
  fileNames : Option (List String) := none
  fileCount : Option Int := none
  expectationId : String := ""
  frame : Option Locator := none
  framePath : List Locator := []
  deriving DecidableEq, Repr

namespace Expectation

def targetScoped (e : Expectation) : Bool :=
  match e.type with
  | .url | .network => false
  | _ => true

def resolvedFramePath (e : Expectation) : List Locator :=
  Dingdongditch.resolvedFramePath e.frame e.framePath

/-- The locator check that ends every target-scoped case of `validate`. -/
def validateTarget (e : Expectation) : Except PyException Unit := do
  e.locator.forM Locator.validate
  e.frame.forM Locator.validate

def validateNetwork (e : Expectation) : Except PyException Unit := do
  rejectIf (!given e.networkUrlSubstring) "network expectation requires network_url_substring"
  let needle := (e.networkUrlSubstring.getD "").toList
  rejectIf (needle.contains '?' || needle.contains '#')
    "network URL matching must not include query strings or fragments"
  rejectIf (e.networkStatus.any fun status => !(100 ≤ status && status ≤ 599))
    "network_status must be an HTTP status from 100 through 599"
  rejectIf (e.networkMethod.any fun method => !method.isUpperAlpha)
    "network_method must be an uppercase HTTP method"
  rejectIf (e.networkMaxElapsedMs.any fun ms => !(0 ≤ ms && ms ≤ 300000))
    "network_max_elapsed_ms must be between 0 and 300000"
  rejectIf (e.networkMaxElapsedMs.isSome && e.networkResponseObserved == some false)
    "network timing requires a response observation"
  rejectIf (e.networkStatus.isSome && e.networkResponseObserved == some false)
    "network_status requires a response observation"
  rejectIf (!e.networkRequestObserved && e.networkResponseObserved != some true)
    "network expectation must require a request or response observation"
  rejectIf e.frame.isSome "network expectation must not include a frame"

def validateScope (e : Expectation) : Except PyException Unit :=
  if e.targetScoped then validateFrameScope e.frame e.framePath
  else rejectIf (e.frame.isSome || !e.framePath.isEmpty)
    (e.type.value ++ " expectation must not include a frame scope")

def validateFields (e : Expectation) : Except PyException Unit := do
  match e.type with
  | .url =>
      rejectIf (!given e.urlValue) "url expectation requires url_value"
      rejectIf e.frame.isSome "url expectation must not include a frame"
  | .elementExists =>
      rejectIf (e.locator.isNone || e.exists_.isNone) "element_exists requires locator and exists"
      e.validateTarget
  | .elementVisible =>
      rejectIf (e.locator.isNone || e.visible.isNone) "element_visible requires locator and visible"
      e.validateTarget
  | .elementInViewport =>
      rejectIf (e.locator.isNone || e.inViewport.isNone)
        "element_in_viewport requires locator and in_viewport"
      e.validateTarget
  | .text =>
      rejectIf (e.locator.isNone || e.textValue.isNone)
        "text expectation requires locator and text_value"
      e.validateTarget
  | .attribute =>
      rejectIf (e.locator.isNone || !given e.attributeName || e.attributeValue.isNone)
        "attribute expectation requires locator, attribute_name, attribute_value"
      e.validateTarget
  | .network => e.validateNetwork
  | .uploadFileNames =>
      rejectIf (e.locator.isNone || (e.fileNames.getD []).isEmpty)
        "upload_file_names requires locator and non-empty file_names"
      rejectIf ((e.fileNames.getD []).any (· = ""))
        "upload_file_names entries must be non-empty strings"
      e.validateTarget
  | .uploadFileCount =>
      rejectIf (e.locator.isNone || e.fileCount.isNone || e.fileCount.any (· < 0))
        "upload_file_count requires locator and non-negative file_count"
      e.validateTarget

def validate (e : Expectation) : Except PyException Unit := do
  e.validateScope
  e.validateFields

theorem validate_url {e : Expectation} (valid : e.validate = .ok ()) (isUrl : e.type = .url) :
    given e.urlValue = true := by
  unfold validate at valid
  obtain ⟨_, -, fields⟩ := bind_eq_ok.mp valid
  unfold validateFields at fields
  rw [isUrl] at fields
  obtain ⟨_, required, -⟩ := bind_eq_ok.mp fields
  simpa using rejectIf_eq_ok.mp required

/-- Every target-scoped expectation that is valid names its target. -/
theorem validate_locator {e : Expectation} (valid : e.validate = .ok ())
    (target : e.targetScoped = true) : e.locator.isSome = true := by
  unfold validate at valid
  obtain ⟨_, -, fields⟩ := bind_eq_ok.mp valid
  have located : ∀ {rest : Bool} {message : String},
      rejectIf (e.locator.isNone || rest) message = .ok () → e.locator.isSome = true := by
    intro rest message accepted
    have both := rejectIf_eq_ok.mp accepted
    rw [Bool.or_eq_false_iff] at both
    simpa using both.1
  unfold validateFields at fields
  cases type : e.type with
  | url => rw [targetScoped, type] at target; cases target
  | network => rw [targetScoped, type] at target; cases target
  | elementExists | elementVisible | elementInViewport | text | uploadFileNames =>
      rw [type] at fields
      obtain ⟨_, required, -⟩ := bind_eq_ok.mp fields
      exact located required
  | «attribute» | uploadFileCount =>
      rw [type] at fields
      obtain ⟨_, required, -⟩ := bind_eq_ok.mp fields
      rw [Bool.or_assoc] at required
      exact located required

/-- `expectation_id`, or the positional name the runtime gives an unnamed one. -/
def resolvedId (e : Expectation) (index : Nat) : String :=
  if e.expectationId ≠ "" then e.expectationId else "exp-" ++ toString (index + 1)

end Expectation

/-- The identifiers under which a list of expectations is reported. -/
def expectationIds (expectations : List Expectation) : List String :=
  expectations.mapIdx fun index e => e.resolvedId index

end Dingdongditch
