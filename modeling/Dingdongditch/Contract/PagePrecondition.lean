import Dingdongditch.Contract.Origin
import Dingdongditch.Contract.Target
import Dingdongditch.Text.Percent
import Mathlib.Data.List.Dedup

/-!
# Page preconditions

What a host declares of the current page before an operation runs: conditions on the
URL and on visible elements, each of which has to hold.  `validateContradictions` is
the check that refuses conditions that, it says, contradict each other.
-/

namespace Dingdongditch

open Text

def MAX_PAGE_CONDITIONS : Nat := 32

inductive PageConditionType
  | exactUrl | originEquals | pathEquals | pathStartsWith | queryParamEquals | elementVisible
  deriving DecidableEq, Repr

def PageConditionType.value : PageConditionType → String
  | .exactUrl => "exact_url"
  | .originEquals => "origin_equals"
  | .pathEquals => "path_equals"
  | .pathStartsWith => "path_starts_with"
  | .queryParamEquals => "query_param_equals"
  | .elementVisible => "element_visible"

inductive FragmentPolicy
  | ignore | include
  deriving DecidableEq, Repr

structure PageCondition where
  conditionId : List Char
  type : PageConditionType
  urlValue : Option (List Char) := none
  fragmentPolicy : FragmentPolicy := .ignore
  originValue : Option (List Char) := none
  pathValue : Option (List Char) := none
  queryName : Option (List Char) := none
  queryValue : Option (List Char) := none
  locator : Option Locator := none
  frame : Option Locator := none
  framePath : List Locator := []
  deriving DecidableEq, Repr

/-! ## URLs and origins -/

/-- `urlsplit(url)` with its exception. -/
def parseUrl (codec : HostCodec) (url : List Char) : Except PyException SplitResult :=
  match urlsplit codec url with
  | none => .error (.valueError "invalid URL")
  | some parsed => .ok parsed

/-- `parsed.scheme.lower() in {"http", "https"}` -/
def isHttp (parsed : SplitResult) : Bool :=
  lowerAscii parsed.scheme = http || lowerAscii parsed.scheme = https

/-- `parsed.username is not None or parsed.password is not None` -/
def hasUserinfo (parsed : SplitResult) : Bool := parsed.netloc.contains '@'

/-- `_without_fragment` -/
def withoutFragment (codec : HostCodec) (value : List Char) : Except PyException (List Char) := do
  let parsed ← parseUrl codec value
  return { parsed with fragment := [] }.geturl

def normalizeOrigin (codec : HostCodec) (value : Option (List Char)) :
    Except PyException (List Char) := do
  rejectIf (value.getD [] = []) "origin_equals requires origin_value"
  let parsed ← parseUrl codec (value.getD [])
  rejectIf (!isHttp parsed || parsed.hostname codec = [])
    "origin_value must be an absolute http(s) origin"
  rejectIf (hasUserinfo parsed) "origin_value must not include userinfo"
  rejectIf ((parsed.path ≠ [] ∧ parsed.path ≠ ['/']) ∨ parsed.query ≠ [] ∨ parsed.fragment ≠ [])
    "origin_value must not include path, query, or fragment"
  let scheme := lowerAscii parsed.scheme
  let host := codec.lower (parsed.hostname codec)
  match parsed.port with
  | none => throw (.valueError "origin_value contains invalid port")
  | some port =>
      return scheme ++ "://".toList ++ (if ':' ∈ host then '[' :: host ++ [']'] else host) ++
        portSuffix scheme port

/-! ## Conditions -/

namespace PageConditionType

/-- The value fields that a condition of each type may have. -/
def allowed : PageConditionType → List String
  | .exactUrl => ["url_value", "fragment_policy"]
  | .originEquals => ["origin_value"]
  | .pathEquals => ["path_value"]
  | .pathStartsWith => ["path_value"]
  | .queryParamEquals => ["query_name", "query_value"]
  | .elementVisible => ["locator", "frame", "frame_path"]

end PageConditionType

namespace PageCondition

/-- The value fields, with whether they are set. -/
def values (c : PageCondition) : List (String × Bool) :=
  [("url_value", c.urlValue.isSome), ("origin_value", c.originValue.isSome),
    ("path_value", c.pathValue.isSome), ("query_name", c.queryName.isSome),
    ("query_value", c.queryValue.isSome), ("locator", c.locator.isSome),
    ("frame", c.frame.isSome), ("frame_path", !c.framePath.isEmpty)]

/-- The check of the URL of an `exact_url` condition. -/
def validateExactUrl (codec : HostCodec) (url : List Char) : Except PyException Unit := do
  let parsed ← parseUrl codec url
  rejectIf (parsed.scheme = []) "exact_url requires an absolute URL"
  rejectIf (hasUserinfo parsed) "exact_url must not include userinfo"
  rejectIf (isHttp parsed && parsed.hostname codec = []) "exact_url http(s) URL requires a host"
  rejectIf parsed.port.isNone "exact_url contains invalid port"

/-- The check of the path of a `path_equals` or `path_starts_with` condition. -/
def validatePath (c : PageCondition) : Except PyException Unit := do
  rejectIf ((c.pathValue.getD []).head? ≠ some '/')
    (c.type.value ++ " requires path_value starting with /")
  rejectIf (decide ('?' ∈ c.pathValue.getD []) || decide ('#' ∈ c.pathValue.getD []))
    (c.type.value ++ " path_value must not contain ? or #")
  rejectIf (c.type = .pathStartsWith ∧ c.pathValue = some ['/']) "path_starts_with rejects / alone"

/-- The check of the locators of an `element_visible` condition. -/
def validateElement (c : PageCondition) : Except PyException Unit := do
  match c.locator with
  | none => throw (.valueError "element_visible requires locator")
  | some locator => locator.validate
  c.frame.forM Locator.validate
  rejectIf (c.frame.isSome && !c.framePath.isEmpty) "frame and frame_path are mutually exclusive"
  rejectIf (c.framePath.length > maxFramePathDepth)
    ("frame_path supports at most " ++ toString maxFramePathDepth ++ " declared hops")
  c.framePath.forM Locator.validate

def validate (codec : HostCodec) (c : PageCondition) : Except PyException Unit := do
  rejectIf (stripBy isSpace c.conditionId = []) "page condition_id is required"
  c.values.forM fun (name, isSet) =>
    rejectIf (isSet && name ∉ c.type.allowed) (c.type.value ++ " must not include " ++ name)
  rejectIf (c.type ≠ .exactUrl ∧ c.fragmentPolicy ≠ .ignore)
    (c.type.value ++ " must not include non-default fragment_policy")
  match c.type with
  | .exactUrl =>
      rejectIf (c.urlValue.getD [] = []) "exact_url requires url_value"
      validateExactUrl codec (c.urlValue.getD [])
  | .originEquals =>
      let _ ← normalizeOrigin codec c.originValue
  | .pathEquals => validatePath c
  | .pathStartsWith => validatePath c
  | .queryParamEquals =>
      rejectIf (c.queryName.getD [] = []) "query_param_equals requires non-empty query_name"
      rejectIf c.queryValue.isNone "query_param_equals requires query_value string"
  | .elementVisible => validateElement c

end PageCondition

/-! ## Contradictions -/

section Contradictions

variable (codec : HostCodec) (conditions : List PageCondition)

def ofType (type : PageConditionType) : List PageCondition :=
  conditions.filter fun c => c.type = type

/-- `str(condition.path_value)` of each condition of a type. -/
def uniquePaths (type : PageConditionType) : List (List Char) :=
  ((ofType conditions type).map fun c => c.pathValue.getD "None".toList).dedup

def assertSome (value : Option (List Char)) : Except PyException (List Char) :=
  match value with
  | none => throw ⟨.assertionError, "", none⟩
  | some value => return value

/-- The names and values of the `query_param_equals` conditions. -/
def queryParams : Except PyException (List (List Char × List Char)) :=
  (ofType conditions .queryParamEquals).mapM fun c => do
    return (← assertSome c.queryName, ← assertSome c.queryValue)

/-- The values that are declared for a name. -/
def valuesOf (params : List (List Char × List Char)) (name : List Char) : List (List Char) :=
  ((params.filter fun param => param.1 = name).map Prod.snd).dedup

/-- The values of a name in a decoded query. -/
def occurrences (query : List (List Char × List Char)) (name : List Char) : List (List Char) :=
  (query.filter fun param => param.1 = name).map Prod.snd

/-- The first exact URL against the other conditions. -/
def validateExact (url : List Char) (origins paths prefixes : List (List Char))
    (params : List (List Char × List Char)) : Except PyException Unit := do
  let parsed ← parseUrl codec url
  let decodedPath := unquote parsed.path
  match origins with
  | [] => pure ()
  | origin :: _ =>
      match normalizeOrigin codec
          (some (SplitResult.geturl ⟨parsed.scheme, parsed.netloc, [], [], []⟩)) with
      | .error _ => throw (.valueError "exact_url cannot satisfy origin_equals condition")
      | .ok exactOrigin =>
          rejectIf (exactOrigin ≠ origin) "exact_url contradicts origin_equals condition"
  rejectIf (paths ≠ [] ∧ some decodedPath ≠ paths.head?)
    "exact_url contradicts path_equals condition"
  rejectIf (prefixes.any fun pre => !pre.isPrefixOf decodedPath)
    "exact_url contradicts path_starts_with condition"
  let decodedQuery := parseQsl parsed.query
  rejectIf ((params.map Prod.fst).dedup.any fun name =>
      (occurrences decodedQuery name).length ≠ 1 ∨
        (occurrences decodedQuery name).head? ≠ (valuesOf params name).head?)
    "exact_url contradicts query_param_equals condition"

def exactUrls : List PageCondition → List (List Char) :=
  List.filterMap fun c => if c.type = .exactUrl then c.urlValue else none

/-- `_validate_contradictions` -/
def validateContradictions : Except PyException Unit := do
  let includedUrls := (exactUrls (conditions.filter fun c => c.fragmentPolicy = .include)).dedup
  let ignoredUrls ← (exactUrls conditions).mapM (withoutFragment codec)
  rejectIf (includedUrls.length > 1 ∨ ignoredUrls.dedup.length > 1)
    "contradictory exact_url conditions"
  let origins ← (ofType conditions .originEquals).mapM fun c => normalizeOrigin codec c.originValue
  rejectIf (origins.dedup.length > 1) "contradictory origin_equals conditions"
  let exactPaths := uniquePaths conditions .pathEquals
  rejectIf (exactPaths.length > 1) "contradictory path_equals conditions"
  let prefixes := uniquePaths conditions .pathStartsWith
  rejectIf (prefixes.any fun left => prefixes.any fun right =>
      !(right.isPrefixOf left || left.isPrefixOf right))
    "contradictory path_starts_with conditions"
  match exactPaths with
  | [] => pure ()
  | exactPath :: _ =>
      rejectIf (prefixes.any fun pre => !pre.isPrefixOf exactPath)
        "path_equals contradicts path_starts_with condition"
  let params ← queryParams conditions
  rejectIf ((params.map Prod.fst).dedup.any fun name => (valuesOf params name).length > 1)
    "contradictory query_param_equals conditions"
  match exactUrls conditions with
  | [] => pure ()
  | exactUrl :: _ => validateExact codec exactUrl origins.dedup exactPaths prefixes params

end Contradictions

structure PagePrecondition where
  conditions : List PageCondition
  logic : String := "all"
  deriving DecidableEq, Repr

namespace PagePrecondition

/-- Path and query conditions are read against an origin. -/
def anchored (conditions : List PageCondition) : Bool :=
  conditions.any fun c => c.type = .exactUrl || c.type = .originEquals

def structural (conditions : List PageCondition) : Bool :=
  conditions.any fun c =>
    c.type = .pathEquals || c.type = .pathStartsWith || c.type = .queryParamEquals

def validate (codec : HostCodec) (precondition : PagePrecondition) : Except PyException Unit := do
  let conditions := precondition.conditions
  rejectIf (precondition.logic ≠ "all") "page_precondition logic must be all"
  rejectIf conditions.isEmpty "page_precondition conditions must not be empty"
  rejectIf (conditions.length > MAX_PAGE_CONDITIONS)
    ("page_precondition supports at most " ++ toString MAX_PAGE_CONDITIONS ++ " conditions")
  rejectIf (¬ (conditions.map PageCondition.conditionId).Nodup)
    "page_precondition condition_id values must be unique"
  conditions.forM (PageCondition.validate codec)
  rejectIf (structural conditions && !anchored conditions)
    "path/query page conditions require exact_url or origin_equals"
  validateContradictions codec conditions

end PagePrecondition

end Dingdongditch
