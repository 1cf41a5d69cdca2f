import Dingdongditch.Contract.Browser
import Dingdongditch.Contract.Governance
import Dingdongditch.Contract.OriginPolicy
import Dingdongditch.Contract.Plan

/-!
# Overriding the browser of a plan

A plan document as the loader returns it, its own validation with the browser and the
declared speculations in full, and the engine and headless flag that a command line puts
in place of the ones the plan declares.
-/

namespace Dingdongditch.PlanJson

open Text

/-- What the loader reads outside the plan: whether a user-data directory of Chrome exists,
the canonical bytes of an operation's public view, and `repr` of a string. -/
structure LoaderHost where
  chromeProfile : Bool
  publicBytes : Operation → String
  repr : String → String

/-- The only member of `FailurePolicy`. -/
inductive FailurePolicy
  | stopOnFailure
  deriving DecidableEq, Repr

/-- `ExecutionPlan` -/
structure ExecutionPlan (codec : HostCodec) where
  planId : String
  operations : List Operation
  browserConfig : BrowserConfig := {}
  failurePolicy : FailurePolicy := .stopOnFailure
  initialPlanTimeoutMs : Option Int := none
  adaptiveTimeoutEnabled : Bool := false
  maxPlanTimeoutMs : Option Int := none
  screenshotConfig : Option ScreenshotConfig := none
  authorityEnvelope : Option (AuthorityEnvelope codec) := none
  speculativePlans : List SpeculativePlan := []
  deriving DecidableEq

variable {codec : HostCodec} (host : LoaderHost)

/-- A nested contract by the outcome of its own validation. -/
def declare (name : String) (outcome : Except PyException Unit) : Declared where
  name
  rejection :=
    match outcome with
    | .ok () => none
    | .error e => some e

@[simp] theorem validate_declare (name : String) (outcome : Except PyException Unit) :
    (declare name outcome).validate = outcome := by
  rcases outcome with e | _
  · rfl
  · rfl

namespace ExecutionPlan

/-- `operation_by_id.get(operation_id)`: the last operation of that name. -/
def operationById (plan : ExecutionPlan codec) (operationId : String) : Option Operation :=
  plan.operations.reverse.find? fun op => op.operationId = operationId

/-- The branches of one speculation: `continuation_ids` after them. -/
def checkContinuations (plan : ExecutionPlan codec) :
    List SpeculativeBranch → List String → Except PyException (List String)
  | [], continuationIds => .ok continuationIds
  | branch :: rest, continuationIds => do
      let operationId := branch.continuation.operationId
      rejectIf ((plan.operationById operationId).isSome || operationId ∈ continuationIds)
        "speculative continuation operation ids must be globally unique"
      checkContinuations plan rest (operationId :: continuationIds)

/-- The speculations of a plan, with the ids that the earlier ones took. -/
def checkSpeculations (plan : ExecutionPlan codec) :
    List SpeculativePlan → List String → List String → Except PyException Unit
  | [], _, _ => .ok ()
  | speculation :: rest, speculationIds, continuationIds => do
      speculation.requireExecutionBinding
      rejectIf (speculation.speculationId ∈ speculationIds)
        "speculation ids must be unique within one plan"
      match plan.operationById speculation.parentOperationId, speculation.parentOperation with
      | some parent, some declared =>
          rejectIf (host.publicBytes parent ≠ host.publicBytes declared)
            "speculation parent operation does not exactly match plan operation"
      | _, _ => rejectIf true "speculation parent operation must be declared in plan operations"
      let continuationIds ← plan.checkContinuations speculation.branches continuationIds
      checkSpeculations plan rest (speculation.speculationId :: speculationIds) continuationIds

def validateSpeculations (plan : ExecutionPlan codec) : Except PyException Unit := do
  rejectIf (8 < plan.speculativePlans.length) "plan may declare at most eight speculative plans"
  plan.checkSpeculations host plan.speculativePlans [] []

/-- The plan with its nested contracts by the outcomes of their validations. -/
def declared (plan : ExecutionPlan codec) : Plan.ExecutionPlan where
  planId := plan.planId
  operations := plan.operations
  browserConfig := declare "browser_config" (plan.browserConfig.validate host.chromeProfile)
  initialPlanTimeoutMs := plan.initialPlanTimeoutMs
  adaptiveTimeoutEnabled := plan.adaptiveTimeoutEnabled
  maxPlanTimeoutMs := plan.maxPlanTimeoutMs
  screenshotConfig := plan.screenshotConfig.map (·.rest)
  speculativePlans := declare "speculative_plans" (plan.validateSpeculations host)

/-- `ExecutionPlan.validate` -/
def validate (plan : ExecutionPlan codec) : Except PyException Unit :=
  (plan.declared host).validate

end ExecutionPlan

/-- A plan document that the loader accepted. -/
structure LoadedPlan (codec : HostCodec) extends ExecutionPlan codec where
  valid : toExecutionPlan.validate host = .ok ()

/-- `_parse_enum(BrowserEngine, engine, ctx="--engine")` -/
def parseEngine (engine : String) : Except PyException BrowserEngine :=
  match BrowserEngine.ofValue engine with
  | some parsed => .ok parsed
  | none =>
      .error ⟨.valueError, "--engine: invalid BrowserEngine: " ++ host.repr engine,
        some "invalid_enum"⟩

/-- The configuration that `apply_browser_overrides` validates. -/
def overriddenConfig (cfg : BrowserConfig) (engine : Option String) (headless : Option Bool) :
    Except PyException BrowserConfig := do
  let engine ←
    match engine with
    | some engine => parseEngine host engine
    | none => pure cfg.engine
  return {
    provider := cfg.provider
    engine := engine
    channel := cfg.channel
    headless := headless.getD cfg.headless
    downloadPolicy := cfg.downloadPolicy
    profile := cfg.profile }

/-- `apply_browser_overrides` -/
def applyBrowserOverrides (plan : ExecutionPlan codec) (engine : Option String)
    (headless : Option Bool) : Except PyException (ExecutionPlan codec) := do
  let config ← overriddenConfig host plan.browserConfig engine headless
  config.validate host.chromeProfile
  -- the plan is built again from named fields, and the speculative plans are not one of them
  return {
    planId := plan.planId
    operations := plan.operations
    browserConfig := config
    failurePolicy := plan.failurePolicy
    initialPlanTimeoutMs := plan.initialPlanTimeoutMs
    adaptiveTimeoutEnabled := plan.adaptiveTimeoutEnabled
    maxPlanTimeoutMs := plan.maxPlanTimeoutMs
    screenshotConfig := plan.screenshotConfig
    authorityEnvelope := plan.authorityEnvelope }

variable {host}

/-! ## What the overrides change -/

/-- The browser that a plan declares is one it may be launched with. -/
theorem LoadedPlan.config_valid (plan : LoadedPlan host codec) :
    plan.browserConfig.validate host.chromeProfile = .ok () := by
  have valid := plan.valid
  unfold ExecutionPlan.validate Plan.ExecutionPlan.validate at valid
  simp only [bind_eq_ok] at valid
  obtain ⟨_, -, _, -, _, -, _, -, _, -, _, -, _, accepted, -⟩ := valid
  simpa [ExecutionPlan.declared] using accepted

/-- The engine that an override asks for, where it names one. -/
def requestedEngine (cfg : BrowserConfig) (engine : Option String) : Option BrowserEngine :=
  match engine with
  | some engine => BrowserEngine.ofValue engine
  | none => some cfg.engine

theorem parseEngine_eq_ok {engine : String} {parsed : BrowserEngine} :
    parseEngine host engine = .ok parsed ↔ BrowserEngine.ofValue engine = some parsed := by
  unfold parseEngine
  generalize BrowserEngine.ofValue engine = found
  rcases found with _ | found
  · simp
  · simp

theorem overriddenConfig_eq_ok {cfg config : BrowserConfig} {engine : Option String}
    {headless : Option Bool} :
    overriddenConfig host cfg engine headless = .ok config ↔
      ∃ requested, requestedEngine cfg engine = some requested ∧
        config = { cfg with engine := requested, headless := headless.getD cfg.headless } := by
  unfold overriddenConfig requestedEngine
  rcases engine with _ | engine
  · constructor
    · intro overridden
      cases overridden
      exact ⟨_, rfl, rfl⟩
    · intro ⟨requested, same, isConfig⟩
      cases same
      rw [isConfig]
      rfl
  · simp only [bind_eq_ok, parseEngine_eq_ok]
    constructor
    · intro ⟨requested, named, built⟩
      cases built
      exact ⟨requested, named, rfl⟩
    · intro ⟨requested, named, isConfig⟩
      rw [isConfig]
      exact ⟨requested, named, rfl⟩

/-- What is built again: the plan with the new browser, and no speculations. -/
theorem applyBrowserOverrides_eq_ok {plan result : ExecutionPlan codec} {engine : Option String}
    {headless : Option Bool} :
    applyBrowserOverrides host plan engine headless = .ok result ↔
      ∃ config, overriddenConfig host plan.browserConfig engine headless = .ok config ∧
        config.validate host.chromeProfile = .ok () ∧
        result = { plan with browserConfig := config, speculativePlans := [] } := by
  unfold applyBrowserOverrides
  simp only [bind_eq_ok]
  constructor
  · intro ⟨config, overridden, _, accepted, built⟩
    cases built
    exact ⟨config, overridden, accepted, rfl⟩
  · intro ⟨config, overridden, accepted, built⟩
    rw [built]
    exact ⟨config, overridden, (), accepted, rfl⟩

/-- Without overrides the configuration is the declared one. -/
theorem overriddenConfig_none (cfg : BrowserConfig) :
    overriddenConfig host cfg none none = .ok cfg := rfl

/-- Without overrides only the speculations of a loaded plan are lost. -/
theorem applyBrowserOverrides_none (plan : LoadedPlan host codec) :
    applyBrowserOverrides host plan.toExecutionPlan none none =
      .ok { plan.toExecutionPlan with speculativePlans := [] } :=
  applyBrowserOverrides_eq_ok.mpr ⟨_, overriddenConfig_none _, plan.config_valid, rfl⟩

/-- The overrides touch only the engine and the headless flag of the browser, and without
overrides a plan is what it was. -/
structure OnlyBrowser (plan : LoadedPlan host codec) : Prop where
  frame : ∀ engine headless result,
    applyBrowserOverrides host plan.toExecutionPlan engine headless = .ok result →
      ∃ requested, requestedEngine plan.browserConfig engine = some requested ∧
        result = { plan.toExecutionPlan with
          browserConfig := { plan.browserConfig with
            engine := requested
            headless := headless.getD plan.browserConfig.headless } }
  identity : applyBrowserOverrides host plan.toExecutionPlan none none = .ok plan.toExecutionPlan

theorem speculativePlans_eq_nil_of_identity {plan : LoadedPlan host codec}
    (identity : applyBrowserOverrides host plan.toExecutionPlan none none =
      .ok plan.toExecutionPlan) :
    plan.speculativePlans = [] := by
  rw [applyBrowserOverrides_none] at identity
  injection identity with same
  rw [← same]

theorem frame_of_no_speculations {plan : LoadedPlan host codec} (none : plan.speculativePlans = [])
    {engine : Option String} {headless : Option Bool} {result : ExecutionPlan codec}
    (applied : applyBrowserOverrides host plan.toExecutionPlan engine headless = .ok result) :
    ∃ requested, requestedEngine plan.browserConfig engine = some requested ∧
      result = { plan.toExecutionPlan with
        browserConfig := { plan.browserConfig with
          engine := requested
          headless := headless.getD plan.browserConfig.headless } } := by
  obtain ⟨config, overridden, -, built⟩ := applyBrowserOverrides_eq_ok.mp applied
  obtain ⟨requested, named, isConfig⟩ := overriddenConfig_eq_ok.mp overridden
  refine ⟨requested, named, ?_⟩
  rw [built, isConfig, ← none]

/-- The overrides touch only the browser exactly for the plans that declare no
speculations. -/
theorem onlyBrowser_iff (plan : LoadedPlan host codec) :
    OnlyBrowser plan ↔ plan.speculativePlans = [] := by
  constructor
  · intro only
    exact speculativePlans_eq_nil_of_identity only.identity
  · intro none
    constructor
    · intro engine headless result applied
      exact frame_of_no_speculations none applied
    · rw [applyBrowserOverrides_none, ← none]

/-! ## A plan that is not what it was -/

/-- A loader that compares operations by their names. -/
def sampleLoader : LoaderHost where
  chromeProfile := false
  publicBytes op := op.operationId
  repr engine := "'" ++ engine ++ "'"

/-- A click that opens the next page. -/
def openNext : Operation where
  operationId := "open"
  url := "https://shop.example/cart"
  action := { type := .click, locator := some { strategy := .css, value := "#next" } }

/-- Where the next page has opened, its button is clicked. -/
def nextOpened : SpeculativePlan where
  speculationId := "next"
  parentOperationId := "open"
  branches := [{
    branchId := "opened"
    preconditions := [{ type := .url, urlValue := some "https://shop.example/next" }]
    continuation := { openNext with operationId := "confirm" } }]
  parentOperation := some openNext

def speculatingPlan : LoadedPlan sampleLoader asciiCodec where
  planId := "checkout"
  operations := [openNext]
  speculativePlans := [nextOpened]
  valid := by decide +kernel

/-- Overriding nothing drops the speculations of the plan. -/
theorem not_onlyBrowser : ¬ OnlyBrowser speculatingPlan := by
  intro only
  exact List.cons_ne_nil _ _ (speculativePlans_eq_nil_of_identity only.identity)

end Dingdongditch.PlanJson
