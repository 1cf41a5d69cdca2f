import Dingdongditch.Contract.Download

/-!
# Browser configuration

The browser of a session, and the combinations of engine, channel and profile that are
refused before a browser is launched.
-/

namespace Dingdongditch

inductive BrowserProvider
  | playwright
  deriving DecidableEq, Repr

inductive BrowserEngine
  | chromium | firefox | webkit
  deriving DecidableEq, Repr

def BrowserEngine.value : BrowserEngine → String
  | .chromium => "chromium"
  | .firefox => "firefox"
  | .webkit => "webkit"

/-- `BrowserEngine(value)` -/
def BrowserEngine.ofValue (value : String) : Option BrowserEngine :=
  [.chromium, .firefox, .webkit].find? fun engine => engine.value = value

inductive BrowserChannel
  | bundled | chrome | msedge | brave
  deriving DecidableEq, Repr

def BrowserChannel.value : BrowserChannel → String
  | .bundled => "bundled"
  | .chrome => "chrome"
  | .msedge => "msedge"
  | .brave => "brave"

inductive BrowserFailureKind
  | unsupportedBrowserChannel | unsupportedEngineChannelCombination | browserContextCreationFailed
  | contradictoryBrowserConfig
  deriving DecidableEq, Repr

def BrowserFailureKind.value : BrowserFailureKind → String
  | .unsupportedBrowserChannel => "unsupported_browser_channel"
  | .unsupportedEngineChannelCombination => "unsupported_engine_channel_combination"
  | .browserContextCreationFailed => "browser_context_creation_failed"
  | .contradictoryBrowserConfig => "contradictory_browser_config"

/-- `BrowserConfigError`: a `ValueError` with a failure kind. -/
def browserConfigError (message : String) (kind : BrowserFailureKind) : PyException :=
  ⟨.valueError, message, some kind.value⟩

/-- `BrowserConfig`.  A member of `BrowserProfile` is equal to its name, so a profile is
its name. -/
structure BrowserConfig where
  provider : BrowserProvider := .playwright
  engine : BrowserEngine := .chromium
  channel : BrowserChannel := .bundled
  headless : Bool := true
  downloadPolicy : DownloadPolicy := {}
  profile : String := "benchmark"
  deriving DecidableEq, Repr

/-- The names of `BrowserProfile`. -/
def browserProfiles : List String := ["benchmark", "dingdong", "default"]

def isProfileChar (c : Char) : Bool := c.isAlphanum || c = '.' || c = '_' || c = '-'

/-- `[A-Za-z0-9][A-Za-z0-9._-]{0,63}` -/
def isProfileName (name : String) : Bool :=
  match name.toList with
  | [] => false
  | first :: rest => first.isAlphanum && rest.length ≤ 63 && rest.all isProfileChar

/-- The message of the error that `validate_profile_name` raises; a name of
`BrowserProfile` is reserved. -/
def profileNameError (name : String) : Option String :=
  if !isProfileName name then
    some ("profile name must be 1-64 ASCII letters, digits, '.', '_' or '-' and start with a " ++
      "letter or digit")
  else if name ∈ browserProfiles then some ("profile name '" ++ name ++ "' is reserved")
  else none

namespace BrowserConfig

def rejectConfig (bad : Bool) (message : String) (kind : BrowserFailureKind) :
    Except PyException Unit :=
  if bad then .error (browserConfigError message kind) else .ok ()

/-- `BrowserConfig.validate`.  `chromeProfile` is whether a user-data directory of Chrome
exists. -/
def validate (chromeProfile : Bool) (config : BrowserConfig) : Except PyException Unit := do
  rejectConfig (config.profile = "") "profile must be a non-empty name" .contradictoryBrowserConfig
  if config.profile ∉ browserProfiles then
    match profileNameError config.profile with
    | some message => throw (browserConfigError message .contradictoryBrowserConfig)
    | none => pure ()
  rejectConfig (config.profile = "default" ∧ config.engine ≠ .chromium)
    "profile=default requires engine=chromium" .unsupportedEngineChannelCombination
  rejectConfig (config.profile = "default" ∧ !chromeProfile)
    "profile=default requested but no existing Chrome profile was found"
    .browserContextCreationFailed
  config.downloadPolicy.validate
  match config.engine with
  | .chromium =>
      -- reserved channels of Chromium are known, and not supported
      rejectConfig (config.channel ≠ .bundled)
        ("unsupported browser channel: " ++ config.channel.value ++
          " (DingDongDitch currently supports only channel=bundled)") .unsupportedBrowserChannel
  | engine =>
      rejectConfig (config.channel ≠ .bundled)
        ("unsupported engine/channel combination: " ++ engine.value ++ "/" ++ config.channel.value)
        .unsupportedEngineChannelCombination

end BrowserConfig

end Dingdongditch
