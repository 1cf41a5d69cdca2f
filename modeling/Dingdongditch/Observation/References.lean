import Mathlib.Data.List.Basic
import Mathlib.Logic.Function.Basic

/-!
# References to observed elements

A snapshot records facts of the elements that it captures, and `validate_reference`
reads some of them again from the page.  The two scripts share how they read a role, a
name and whether an element is visible.  The snapshot cuts names, captures only visible
elements that it takes for interactive, and has more sources for the selected state.

The texts of a page are lists of code units, which is what its scripts count and cut.
-/

namespace Dingdongditch.Observation

/-! ## Texts -/

abbrev JsText : Type := List UInt16

/-- A text of ASCII characters. -/
def js (text : String) : JsText := text.toList.map fun c => UInt16.ofNat c.toNat

def isJsSpace (unit : UInt16) : Bool :=
  let n := unit.toNat
  (9 ≤ n && n ≤ 13) || n = 32 || n = 0xA0 || n = 0x1680 || (0x2000 ≤ n && n ≤ 0x200A) ||
    n = 0x2028 || n = 0x2029 || n = 0x202F || n = 0x205F || n = 0x3000 || n = 0xFEFF

/-- `s.trim()` -/
def trim (s : JsText) : JsText := ((s.dropWhile isJsSpace).reverse.dropWhile isJsSpace).reverse

/-- `texts.join(' ')` -/
def joinTexts (texts : List JsText) : JsText := List.flatten (texts.intersperse (js " "))

/-- What the scripts take from their engine. -/
structure ScriptHost where
  /-- `s.toLowerCase()` -/
  lower : JsText → JsText
  /-- `Number(s) >= 0` -/
  isNonNegative : JsText → Bool
  /-- The pattern of class names that bind a colour to a variable of an active state. -/
  bindsActiveVariable : JsText → Bool

/-! ## Elements of a page -/

/-- The keys of a captured element; the last one is added after the capture. -/
inductive ElementProperty
  | elementId | nodeContinuityToken | domTag | semanticRole | accessibleName | visibleText
  | inputType | href | placeholder | currentValue | valueRedacted | enabled | visible | editable
  | focusable | focused | checked | selected | selectedStateSource | expanded | pressed | required
  | readonly | boundsPx | boundsNormalized | centerPx | centerNormalized | viewportInclusion
  | occlusionState | owningRegionId | parentInteractiveElementId | usefulAttributes
  | locatorCandidates
  deriving DecidableEq, Repr

def ElementProperty.name : ElementProperty → String
  | elementId => "element_id"
  | nodeContinuityToken => "node_continuity_token"
  | domTag => "dom_tag"
  | semanticRole => "semantic_role"
  | accessibleName => "accessible_name"
  | visibleText => "visible_text"
  | inputType => "input_type"
  | href => "href"
  | placeholder => "placeholder"
  | currentValue => "current_value"
  | valueRedacted => "value_redacted"
  | enabled => "enabled"
  | visible => "visible"
  | editable => "editable"
  | focusable => "focusable"
  | focused => "focused"
  | checked => "checked"
  | selected => "selected"
  | selectedStateSource => "selected_state_source"
  | expanded => "expanded"
  | pressed => "pressed"
  | required => "required"
  | readonly => "readonly"
  | boundsPx => "bounds_px"
  | boundsNormalized => "bounds_normalized"
  | centerPx => "center_px"
  | centerNormalized => "center_normalized"
  | viewportInclusion => "viewport_inclusion"
  | occlusionState => "occlusion_state"
  | owningRegionId => "owning_region_id"
  | parentInteractiveElementId => "parent_interactive_element_id"
  | usefulAttributes => "useful_attributes"
  | locatorCandidates => "locator_candidates"

def ElementProperty.all : List ElementProperty :=
  [elementId, nodeContinuityToken, domTag, semanticRole, accessibleName, visibleText, inputType,
    href, placeholder, currentValue, valueRedacted, enabled, visible, editable, focusable, focused,
    checked, selected, selectedStateSource, expanded, pressed, required, readonly, boundsPx,
    boundsNormalized, centerPx, centerNormalized, viewportInclusion, occlusionState, owningRegionId,
    parentInteractiveElementId, usefulAttributes, locatorCandidates]

/-- A value of a property.  Of an identifier `el_1`, or a token of the document, it is the number;
`fact` is the value of a property that only the snapshot reads. -/
inductive PropertyValue (V : Type)
  | null
  | bool (b : Bool)
  | number (n : Nat)
  | text (t : JsText)
  | fact (v : V)
  deriving DecidableEq

namespace PropertyValue

variable {V : Type}

def ofText (t : Option JsText) : PropertyValue V := t.elim .null .text

def ofBool (b : Option Bool) : PropertyValue V := b.elim .null .bool

end PropertyValue

/-- An element that the selector of both scripts finds, by what they read of it. -/
structure DomNode (V : Type) where
  /-- `tagName` -/
  tag : JsText
  roleAttribute : Option JsText
  /-- `type`, of an `INPUT` -/
  type : JsText
  ariaLabel : Option JsText
  /-- The texts of the elements that `aria-labelledby` names. -/
  labelledBy : List JsText
  /-- The texts of `labels`. -/
  labels : List JsText
  alt : Option JsText
  title : Option JsText
  /-- `innerText`, or `textContent`, with its white space normalised -/
  text : JsText
  placeholder : Option JsText
  /-- The computed style and the rectangle put it into the view. -/
  visible : Bool
  hidden : Bool
  /-- It is a `button`, `a[href]`, `input`, …, apart from its role and its `tabindex`. -/
  isNative : Bool
  tabindex : Option JsText
  disabled : Bool
  ariaDisabled : Option JsText
  /-- `selected`, of an element that has it -/
  nativeSelected : Option Bool
  ariaSelected : Option JsText
  ariaCurrent : Option JsText
  dataState : Option JsText
  classes : List JsText
  ariaPressed : Option JsText
  other : ElementProperty → V

namespace DomNode

variable {V : Type} (host : ScriptHost) (node : DomNode V)

/-- `a || b`, of texts -/
def orElse (a : Option JsText) (b : JsText) : JsText := if a.getD [] = [] then b else a.getD []

/-- `roleMap`, and the roles of an `INPUT` by its type -/
def impliedRole : Option JsText :=
  if node.tag = js "A" then some (js "link")
  else if node.tag = js "BUTTON" then some (js "button")
  else if node.tag = js "TEXTAREA" then some (js "textbox")
  else if node.tag = js "SELECT" then some (js "combobox")
  else if node.tag = js "OPTION" then some (js "option")
  else if node.tag = js "SUMMARY" then some (js "button")
  else if node.tag = js "INPUT" then
    let type := host.lower (orElse (some node.type) (js "text"))
    if type ∈ [js "button", js "submit", js "reset"] then some (js "button")
    else if type = js "checkbox" then some (js "checkbox")
    else if type = js "radio" then some (js "radio")
    else if type = js "range" then some (js "slider")
    else if type = js "search" then some (js "searchbox")
    else if type = js "number" then some (js "spinbutton")
    else some (js "textbox")
  else none

/-- `role(e)` -/
def role : Option JsText :=
  if node.roleAttribute.getD [] = [] then node.impliedRole host else node.roleAttribute

/-- `name(e)` -/
def name : JsText :=
  if node.ariaLabel.getD [] ≠ [] then trim (node.ariaLabel.getD [])
  else if trim (joinTexts node.labelledBy) ≠ [] then trim (joinTexts node.labelledBy)
  else if trim (joinTexts node.labels) ≠ [] then trim (joinTexts node.labels)
  else trim (orElse node.alt (orElse node.title node.text))

def enabled : Bool := !(node.disabled || node.ariaDisabled = some (js "true"))

/-- `e.hasAttribute('aria-pressed') ? e.getAttribute('aria-pressed') === 'true' : null` -/
def pressed : Option Bool := node.ariaPressed.map fun value => decide (value = js "true")

/-- The class token is `active`, `selected`, `current` or `checked`, maybe after `is-`. -/
def isStateToken (token : JsText) : Bool :=
  let lower := host.lower token
  let states := [js "active", js "selected", js "current", js "checked"]
  lower ∈ states || lower ∈ states.map (js "is-" ++ ·)

inductive SelectionSource
  | nativeSelected | ariaSelected | ariaCurrent | dataState | classStateToken
  | cssActiveVariableBinding
  deriving DecidableEq, Repr

def SelectionSource.value : SelectionSource → String
  | nativeSelected => "native_selected"
  | ariaSelected => "aria-selected"
  | ariaCurrent => "aria-current"
  | dataState => "data-state"
  | classStateToken => "class_state_token"
  | cssActiveVariableBinding => "css_active_variable_binding"

/-- `selectedState(e)`, of the snapshot -/
def selectedState : Option (Bool × SelectionSource) :=
  match node.nativeSelected with
  | some selected => some (selected, .nativeSelected)
  | none =>
  match node.ariaSelected with
  | some value => some (value = js "true", .ariaSelected)
  | none =>
  match node.ariaCurrent with
  | some value => some (value ∉ [js "false", []], .ariaCurrent)
  | none =>
      let state := host.lower (node.dataState.getD [])
      if state ≠ [] then
        some (state ∈ [js "active", js "selected", js "on", js "checked", js "open", js "current"],
          .dataState)
      else if node.classes.any (isStateToken host) then some (true, .classStateToken)
      else if node.classes.any host.bindsActiveVariable then some (true, .cssActiveVariableBinding)
      else none

/-- The selected state that the validation reads. -/
def rereadSelected : Option Bool :=
  match node.nativeSelected with
  | some selected => some selected
  | none => node.ariaSelected.map fun value => decide (value = js "true")

/-- `validRoles` -/
def VALID_ROLES : List JsText :=
  ["button", "link", "textbox", "checkbox", "radio", "switch", "tab", "menuitem",
    "menuitemcheckbox", "menuitemradio", "option", "combobox", "listbox", "slider", "spinbutton",
    "searchbox", "treeitem"].map js

/-- The filter of the snapshot. -/
def isCaptured : Bool :=
  node.visible && !node.hidden &&
    ((node.role host).any (VALID_ROLES.contains ·) || node.isNative ||
      node.tabindex.any host.isNonNegative)

end DomNode

/-! ## Tokens -/

/-- The tokens of a document, by the position of the node: each is the number of one node. -/
structure TokenMap where
  token : Nat → Option Nat
  counter : Nat
  injective : ∀ {i j a}, token i = some a → token j = some a → i = j
  bounded : ∀ {i a}, token i = some a → a ≤ counter

namespace TokenMap

variable (tokens : TokenMap)

/-- `nodeToken(e)`: a node without a token gets the next one. -/
def assign (i : Nat) : TokenMap :=
  if fresh : tokens.token i = none then {
    token := fun j => if j = i then some (tokens.counter + 1) else tokens.token j
    counter := tokens.counter + 1
    injective := by
      intro j k a isJ isK
      have below {l : Nat} (isToken : tokens.token l = some a) : a ≤ tokens.counter :=
        tokens.bounded isToken
      by_cases atJ : j = i
      · by_cases atK : k = i
        · rw [atJ, atK]
        · rw [if_pos atJ, Option.some.injEq] at isJ
          rw [if_neg atK] at isK
          have := below isK
          omega
      · by_cases atK : k = i
        · rw [if_neg atJ] at isJ
          rw [if_pos atK, Option.some.injEq] at isK
          have := below isJ
          omega
        · rw [if_neg atJ] at isJ
          rw [if_neg atK] at isK
          exact tokens.injective isJ isK
    bounded := by
      intro j a isToken
      by_cases atJ : j = i
      · rw [if_pos atJ, Option.some.injEq] at isToken
        omega
      · rw [if_neg atJ] at isToken
        have := tokens.bounded isToken
        omega }
  else tokens

/-- The tokens after a document was asked for those of some nodes, in order. -/
def assignAll (nodes : List Nat) : TokenMap := nodes.foldl assign tokens

/-- Later tokens: no node has lost its own. -/
def Extends (later earlier : TokenMap) : Prop :=
  ∀ i a, earlier.token i = some a → later.token i = some a

variable {tokens}

theorem assign_extends (i : Nat) : (tokens.assign i).Extends tokens := by
  intro j a isToken
  unfold assign
  split
  · next fresh =>
      have ne : j ≠ i := by
        intro same
        rw [same, fresh] at isToken
        cases isToken
      simpa [ne] using isToken
  · exact isToken

theorem assign_token (i : Nat) : ∃ a, (tokens.assign i).token i = some a := by
  unfold assign
  split
  · exact ⟨_, if_pos rfl⟩
  · next known => exact Option.ne_none_iff_exists'.mp known

theorem Extends.trans {a b c : TokenMap} (first : a.Extends b) (second : b.Extends c) : a.Extends c :=
  fun i n isToken => first i n (second i n isToken)

theorem assignAll_extends (nodes : List Nat) : (tokens.assignAll nodes).Extends tokens := by
  induction nodes generalizing tokens with
  | nil => exact fun _ _ isToken => isToken
  | cons i nodes ih => exact ih.trans (assign_extends i)

theorem assignAll_token {nodes : List Nat} {i : Nat} (member : i ∈ nodes) :
    ∃ a, (tokens.assignAll nodes).token i = some a := by
  induction nodes generalizing tokens with
  | nil => cases member
  | cons j nodes ih =>
      rcases List.mem_cons.mp member with rfl | later
      · obtain ⟨a, isToken⟩ : ∃ a, (tokens.assign i).token i = some a := assign_token i
        exact ⟨a, assignAll_extends nodes i a isToken⟩
      · exact ih later

end TokenMap

/-! ## Snapshots -/

/-- A page as its scripts see it. -/
structure PageState (V : Type) where
  pageId : Option String
  url : String
  nodes : List (DomNode V)
  tokens : TokenMap
  signature : String

/-- The limits of a snapshot, which are positive. -/
structure SnapshotLimits where
  maxElements : Nat
  maxTextLength : Nat
  positive : 0 < maxTextLength

/-- A captured element. -/
abbrev ElementFacts (V : Type) : Type := ElementProperty → PropertyValue V

section Snapshot

variable {V : Type} (host : ScriptHost) (limits : SnapshotLimits) (page : PageState V)

/-- The nodes that a snapshot captures, with their positions. -/
def capturedNodes : List (DomNode V × Nat) :=
  (page.nodes.zipIdx.filter fun (node, _) => node.isCaptured host).take limits.maxElements

/-- What a snapshot records of a node. -/
def elementFacts (node : DomNode V) (elementId : Nat) (token : Option Nat) : ElementFacts V
  | .elementId => .number elementId
  | .nodeContinuityToken => token.elim .null .number
  | .domTag => .text (host.lower node.tag)
  | .semanticRole => .ofText (node.role host)
  | .accessibleName =>
      let name := node.name.take limits.maxTextLength
      if name = [] then .null else .text name
  | .placeholder => .ofText node.placeholder
  | .enabled => .bool node.enabled
  | .visible => .bool true
  | .selected => .ofBool ((node.selectedState host).map (·.1))
  | .selectedStateSource => .ofText ((node.selectedState host).map fun state => js state.2.value)
  | .pressed => .ofBool node.pressed
  | property => .fact (node.other property)

/-- The page after a snapshot. -/
def afterSnapshot : PageState V :=
  { page with tokens := page.tokens.assignAll ((capturedNodes host limits page).map (·.2)) }

/-- The elements of a snapshot, numbered from 1. -/
def snapshotElements : List (ElementFacts V) :=
  (capturedNodes host limits page).zipIdx.map fun ((node, i), index) =>
    elementFacts host limits node (index + 1) ((afterSnapshot host limits page).tokens.token i)

/-- What `validate_reference` reads of an observation. -/
structure StoredObservation (V : Type) where
  pageId : Option String
  url : String
  capturedAtMs : Int
  maxAgeMs : Int
  fingerprint : String
  elements : List (ElementFacts V)

/-- The observation of a snapshot of which the payload holds so many elements. -/
def observationOf (sha256 : String → String) (capturedAtMs maxAgeMs : Int) (kept : Nat) :
    StoredObservation V where
  pageId := page.pageId
  url := page.url
  capturedAtMs := capturedAtMs
  maxAgeMs := maxAgeMs
  fingerprint := sha256 page.signature
  elements := (snapshotElements host limits page).take kept

end Snapshot

/-! ## Validation -/

/-- What the validation looks for. -/
structure Identity (V : Type) where
  domTag : PropertyValue V
  semanticRole : PropertyValue V
  accessibleName : PropertyValue V
  placeholder : PropertyValue V

/-- What the validation script returns. -/
structure ReferenceFacts where
  matchCount : Nat
  nodeContinuityToken : Option Nat := none
  visible : Option Bool := none
  enabled : Option Bool := none
  selected : Option Bool := none
  pressed : Option Bool := none
  signature : String
  deriving DecidableEq, Repr

structure ObservationReference (V : Type) where
  elementId : Nat
  expected : List (String × PropertyValue V) := []

structure ObservationFreshnessResult (V : Type) where
  fresh : Bool
  reason : String
  element : Option (ElementFacts V) := none

section Validation

variable {V : Type} [DecidableEq V] (host : ScriptHost)

/-- The filter of the validation. -/
def matchesIdentity (identity : Identity V) (node : DomNode V) : Bool :=
  .text (host.lower node.tag) = identity.domTag && .ofText (node.role host) = identity.semanticRole &&
    (identity.accessibleName = .null || .text node.name = identity.accessibleName) &&
    (identity.placeholder = .null || .ofText node.placeholder = identity.placeholder)

/-- The script of `validate_reference`. -/
def referenceFacts (page : PageState V) (identity : Identity V) : ReferenceFacts :=
  match page.nodes.zipIdx.filter fun (node, _) => matchesIdentity host identity node with
  | [(node, i)] => {
      matchCount := 1
      nodeContinuityToken := page.tokens.token i
      visible := some node.visible
      enabled := some node.enabled
      selected := node.rereadSelected
      pressed := node.pressed
      signature := page.signature }
  | matched => { matchCount := matched.length, signature := page.signature }

/-- `facts.get(key)` -/
def ElementFacts.get (facts : ElementFacts V) (key : String) : PropertyValue V :=
  match ElementProperty.all.find? (·.name = key) with
  | some property => facts property
  | none => .null

/-- The recorded facts, with those that were read again. -/
def reread (old : ElementFacts V) (raw : ReferenceFacts) : ElementFacts V
  | .visible => .ofBool raw.visible
  | .enabled => .ofBool raw.enabled
  | .selected => .ofBool raw.selected
  | .pressed => .ofBool raw.pressed
  | property => old property

/-- `validate_reference`, on the observation that the observer holds, if it still does. -/
def validateReference (sha256 : String → String) (held : Option (StoredObservation V))
    (page : PageState V) (nowMs : Int) (reference : ObservationReference V) :
    ObservationFreshnessResult V :=
  match held with
  | none => { fresh := false, reason := "unknown_observation" }
  | some observation =>
      if page.pageId ≠ observation.pageId ∨ page.url ≠ observation.url then
        { fresh := false, reason := "page_navigated" }
      else if nowMs - observation.capturedAtMs > observation.maxAgeMs then
        { fresh := false, reason := "observation_expired" }
      else match observation.elements.find? (· .elementId = .number reference.elementId) with
        | none => { fresh := false, reason := "unknown_element" }
        | some old =>
            if old .nodeContinuityToken = .null then
              { fresh := false, reason := "node_continuity_unavailable" }
            else
              let raw := referenceFacts host page
                ⟨old .domTag, old .semanticRole, old .accessibleName, old .placeholder⟩
              if raw.matchCount ≠ 1 then
                { fresh := false, reason := "element_disappeared_or_ambiguous" }
              else if raw.nodeContinuityToken.elim .null .number ≠ old .nodeContinuityToken then
                { fresh := false, reason := "element_replaced" }
              else
                let found := reread old raw
                match reference.expected.find? fun (key, value) => found.get key ≠ value with
                | some (key, _) =>
                    { fresh := false, reason := "expected_property_changed:" ++ key }
                | none =>
                    if sha256 raw.signature ≠ observation.fingerprint then
                      { fresh := true, reason := "same_node_with_unrelated_dom_change",
                        element := some found }
                    else { fresh := true, reason := "same_dom_node", element := some found }

end Validation

end Dingdongditch.Observation
