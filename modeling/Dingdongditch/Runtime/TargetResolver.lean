import Dingdongditch.Contract.Target
import Dingdongditch.Interaction.Stateful
import Dingdongditch.Text.Surgery

/-!
# Target resolution

How a declared target is narrowed down to one element of the page: the frame hops
that lead to its document, its primary locator, and its constraints in the order of
their declaration.  What the browser answers is the environment; a reader that
raises a `PlaywrightError` is caught where the source catches it.
-/

namespace Dingdongditch.Resolver

open Interaction Text

/-! ## Targets -/

/-- `ResolutionRoot`: the page, or the document of a frame. -/
inductive Root
  | page
  | frame (id : Nat)
  deriving DecidableEq, Repr

/-- A Playwright locator: the matches of a primary locator, or one of them. -/
structure Element where
  root : Root
  primary : Locator
  nth : Option Nat := none
  deriving DecidableEq, Repr

inductive AttributeOperator
  | exists_ | equals | notEquals
  deriving DecidableEq, Repr

/-- What an `exclude` constraint excludes. -/
structure Exclusion where
  namesExact : List String := []
  namesContains : List String := []
  attributeName : Option String := none
  attributeValue : Option String := none
  css : Option String := none
  deriving DecidableEq, Repr

mutual

/-- A locator with the constraints that it declares. -/
inductive Target
  | mk (primary : Locator) (constraints : List TargetConstraint)

inductive TargetConstraint
  | within (container : Target)
  | attribute (name : String) (operator : AttributeOperator) (value : Option String)
  | visible (want : Bool)
  | enabled (want : Bool)
  | exclude (exclusion : Exclusion)

end

/-! ## What is asked of the browser -/

/-- What the snapshot script of the repository returns for an element. -/
structure RawSnapshot where
  visible : Bool
  inViewport : Bool
  text : String
  attributes : List (String × Option String)
  fileNames : List String
  fileCount : Int
  deriving DecidableEq, Repr

inductive AtomicResult
  | unsupported (reason : String)
  | disconnected
  | connected (raw : RawSnapshot)
  deriving DecidableEq, Repr

inductive PageCall
  /-- `primary.count()` -/
  | count (root : Root) (primary : Locator)
  /-- `element_handle(timeout=1000)`: whether there is one -/
  | elementHandle (element : Element)
  | containsElement (candidate container : Element)
  | accessibleName (element : Element)
  | getAttribute (element : Element) (name : String)
  | isVisible (element : Element)
  | isEnabled (element : Element)
  | excludedCount (root : Root) (css : String)
  | sameElement (element : Element) (root : Root) (css : String) (index : Nat)
  | candidateSummary (element : Element)
  /-- The tag name of a frame element. -/
  | frameTag (element : Element)
  | contentFrame (element : Element)
  | atomicSnapshot (element : Element) (names : List String)
  | innerText (element : Element)
  | textContent (element : Element)
  /-- `get_attribute`, by the serial snapshot -/
  | readAttribute (element : Element) (name : String)
  | inputValue (element : Element)
  | isChecked (element : Element)
  | uploadedFiles (element : Element)
  | inViewport (element : Element)

def PageCall.Result : PageCall → Type
  | .count _ _ => Nat
  | .elementHandle _ => Bool
  | .containsElement _ _ => Bool
  | .accessibleName _ => String
  | .getAttribute _ _ => Option String
  | .isVisible _ => Bool
  | .isEnabled _ => Bool
  | .excludedCount _ _ => Nat
  | .sameElement _ _ _ _ => Bool
  | .candidateSummary _ => Unit
  | .frameTag _ => String
  | .contentFrame _ => Option Nat
  | .atomicSnapshot _ _ => AtomicResult
  | .innerText _ => String
  | .textContent _ => Option String
  | .readAttribute _ _ => Option String
  | .inputValue _ => String
  | .isChecked _ => Bool
  | .uploadedFiles _ => Option (List String)
  | .inViewport _ => Bool

def PageSig : Sig where
  Call := PageCall
  Answer := fun c => Except PyException c.Result

abbrev PageAct (α : Type) : Type := Act PageSig Unit PyException α

/-- `isinstance(exc, PlaywrightError)` -/
def isPlaywrightError (e : PyException) : Bool :=
  e.type = .playwrightError || e.type = .playwrightTimeoutError

def read (c : PageCall) : PageAct c.Result := Act.attempt (S := PageSig) c id

/-- A reading whose `PlaywrightError` is caught. -/
def caught (c : PageCall) : PageAct (Except PyException c.Result) :=
  Act.attempt (S := PageSig) c fun answer => match answer with
    | .ok a => .ok (.ok a)
    | .error e => if isPlaywrightError e then .ok (.error e) else .error e

/-- A reading with a value to fall back on. -/
def readOr (c : PageCall) (fallback : c.Result) : PageAct c.Result := do
  let answer ← caught c
  match answer with
  | .ok a => return a
  | .error _ => return fallback

/-! ## Constraints -/

/-- `_is_descendant` -/
def isDescendant (candidate container : Element) : PageAct Bool := do
  let attached : Bool ← readOr (.elementHandle container) false
  if attached then readOr (.containsElement candidate container) false else return false

/-- `_apply_attribute_constraint`, for one candidate. -/
def satisfiesAttribute (name : String) (operator : AttributeOperator) (value : Option String)
    (candidate : Element) : PageAct Bool := do
  let actual : Option String ← readOr (.getAttribute candidate name) none
  return match operator with
    | .exists_ => actual.isSome
    | .equals => actual == value
    | .notEquals => actual != value

/-- The loop over the elements that `exclude_css` matches, from the given one on; an
error ends it, and excludes nothing. -/
def matchesExcludedCss (root : Root) (css : String) (candidate : Element) :
    (remaining index : Nat) → PageAct Bool
  | 0, _ => return false
  | remaining + 1, index => do
      let same ← caught (.sameElement candidate root css index)
      match same with
      | .ok true => return true
      | .ok false => matchesExcludedCss root css candidate remaining (index + 1)
      | .error _ => return false

/-- Whether the attribute of an exclusion excludes the candidate. -/
def excludedByAttribute (exclusion : Exclusion) (candidate : Element) : PageAct Bool :=
  match exclusion.attributeName, exclusion.attributeValue with
  | some name, some value => do
      let actual : Option String ← readOr (.getAttribute candidate name) none
      return actual == some value
  | _, _ => return false

def excludedByCss (root : Root) (exclusion : Exclusion) (candidate : Element) : PageAct Bool :=
  match exclusion.css with
  | none => return false
  | some "" => return false
  | some css => do
      let count : Nat ← readOr (.excludedCount root css) (0 : Nat)
      matchesExcludedCss root css candidate count 0

/-- `_apply_exclude_constraint`, for one candidate: whether it stays. -/
def notExcluded (root : Root) (exclusion : Exclusion) (candidate : Element) : PageAct Bool := do
  let name : String ← readOr (.accessibleName candidate) ""
  if exclusion.namesExact.contains name then return false
  if exclusion.namesContains.any fun fragment => contains fragment.toList name.toList then
    return false
  if ← excludedByAttribute exclusion candidate then return false
  return !(← excludedByCss root exclusion candidate)

/-! ## Resolution -/

/-- What resolution reports, with the final candidate count and the failure of its
trace. -/
structure ResolvedTarget where
  element : Option Element
  matchCount : Nat
  finalCandidateCount : Nat
  error : Option String := none
  failureKind : Option String := none
  deriving DecidableEq, Repr

def ResolvedTarget.ok (resolved : ResolvedTarget) : Bool := resolved.element.isSome

/-- No candidate is left. -/
def zeroCandidates (constrained : Bool) : ResolvedTarget where
  element := none
  matchCount := 0
  finalCandidateCount := 0
  error := some (if constrained then "zero candidates after constraints"
    else "zero candidates after primary locator")
  failureKind := some (if constrained then "zero_after_constraints" else "zero_after_primary")

/-- A container of the target is not unique. -/
def unresolvedContainer (container : ResolvedTarget) (candidates : Nat) : ResolvedTarget :=
  let ambiguous := contains "ambiguous".toList (container.error.getD "").toList ||
    1 < container.finalCandidateCount
  let kind := container.failureKind.getD "ambiguous_container"
  { element := none
    matchCount := candidates
    finalCandidateCount := candidates
    error := if ambiguous then some "ambiguous within container"
      else some (container.error.getD "within container could not be uniquely resolved")
    failureKind := some (
      if ambiguous then "ambiguous_container"
      else if kind = "zero_after_primary" ∨ kind = "zero_after_constraints" then "missing_container"
      else kind) }

/-- The cardinality check that ends the resolution. -/
def concludeTarget (root : Root) (primary : Locator) (constrained : Bool) (primaryCount : Nat)
    (candidates : List Nat) : PageAct ResolvedTarget := do
  if candidates.length ≠ 1 then
    -- summaries are for the trace only
    (candidates.take 8).forM fun index => do
      let _ ← caught (.candidateSummary ⟨root, primary, some index⟩)
  match candidates with
  | [] => return zeroCandidates constrained
  | [index] =>
      let nth := if !constrained && primaryCount = 1 then none else some index
      return { element := some ⟨root, primary, nth⟩, matchCount := 1, finalCandidateCount := 1 }
  | _ =>
      let count := candidates.length
      return {
        element := none
        matchCount := count
        finalCandidateCount := count
        error := some (
          if constrained then s!"multiple candidates after constraints: {count}"
          else s!"ambiguous target: {count} matches")
        failureKind := some (
          if constrained then "multiple_after_constraints" else "multiple_after_primary") }

mutual

/-- `resolve_target` -/
def resolveTarget (root : Root) : Target → PageAct ResolvedTarget
  | .mk primary constraints => do
      let primaryCount : Nat ← read (.count root primary)
      if primaryCount = 0 ∧ constraints.isEmpty then return zeroCandidates false
      let narrowed ← applyConstraints root primary constraints (List.range primaryCount)
      match narrowed with
      | .error failed => return failed
      | .ok candidates =>
          concludeTarget root primary (!constraints.isEmpty) primaryCount candidates

/-- The loop over the constraints: the candidates that are left, or the failure of a
container. -/
def applyConstraints (root : Root) (primary : Locator) :
    List TargetConstraint → List Nat → PageAct (Except ResolvedTarget (List Nat))
  | [], candidates => return .ok candidates
  | .within container :: rest, candidates => do
      let resolved ← resolveTarget root container
      match resolved.element with
      | none => return .error (unresolvedContainer resolved candidates.length)
      | some element => do
          let inside ← candidates.filterM fun index => isDescendant ⟨root, primary, some index⟩ element
          applyConstraints root primary rest inside
  | .attribute name operator value :: rest, candidates => do
      let left ← candidates.filterM fun index =>
        satisfiesAttribute name operator value ⟨root, primary, some index⟩
      applyConstraints root primary rest left
  | .visible want :: rest, candidates => do
      let left ← candidates.filterM fun index => do
        let visible : Bool ← read (.isVisible ⟨root, primary, some index⟩)
        return visible == want
      applyConstraints root primary rest left
  | .enabled want :: rest, candidates => do
      let left ← candidates.filterM fun index => do
        let enabled : Bool ← read (.isEnabled ⟨root, primary, some index⟩)
        return enabled == want
      applyConstraints root primary rest left
  | .exclude exclusion :: rest, candidates => do
      let left ← candidates.filterM fun index => notExcluded root exclusion ⟨root, primary, some index⟩
      applyConstraints root primary rest left

end

/-! ## Frames -/

structure ResolvedFrame where
  frame : Option Root
  matchCount : Nat
  error : Option String := none
  failureKind : Option String := none
  deriving DecidableEq, Repr

/-- The failure of a frame element, under the kinds of frames. -/
def unresolvedFrame (element : ResolvedTarget) : ResolvedFrame :=
  let kind := element.failureKind.getD "missing_frame"
  let kind :=
    if kind ∈ ["zero_after_primary", "zero_after_constraints", "missing_container"] then
      "missing_frame"
    else if kind ∈ ["multiple_after_primary", "multiple_after_constraints", "ambiguous_container"]
      then "ambiguous_frame"
    else kind
  { frame := none
    matchCount := element.matchCount
    error := some (
      if kind = "missing_frame" then "missing iframe"
      else if kind = "ambiguous_frame" then "ambiguous iframe"
      else element.error.getD "iframe target could not be uniquely resolved")
    failureKind := some kind }

/-- A unique frame element without a document. -/
def failedFrame (kind reason : String) : ResolvedFrame where
  frame := none
  matchCount := 1
  error := some reason
  failureKind := some kind

/-- The document of a frame element. -/
def contentFrameOf (element : Element) : PageAct ResolvedFrame := do
  let tag ← caught (.frameTag element)
  match tag with
  | .error e => return failedFrame "detached_frame" ("iframe element observation failed: " ++ e.message)
  | .ok (tag : String) =>
      if tag ≠ "iframe" ∧ tag ≠ "frame" then
        return failedFrame "not_a_frame" ("frame target resolved to non-frame element: " ++
          if tag = "" then "unknown" else tag)
      let handle ← caught (.elementHandle element)
      match handle with
      | .error e => return failedFrame "detached_frame" ("iframe detached during resolution: " ++ e.message)
      | .ok false =>
          return failedFrame "detached_frame" "iframe detached before content frame resolution"
      | .ok true =>
          let content ← caught (.contentFrame element)
          match content with
          | .error e =>
              return failedFrame "detached_frame" ("iframe detached during resolution: " ++ e.message)
          | .ok none =>
              return failedFrame "detached_frame"
                "iframe content frame unavailable (detached or not a browsing context)"
          | .ok (some id) => return { frame := some (.frame id), matchCount := 1 }

/-- `resolve_frame` -/
def resolveFrame (root : Root) (locator : Target) : PageAct ResolvedFrame := do
  let resolved ← resolveTarget root locator
  match resolved.element with
  | none => return unresolvedFrame resolved
  | some element => contentFrameOf element

/-- `resolve_frame_path`: each hop is resolved in the document of the one before. -/
def resolveFramePath (root : Root) : List Target → PageAct ResolvedFrame
  | [] => return { frame := some root, matchCount := 1 }
  | hop :: path => do
      let resolved ← resolveFrame root hop
      match resolved.frame with
      | none => return resolved
      | some inner => resolveFramePath inner path

/-- `_resolve_scoped_target` -/
def resolveScopedTarget (target : Target) (framePath : List Target) : PageAct ResolvedTarget := do
  let framed ← resolveFramePath .page framePath
  match framed.frame with
  | none =>
      return {
        element := none, matchCount := framed.matchCount, finalCandidateCount := 0
        error := framed.error, failureKind := framed.failureKind }
  | some root => resolveTarget root target

end Dingdongditch.Resolver
