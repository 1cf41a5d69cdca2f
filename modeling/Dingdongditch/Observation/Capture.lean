import Dingdongditch.Contract.Value
import Dingdongditch.Text.JsonLayout
import Dingdongditch.Text.Surgery

/-!
# The capture of a page

What one evaluation of the snapshot script returns, and what an observation derives
from it: locator candidates for every element, and spatial relationships between
elements.  The dictionaries of the capture are kept whole; the fields that are read
stand beside them.
-/

namespace Dingdongditch.Observation

open Text

variable {F : Type}

/-! ## Numbers -/

inductive Number (F : Type)
  | int (n : Int)
  | float (x : F)

def Number.toJson : Number F → Json F
  | .int n => .int n
  | .float x => .float x

/-- The arithmetic of numbers, which are integers or floating-point numbers. -/
structure Arithmetic (F : Type) where
  add : Number F → Number F → Number F
  sub : Number F → Number F → Number F
  mul : Number F → Number F → Number F
  div : Number F → Number F → Number F
  abs : Number F → Number F
  /-- `math.hypot` -/
  hypot : Number F → Number F → Number F
  lt : Number F → Number F → Bool
  le : Number F → Number F → Bool
  /-- The literal of a number of hundredths. -/
  hundredths : Nat → F

namespace Arithmetic

variable (math : Arithmetic F)

/-- `max(a, b)` -/
def max (a b : Number F) : Number F := if math.lt a b then b else a

/-- `min(a, b)` -/
def min (a b : Number F) : Number F := if math.lt b a then b else a

end Arithmetic

/-! ## Options -/

structure PageObservationOptions (F : Type) where
  maxInteractiveElements : Int := 300
  maxTextBlocks : Int := 200
  maxRegions : Int := 100
  maxRelationshipsPerElement : Int := 6
  maxRelationshipDistancePx : Number F
  maxScrollableContainers : Int := 50
  maxPayloadBytes : Int := 2000000
  maxTextLength : Int := 500
  freshnessMaxAgeMs : Int := 30000
  observationBudgetMs : Int := 5000
  mutationQuiescenceMs : Int := 125

namespace PageObservationOptions

/-- The fields of the options, in order. -/
def values (options : PageObservationOptions F) : List (String × Number F) :=
  [("max_interactive_elements", .int options.maxInteractiveElements),
    ("max_text_blocks", .int options.maxTextBlocks),
    ("max_regions", .int options.maxRegions),
    ("max_relationships_per_element", .int options.maxRelationshipsPerElement),
    ("max_relationship_distance_px", options.maxRelationshipDistancePx),
    ("max_scrollable_containers", .int options.maxScrollableContainers),
    ("max_payload_bytes", .int options.maxPayloadBytes),
    ("max_text_length", .int options.maxTextLength),
    ("freshness_max_age_ms", .int options.freshnessMaxAgeMs),
    ("observation_budget_ms", .int options.observationBudgetMs),
    ("mutation_quiescence_ms", .int options.mutationQuiescenceMs)]

/-- `PageObservationOptions.validate` -/
def validate (math : Arithmetic F) (options : PageObservationOptions F) : Except PyException Unit :=
  options.values.forM fun (name, value) =>
    if math.le value (.int 0) then .error (.valueError (name ++ " must be positive")) else .ok ()

end PageObservationOptions

/-! ## Captured dictionaries -/

/-- A string or `None`. -/
def asOptionalText : Json F → Option (Option String)
  | .null => some none
  | .str s => some (some s)
  | _ => none

def asNumber : Json F → Option (Number F)
  | .int n => some (.int n)
  | .float x => some (.float x)
  | _ => none

def asInt : Json F → Option Int
  | .int n => some n
  | _ => none

def asList : Json F → Option (List (Json F))
  | .list items => some items
  | _ => none

def asDict : Json F → Option (List (String × Json F))
  | .dict entries => some entries
  | _ => none

structure Box (F : Type) where
  x : Number F
  y : Number F
  width : Number F
  height : Number F

structure Point (F : Type) where
  x : Number F
  y : Number F

def Box.ofJson (value : Json F) : Option (Box F) := do
  let entries ← asDict value
  let x ← (entries.lookup "x").bind asNumber
  let y ← (entries.lookup "y").bind asNumber
  let width ← (entries.lookup "width").bind asNumber
  let height ← (entries.lookup "height").bind asNumber
  return { x, y, width, height }

def Point.ofJson (value : Json F) : Option (Point F) := do
  let entries ← asDict value
  let x ← (entries.lookup "x").bind asNumber
  let y ← (entries.lookup "y").bind asNumber
  return { x, y }

structure CapturedElement (F : Type) where
  entries : List (String × Json F)
  elementId : String
  semanticRole : Option String
  accessibleName : Option String
  placeholder : Option String
  visibleText : Option String
  owningRegionId : Option String
  usefulAttributes : List (String × String)
  bounds : Box F
  center : Point F

def CapturedElement.ofJson (value : Json F) : Option (CapturedElement F) := do
  let entries ← asDict value
  let elementId ← (entries.lookup "element_id").bind Json.asText
  let semanticRole ← (entries.lookup "semantic_role").bind asOptionalText
  let accessibleName ← (entries.lookup "accessible_name").bind asOptionalText
  let placeholder ← (entries.lookup "placeholder").bind asOptionalText
  let visibleText ← (entries.lookup "visible_text").bind asOptionalText
  let owningRegionId ← (entries.lookup "owning_region_id").bind asOptionalText
  let attributes ← (entries.lookup "useful_attributes").bind asDict
  let usefulAttributes ← attributes.mapM fun entry => entry.2.asText.map fun text => (entry.1, text)
  let bounds ← (entries.lookup "bounds_px").bind Box.ofJson
  let center ← (entries.lookup "center_px").bind Point.ofJson
  return {
    entries, elementId, semanticRole, accessibleName, placeholder, visibleText, owningRegionId
    usefulAttributes, bounds, center }

structure CapturedRegion (F : Type) where
  entries : List (String × Json F)
  regionId : String
  semanticRole : String
  accessibleName : Option String

def CapturedRegion.ofJson (value : Json F) : Option (CapturedRegion F) := do
  let entries ← asDict value
  let regionId ← (entries.lookup "region_id").bind Json.asText
  let semanticRole ← (entries.lookup "semantic_role").bind Json.asText
  let accessibleName ← (entries.lookup "accessible_name").bind asOptionalText
  return { entries, regionId, semanticRole, accessibleName }

/-- The capture envelope. -/
structure Capture (F : Type) where
  url : String
  title : String
  viewport : List (String × Json F)
  viewportWidth : Json F
  viewportHeight : Number F
  document : List (String × Json F)
  documentHeight : Number F
  scrollY : Number F
  focus : Json F
  regions : List (CapturedRegion F)
  elements : List (CapturedElement F)
  overlays : List (Json F)
  textBlocks : List (Json F)
  scrollables : Json F
  totalElements : Int
  totalRegions : Int
  textLimitReached : Json F
  signature : String

def Capture.ofJson (value : Json F) : Option (Capture F) := do
  let entries ← asDict value
  let url ← (entries.lookup "url").bind Json.asText
  let title ← (entries.lookup "title").bind Json.asText
  let viewport ← (entries.lookup "viewport").bind asDict
  let viewportWidth ← viewport.lookup "width"
  let viewportHeight ← (viewport.lookup "height").bind asNumber
  let document ← (entries.lookup "document").bind asDict
  let documentHeight ← (document.lookup "height").bind asNumber
  let scrollY ← (document.lookup "scroll_y").bind asNumber
  let focus ← entries.lookup "focus"
  let regions ← (entries.lookup "regions").bind asList
  let regions ← regions.mapM CapturedRegion.ofJson
  let elements ← (entries.lookup "elements").bind asList
  let elements ← elements.mapM CapturedElement.ofJson
  let overlays ← (entries.lookup "overlays").bind asList
  let textBlocks ← (entries.lookup "textBlocks").bind asList
  let scrollables ← entries.lookup "scrollables"
  let totalElements ← (entries.lookup "totalElements").bind asInt
  let totalRegions ← (entries.lookup "totalRegions").bind asInt
  let textLimitReached ← entries.lookup "textLimitReached"
  let signature ← (entries.lookup "signature").bind Json.asText
  return {
    url, title, viewport, viewportWidth, viewportHeight, document, documentHeight, scrollY, focus
    regions, elements, overlays, textBlocks, scrollables, totalElements, totalRegions
    textLimitReached, signature }

/-! ## Locator candidates -/

/-- A string or `None`. -/
def optionalText : Option String → Json F
  | some text => .str text
  | none => .null

inductive LocatorValue
  | text (value : String)
  | roleName (role name : String)
  | withinRegion (region regionRole : String) (regionName : Option String) (role name : String)
  deriving DecidableEq, Repr

def LocatorValue.toJson : LocatorValue → Json F
  | text value => .str value
  | roleName role name => .dict [("role", .str role), ("name", .str name), ("exact", .bool true)]
  | withinRegion region regionRole regionName role name => .dict [
      ("region", .str region),
      ("region_role", .str regionRole),
      ("region_name", optionalText regionName),
      ("role", .str role),
      ("name", .str name)]

structure LocatorCandidate where
  locatorType : String
  locatorValue : LocatorValue
  matchCount : Nat
  /-- In hundredths. -/
  confidence : Nat
  reason : String
  deriving DecidableEq, Repr

namespace LocatorCandidate

def unique (candidate : LocatorCandidate) : Bool := candidate.matchCount = 1

/-- `add`, of `_locator_candidates` -/
def add (kind : String) (value : LocatorValue) (count confidence : Nat) (reason : String) :
    LocatorCandidate where
  locatorType := kind
  locatorValue := value
  matchCount := count
  confidence := if count = 1 then confidence else Min.min confidence 45
  reason := reason

/-- `(not unique, -confidence)`, in order -/
def before (a b : LocatorCandidate) : Bool :=
  if a.unique = b.unique then b.confidence ≤ a.confidence else a.unique

def toJson (math : Arithmetic F) (elementId : String) (index : Nat)
    (candidate : LocatorCandidate) : Json F :=
  .dict [
    ("locator_type", .str candidate.locatorType),
    ("locator_value", candidate.locatorValue.toJson),
    ("expected_cardinality", .int 1),
    ("match_count", .int candidate.matchCount),
    ("unique", .bool candidate.unique),
    ("confidence", .float (math.hundredths candidate.confidence)),
    ("reason", .str candidate.reason),
    ("known_ambiguity",
      if candidate.unique then .null else .str (toString candidate.matchCount ++ " matching elements")),
    ("candidate_id", .str (elementId ++ ":candidate_" ++ toString (index + 1))),
    ("snapshot_match_count", .int candidate.matchCount),
    ("snapshot_unique", .bool candidate.unique),
    ("evidence_level", .str (if candidate.unique then "snapshot_unique" else "derived")),
    ("attestation_status", .str "not_present")]

end LocatorCandidate

/-- A text that is there and not empty. -/
def filled (text : Option String) : Option String := text.filter (· ≠ "")

def testAttributes : List String := ["data-testid", "data-test", "data-qa"]

/-- `_playwright_region_role` -/
def playwrightRegionRole (role : String) : String :=
  if role = "header" then "banner"
  else if role = "section" then "region"
  else if role = "footer" then "contentinfo"
  else if role = "aside" then "complementary"
  else role

section Candidates

variable (lower : List Char → List Char) (elements : List (CapturedElement F))
  (regions : List (CapturedRegion F)) (e : CapturedElement F)

def testIdCandidate : Option LocatorCandidate :=
  (testAttributes.findSome? fun name => filled (e.usefulAttributes.lookup name)).map fun test =>
    let count := elements.countP fun x =>
      testAttributes.any fun name => x.usefulAttributes.lookup name == some test
    .add "test_id" (.text test) count 99
      (if count = 1 then "unique explicit test attribute" else "duplicate test attribute")

/-- The role and the name of an element, where it has both. -/
def roleAndName : Option (String × String) := do
  let role ← filled e.semanticRole
  let name ← filled e.accessibleName
  return (role, name)

def roleNameCandidate : Option LocatorCandidate :=
  (roleAndName e).map fun (role, name) =>
    let count := elements.countP fun x =>
      x.semanticRole == e.semanticRole && x.accessibleName == e.accessibleName
    .add "role_name" (.roleName role name) count 95 "exact accessible role and name"

def placeholderCandidate : Option LocatorCandidate :=
  (filled e.placeholder).map fun placeholder =>
    let count := elements.countP fun x => x.placeholder == e.placeholder
    .add "placeholder" (.text placeholder) count 88 "exact placeholder"

def cssCandidate : Option LocatorCandidate := do
  let id ← filled (e.usefulAttributes.lookup "id")
  if ["react", "ember", ":", "__"].any fun part => contains part.toList (lower id.toList) then none
  else
    let count := elements.countP fun x => x.usefulAttributes.lookup "id" == some id
    some (.add "css" (.text ("#" ++ id)) count 90 "stable-looking DOM id")

def textCandidate : Option LocatorCandidate := do
  let text ← filled e.visibleText
  if text.length ≤ 120 then
    let count := elements.countP fun x => x.visibleText == e.visibleText
    some (.add "exact_text" (.text text) count 80 "exact visible text")
  else none

def regionCandidate : Option LocatorCandidate := do
  let owning ← filled e.owningRegionId
  let (role, name) ← roleAndName e
  let region := regions.find? fun r => r.regionId == owning
  let count := elements.countP fun x => x.owningRegionId == e.owningRegionId &&
    x.semanticRole == e.semanticRole && x.accessibleName == e.accessibleName
  let called := match region with
    | some r => (filled r.accessibleName).getD r.semanticRole
    | none => owning
  let regionRole := playwrightRegionRole ((region.map (·.semanticRole)).getD "region")
  let regionName := region.bind (·.accessibleName)
  some (.add "within_region" (.withinRegion called regionRole regionName role name) count 86
    "role/name constrained to owning region")

/-- `_locator_candidates` -/
def locatorCandidates : List LocatorCandidate :=
  let candidates := [testIdCandidate elements e, roleNameCandidate elements e,
    placeholderCandidate elements e, cssCandidate lower elements e, textCandidate elements e,
    regionCandidate elements regions e].reduceOption
  candidates.insertionSort fun a b => a.before b

/-- The element with its candidates. -/
def withCandidates (math : Arithmetic F) : Json F :=
  .dict (assign e.entries "locator_candidates" (.list
    ((locatorCandidates lower elements regions e).zipIdx.map fun (candidate, index) =>
      candidate.toJson math e.elementId index)))

end Candidates

/-! ## Spatial relationships -/

section Relationships

variable (math : Arithmetic F)

/-- A neighbour of an element: how far away its center is. -/
structure Neighbour (F : Type) where
  distance : Number F
  element : CapturedElement F
  dx : Number F
  dy : Number F

/-- The elements that are compared with one: others, in its region if it has one. -/
def neighbours (options : PageObservationOptions F) (elements : List (CapturedElement F))
    (a : CapturedElement F) (position : Nat) : List (Neighbour F) :=
  elements.zipIdx.filterMap fun (b, index) =>
    if index = position || (a.owningRegionId != b.owningRegionId && a.owningRegionId.isSome) then none
    else
      let dx := math.sub b.center.x a.center.x
      let dy := math.sub b.center.y a.center.y
      let distance := math.hypot dx dy
      if math.le distance options.maxRelationshipDistancePx then
        some { distance, element := b, dx, dy }
      else none

/-- The extent that two intervals share, and the gap between them. -/
def overlapOf (start extent start' extent' : Number F) : Number F :=
  math.max (.int 0) (math.sub (math.min (math.add start extent) (math.add start' extent'))
    (math.max start start'))

def gapOf (start extent start' extent' : Number F) : Number F :=
  math.max (.float (math.hundredths 0)) (math.sub (math.max start start')
    (math.min (math.add start extent) (math.add start' extent')))

def half : Number F := .float (math.hundredths 50)

/-- The percentage of the smaller box that the two boxes share. -/
def overlapPercentage (a b : Box F) : Number F :=
  let ix := overlapOf math a.x a.width b.x b.width
  let iy := overlapOf math a.y a.height b.y b.height
  math.mul (math.div (math.mul ix iy) (math.min (math.max (.int 1) (math.mul a.width a.height))
    (math.max (.int 1) (math.mul b.width b.height)))) (.int 100)

def relationshipTypes (a b : Box F) (n : Neighbour F) (overlap : Number F) : List String :=
  let zero : Number F := .int 0
  let largest := math.max (math.max (math.max a.width a.height) b.width) b.height
  ["nearest_to"] ++
    (if math.le (math.abs n.dy) (math.mul (math.max a.height b.height) (half math))
      then ["same_row_as"] else []) ++
    (if math.le (math.abs n.dx) (math.mul (math.max a.width b.width) (half math))
      then ["same_column_as"] else []) ++
    (if math.lt zero n.dx then ["right_of"] else if math.lt n.dx zero then ["left_of"] else []) ++
    (if math.lt zero n.dy then ["below"] else if math.lt n.dy zero then ["above"] else []) ++
    (if math.lt (.float (math.hundredths 1)) overlap then ["overlaps"] else []) ++
    (if math.lt n.distance (math.mul largest (.int 2)) then ["adjacent_to"] else [])

def relationship (a : CapturedElement F) (n : Neighbour F) : Json F :=
  let b := n.element
  let overlap := overlapPercentage math a.bounds b.bounds
  let horizontal := gapOf math a.bounds.x a.bounds.width b.bounds.x b.bounds.width
  let vertical := gapOf math a.bounds.y a.bounds.height b.bounds.y b.bounds.height
  .dict [
    ("source_element_id", .str a.elementId),
    ("target_element_id", .str b.elementId),
    ("relationship_types", .list ((relationshipTypes math a.bounds b.bounds n overlap).map .str)),
    ("horizontal_distance_px", horizontal.toJson),
    ("vertical_distance_px", vertical.toJson),
    ("euclidean_distance_px", (math.hypot horizontal vertical).toJson),
    ("center_distance_px", n.distance.toJson),
    ("overlap_percentage", overlap.toJson)]

/-- `_relationships` -/
def relationships (options : PageObservationOptions F) (elements : List (CapturedElement F)) :
    List (Json F) :=
  elements.zipIdx.flatMap fun (a, position) =>
    let nearest := (neighbours math options elements a position).insertionSort fun m n =>
      !math.lt n.distance m.distance
    (nearest.take options.maxRelationshipsPerElement.toNat).map (relationship math a)

end Relationships

end Dingdongditch.Observation
