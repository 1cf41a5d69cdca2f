import Mathlib.Data.List.Nodup
import Mathlib.Data.List.Perm.Basic
import Dingdongditch.Observation.References

/-!
# When references stay fresh

While a page does not change, a reference to an element of a snapshot is fresh until it
expires exactly where the validation recognises the element (`Recognised`): its name was
not cut, no other node that the selector finds, captured or not, looks like it, and its
selected state is not expected, or is one that the validation reads.
-/

namespace Dingdongditch.Observation

variable {V : Type}

/-! ## Pages that do not change -/

/-- The same page, with the same nodes, later: no node has lost its token. -/
structure PageState.Unchanged (later earlier : PageState V) : Prop where
  pageId : later.pageId = earlier.pageId
  url : later.url = earlier.url
  nodes : later.nodes = earlier.nodes
  signature : later.signature = earlier.signature
  tokens : later.tokens.Extends earlier.tokens

/-! ## Recognised elements -/

/-- The other node has the tag and the role of the node, and its name and its placeholder where it
has such. -/
def LooksLike (host : ScriptHost) (other node : DomNode V) : Prop :=
  host.lower other.tag = host.lower node.tag ∧ other.role host = node.role host ∧
    (node.name = [] ∨ other.name = node.name) ∧
    (node.placeholder = none ∨ other.placeholder = node.placeholder)

/-- The selected state is unknown, native or that of `aria-selected`. -/
def SelectionReread (host : ScriptHost) (node : DomNode V) : Prop :=
  ∀ state ∈ node.selectedState host, state.2 = .nativeSelected ∨ state.2 = .ariaSelected

/-- The validation finds the node again, alone, with the expected properties. -/
structure Recognised (host : ScriptHost) (limits : SnapshotLimits) (page : PageState V)
    (node : DomNode V) (i : Nat) (expected : List (String × PropertyValue V)) : Prop where
  named : node.name.length ≤ limits.maxTextLength
  alone : ∀ other j, (other, j) ∈ page.nodes.zipIdx → LooksLike host other node → j = i
  selection : (∃ value, ("selected", value) ∈ expected) → SelectionReread host node

/-- The expected properties are recorded ones. -/
def Recorded (facts : ElementFacts V) (expected : List (String × PropertyValue V)) : Prop :=
  ∀ entry ∈ expected, ∃ property : ElementProperty, entry = (property.name, facts property)

section Recognition

variable {host : ScriptHost} {limits : SnapshotLimits} {page : PageState V} {node : DomNode V}

theorem mem_zipIdx_unique {other : DomNode V} {i : Nat} (member : (node, i) ∈ page.nodes.zipIdx)
    (member' : (other, i) ∈ page.nodes.zipIdx) : other = node := by
  rw [List.mem_zipIdx_iff_getElem?] at member member'
  simp only at member member'
  rw [member, Option.some.injEq] at member'
  exact member'.symm

/-- A filter finds one item of a list without repetitions. -/
theorem filter_eq_singleton_iff {α : Type} {p : α → Bool} {xs : List α} {x : α} (distinct : xs.Nodup) :
    xs.filter p = [x] ↔ x ∈ xs ∧ p x = true ∧ ∀ y ∈ xs, p y = true → y = x := by
  constructor
  · intro isFilter
    have member : x ∈ xs.filter p := by
      rw [isFilter]
      exact List.mem_singleton_self x
    obtain ⟨inside, holds⟩ := List.mem_filter.mp member
    refine ⟨inside, holds, fun y isY holdsY => ?_⟩
    have found := List.mem_filter.mpr ⟨isY, holdsY⟩
    rw [isFilter] at found
    exact List.mem_singleton.mp found
  · intro ⟨inside, holds, only⟩
    have perm : (xs.filter p).Perm [x] := by
      rw [List.perm_ext_iff_of_nodup (distinct.filter p) (List.nodup_singleton x)]
      intro y
      rw [List.mem_filter, List.mem_singleton]
      constructor
      · intro ⟨isY, holdsY⟩
        exact only y isY holdsY
      · intro same
        rw [same]
        exact ⟨inside, holds⟩
    exact List.perm_singleton.mp perm

theorem rereadSelected_eq_iff :
    node.rereadSelected = (node.selectedState host).map (·.1) ↔ SelectionReread host node := by
  unfold DomNode.rereadSelected SelectionReread DomNode.selectedState
  cases node.nativeSelected with
  | some selected => simp
  | none =>
  cases node.ariaSelected with
  | some value => simp
  | none =>
  cases node.ariaCurrent with
  | some value => simp
  | none =>
      simp only [Option.map_none]
      split
      · simp
      · split
        · simp
        · split
          · simp
          · simp

theorem get_name (facts : ElementFacts V) (property : ElementProperty) :
    facts.get property.name = facts property := by
  have found : ElementProperty.all.find? (·.name = property.name) = some property := by
    cases property <;> decide
  unfold ElementFacts.get
  rw [found]

/-- What the validation looks for, of a captured node. -/
def identityOf (facts : ElementFacts V) : Identity V :=
  ⟨facts .domTag, facts .semanticRole, facts .accessibleName, facts .placeholder⟩

theorem ofText_inj {a b : Option JsText} :
    (PropertyValue.ofText a : PropertyValue V) = .ofText b ↔ a = b := by
  cases a <;> cases b <;> simp [PropertyValue.ofText]

/-- What is looked for as a name is the recorded part of it. -/
theorem recordedName_iff (id : Nat) (token : Option Nat) (name : JsText) :
    (elementFacts host limits node id token .accessibleName = .null ∨
      .text name = elementFacts host limits node id token .accessibleName) ↔
    node.name = [] ∨ name = node.name.take limits.maxTextLength := by
  have positive := limits.positive
  have cut : node.name.take limits.maxTextLength = [] ↔ node.name = [] := by
    rw [List.take_eq_nil_iff]
    constructor
    · intro either
      rcases either with none | empty
      · omega
      · exact empty
    · exact Or.inr
  by_cases empty : node.name = []
  · simp [elementFacts, empty]
  · have kept := mt cut.mp empty
    simp [elementFacts, empty, kept]

variable [DecidableEq V]

theorem matchesIdentity_iff (id : Nat) (token : Option Nat) (other : DomNode V) :
    matchesIdentity host (identityOf (elementFacts host limits node id token)) other = true ↔
      host.lower other.tag = host.lower node.tag ∧ other.role host = node.role host ∧
        (node.name = [] ∨ other.name = node.name.take limits.maxTextLength) ∧
        (node.placeholder = none ∨ other.placeholder = node.placeholder) := by
  have isNull : (PropertyValue.ofText node.placeholder : PropertyValue V) = .null ↔
      node.placeholder = none := by
    cases node.placeholder <;> simp [PropertyValue.ofText]
  have isName := @recordedName_iff V host limits node id token other.name
  unfold matchesIdentity identityOf
  simp only [Bool.and_eq_true, Bool.or_eq_true, decide_eq_true_iff, isName]
  simp only [elementFacts, PropertyValue.text.injEq, ofText_inj, isNull, and_assoc]

/-- A node matches what was recorded of it exactly where its name was not cut. -/
theorem matchesIdentity_self (id : Nat) (token : Option Nat) :
    matchesIdentity host (identityOf (elementFacts host limits node id token)) node = true ↔
      node.name.length ≤ limits.maxTextLength := by
  have whole : node.name = node.name.take limits.maxTextLength ↔
      node.name.length ≤ limits.maxTextLength := by
    constructor
    · intro same
      have := congrArg List.length same
      rw [List.length_take] at this
      omega
    · intro named
      rw [List.take_of_length_le named]
  rw [matchesIdentity_iff, whole]
  have none_short : node.name = [] → node.name.length ≤ limits.maxTextLength := by
    intro empty
    simp [empty]
  tauto

/-- Other nodes match it where they look like it. -/
theorem matchesIdentity_other (id : Nat) (token : Option Nat) (other : DomNode V)
    (named : node.name.length ≤ limits.maxTextLength) :
    matchesIdentity host (identityOf (elementFacts host limits node id token)) other = true ↔
      LooksLike host other node := by
  rw [matchesIdentity_iff, List.take_of_length_le named]
  rfl

/-- The validation finds a recorded node alone exactly where its name was not cut and no other node
looks like it. -/
theorem matched_eq_iff {i id : Nat} {token : Option Nat} (member : (node, i) ∈ page.nodes.zipIdx) :
    page.nodes.zipIdx.filter (fun (other, _) =>
        matchesIdentity host (identityOf (elementFacts host limits node id token)) other) =
      [(node, i)] ↔
    node.name.length ≤ limits.maxTextLength ∧
      ∀ other j, (other, j) ∈ page.nodes.zipIdx → LooksLike host other node → j = i := by
  have distinct : page.nodes.zipIdx.Nodup := by
    apply List.Nodup.of_map Prod.snd
    rw [List.zipIdx_map_snd]
    exact List.nodup_range' 1
  rw [filter_eq_singleton_iff distinct]
  simp only [matchesIdentity_self]
  constructor
  · intro ⟨_, named, only⟩
    refine ⟨named, fun other j member' alike => ?_⟩
    have matched := (matchesIdentity_other id token other named).mpr alike
    have same := only (other, j) member' matched
    exact congrArg Prod.snd same
  · intro ⟨named, alone⟩
    refine ⟨member, named, ?_⟩
    intro ⟨other, j⟩ member' matched
    have alike := (matchesIdentity_other id token other named).mp matched
    have same := alone other j member' alike
    rw [same] at member'
    rw [same, mem_zipIdx_unique member member']

end Recognition

/-! ## The elements of an observation -/

section Held

variable {host : ScriptHost} {limits : SnapshotLimits} {page later : PageState V} {node : DomNode V}
  {i index kept : Nat}

/-- What a snapshot records of the captured node with this index. -/
def recordedFacts (host : ScriptHost) (limits : SnapshotLimits) (page : PageState V) (node : DomNode V)
    (i index : Nat) : ElementFacts V :=
  elementFacts host limits node (index + 1) ((afterSnapshot host limits page).tokens.token i)

theorem elementId_kept {j : Nat} {element : ElementFacts V}
    (isElement : ((snapshotElements host limits page).take kept)[j]? = some element) :
    element .elementId = .number (j + 1) := by
  simp [snapshotElements, List.getElem?_take] at isElement
  obtain ⟨-, node, i, -, rfl⟩ := isElement
  rfl

/-- Its identifier finds it among the elements that the observation keeps. -/
theorem find_element [DecidableEq V]
    (member : ((node, i), index) ∈ (capturedNodes host limits page).zipIdx) (isKept : index < kept) :
    ((snapshotElements host limits page).take kept).find? (· .elementId = .number (index + 1)) =
      some (recordedFacts host limits page node i index) := by
  rw [List.mem_zipIdx_iff_getElem?] at member
  obtain ⟨inside, isNode⟩ := List.getElem?_eq_some_iff.mp member
  simp only at inside isNode
  have inside' : index < ((snapshotElements host limits page).take kept).length := by
    simp [snapshotElements]
    omega
  rw [List.find?_eq_some_iff_getElem]
  refine ⟨by simp [recordedFacts, elementFacts], index, inside', ?_, ?_⟩
  · simp [snapshotElements, recordedFacts, isNode]
  · intro j earlier
    have ne : j ≠ index := by omega
    have inside'' : j < ((snapshotElements host limits page).take kept).length := by omega
    have isNumber := elementId_kept (List.getElem?_eq_getElem inside'')
    rw [isNumber]
    simp [ne]

/-- A captured node is one of the page. -/
theorem mem_of_captured (member : ((node, i), index) ∈ (capturedNodes host limits page).zipIdx) :
    (node, i) ∈ page.nodes.zipIdx ∧ node.visible = true := by
  have captured := List.mem_of_mem_take (List.fst_mem_of_mem_zipIdx member)
  obtain ⟨inside, isCaptured⟩ := List.mem_filter.mp captured
  simp only [DomNode.isCaptured, Bool.and_eq_true] at isCaptured
  exact ⟨inside, isCaptured.1.1⟩

/-- After the snapshot it has a token, and keeps it. -/
theorem token_of_captured (member : ((node, i), index) ∈ (capturedNodes host limits page).zipIdx)
    (unchanged : later.Unchanged (afterSnapshot host limits page)) :
    ∃ a, (afterSnapshot host limits page).tokens.token i = some a ∧ later.tokens.token i = some a := by
  have captured := List.mem_map_of_mem (f := (·.2)) (List.fst_mem_of_mem_zipIdx member)
  obtain ⟨a, isToken⟩ : ∃ a, (afterSnapshot host limits page).tokens.token i = some a :=
    TokenMap.assignAll_token captured
  exact ⟨a, isToken, unchanged.tokens i a isToken⟩

/-- Of the properties that are read again only the selected state can differ. -/
theorem reread_eq_iff {raw : ReferenceFacts} {id : Nat} {token : Option Nat} {property : ElementProperty}
    (visible : raw.visible = some true) (enabled : raw.enabled = some node.enabled)
    (selected : raw.selected = node.rereadSelected) (pressed : raw.pressed = node.pressed) :
    reread (elementFacts host limits node id token) raw property =
        elementFacts host limits node id token property ↔
      (property = .selected → SelectionReread host node) := by
  have ofBool_inj {a b : Option Bool} :
      (PropertyValue.ofBool a : PropertyValue V) = .ofBool b ↔ a = b := by
    cases a <;> cases b <;> simp [PropertyValue.ofBool]
  cases property
  case selected =>
    rw [← rereadSelected_eq_iff]
    simp only [reread, elementFacts, selected, ofBool_inj, true_implies]
  case visible => simp [reread, elementFacts, visible, PropertyValue.ofBool]
  case enabled => simp [reread, elementFacts, enabled, PropertyValue.ofBool]
  case pressed => simp [reread, elementFacts, pressed]
  all_goals simp [reread]

/-- Recorded properties are found unchanged exactly where the selected state, if it is one of them, is
read again. -/
theorem unexpected_eq_none_iff [DecidableEq V] {raw : ReferenceFacts}
    {expected : List (String × PropertyValue V)}
    (recorded : Recorded (recordedFacts host limits page node i index) expected)
    (visible : raw.visible = some true) (enabled : raw.enabled = some node.enabled)
    (selected : raw.selected = node.rereadSelected) (pressed : raw.pressed = node.pressed) :
    expected.find? (fun (key, value) =>
        (reread (recordedFacts host limits page node i index) raw).get key ≠ value) = none ↔
      ((∃ value, ("selected", value) ∈ expected) → SelectionReread host node) := by
  have same := @reread_eq_iff V host limits node raw (index + 1)
    ((afterSnapshot host limits page).tokens.token i)
  rw [List.find?_eq_none]
  constructor
  · intro found ⟨value, member⟩
    obtain ⟨property, isEntry⟩ := recorded _ member
    obtain ⟨isName, isValue⟩ := Prod.mk.inj isEntry
    have isSelected : property = .selected := by
      revert isName
      cases property <;> decide
    have holds := found _ member
    simp only [isName, isValue, get_name, decide_eq_true_eq, not_not] at holds
    exact (same visible enabled selected pressed).mp holds isSelected
  · intro reads entry member
    obtain ⟨property, rfl⟩ := recorded entry member
    simp only [get_name, decide_eq_true_eq, not_not]
    apply (same visible enabled selected pressed).mpr
    intro isSelected
    rw [isSelected] at member
    exact reads ⟨_, member⟩

/-! ## Fresh references -/

/-- The validation of a held element, after the checks that do not ask the page. -/
theorem validateReference_found [DecidableEq V] {sha256 : String → String}
    {observation : StoredObservation V} {now : Int} {reference : ObservationReference V}
    {old : ElementFacts V} {raw : ReferenceFacts} {a : Nat} (samePage : later.pageId = observation.pageId)
    (sameUrl : later.url = observation.url)
    (inTime : now - observation.capturedAtMs ≤ observation.maxAgeMs)
    (isFound : observation.elements.find? (· .elementId = .number reference.elementId) = some old)
    (isToken : old .nodeContinuityToken = .number a)
    (isRaw : referenceFacts host later (identityOf old) = raw) :
    (validateReference host sha256 (some observation) later now reference).fresh = true ↔
      raw.matchCount = 1 ∧ raw.nodeContinuityToken = some a ∧
        reference.expected.find? (fun (key, value) => (reread old raw).get key ≠ value) = none := by
  have inTime' : ¬ now - observation.capturedAtMs > observation.maxAgeMs := by omega
  have sameToken : raw.nodeContinuityToken.elim PropertyValue.null .number = (.number a : PropertyValue V) ↔
      raw.nodeContinuityToken = some a := by
    cases raw.nodeContinuityToken <;> simp
  have isNull : ¬ (PropertyValue.number a : PropertyValue V) = .null := by simp
  unfold identityOf at isRaw
  simp only [validateReference, samePage, sameUrl, ne_eq, not_true_eq_false, or_self, if_false, inTime',
    isFound, isToken, isNull, isRaw]
  rw [← sameToken]
  by_cases one : raw.matchCount = 1
  · rw [if_neg (not_not.mpr one)]
    by_cases isSame : raw.nodeContinuityToken.elim PropertyValue.null .number =
        (.number a : PropertyValue V)
    · rw [if_neg (not_not.mpr isSame)]
      cases isUnexpected : reference.expected.find?
          (fun (key, value) => ¬ (reread old raw).get key = value) with
      | none =>
          simp only [one, isSame, true_and, iff_true]
          split
          · rfl
          · rfl
      | some entry => simp
    · rw [if_pos isSame]
      simp [isSame]
  · rw [if_pos one]
    simp [one]

theorem referenceFacts_of_single [DecidableEq V] {identity : Identity V}
    (single : later.nodes.zipIdx.filter (fun (other, _) => matchesIdentity host identity other) =
      [(node, i)]) :
    referenceFacts host later identity = {
      matchCount := 1
      nodeContinuityToken := later.tokens.token i
      visible := some node.visible
      enabled := some node.enabled
      selected := node.rereadSelected
      pressed := node.pressed
      signature := later.signature } := by
  unfold referenceFacts
  rw [single]

/-- The script answers with the token of the node exactly where it matches that node alone. -/
theorem referenceFacts_token_iff [DecidableEq V] {identity : Identity V} {a : Nat}
    (member : (node, i) ∈ later.nodes.zipIdx) (isToken : later.tokens.token i = some a) :
    ((referenceFacts host later identity).matchCount = 1 ∧
      (referenceFacts host later identity).nodeContinuityToken = some a) ↔
    later.nodes.zipIdx.filter (fun (other, _) => matchesIdentity host identity other) = [(node, i)] := by
  constructor
  · intro ⟨one, same⟩
    match matched : later.nodes.zipIdx.filter (fun (other, _) => matchesIdentity host identity other) with
    | [] => simp [referenceFacts, matched] at one
    | [(other, j)] =>
        rw [referenceFacts_of_single matched] at same
        have isNode : j = i := later.tokens.injective same isToken
        have inside : (other, j) ∈ later.nodes.zipIdx := by
          apply List.mem_of_mem_filter
          rw [matched]
          exact List.mem_singleton_self _
        rw [isNode] at inside
        rw [matched, isNode, mem_zipIdx_unique member inside]
    | _ :: _ :: _ => simp [referenceFacts, matched] at one
  · intro single
    rw [referenceFacts_of_single single]
    exact ⟨rfl, isToken⟩

/-- Of a held observation, at one time. -/
theorem validateReference_held [DecidableEq V] {sha256 : String → String} {capturedAtMs maxAgeMs now : Int}
    {expected : List (String × PropertyValue V)}
    (member : ((node, i), index) ∈ (capturedNodes host limits page).zipIdx) (isKept : index < kept)
    (unchanged : later.Unchanged (afterSnapshot host limits page))
    (recorded : Recorded (recordedFacts host limits page node i index) expected)
    (inTime : now - capturedAtMs ≤ maxAgeMs) :
    (validateReference host sha256 (some (observationOf host limits page sha256 capturedAtMs maxAgeMs kept))
        later now ⟨index + 1, expected⟩).fresh = true ↔
      Recognised host limits page node i expected := by
  obtain ⟨inside, visible⟩ := mem_of_captured member
  obtain ⟨a, isToken, stays⟩ := token_of_captured member unchanged
  have nodes : later.nodes = page.nodes := unchanged.nodes
  have isNumber : recordedFacts host limits page node i index .nodeContinuityToken = .number a := by
    simp [recordedFacts, elementFacts, isToken]
  have isFound := find_element member isKept
  have isMatched : page.nodes.zipIdx.filter (fun (other, _) =>
      matchesIdentity host (identityOf (recordedFacts host limits page node i index)) other) =
        [(node, i)] ↔ _ := matched_eq_iff inside
  rw [← nodes] at isMatched inside
  rw [validateReference_found unchanged.pageId unchanged.url inTime isFound isNumber rfl, ← and_assoc,
    referenceFacts_token_iff inside stays]
  constructor
  · intro ⟨single, asExpected⟩
    have isRaw := referenceFacts_of_single single
    rw [isRaw, unexpected_eq_none_iff recorded (by rw [visible]) rfl rfl rfl] at asExpected
    obtain ⟨named, alone⟩ := isMatched.mp single
    rw [nodes] at alone
    exact ⟨named, alone, asExpected⟩
  · intro recognised
    have alone := recognised.alone
    rw [← nodes] at alone
    have single := isMatched.mpr ⟨recognised.named, alone⟩
    have isRaw := referenceFacts_of_single single
    refine ⟨single, ?_⟩
    rw [isRaw, unexpected_eq_none_iff recorded (by rw [visible]) rfl rfl rfl]
    exact recognised.selection

/-- A reference to an element of a snapshot, whose page does not change, is fresh until it expires
exactly where its observation is still held and its node is recognised. -/
theorem validateReference_fresh_iff [DecidableEq V] (sha256 : String → String) (capturedAtMs maxAgeMs : Int)
    (holds : Bool) {expected : List (String × PropertyValue V)}
    (member : ((node, i), index) ∈ (capturedNodes host limits page).zipIdx) (isKept : index < kept)
    (unchanged : later.Unchanged (afterSnapshot host limits page))
    (recorded : Recorded (recordedFacts host limits page node i index) expected) :
    (∀ now, now - capturedAtMs ≤ maxAgeMs →
      (validateReference host sha256
        (if holds then some (observationOf host limits page sha256 capturedAtMs maxAgeMs kept) else none)
        later now ⟨index + 1, expected⟩).fresh = true) ↔
    holds = true ∧ Recognised host limits page node i expected := by
  have inTime : (capturedAtMs + maxAgeMs) - capturedAtMs ≤ maxAgeMs := by omega
  cases holds with
  | false =>
      constructor
      · intro always
        have isFresh := always _ inTime
        simp [validateReference] at isFresh
      · intro ⟨never, _⟩
        cases never
  | true =>
      constructor
      · intro always
        have isFresh := always _ inTime
        exact ⟨rfl, (validateReference_held member isKept unchanged recorded inTime).mp isFresh⟩
      · intro ⟨_, recognised⟩ now inTime
        exact (validateReference_held member isKept unchanged recorded inTime).mpr recognised

end Held

/-! ## A page with one link -/

/-- On the texts of these pages. -/
def asciiScripts : ScriptHost where
  lower := List.map fun unit => if 65 ≤ unit ∧ unit ≤ 90 then unit + 32 else unit
  isNonNegative text := !text.isEmpty && text.all fun unit => 48 ≤ unit && unit ≤ 57
  bindsActiveVariable _ := false

/-- The limits of `PageObservationOptions`. -/
def defaultLimits : SnapshotLimits where
  maxElements := 300
  maxTextLength := 500
  positive := by decide

/-- A link with this text. -/
def link (text : JsText) : DomNode Unit where
  tag := js "A"
  roleAttribute := none
  type := []
  ariaLabel := none
  labelledBy := []
  labels := []
  alt := none
  title := none
  text := text
  placeholder := none
  visible := true
  hidden := false
  isNative := true
  tabindex := none
  disabled := false
  ariaDisabled := none
  nativeSelected := none
  ariaSelected := none
  ariaCurrent := none
  dataState := none
  classes := []
  ariaPressed := none
  other _ := ()

/-- The page that holds the node, and nothing else that the scripts select. -/
def pageWith (node : DomNode Unit) : PageState Unit where
  pageId := some "page"
  url := "https://example.test/"
  nodes := [node]
  tokens := {
    token := fun _ => none
    counter := 0
    injective := by simp
    bounded := by simp }
  signature := "https://example.test/"

theorem capturedNodes_link (text : JsText) :
    capturedNodes asciiScripts defaultLimits (pageWith (link text)) = [(link text, 0)] := by
  simp [capturedNodes, pageWith, link, DomNode.isCaptured, defaultLimits]

theorem validateReference_fresh_link :
    (capturedNodes asciiScripts defaultLimits (pageWith (link (js "Home")))).length = 1 ∧
    ∀ now : Int, now - 0 ≤ 30000 →
      (validateReference asciiScripts id
        (if true then some (observationOf asciiScripts defaultLimits (pageWith (link (js "Home"))) id 0
          30000 1) else none)
        (afterSnapshot asciiScripts defaultLimits (pageWith (link (js "Home")))) now
        ⟨1, [("accessible_name", .text (js "Home"))]⟩).fresh = true := by
  have captured : ((link (js "Home"), 0), 0) ∈
      (capturedNodes asciiScripts defaultLimits (pageWith (link (js "Home")))).zipIdx := by
    simp [capturedNodes_link]
  refine ⟨by simp [capturedNodes_link], ?_⟩
  refine (validateReference_fresh_iff id 0 30000 true captured (by decide)
    ⟨rfl, rfl, rfl, rfl, fun _ _ same => same⟩ ?_).mpr ⟨rfl, by decide +kernel, ?_, ?_⟩
  · intro entry member
    rw [List.mem_singleton.mp member]
    exact ⟨.accessibleName, by decide +kernel⟩
  · intro other j member _
    simp [pageWith] at member
    exact member.2
  · rintro ⟨value, member⟩
    simp at member

/-- The only link of a page is not found again where its text is longer than a snapshot records. -/
theorem validateReference_cut_name :
    ((link (List.replicate 501 97), 0), 0) ∈
      (capturedNodes asciiScripts defaultLimits (pageWith (link (List.replicate 501 97)))).zipIdx ∧
    (validateReference asciiScripts id
      (some (observationOf asciiScripts defaultLimits (pageWith (link (List.replicate 501 97))) id 0 30000 1))
      (afterSnapshot asciiScripts defaultLimits (pageWith (link (List.replicate 501 97)))) 0 ⟨1, []⟩).fresh =
        false := by
  constructor
  · rw [capturedNodes_link, List.zipIdx_singleton]
    exact List.mem_singleton_self _
  · decide +kernel

end Dingdongditch.Observation
