import Dingdongditch.Interaction.Output
import Dingdongditch.Interaction.Scripted
import Dingdongditch.Runtime.TargetResolver

/-!
# What a target denotes

On a page whose readings all succeed and do not change, a target denotes the
candidates of its primary locator that satisfy each of its constraints, a container
constraint by way of what its container denotes (`Survives`).  `resolveTarget`
returns the one candidate there is (`resolveTarget_exact`); which of several
unresolved containers it reports depends on their order.
-/

namespace Dingdongditch.Resolver

open Interaction Text

/-! ## Pages -/

/-- What a page answers to the readings of a resolution. -/
structure Page where
  count : Root → Locator → Nat
  attached : Element → Bool
  containsElement : Element → Element → Bool
  accessibleName : Element → String
  getAttribute : Element → String → Option String
  isVisible : Element → Bool
  isEnabled : Element → Bool
  excludedCount : Root → String → Nat
  sameElement : Element → Root → String → Nat → Bool

/-- The reading succeeds, with the answer of the page. -/
def Faithful (page : Page) : Event PageSig → Prop
  | ⟨.count root primary, answer⟩ => answer = .ok (page.count root primary)
  | ⟨.elementHandle element, answer⟩ => answer = .ok (page.attached element)
  | ⟨.containsElement candidate container, answer⟩ =>
      answer = .ok (page.containsElement candidate container)
  | ⟨.accessibleName element, answer⟩ => answer = .ok (page.accessibleName element)
  | ⟨.getAttribute element name, answer⟩ => answer = .ok (page.getAttribute element name)
  | ⟨.isVisible element, answer⟩ => answer = .ok (page.isVisible element)
  | ⟨.isEnabled element, answer⟩ => answer = .ok (page.isEnabled element)
  | ⟨.excludedCount root css, answer⟩ => answer = .ok (page.excludedCount root css)
  | ⟨.sameElement element root css index, answer⟩ =>
      answer = .ok (page.sameElement element root css index)
  | ⟨.candidateSummary _, answer⟩ => answer = .ok ()
  | _ => True

variable (page : Page) (root : Root)

def descends (candidate container : Element) : Bool :=
  page.attached container && page.containsElement candidate container

def attributeHolds (name : String) (operator : AttributeOperator) (value : Option String)
    (candidate : Element) : Bool :=
  let actual := page.getAttribute candidate name
  match operator with
  | .exists_ => actual.isSome
  | .equals => actual == value
  | .notEquals => actual != value

/-- The names of an exclusion do not exclude a computed name. -/
def Exclusion.passesName (exclusion : Exclusion) (name : String) : Bool :=
  !exclusion.namesExact.contains name &&
    !exclusion.namesContains.any fun fragment => contains fragment.toList name.toList

def attributeExcludes (page : Page) (exclusion : Exclusion) (candidate : Element) : Bool :=
  match exclusion.attributeName, exclusion.attributeValue with
  | some name, some value => page.getAttribute candidate name == some value
  | _, _ => false

def cssExcludes (exclusion : Exclusion) (candidate : Element) : Bool :=
  match exclusion.css with
  | none => false
  | some "" => false
  | some css => (List.range (page.excludedCount root css)).any fun index =>
      page.sameElement candidate root css index

def exclusionHolds (exclusion : Exclusion) (candidate : Element) : Bool :=
  exclusion.passesName (page.accessibleName candidate) &&
    !attributeExcludes page exclusion candidate && !cssExcludes page root exclusion candidate

mutual

/-- The element that a target denotes, if it denotes exactly one. -/
def chosen : Target → Option Element
  | .mk primary constraints =>
      let count := page.count root primary
      match (List.range count).filter fun index => allHold constraints ⟨root, primary, some index⟩ with
      | [index] => some ⟨root, primary, if constraints.isEmpty && count = 1 then none else some index⟩
      | _ => none

/-- A candidate satisfies each of the constraints. -/
def allHold : List TargetConstraint → Element → Bool
  | [], _ => true
  | .within container :: rest, candidate =>
      (match chosen container with
        | some element => descends page candidate element
        | none => false) && allHold rest candidate
  | .attribute name operator value :: rest, candidate =>
      attributeHolds page name operator value candidate && allHold rest candidate
  | .visible want :: rest, candidate =>
      page.isVisible candidate == want && allHold rest candidate
  | .enabled want :: rest, candidate =>
      page.isEnabled candidate == want && allHold rest candidate
  | .exclude exclusion :: rest, candidate =>
      exclusionHolds page root exclusion candidate && allHold rest candidate

end

/-- A candidate satisfies a constraint. -/
def Holds (constraint : TargetConstraint) (candidate : Element) : Prop :=
  match constraint with
  | .within container => ∃ element, chosen page root container = some element ∧
      descends page candidate element = true
  | .attribute name operator value => attributeHolds page name operator value candidate = true
  | .visible want => page.isVisible candidate = want
  | .enabled want => page.isEnabled candidate = want
  | .exclude exclusion => exclusionHolds page root exclusion candidate = true

/-- A candidate of the primary locator that satisfies all constraints. -/
def Survives (primary : Locator) (constraints : List TargetConstraint) (index : Nat) : Prop :=
  index < page.count root primary ∧
    ∀ constraint ∈ constraints, Holds page root constraint ⟨root, primary, some index⟩

/-- Each container that the constraints declare denotes one element. -/
def ContainersUnique (constraints : List TargetConstraint) : Prop :=
  ∀ container, .within container ∈ constraints → (chosen page root container).isSome

variable {page root}

theorem allHold_iff {constraints : List TargetConstraint} {candidate : Element} :
    allHold page root constraints candidate = true ↔
      ∀ constraint ∈ constraints, Holds page root constraint candidate := by
  induction constraints with
  | nil => simp [allHold]
  | cons constraint rest ih =>
      rw [List.forall_mem_cons, ← ih]
      cases constraint with
      | within container =>
          cases denoted : chosen page root container with
          | none => simp [allHold, Holds, denoted]
          | some element => simp [allHold, Holds, denoted]
      | «attribute» name operator value => simp [allHold, Holds]
      | visible want => simp [allHold, Holds]
      | enabled want => simp [allHold, Holds]
      | exclude exclusion => simp [allHold, Holds]

/-- The candidates that survive, in the order of the page. -/
def survivors (page : Page) (root : Root) (primary : Locator) (constraints : List TargetConstraint) :
    List Nat :=
  (List.range (page.count root primary)).filter fun index =>
    allHold page root constraints ⟨root, primary, some index⟩

theorem mem_survivors {primary : Locator} {constraints : List TargetConstraint} {index : Nat} :
    index ∈ survivors page root primary constraints ↔
      Survives page root primary constraints index := by
  unfold survivors Survives
  rw [List.mem_filter, List.mem_range, allHold_iff]

theorem survivors_nodup (primary : Locator) (constraints : List TargetConstraint) :
    (survivors page root primary constraints).Nodup :=
  List.nodup_range.filter _

theorem survivors_perm {primary : Locator} {constraints constraints' : List TargetConstraint}
    (permuted : constraints.Perm constraints') :
    survivors page root primary constraints = survivors page root primary constraints' := by
  unfold survivors
  apply List.filter_congr
  intro index _
  rw [Bool.eq_iff_iff, allHold_iff, allHold_iff]
  constructor
  · intro all constraint member
    exact all constraint (permuted.mem_iff.mpr member)
  · intro all constraint member
    exact all constraint (permuted.mem_iff.mp member)

/-- A container that denotes no element lets no candidate survive. -/
theorem survivors_of_not_unique {primary : Locator} {constraints : List TargetConstraint}
    (lost : ¬ ContainersUnique page root constraints) :
    survivors page root primary constraints = [] := by
  rw [List.eq_nil_iff_forall_not_mem]
  intro index member
  obtain ⟨-, all⟩ := mem_survivors.mp member
  apply lost
  intro container declared
  obtain ⟨element, denoted, -⟩ := all _ declared
  rw [denoted]
  rfl

/-! ## What resolution reports -/

/-- The report on the candidates that are left. -/
def conclusion (root : Root) (primary : Locator) (constrained : Bool) (primaryCount : Nat)
    (candidates : List Nat) : ResolvedTarget :=
  match candidates with
  | [] => zeroCandidates constrained
  | [index] =>
      { element := some ⟨root, primary, if !constrained && primaryCount = 1 then none else some index⟩
        matchCount := 1
        finalCandidateCount := 1 }
  | _ =>
      { element := none
        matchCount := candidates.length
        finalCandidateCount := candidates.length
        error := some (
          if constrained then s!"multiple candidates after constraints: {candidates.length}"
          else s!"ambiguous target: {candidates.length} matches")
        failureKind := some (
          if constrained then "multiple_after_constraints" else "multiple_after_primary") }

/-- The report on a container that is not unique. -/
def ContainerFailed (resolved : ResolvedTarget) : Prop :=
  resolved.element = none ∧ (resolved.failureKind = some "missing_container" ∨
    resolved.failureKind = some "ambiguous_container")

/-- The report on a target. -/
def Reports (page : Page) (root : Root) : Target → ResolvedTarget → Prop
  | .mk primary constraints, resolved =>
      (ContainersUnique page root constraints → resolved =
        conclusion root primary (!constraints.isEmpty) (page.count root primary)
          (survivors page root primary constraints)) ∧
      (¬ ContainersUnique page root constraints → ContainerFailed resolved)

theorem chosen_eq {primary : Locator} {constraints : List TargetConstraint} :
    chosen page root (.mk primary constraints) =
      (conclusion root primary (!constraints.isEmpty) (page.count root primary)
        (survivors page root primary constraints)).element := by
  unfold chosen survivors conclusion
  dsimp only
  split
  · next index only =>
      rw [only]
      simp
  · next other =>
      split
      · rfl
      · next index only => exact absurd only (other index)
      · rfl

theorem Reports.element {target : Target} {resolved : ResolvedTarget}
    (reports : Reports page root target resolved) : resolved.element = chosen page root target := by
  rcases target with ⟨primary, constraints⟩
  rw [chosen_eq]
  by_cases unique : ContainersUnique page root constraints
  · rw [reports.1 unique]
  · rw [(reports.2 unique).1, survivors_of_not_unique unique]
    rfl

theorem unresolvedContainer_failed {container : Target} {resolved : ResolvedTarget}
    (reports : Reports page root container resolved) (failed : resolved.element = none)
    (candidates : Nat) : ContainerFailed (unresolvedContainer resolved candidates) := by
  refine ⟨rfl, ?_⟩
  have kinds : resolved.failureKind = some "zero_after_primary" ∨
      resolved.failureKind = some "zero_after_constraints" ∨ 1 < resolved.finalCandidateCount ∨
      resolved.failureKind = some "missing_container" ∨
      resolved.failureKind = some "ambiguous_container" := by
    rcases container with ⟨primary, constraints⟩
    by_cases unique : ContainersUnique page root constraints
    · have same := reports.1 unique
      rw [same] at failed ⊢
      unfold conclusion at failed ⊢
      split at failed
      · cases constraints with
        | nil => exact .inl rfl
        | cons _ _ => exact .inr (.inl rfl)
      · cases failed
      · next none one =>
          refine .inr (.inr (.inl ?_))
          rcases left : survivors page root primary constraints with - | ⟨first, - | ⟨second, rest⟩⟩
          · exact absurd left none
          · exact absurd left (one first)
          · simp
    · exact .inr (.inr (.inr (reports.2 unique).2))
  unfold unresolvedContainer
  dsimp only
  by_cases ambiguous : (contains "ambiguous".toList (resolved.error.getD "").toList ||
      1 < resolved.finalCandidateCount) = true
  · rw [if_pos ambiguous]
    exact .inr rfl
  · rw [if_neg ambiguous]
    simp only [Bool.or_eq_true, decide_eq_true_eq, not_or] at ambiguous
    rcases kinds with zero | zero | many | missing | ambiguous_
    · simp [zero]
    · simp [zero]
    · exact absurd many ambiguous.2
    · simp [missing]
    · simp [ambiguous_]

/-! ## Runs on a page -/

/-- The readings of a page, of which nothing is put out. -/
def pagePort (page : Page) : Port PageSig Empty where
  output _ := []
  ordinary := Faithful page

/-- On the page the program returns `a`. -/
def Returns {α : Type} (page : Page) (m : PageAct α) (a : α) : Prop :=
  ∀ s, Act.Outputs (pagePort page) m s [] fun r _ => r = a

variable {α β : Type} {m : PageAct α} {a : α} {s : Unit}

theorem returns_pure (a : α) : Returns page (Pure.pure a : PageAct α) a :=
  fun _ => Act.outputs_pure rfl

theorem Returns.bind {f : α → PageAct β} {b : β} (first : Returns page m a)
    (second : Returns page (f a) b) : Returns page (m >>= f) b := by
  intro s
  refine (first s).first fun r s' same => ?_
  subst same
  exact second s'

theorem returns_read {c : PageCall} {a : c.Result}
    (answered : ∀ answer, Faithful page ⟨c, answer⟩ → answer = .ok a) : Returns page (read c) a := by
  intro s
  apply Act.outputs_attempt
  intro answer faithful
  exact ⟨rfl, a, answered answer faithful, rfl⟩

theorem returns_caught {c : PageCall} {a : c.Result}
    (answered : ∀ answer, Faithful page ⟨c, answer⟩ → answer = .ok a) :
    Returns page (caught c) (.ok a) := by
  intro s
  apply Act.outputs_attempt
  intro answer faithful
  have same := answered answer faithful
  subst same
  exact ⟨rfl, _, rfl, rfl⟩

theorem returns_readOr {c : PageCall} {a fallback : c.Result}
    (answered : ∀ answer, Faithful page ⟨c, answer⟩ → answer = .ok a) :
    Returns page (readOr c fallback) a :=
  (returns_caught answered).bind (returns_pure a)

theorem isDescendant_returns (candidate container : Element) :
    Returns page (isDescendant candidate container) (descends page candidate container) := by
  refine (returns_readOr (c := .elementHandle container) (a := page.attached container) fun _ faithful => faithful).bind ?_
  unfold descends
  cases page.attached container with
  | true =>
      exact returns_readOr (c := .containsElement candidate container)
        (a := page.containsElement candidate container) fun _ faithful => faithful
  | false => exact returns_pure false

theorem satisfiesAttribute_returns (name : String) (operator : AttributeOperator)
    (value : Option String) (candidate : Element) :
    Returns page (satisfiesAttribute name operator value candidate)
      (attributeHolds page name operator value candidate) :=
  (returns_readOr (c := .getAttribute candidate name) (a := page.getAttribute candidate name)
    fun _ faithful => faithful).bind (returns_pure _)

theorem matchesExcludedCss_returns (css : String) (candidate : Element) (remaining index : Nat) :
    Returns page (matchesExcludedCss root css candidate remaining index)
      ((List.range' index remaining).any fun index => page.sameElement candidate root css index) := by
  induction remaining generalizing index with
  | zero => exact returns_pure false
  | succ remaining ih =>
      refine (returns_caught (c := .sameElement candidate root css index)
        (a := page.sameElement candidate root css index) fun _ faithful => faithful).bind ?_
      rw [List.range'_succ, List.any_cons]
      cases page.sameElement candidate root css index with
      | true => exact returns_pure true
      | false => exact ih (index + 1)

theorem excludedByAttribute_returns (exclusion : Exclusion) (candidate : Element) :
    Returns page (excludedByAttribute exclusion candidate)
      (attributeExcludes page exclusion candidate) := by
  unfold excludedByAttribute attributeExcludes
  cases exclusion.attributeName with
  | none => exact returns_pure false
  | some name =>
      cases exclusion.attributeValue with
      | none => exact returns_pure false
      | some value =>
          exact (returns_readOr (c := .getAttribute candidate name)
            (a := page.getAttribute candidate name) fun _ faithful => faithful).bind (returns_pure _)

theorem excludedByCss_returns (exclusion : Exclusion) (candidate : Element) :
    Returns page (excludedByCss root exclusion candidate) (cssExcludes page root exclusion candidate) := by
  have only (css : Option String) (same : exclusion.css = css) :
      excludedByCss root exclusion candidate = excludedByCss root { css } candidate ∧
        cssExcludes page root exclusion candidate = cssExcludes page root { css } candidate := by
    unfold excludedByCss cssExcludes
    rw [same]
    exact ⟨rfl, rfl⟩
  rcases declared : exclusion.css with - | css
  · rw [(only _ declared).1, (only _ declared).2]
    exact returns_pure false
  · rw [(only _ declared).1, (only _ declared).2]
    by_cases empty : css = ""
    · subst empty
      exact returns_pure false
    · have count := @returns_readOr page (.excludedCount root css) (page.excludedCount root css)
        (0 : Nat) fun _ faithful => faithful
      have all := count.bind (f := fun n : Nat => matchesExcludedCss root css candidate n 0)
        (matchesExcludedCss_returns css candidate (page.excludedCount root css) 0)
      rw [← List.range_eq_range'] at all
      have known (page : Page) : cssExcludes page root { css := some css } candidate =
          (List.range (page.excludedCount root css)).any fun index =>
            page.sameElement candidate root css index := by
        unfold cssExcludes
        split
        · contradiction
        · next same => exact absurd (Option.some.inj same) empty
        · next same => rw [Option.some.inj same]
      have asked : excludedByCss root { css := some css } candidate =
          (do let n : Nat ← readOr (.excludedCount root css) (0 : Nat)
              matchesExcludedCss root css candidate n 0) := by
        unfold excludedByCss
        split
        · contradiction
        · next same => exact absurd (Option.some.inj same) empty
        · next same => rw [Option.some.inj same]
      rw [← known, ← asked] at all
      exact all

theorem notExcluded_returns (exclusion : Exclusion) (candidate : Element) :
    Returns page (notExcluded root exclusion candidate)
      (exclusionHolds page root exclusion candidate) := by
  refine (returns_readOr (c := .accessibleName candidate) (a := page.accessibleName candidate) fun _ faithful => faithful).bind ?_
  unfold exclusionHolds Exclusion.passesName
  split
  · next named =>
      rw [named]
      exact returns_pure false
  · next unnamed =>
      split
      · next named =>
          rw [named]
          simp only [Bool.not_true, Bool.and_false, Bool.false_and]
          exact returns_pure false
      · next other =>
          simp only [Bool.not_eq_true] at unnamed other
          rw [unnamed, other]
          refine (excludedByAttribute_returns exclusion candidate).bind ?_
          cases attributeExcludes page exclusion candidate with
          | true => exact returns_pure false
          | false => exact (excludedByCss_returns exclusion candidate).bind (returns_pure _)

theorem returns_filterM {f : Nat → PageAct Bool} {g : Nat → Bool} (candidates : List Nat)
    (each : ∀ index, Returns page (f index) (g index)) :
    Returns page (candidates.filterM f) (candidates.filter g) := by
  intro s
  apply Act.outputs_filterM
  intro index _
  exact each index

theorem summaries_return {primary : Locator} (candidates : List Nat) :
    Returns page (candidates.forM fun index => do
      let _ ← caught (.candidateSummary ⟨root, primary, some index⟩)) () := by
  induction candidates with
  | nil => exact returns_pure ()
  | cons index candidates ih =>
      have summary : Returns page (caught (.candidateSummary ⟨root, primary, some index⟩))
          (.ok ()) := returns_caught fun _ faithful => faithful
      exact (summary.bind (returns_pure ())).bind ih

theorem concludeTarget_returns {primary : Locator} (constrained : Bool) (count : Nat)
    (candidates : List Nat) :
    Returns page (concludeTarget root primary constrained count candidates)
      (conclusion root primary constrained count candidates) := by
  unfold concludeTarget conclusion
  rcases candidates with - | ⟨first, - | ⟨second, rest⟩⟩
  · exact (summaries_return []).bind (returns_pure _)
  · exact returns_pure _
  · exact (summaries_return _).bind (returns_pure _)

/-- What is left of the candidates after the constraints, or the report on a container. -/
def Narrows (page : Page) (root : Root) (primary : Locator) (constraints : List TargetConstraint)
    (candidates : List Nat) : Except ResolvedTarget (List Nat) → Prop
  | .ok left => ContainersUnique page root constraints ∧
      left = candidates.filter fun index => allHold page root constraints ⟨root, primary, some index⟩
  | .error failed => ¬ ContainersUnique page root constraints ∧ ContainerFailed failed

theorem containersUnique_cons {constraint : TargetConstraint} {rest : List TargetConstraint} :
    ContainersUnique page root (constraint :: rest) ↔
      (∀ container, .within container = constraint → (chosen page root container).isSome) ∧
        ContainersUnique page root rest := by
  unfold ContainersUnique
  simp only [List.mem_cons]
  constructor
  · intro all
    exact ⟨fun container same => all container (.inl same), fun container member =>
      all container (.inr member)⟩
  · rintro ⟨first, later⟩ container (same | member)
    · exact first container same
    · exact later container member

/-- A constraint whose container, if it has one, is unique narrows the candidates by what
it says of each. -/
theorem Narrows.cons {primary : Locator} {constraint : TargetConstraint}
    {rest : List TargetConstraint} {candidates : List Nat} {g : Nat → Bool}
    {narrowed : Except ResolvedTarget (List Nat)}
    (unique : ∀ container, .within container = constraint → (chosen page root container).isSome)
    (splits : ∀ index, allHold page root (constraint :: rest) ⟨root, primary, some index⟩ =
      (g index && allHold page root rest ⟨root, primary, some index⟩))
    (narrows : Narrows page root primary rest (candidates.filter g) narrowed) :
    Narrows page root primary (constraint :: rest) candidates narrowed := by
  cases narrowed with
  | error failed =>
      refine ⟨?_, narrows.2⟩
      intro all
      exact narrows.1 (containersUnique_cons.mp all).2
  | ok left =>
      refine ⟨containersUnique_cons.mpr ⟨unique, narrows.1⟩, ?_⟩
      rw [narrows.2, List.filter_filter]
      apply List.filter_congr
      intro index _
      rw [splits, Bool.and_comm]

mutual

theorem resolveTarget_reports : (target : Target) → ∀ s,
    Act.Outputs (pagePort page) (resolveTarget root target) s [] fun resolved _ =>
      Reports page root target resolved
  | .mk primary constraints => by
      intro s
      unfold resolveTarget
      have counted : Returns page (read (.count root primary)) (page.count root primary) :=
        returns_read fun _ faithful => faithful
      refine (counted s).first fun count s' same => ?_
      subst same
      split
      · next none =>
          obtain ⟨zero, empty⟩ := none
          rw [List.isEmpty_iff] at empty
          subst empty
          apply Act.outputs_pure
          refine ⟨fun _ => ?_, fun lost => absurd (by simp [ContainersUnique]) lost⟩
          rw [survivors, zero]
          rfl
      · refine (applyConstraints_narrows constraints primary _ s').first fun narrowed s'' narrows => ?_
        cases narrowed with
        | error failed =>
            apply Act.outputs_pure
            exact ⟨fun unique => absurd unique narrows.1, fun _ => narrows.2⟩
        | ok left =>
            obtain ⟨unique, same⟩ := narrows
            subst same
            refine (concludeTarget_returns _ _ _ s'').mono fun resolved _ same => ?_
            subst same
            exact ⟨fun _ => rfl, fun lost => absurd unique lost⟩

theorem applyConstraints_narrows : (constraints : List TargetConstraint) → ∀ primary candidates s,
    Act.Outputs (pagePort page) (applyConstraints root primary constraints candidates) s []
      fun narrowed _ => Narrows page root primary constraints candidates narrowed
  | [] => by
      intro primary candidates s
      apply Act.outputs_pure
      simp [Narrows, ContainersUnique, allHold]
  | .within container :: rest => by
      intro primary candidates s
      refine (resolveTarget_reports container s).first fun resolved s' reports => ?_
      have element := reports.element
      cases found : resolved.element with
      | none =>
          rw [found] at element
          apply Act.outputs_pure
          refine ⟨?_, unresolvedContainer_failed reports found _⟩
          intro unique
          have := unique container List.mem_cons_self
          rw [← element] at this
          cases this
      | some inside =>
          rw [found] at element
          refine (returns_filterM candidates (fun index =>
            isDescendant_returns ⟨root, primary, some index⟩ inside) s').first fun left s'' same => ?_
          subst same
          refine (applyConstraints_narrows rest primary _ s'').mono fun narrowed _ narrows => ?_
          refine narrows.cons ?_ ?_
          · intro container' same
            cases same
            rw [← element]
            rfl
          · intro index
            simp [allHold, ← element]
  | .attribute name operator value :: rest => by
      intro primary candidates s
      refine (returns_filterM candidates (fun index => satisfiesAttribute_returns name operator value
        ⟨root, primary, some index⟩) s).first fun left s' same => ?_
      subst same
      refine (applyConstraints_narrows rest primary _ s').mono fun narrowed _ narrows => ?_
      exact narrows.cons (by simp) fun index => by simp [allHold]
  | .visible want :: rest => by
      intro primary candidates s
      have read (index : Nat) : Returns page (do
          let visible : Bool ← read (.isVisible ⟨root, primary, some index⟩)
          return visible == want) (page.isVisible ⟨root, primary, some index⟩ == want) :=
        (returns_read (c := .isVisible ⟨root, primary, some index⟩)
          (a := page.isVisible ⟨root, primary, some index⟩) fun _ faithful => faithful).bind
          (returns_pure _)
      refine (returns_filterM candidates read s).first fun left s' same => ?_
      subst same
      refine (applyConstraints_narrows rest primary _ s').mono fun narrowed _ narrows => ?_
      exact narrows.cons (by simp) fun index => by simp [allHold]
  | .enabled want :: rest => by
      intro primary candidates s
      have read (index : Nat) : Returns page (do
          let enabled : Bool ← read (.isEnabled ⟨root, primary, some index⟩)
          return enabled == want) (page.isEnabled ⟨root, primary, some index⟩ == want) :=
        (returns_read (c := .isEnabled ⟨root, primary, some index⟩)
          (a := page.isEnabled ⟨root, primary, some index⟩) fun _ faithful => faithful).bind
          (returns_pure _)
      refine (returns_filterM candidates read s).first fun left s' same => ?_
      subst same
      refine (applyConstraints_narrows rest primary _ s').mono fun narrowed _ narrows => ?_
      exact narrows.cons (by simp) fun index => by simp [allHold]
  | .exclude exclusion :: rest => by
      intro primary candidates s
      refine (returns_filterM candidates (fun index =>
        notExcluded_returns exclusion ⟨root, primary, some index⟩) s).first fun left s' same => ?_
      subst same
      refine (applyConstraints_narrows rest primary _ s').mono fun narrowed _ narrows => ?_
      exact narrows.cons (by simp) fun index => by simp [allHold]

end

/-! ## A resolution returns -/

theorem terminates_caught (c : PageCall) : Act.Terminates (caught c) := Act.terminates_attempt _ _

theorem terminates_readOr (c : PageCall) (fallback : c.Result) :
    Act.Terminates (readOr c fallback) := by
  refine (terminates_caught c).bind fun answer => ?_
  cases answer with
  | ok a => exact Act.terminates_pure a
  | error e => exact Act.terminates_pure fallback

theorem terminates_isDescendant (candidate container : Element) :
    Act.Terminates (isDescendant candidate container) := by
  refine (terminates_readOr _ _).bind fun (attached : Bool) => ?_
  cases attached with
  | true => exact terminates_readOr _ _
  | false => exact Act.terminates_pure false

theorem terminates_matchesExcludedCss (css : String) (candidate : Element) (remaining index : Nat) :
    Act.Terminates (matchesExcludedCss root css candidate remaining index) := by
  induction remaining generalizing index with
  | zero => exact Act.terminates_pure false
  | succ remaining ih =>
      refine (terminates_caught _).bind fun same => ?_
      split
      · exact Act.terminates_pure true
      · exact ih (index + 1)
      · exact Act.terminates_pure false

theorem terminates_notExcluded (exclusion : Exclusion) (candidate : Element) :
    Act.Terminates (notExcluded root exclusion candidate) := by
  have byAttribute : Act.Terminates (excludedByAttribute exclusion candidate) := by
    unfold excludedByAttribute
    split
    · exact (terminates_readOr _ _).bind fun _ => Act.terminates_pure _
    · exact Act.terminates_pure false
  have byCss : Act.Terminates (excludedByCss root exclusion candidate) := by
    unfold excludedByCss
    split
    · exact Act.terminates_pure false
    · exact Act.terminates_pure false
    · exact (terminates_readOr _ _).bind fun count => terminates_matchesExcludedCss _ _ count 0
  refine (terminates_readOr _ _).bind fun name => ?_
  split
  · exact Act.terminates_pure false
  · split
    · exact Act.terminates_pure false
    · refine byAttribute.bind fun excluded => ?_
      split
      · exact Act.terminates_pure false
      · exact byCss.bind fun _ => Act.terminates_pure _

theorem terminates_concludeTarget (primary : Locator) (constrained : Bool) (count : Nat)
    (candidates : List Nat) :
    Act.Terminates (concludeTarget root primary constrained count candidates) := by
  have summaries : Act.Terminates ((candidates.take 8).forM fun index => do
      let _ ← caught (.candidateSummary ⟨root, primary, some index⟩)) :=
    Act.terminates_forM fun _ => (terminates_caught _).bind fun _ => Act.terminates_pure ()
  unfold concludeTarget
  rcases candidates with - | ⟨first, - | ⟨second, rest⟩⟩
  · exact summaries.bind fun _ => Act.terminates_pure _
  · exact Act.terminates_pure _
  · exact summaries.bind fun _ => Act.terminates_pure _

mutual

theorem terminates_resolveTarget : (target : Target) → Act.Terminates (resolveTarget root target)
  | .mk primary constraints => by
      refine (Act.terminates_attempt _ _).bind fun count => ?_
      split
      · exact Act.terminates_pure _
      · refine (terminates_applyConstraints constraints primary _).bind fun narrowed => ?_
        cases narrowed with
        | error failed => exact Act.terminates_pure failed
        | ok left => exact terminates_concludeTarget _ _ _ _

theorem terminates_applyConstraints : (constraints : List TargetConstraint) →
    ∀ primary candidates, Act.Terminates (applyConstraints root primary constraints candidates)
  | [] => fun _ _ => Act.terminates_pure _
  | .within container :: rest => by
      intro primary candidates
      refine (terminates_resolveTarget container).bind fun resolved => ?_
      split
      · exact Act.terminates_pure _
      · exact (Act.terminates_filterM fun _ => terminates_isDescendant _ _).bind fun left =>
          terminates_applyConstraints rest primary left
  | .attribute _ _ _ :: rest => fun primary _ =>
      (Act.terminates_filterM fun _ => (terminates_readOr _ _).bind fun _ =>
        Act.terminates_pure _).bind fun left => terminates_applyConstraints rest primary left
  | .visible _ :: rest => fun primary _ =>
      (Act.terminates_filterM fun _ => (Act.terminates_attempt _ _).bind fun _ =>
        Act.terminates_pure _).bind fun left => terminates_applyConstraints rest primary left
  | .enabled _ :: rest => fun primary _ =>
      (Act.terminates_filterM fun _ => (Act.terminates_attempt _ _).bind fun _ =>
        Act.terminates_pure _).bind fun left => terminates_applyConstraints rest primary left
  | .exclude _ :: rest => fun primary _ =>
      (Act.terminates_filterM fun _ => terminates_notExcluded _ _).bind fun left =>
        terminates_applyConstraints rest primary left

end

/-- A page answers every reading. -/
theorem exists_faithful (page : Page) (c : PageCall) : ∃ answer, Faithful page ⟨c, answer⟩ := by
  have other : ∃ answer : Except PyException c.Result, True := ⟨.error (.valueError ""), trivial⟩
  cases c with
  | count | elementHandle | containsElement | accessibleName | getAttribute | isVisible | isEnabled
  | excludedCount | sameElement | candidateSummary => exact ⟨_, rfl⟩
  | frameTag | contentFrame | atomicSnapshot | innerText | textContent | readAttribute | inputValue
  | isChecked | uploadedFiles | inViewport => exact other

/-! ## Exactness -/

/-- What is reported on a target, as a function of the candidates that survive. -/
structure Exact (page : Page) (root : Root) (primary : Locator) (constraints : List TargetConstraint)
    (resolved : ResolvedTarget) : Prop where
  succeeds : resolved.ok = true ↔ ∃! index, Survives page root primary constraints index
  /-- An unconstrained locator with one match stands for its match. -/
  returns : ∀ index, Survives page root primary constraints index → resolved.ok = true →
    resolved.element = some ⟨root, primary, some index⟩ ∨
      resolved.element = some ⟨root, primary, none⟩ ∧ page.count root primary = 1
  container : ¬ ContainersUnique page root constraints →
    resolved.failureKind = some "missing_container" ∨
      resolved.failureKind = some "ambiguous_container"
  zero : (¬ ∃ index, Survives page root primary constraints index) → resolved.element = none ∧
    resolved.failureKind ∈ [some "zero_after_primary", some "zero_after_constraints",
      some "missing_container", some "ambiguous_container"]
  multiple : (∃ index index', index ≠ index' ∧ Survives page root primary constraints index ∧
      Survives page root primary constraints index') → resolved.element = none ∧
    resolved.failureKind ∈ [some "multiple_after_primary", some "multiple_after_constraints"]

theorem Reports.exact {primary : Locator} {constraints : List TargetConstraint}
    {resolved : ResolvedTarget} (reports : Reports page root (.mk primary constraints) resolved) :
    Exact page root primary constraints resolved := by
  by_cases unique : ContainersUnique page root constraints
  · have same := reports.1 unique
    rcases all : survivors page root primary constraints with - | ⟨first, - | ⟨second, rest⟩⟩
    · have none (index : Nat) : ¬ Survives page root primary constraints index := by
        rw [← mem_survivors, all]
        simp
      rw [all] at same
      have failed : resolved.ok = false := by
        rw [same]
        rfl
      refine ⟨?_, fun index survives => absurd survives (none index), fun lost => absurd unique lost,
        fun _ => ?_, ?_⟩
      · rw [failed]
        constructor
        · simp
        · rintro ⟨index, survives, -⟩
          exact absurd survives (none index)
      · rw [same]
        refine ⟨rfl, ?_⟩
        cases constraints with
        | nil => simp [conclusion, zeroCandidates]
        | cons _ _ => simp [conclusion, zeroCandidates]
      · rintro ⟨index, -, -, survives, -⟩
        exact absurd survives (none index)
    · have survives (index : Nat) : Survives page root primary constraints index ↔ index = first := by
        rw [← mem_survivors, all, List.mem_singleton]
      rw [all] at same
      have found : resolved.ok = true := by
        rw [same]
        rfl
      refine ⟨?_, ?_, fun lost => absurd unique lost, ?_, ?_⟩
      · rw [found]
        simp [survives]
      · intro index one _
        rw [survives] at one
        subst one
        rw [same]
        simp only [conclusion]
        split
        · next bare =>
            refine .inr ⟨rfl, ?_⟩
            simp only [Bool.and_eq_true, decide_eq_true_eq] at bare
            exact bare.2
        · exact .inl rfl
      · intro nothing
        exact absurd ⟨first, (survives first).mpr rfl⟩ nothing
      · rintro ⟨index, index', differ, one, two⟩
        rw [survives] at one two
        exact absurd (one.trans two.symm) differ
    · have nodup := @survivors_nodup page root primary constraints
      have one : Survives page root primary constraints first := mem_survivors.mp (by simp [all])
      have two : Survives page root primary constraints second := mem_survivors.mp (by simp [all])
      have differ : first ≠ second := by
        rw [all] at nodup
        simp only [List.nodup_cons, List.mem_cons, not_or] at nodup
        exact nodup.1.1
      rw [all] at same
      have failed : resolved.ok = false := by
        rw [same]
        rfl
      refine ⟨?_, ?_, fun lost => absurd unique lost, ?_, fun _ => ?_⟩
      · rw [failed]
        constructor
        · simp
        · rintro ⟨index, -, only⟩
          exact absurd ((only first one).trans (only second two).symm) differ
      · intro _ _ found
        rw [failed] at found
        cases found
      · intro nothing
        exact absurd ⟨first, one⟩ nothing
      · rw [same]
        refine ⟨rfl, ?_⟩
        cases constraints with
        | nil => simp [conclusion]
        | cons _ _ => simp [conclusion]
  · obtain ⟨lost, kind⟩ := reports.2 unique
    have none (index : Nat) : ¬ Survives page root primary constraints index := by
      rw [← mem_survivors, survivors_of_not_unique unique]
      simp
    have failed : resolved.ok = false := by
      rw [ResolvedTarget.ok, lost]
      rfl
    refine ⟨?_, fun index survives => absurd survives (none index), fun _ => kind, fun _ => ?_, ?_⟩
    · rw [failed]
      constructor
      · simp
      · rintro ⟨index, survives, -⟩
        exact absurd survives (none index)
    · refine ⟨lost, ?_⟩
      rcases kind with missing | ambiguous
      · simp [missing]
      · simp [ambiguous]
    · rintro ⟨index, -, -, survives, -⟩
      exact absurd survives (none index)

theorem containersUnique_perm {constraints constraints' : List TargetConstraint}
    (permuted : constraints.Perm constraints') :
    ContainersUnique page root constraints ↔ ContainersUnique page root constraints' := by
  unfold ContainersUnique
  simp only [permuted.mem_iff]

/-- Two orders of the constraints: the element is the same, and the whole report where the
containers are unique. -/
theorem Reports.perm {primary : Locator} {constraints constraints' : List TargetConstraint}
    {resolved resolved' : ResolvedTarget} (permuted : constraints.Perm constraints')
    (reports : Reports page root (.mk primary constraints) resolved)
    (reports' : Reports page root (.mk primary constraints') resolved') :
    resolved'.element = resolved.element ∧
      (ContainersUnique page root constraints → resolved' = resolved) := by
  have same : conclusion root primary (!constraints'.isEmpty) (page.count root primary)
        (survivors page root primary constraints') =
      conclusion root primary (!constraints.isEmpty) (page.count root primary)
        (survivors page root primary constraints) := by
    rw [survivors_perm permuted, permuted.isEmpty_eq]
  refine ⟨?_, ?_⟩
  · rw [reports.element, reports'.element, chosen_eq, chosen_eq, same]
  · intro unique
    rw [reports.1 unique, reports'.1 ((containersUnique_perm permuted).mp unique), same]

/-- On every page a resolution returns; it succeeds exactly where one candidate satisfies
all the constraints, and with it; and it does so in every order of the constraints. -/
theorem resolveTarget_exact (page : Page) (root : Root) (primary : Locator)
    (constraints : List TargetConstraint) :
    (∃ t r s, Act.Runs (resolveTarget root (.mk primary constraints)) () t r s ∧
      ∀ event ∈ t, Faithful page event) ∧
    ∀ t r s, Act.Runs (resolveTarget root (.mk primary constraints)) () t r s →
      (∀ event ∈ t, Faithful page event) → ∃ resolved, r = .ok resolved ∧
        Exact page root primary constraints resolved ∧
        ∀ constraints', constraints.Perm constraints' → ∀ t' r' s',
          Act.Runs (resolveTarget root (.mk primary constraints')) () t' r' s' →
          (∀ event ∈ t', Faithful page event) → ∃ resolved', r' = .ok resolved' ∧
            resolved'.ok = resolved.ok ∧ resolved'.element = resolved.element ∧
            (ContainersUnique page root constraints → resolved' = resolved) := by
  refine ⟨?_, ?_⟩
  · obtain ⟨t, ⟨r, s⟩, ran, faithful⟩ :=
      (terminates_resolveTarget (.mk primary constraints) ()).exists_runs (exists_faithful page)
    exact ⟨t, r, s, ran, faithful⟩
  · intro t r s ran faithful
    obtain ⟨-, resolved, returned, reports⟩ :=
      resolveTarget_reports (.mk primary constraints) () t r s ran faithful
    refine ⟨resolved, returned, reports.exact, ?_⟩
    intro constraints' permuted t' r' s' ran' faithful'
    obtain ⟨-, resolved', returned', reports'⟩ :=
      resolveTarget_reports (.mk primary constraints') () t' r' s' ran' faithful'
    obtain ⟨element, whole⟩ := reports.perm permuted reports'
    exact ⟨resolved', returned', by rw [ResolvedTarget.ok, ResolvedTarget.ok, element], element, whole⟩

/-- A locator by a style sheet selector. -/
def byCss (value : String) : Locator := { strategy := .css, value }

/-- One button, and two forms around no dialog. -/
def formPage : Page where
  count _ locator := if locator = byCss "button" then 1 else if locator = byCss "form" then 2 else 0
  attached _ := true
  containsElement _ _ := true
  accessibleName _ := ""
  getAttribute _ _ := none
  isVisible _ := true
  isEnabled _ := true
  excludedCount _ _ := 0
  sameElement _ _ _ _ := false

/-- A browser that shows a page. -/
def browserOf (page : Page) : Script PageSig Unit := fun _ c => match c with
  | .count root locator => ((.ok (page.count root locator) : Except PyException Nat), ())
  | .elementHandle element => ((.ok (page.attached element) : Except PyException Bool), ())
  | .containsElement candidate container =>
      ((.ok (page.containsElement candidate container) : Except PyException Bool), ())
  | .accessibleName element => ((.ok (page.accessibleName element) : Except PyException String), ())
  | .getAttribute element name =>
      ((.ok (page.getAttribute element name) : Except PyException (Option String)), ())
  | .isVisible element => ((.ok (page.isVisible element) : Except PyException Bool), ())
  | .isEnabled element => ((.ok (page.isEnabled element) : Except PyException Bool), ())
  | .excludedCount root css => ((.ok (page.excludedCount root css) : Except PyException Nat), ())
  | .sameElement element root css index =>
      ((.ok (page.sameElement element root css index) : Except PyException Bool), ())
  | .candidateSummary _ => ((.ok () : Except PyException Unit), ())
  | c => ((.error (.valueError "") : Except PyException c.Result), ())

theorem browserOf_faithful (page : Page) (w : Unit) (c : PageCall) :
    Faithful page ⟨c, (browserOf page w c).1⟩ := by
  cases c with
  | count | elementHandle | containsElement | accessibleName | getAttribute | isVisible | isEnabled
  | excludedCount | sameElement | candidateSummary => rfl
  | frameTag | contentFrame | atomicSnapshot | innerText | textContent | readAttribute | inputValue
  | isChecked | uploadedFiles | inViewport => trivial

/-- Which of two containers that are not unique is reported depends on their order. -/
theorem failureKind_of_order :
    (∃ t r s, Act.Runs (resolveTarget .page (.mk (byCss "button")
        [.within (.mk (byCss "dialog") []), .within (.mk (byCss "form") [])])) () t r s ∧
      (∀ event ∈ t, Faithful formPage event) ∧
      r.toOption.map ResolvedTarget.failureKind = some (some "missing_container")) ∧
    ∃ t r s, Act.Runs (resolveTarget .page (.mk (byCss "button")
        [.within (.mk (byCss "form") []), .within (.mk (byCss "dialog") [])])) () t r s ∧
      (∀ event ∈ t, Faithful formPage event) ∧
      r.toOption.map ResolvedTarget.failureKind = some (some "ambiguous_container") := by
  constructor
  · obtain ⟨t, r, s, ran, faithful, shown⟩ := Act.exists_answered_runs (browserOf formPage)
      (resolveTarget .page (.mk (byCss "button")
        [.within (.mk (byCss "dialog") []), .within (.mk (byCss "form") [])])) () ()
      (browserOf_faithful formPage)
      (fun _ r _ => r.toOption.map ResolvedTarget.failureKind = some (some "missing_container"))
      (by decide +kernel)
    exact ⟨t, r, s, ran, faithful, of_decide_eq_true shown⟩
  · obtain ⟨t, r, s, ran, faithful, shown⟩ := Act.exists_answered_runs (browserOf formPage)
      (resolveTarget .page (.mk (byCss "button")
        [.within (.mk (byCss "form") []), .within (.mk (byCss "dialog") [])])) () ()
      (browserOf_faithful formPage)
      (fun _ r _ => r.toOption.map ResolvedTarget.failureKind = some (some "ambiguous_container"))
      (by decide +kernel)
    exact ⟨t, r, s, ran, faithful, of_decide_eq_true shown⟩

end Dingdongditch.Resolver
