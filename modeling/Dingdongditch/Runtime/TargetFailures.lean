import Dingdongditch.Interaction.Traversals
import Dingdongditch.Runtime.TargetSemantics

/-!
# Which constraints fail closed

The readers of a resolution catch the errors of the browser, each with a value to
fall back on.  A constraint fails closed when no check that it passes has had a failed
reading; `closed_iff` names the constraints that do not, which are those that a missing
value satisfies.  A returned candidate has passed a check of each of its constraints
(`passed_of_resolveTarget`).
-/

namespace Dingdongditch.Resolver

open Interaction Text

/-- The check of a constraint on a candidate, below the resolved container. -/
def check (root : Root) (primary : Locator) (container : Option Element) (index : Nat) :
    TargetConstraint → PageAct Bool
  | .within _ =>
      match container with
      | none => return false
      | some element => isDescendant ⟨root, primary, some index⟩ element
  | .attribute name operator value =>
      satisfiesAttribute name operator value ⟨root, primary, some index⟩
  | .visible want => do
      let visible : Bool ← read (.isVisible ⟨root, primary, some index⟩)
      return visible == want
  | .enabled want => do
      let enabled : Bool ← read (.isEnabled ⟨root, primary, some index⟩)
      return enabled == want
  | .exclude exclusion => notExcluded root exclusion ⟨root, primary, some index⟩

/-- Every reading succeeded. -/
def Unfailed (t : Trace PageSig) : Prop := ∀ event ∈ t, ∃ answer, event.2 = .ok answer

/-- A reading that failed never lets a candidate pass. -/
def Closed (root : Root) (constraint : TargetConstraint) : Prop :=
  ∀ primary container index t, Act.Runs (check root primary container index constraint) () t
    (.ok true) () → Unfailed t

/-- An exclusion that does not stop at the computed name. -/
def Exclusion.readsMore (exclusion : Exclusion) : Prop :=
  (exclusion.attributeName.isSome ∧ exclusion.attributeValue.isSome) ∨
    ∃ css, exclusion.css = some css ∧ css ≠ ""

/-- A constraint that is satisfied by the value that a failed reading falls back on. -/
def FailsOpen : TargetConstraint → Prop
  | .attribute _ .notEquals value => value ≠ none
  | .attribute _ .equals value => value = none
  | .exclude exclusion => exclusion.passesName "" = true ∨
      exclusion.readsMore ∧ ∃ name, exclusion.passesName name = true
  | _ => False

mutual

/-- The constraints of a target and of its containers. -/
def Target.Forall (p : TargetConstraint → Prop) : Target → Prop
  | .mk _ constraints => ForallConstraints p constraints

def ForallConstraints (p : TargetConstraint → Prop) : List TargetConstraint → Prop
  | [] => True
  | .within container :: rest => p (.within container) ∧ Target.Forall p container ∧
      ForallConstraints p rest
  | .attribute name operator value :: rest => p (.attribute name operator value) ∧
      ForallConstraints p rest
  | .visible want :: rest => p (.visible want) ∧ ForallConstraints p rest
  | .enabled want :: rest => p (.enabled want) ∧ ForallConstraints p rest
  | .exclude exclusion :: rest => p (.exclude exclusion) ∧ ForallConstraints p rest

end

mutual

theorem Target.forall_iff {p q : TargetConstraint → Prop} (same : ∀ c, p c ↔ q c) :
    (target : Target) → (Target.Forall p target ↔ Target.Forall q target)
  | .mk _ constraints => by
      unfold Target.Forall
      exact forallConstraints_iff same constraints

theorem forallConstraints_iff {p q : TargetConstraint → Prop} (same : ∀ c, p c ↔ q c) :
    (constraints : List TargetConstraint) →
      (ForallConstraints p constraints ↔ ForallConstraints q constraints)
  | [] => by simp [ForallConstraints]
  | .within container :: rest => by
      simp only [ForallConstraints, same, Target.forall_iff same container,
        forallConstraints_iff same rest]
  | .attribute name operator value :: rest => by
      simp only [ForallConstraints, same, forallConstraints_iff same rest]
  | .visible want :: rest => by
      simp only [ForallConstraints, same, forallConstraints_iff same rest]
  | .enabled want :: rest => by
      simp only [ForallConstraints, same, forallConstraints_iff same rest]
  | .exclude exclusion :: rest => by
      simp only [ForallConstraints, same, forallConstraints_iff same rest]

end

theorem ForallConstraints.mem {p : TargetConstraint → Prop} {constraints : List TargetConstraint}
    (all : ForallConstraints p constraints) : ∀ c ∈ constraints, p c := by
  induction constraints with
  | nil => simp
  | cons constraint rest ih =>
      rw [List.forall_mem_cons]
      cases constraint with
      | within container => exact ⟨all.1, ih all.2.2⟩
      | «attribute» name operator value => exact ⟨all.1, ih all.2⟩
      | visible want => exact ⟨all.1, ih all.2⟩
      | enabled want => exact ⟨all.1, ih all.2⟩
      | exclude exclusion => exact ⟨all.1, ih all.2⟩

/-! ## Readings -/

variable {root : Root} {primary : Locator} {container : Option Element} {index : Nat}
  {candidate : Element} {t : Trace PageSig} {s s' : Unit}

/-- How a reading with a fallback ends: with the answer, or with the fallback after a
failure. -/
theorem readOr_inv {c : PageCall} {a fallback : c.Result}
    (run : Act.Runs (readOr c fallback) s t (.ok a) s') :
    t = [⟨c, .ok a⟩] ∨ a = fallback ∧ ∃ e, t = [⟨c, .error e⟩] := by
  obtain ⟨first, answer, s₁, rest, split, asked, returned⟩ := run.bind_ok_inv
  obtain ⟨given, event, seen, -⟩ := Act.runs_attempt.mp asked
  subst event
  cases given with
  | ok value =>
      cases seen
      obtain ⟨nothing, same, -⟩ := Act.runs_pure.mp returned
      cases same
      subst nothing
      exact .inl split
  | error e =>
      dsimp only at seen
      split at seen
      · cases seen
        obtain ⟨nothing, same, -⟩ := Act.runs_pure.mp returned
        cases same
        subst nothing
        exact .inr ⟨rfl, e, split⟩
      · cases seen

theorem read_inv {c : PageCall} {a : c.Result} (run : Act.Runs (read c) s t (.ok a) s') :
    t = [⟨c, .ok a⟩] := by
  obtain ⟨given, event, seen, -⟩ := Act.runs_attempt.mp run
  subst event
  rw [show given = .ok a from seen.symm]

theorem unfailed_single {c : PageCall} {a : c.Result} : Unfailed [⟨c, .ok a⟩] := by
  intro event member
  rw [List.mem_singleton] at member
  subst member
  exact ⟨a, rfl⟩

/-- A reader of the resolution failed. -/
def Lost : Event PageSig → Prop
  | ⟨.elementHandle _, .error _⟩ => True
  | ⟨.containsElement _ _, .error _⟩ => True
  | ⟨.accessibleName _, .error _⟩ => True
  | ⟨.getAttribute _ _, .error _⟩ => True
  | ⟨.excludedCount _ _, .error _⟩ => True
  | ⟨.sameElement _ _ _ _, .error _⟩ => True
  | ⟨.frameTag _, .error _⟩ => True
  | ⟨.contentFrame _, .error _⟩ => True
  | _ => False

theorem lost_failed {event : Event PageSig} (lost : Lost event) : ∃ e, event.2 = .error e := by
  rcases event with ⟨call, answer⟩
  cases answer with
  | error e => exact ⟨e, rfl⟩
  | ok a => cases call <;> exact lost.elim

theorem not_lost_of_unfailed {t : Trace PageSig} (unfailed : Unfailed t) : ¬ Happens Lost t := by
  rintro ⟨event, mem, lost⟩
  obtain ⟨answer, isOk⟩ := unfailed event mem
  obtain ⟨e, isError⟩ := lost_failed lost
  cases isOk.symm.trans isError

theorem unfailed_append {t u : Trace PageSig} : Unfailed (t ++ u) ↔ Unfailed t ∧ Unfailed u :=
  List.forall_mem_append

/-! ## What fails closed -/

theorem isDescendant_closed {container : Element}
    (run : Act.Runs (isDescendant candidate container) s t (.ok true) s') : Unfailed t := by
  obtain ⟨first, attached, s₁, rest, split, asked, later⟩ := run.bind_ok_inv
  subst split
  have there : attached = true := by
    cases attached with
    | true => rfl
    | false =>
        obtain ⟨-, same, -⟩ := Act.runs_pure.mp later
        cases same
  subst there
  rcases readOr_inv asked with event | ⟨lost, -⟩
  · rcases readOr_inv later with event' | ⟨lost, -⟩
    · rw [event, event', unfailed_append]
      exact ⟨unfailed_single, unfailed_single⟩
    · cases lost
  · cases lost

theorem satisfiesAttribute_closed {name : String} {operator : AttributeOperator}
    {value : Option String} (closed : ¬ FailsOpen (.attribute name operator value))
    (run : Act.Runs (satisfiesAttribute name operator value candidate) s t (.ok true) s') :
    Unfailed t := by
  obtain ⟨first, actual, s₁, rest, split, asked, later⟩ := run.bind_ok_inv
  subst split
  obtain ⟨nothing, passed, -⟩ := Act.runs_pure.mp later
  subst nothing
  rcases readOr_inv asked with event | ⟨lost, -⟩
  · rw [event, List.append_nil]
    exact unfailed_single
  · subst lost
    exfalso
    apply closed
    cases operator with
    | exists_ => simp at passed
    | equals =>
        cases value with
        | none => rfl
        | some value => simp at passed
    | notEquals =>
        cases value with
        | none => simp at passed
        | some value => simp [FailsOpen]

/-- The parts of the check of an exclusion that a candidate passes. -/
theorem notExcluded_inv {exclusion : Exclusion}
    (run : Act.Runs (notExcluded root exclusion candidate) s t (.ok true) s') :
    ∃ name u v w, t = u ++ (v ++ w) ∧ exclusion.passesName name = true ∧
      Act.Runs (readOr (.accessibleName candidate) "") () u (.ok name) () ∧
      Act.Runs (excludedByAttribute exclusion candidate) () v (.ok false) () ∧
      Act.Runs (excludedByCss root exclusion candidate) () w (.ok false) () := by
  obtain ⟨u, name, s₁, rest, split, asked, later⟩ := run.bind_ok_inv
  subst split
  split at later
  · obtain ⟨-, same, -⟩ := Act.runs_pure.mp later
    cases same
  · next unnamed =>
      split at later
      · obtain ⟨-, same, -⟩ := Act.runs_pure.mp later
        cases same
      · next other =>
          simp only [Bool.not_eq_true] at unnamed other
          obtain ⟨v, byAttribute, s₂, rest', split, attributes, later⟩ := later.bind_ok_inv
          subst split
          cases byAttribute with
          | true =>
              obtain ⟨-, same, -⟩ := Act.runs_pure.mp later
              cases same
          | false =>
              obtain ⟨w, byCss, s₃, rest'', split, css, later⟩ := later.bind_ok_inv
              obtain ⟨nothing, same, -⟩ := Act.runs_pure.mp later
              subst nothing
              have kept : byCss = false := by simpa using same
              subst kept
              refine ⟨name, u, v, w, by rw [split, List.append_nil], ?_, asked, attributes, css⟩
              unfold Exclusion.passesName
              rw [unnamed, other]
              rfl

theorem notExcluded_closed {exclusion : Exclusion} (closed : ¬ FailsOpen (.exclude exclusion))
    (run : Act.Runs (notExcluded root exclusion candidate) s t (.ok true) s') : Unfailed t := by
  obtain ⟨name, u, v, w, split, passes, asked, attributes, css⟩ := notExcluded_inv run
  unfold FailsOpen at closed
  rw [not_or] at closed
  have more : ¬ exclusion.readsMore := fun more => closed.2 ⟨more, name, passes⟩
  unfold Exclusion.readsMore at more
  rw [not_or] at more
  have first : Unfailed u := by
    rcases readOr_inv asked with event | ⟨lost, -⟩
    · rw [event]
      exact unfailed_single
    · rw [lost] at passes
      exact absurd passes closed.1
  have second : v = [] := by
    unfold excludedByAttribute at attributes
    split at attributes
    · next name' value declared declared' =>
        exact absurd ⟨by simp [declared], by simp [declared']⟩ more.1
    · exact (Act.runs_pure.mp attributes).1
  have third : w = [] := by
    unfold excludedByCss at css
    split at css
    · exact (Act.runs_pure.mp css).1
    · exact (Act.runs_pure.mp css).1
    · next css' filled declared => exact absurd ⟨css', declared, filled⟩ more.2
  rw [split, second, third, List.append_nil, List.append_nil]
  exact first

theorem closed_of_not_failsOpen {constraint : TargetConstraint} (closed : ¬ FailsOpen constraint) :
    Closed root constraint := by
  intro primary container index t run
  cases constraint with
  | within inner =>
      cases container with
      | none =>
          obtain ⟨-, same, -⟩ := Act.runs_pure.mp run
          cases same
      | some element => exact isDescendant_closed run
  | «attribute» name operator value => exact satisfiesAttribute_closed closed run
  | visible want =>
      obtain ⟨first, visible, s₁, rest, split, asked, later⟩ := Act.Runs.bind_ok_inv run
      obtain ⟨nothing, -, -⟩ := Act.runs_pure.mp later
      rw [split, nothing, read_inv asked]
      exact unfailed_single
  | enabled want =>
      obtain ⟨first, enabled, s₁, rest, split, asked, later⟩ := Act.Runs.bind_ok_inv run
      obtain ⟨nothing, -, -⟩ := Act.runs_pure.mp later
      rw [split, nothing, read_inv asked]
      exact unfailed_single
  | exclude exclusion => exact notExcluded_closed closed run

/-! ## What does not -/

/-- A failure that every reader catches. -/
def lostPage : PyException := ⟨.playwrightError, "", none⟩

theorem readOr_answered (c : PageCall) (a fallback : c.Result) :
    Act.Runs (readOr c fallback) () [⟨c, .ok a⟩] (.ok a) () :=
  .call _ (.done _)

theorem readOr_failed (c : PageCall) (fallback : c.Result) :
    Act.Runs (readOr c fallback) () [⟨c, .error lostPage⟩] (.ok fallback) () :=
  .call _ (.done _)

/-- The attribute of an exclusion need not exclude. -/
theorem excludedByAttribute_passes (exclusion : Exclusion) (candidate : Element) :
    ∃ t, Act.Runs (excludedByAttribute exclusion candidate) () t (.ok false) () := by
  unfold excludedByAttribute
  split
  · next name value _ _ =>
      exact ⟨_, (readOr_answered (.getAttribute candidate name) (none : Option String) none).bind
        (.done _)⟩
  · exact ⟨[], .pure false ()⟩

theorem excludedByCss_passes (root : Root) (exclusion : Exclusion) (candidate : Element) :
    ∃ t, Act.Runs (excludedByCss root exclusion candidate) () t (.ok false) () := by
  unfold excludedByCss
  split
  · exact ⟨[], .pure false ()⟩
  · exact ⟨[], .pure false ()⟩
  · next css _ _ =>
      exact ⟨_, (readOr_answered (.excludedCount root css) (0 : Nat) (0 : Nat)).bind (.done _)⟩

/-- The run of the check of an exclusion that its parts make up. -/
theorem notExcluded_run {exclusion : Exclusion} {name : String} {u v w : Trace PageSig}
    (passes : exclusion.passesName name = true)
    (asked : Act.Runs (readOr (.accessibleName candidate) "") () u (.ok name) ())
    (attributes : Act.Runs (excludedByAttribute exclusion candidate) () v (.ok false) ())
    (css : Act.Runs (excludedByCss root exclusion candidate) () w (.ok false) ()) :
    Act.Runs (notExcluded root exclusion candidate) () (u ++ (v ++ w)) (.ok true) () := by
  unfold Exclusion.passesName at passes
  rw [Bool.and_eq_true, Bool.not_eq_true', Bool.not_eq_true'] at passes
  refine asked.bind ?_
  rw [if_neg (by rw [passes.1]; simp), if_neg (by rw [passes.2]; simp)]
  have ends := css.bind (f := fun excluded => (return !excluded : PageAct Bool)) (.pure true ())
  rw [List.append_nil] at ends
  exact attributes.bind ends

/-- A candidate passes a constraint that fails open, after a failed reading. -/
theorem passes_of_failsOpen {constraint : TargetConstraint} (opens : FailsOpen constraint)
    (root : Root) (primary : Locator) (container : Option Element) (index : Nat) :
    ∃ t, Act.Runs (check root primary container index constraint) () t (.ok true) () ∧
      Happens Lost t := by
  have lost {call : PageCall} {u v : Trace PageSig} (isLost : Lost ⟨call, .error lostPage⟩) :
      Happens Lost (u ++ ⟨call, .error lostPage⟩ :: v) := ⟨_, by simp, isLost⟩
  cases constraint with
  | within inner => exact opens.elim
  | visible want => exact opens.elim
  | enabled want => exact opens.elim
  | «attribute» name operator value =>
      have failed := readOr_failed (.getAttribute ⟨root, primary, some index⟩ name)
        (none : Option String)
      have passed : Act.Runs (check root primary container index (.attribute name operator value)) ()
          ([⟨.getAttribute ⟨root, primary, some index⟩ name, .error lostPage⟩] ++ []) (.ok true) () := by
        refine failed.bind ?_
        cases operator with
        | exists_ => exact opens.elim
        | equals =>
            have same : value = none := opens
            subst same
            exact .done _
        | notEquals =>
            cases value with
            | none => exact absurd rfl opens
            | some value => exact .done _
      exact ⟨_, passed, lost (u := []) trivial⟩
  | exclude exclusion =>
      let candidate : Element := ⟨root, primary, some index⟩
      obtain ⟨v, attributes⟩ := excludedByAttribute_passes exclusion candidate
      obtain ⟨w, css⟩ := excludedByCss_passes root exclusion candidate
      rcases opens with unnamed | ⟨more, name, passes⟩
      · have run := notExcluded_run unnamed (readOr_failed (.accessibleName candidate) "") attributes css
        exact ⟨_, run, lost (u := []) trivial⟩
      · have asked := readOr_answered (.accessibleName candidate) name ""
        rcases more with ⟨hasName, hasValue⟩ | ⟨selector, declared, filled⟩
        · obtain ⟨key, named⟩ := Option.isSome_iff_exists.mp hasName
          obtain ⟨value, valued⟩ := Option.isSome_iff_exists.mp hasValue
          have failed : Act.Runs (excludedByAttribute exclusion candidate) ()
              ([⟨.getAttribute candidate key, .error lostPage⟩] ++ []) (.ok false) () := by
            unfold excludedByAttribute
            rw [named, valued]
            exact (readOr_failed (.getAttribute candidate key) (none : Option String)).bind (.done _)
          have run := notExcluded_run passes asked failed css
          exact ⟨_, run, lost (u := [_]) trivial⟩
        · have failed : Act.Runs (excludedByCss root exclusion candidate) ()
              ([⟨.excludedCount root selector, .error lostPage⟩] ++ []) (.ok false) () := by
            unfold excludedByCss
            rw [declared]
            split
            · contradiction
            · next same => exact absurd (Option.some.inj same) filled
            · next same =>
                cases same
                exact (readOr_failed (.excludedCount root selector) (0 : Nat)).bind (.done _)
          have run := notExcluded_run passes asked attributes failed
          rw [← List.append_assoc] at run
          exact ⟨_, run, lost trivial⟩

theorem not_closed_of_failsOpen {constraint : TargetConstraint} (opens : FailsOpen constraint) :
    ¬ Closed root constraint := by
  intro closed
  obtain ⟨t, run, lost⟩ := passes_of_failsOpen opens root (byCss "button") none 0
  exact not_lost_of_unfailed (closed _ _ _ _ run) lost

theorem closed_iff {constraint : TargetConstraint} :
    Closed root constraint ↔ ¬ FailsOpen constraint :=
  ⟨fun closed opens => not_closed_of_failsOpen opens closed, closed_of_not_failsOpen⟩

/-! ## What a returned candidate has passed -/

/-- A part of the run is a check of the constraint that the candidate passed. -/
def Passed (root : Root) (primary : Locator) (index : Nat) (t : Trace PageSig)
    (constraint : TargetConstraint) : Prop :=
  ∃ container u, u <:+: t ∧ Act.Runs (check root primary container index constraint) () u (.ok true) ()

theorem Passed.mono {constraint : TargetConstraint} {u t : Trace PageSig}
    (passed : Passed root primary index u constraint) (within : u <:+: t) :
    Passed root primary index t constraint := by
  obtain ⟨container, v, infix_, run⟩ := passed
  exact ⟨container, v, infix_.trans within, run⟩

/-- The container of a constraint was resolved, where it has one. -/
inductive Contained (root : Root) : TargetConstraint → Option Element → Trace PageSig → Prop
  | within {inner : Target} {resolved : ResolvedTarget} {element : Element} {u : Trace PageSig}
      (run : Act.Runs (resolveTarget root inner) () u (.ok resolved) ())
      (found : resolved.element = some element) : Contained root (.within inner) (some element) u
  | plain {c : TargetConstraint} (plain : ∀ inner, c ≠ .within inner) : Contained root c none []

theorem Contained.found {c : TargetConstraint} {u : Trace PageSig}
    (contained : Contained root c container u) :
    ∀ inner, c = .within inner → container.isSome = true := by
  rintro inner rfl
  cases contained with
  | within => rfl
  | plain plain => exact absurd rfl (plain inner)

/-- The loop over the constraints, where it goes on below a first one. -/
theorem runs_applyConstraints_cons {c : TargetConstraint} {rest : List TargetConstraint}
    {candidates left : List Nat} :
    Act.Runs (applyConstraints root primary (c :: rest) candidates) () t (.ok (.ok left)) () ↔
      ∃ container u v w kept, t = u ++ (v ++ w) ∧ Contained root c container u ∧
        Act.Filters (fun index => check root primary container index c) () candidates v kept () ∧
        Act.Runs (applyConstraints root primary rest kept) () w (.ok (.ok left)) () := by
  constructor
  · intro run
    cases c with
    | within inner =>
        unfold applyConstraints at run
        obtain ⟨u, resolved, _, _, rfl, container, after⟩ := run.bind_ok_inv
        split at after
        · obtain ⟨-, same, -⟩ := Act.runs_pure.mp after
          cases same
        · next element found =>
            obtain ⟨v, kept, _, w, rfl, filtered, onward⟩ := after.bind_ok_inv
            exact ⟨some element, u, v, w, kept, rfl, .within container found,
              Act.runs_filterM.mp filtered, onward⟩
    | «attribute» | visible | enabled | exclude =>
        unfold applyConstraints at run
        obtain ⟨v, kept, _, w, rfl, filtered, onward⟩ := run.bind_ok_inv
        exact ⟨none, [], v, w, kept, rfl, .plain nofun, Act.runs_filterM.mp filtered, onward⟩
  · rintro ⟨container, u, v, w, kept, rfl, contained, filters, onward⟩
    have filtered := Act.runs_filterM.mpr filters
    cases c with
    | within inner =>
        cases contained with
        | plain plain => exact absurd rfl (plain inner)
        | within run found =>
            unfold applyConstraints
            refine run.bind ?_
            rw [found]
            exact filtered.bind onward
    | «attribute» | visible | enabled | exclude =>
        cases contained
        unfold applyConstraints
        exact filtered.bind onward

/-- Constraints that fail leave no element. -/
theorem element_of_applyConstraints {constraints : List TargetConstraint} {candidates : List Nat}
    {failed : ResolvedTarget}
    (run : Act.Runs (applyConstraints root primary constraints candidates) () t
      (.ok (.error failed)) ()) : failed.element = none := by
  induction constraints generalizing candidates t with
  | nil =>
      unfold applyConstraints at run
      obtain ⟨-, same, -⟩ := Act.runs_pure.mp run
      cases same
  | cons constraint rest ih =>
      cases constraint with
      | within inner =>
          unfold applyConstraints at run
          obtain ⟨_, resolved, _, _, -, -, after⟩ := run.bind_ok_inv
          split at after
          · obtain ⟨-, same, -⟩ := Act.runs_pure.mp after
            cases same
            rfl
          · obtain ⟨_, left, _, _, -, -, onward⟩ := after.bind_ok_inv
            exact ih onward
      | «attribute» | visible | enabled | exclude =>
          unfold applyConstraints at run
          obtain ⟨_, left, _, _, -, -, onward⟩ := run.bind_ok_inv
          exact ih onward

/-- The element of a conclusion is its only candidate. -/
theorem element_of_concludeTarget {constrained : Bool} {count : Nat} {candidates : List Nat}
    {resolved : ResolvedTarget} {element : Element}
    (run : Act.Runs (concludeTarget root primary constrained count candidates) () t (.ok resolved) ())
    (found : resolved.element = some element) :
    ∃ index, candidates = [index] ∧
      (element = ⟨root, primary, some index⟩ ∨ element = ⟨root, primary, none⟩) := by
  unfold concludeTarget at run
  rcases candidates with - | ⟨first, - | ⟨second, rest⟩⟩
  · obtain ⟨_, _, _, _, -, -, concluded⟩ := run.bind_ok_inv
    obtain ⟨-, same, -⟩ := Act.runs_pure.mp concluded
    cases same
    cases found
  · obtain ⟨-, same, -⟩ := Act.runs_pure.mp run
    cases same
    refine ⟨first, rfl, ?_⟩
    have same := Option.some.inj found
    rw [← same]
    split
    · exact .inr rfl
    · exact .inl rfl
  · obtain ⟨_, _, _, _, -, -, concluded⟩ := run.bind_ok_inv
    obtain ⟨-, same, -⟩ := Act.runs_pure.mp concluded
    cases same
    cases found

theorem passed_of_applyConstraints {constraints : List TargetConstraint}
    {candidates left : List Nat}
    (run : Act.Runs (applyConstraints root primary constraints candidates) () t (.ok (.ok left)) ())
    (member : index ∈ left) :
    index ∈ candidates ∧ ∀ c ∈ constraints, Passed root primary index t c := by
  induction constraints generalizing candidates t with
  | nil =>
      unfold applyConstraints at run
      obtain ⟨-, same, -⟩ := Act.runs_pure.mp run
      cases same
      exact ⟨member, by simp⟩
  | cons constraint rest ih =>
      obtain ⟨container, u, v, w, kept, split, -, filters, run⟩ := runs_applyConstraints_cons.mp run
      obtain ⟨known, later⟩ := ih run
      obtain ⟨known', x, s₁, s₂, infix_, passed⟩ := filters.mem known
      subst split
      refine ⟨known', List.forall_mem_cons.mpr ⟨?_, ?_⟩⟩
      · exact ⟨container, x, infix_.trans ⟨u, w, by simp⟩, passed⟩
      · intro c declared
        exact (later c declared).mono ⟨u ++ v, [], by simp⟩

/-- The candidate that a resolution returns has passed a check of each constraint. -/
theorem passed_of_resolveTarget {constraints : List TargetConstraint} {resolved : ResolvedTarget}
    {element : Element}
    (run : Act.Runs (resolveTarget root (.mk primary constraints)) () t (.ok resolved) ())
    (found : resolved.element = some element) :
    ∃ index, (element = ⟨root, primary, some index⟩ ∨ element = ⟨root, primary, none⟩) ∧
      ∀ c ∈ constraints, Passed root primary index t c := by
  unfold resolveTarget at run
  obtain ⟨u, count, s₁, v, split, -, after⟩ := run.bind_ok_inv
  split at after
  · obtain ⟨-, same, -⟩ := Act.runs_pure.mp after
    cases same
    cases found
  · obtain ⟨w, narrowed, s₂, x, split', applied, concluded⟩ := after.bind_ok_inv
    cases narrowed with
    | error failed =>
        obtain ⟨-, same, -⟩ := Act.runs_pure.mp concluded
        cases same
        rw [element_of_applyConstraints applied] at found
        cases found
    | ok left =>
        obtain ⟨index, only, addressed⟩ := element_of_concludeTarget concluded found
        subst only
        obtain ⟨-, passed⟩ := passed_of_applyConstraints applied (List.mem_singleton_self index)
        refine ⟨index, addressed, ?_⟩
        intro c declared
        refine (passed c declared).mono ⟨u, x, ?_⟩
        rw [split, split', List.append_assoc]

/-! ## Failing closed -/

/-- A returned candidate has passed a check of each constraint, without a failed reading. -/
def ReturnsChecked (root : Root) : Target → Prop
  | .mk primary constraints => ∀ t resolved element,
      Act.Runs (resolveTarget root (.mk primary constraints)) () t (.ok resolved) () →
      resolved.element = some element →
      ∃ index, (element = ⟨root, primary, some index⟩ ∨ element = ⟨root, primary, none⟩) ∧
        ∀ c ∈ constraints, ∃ container u, u <:+: t ∧
          Act.Runs (check root primary container index c) () u (.ok true) () ∧ Unfailed u

theorem returnsChecked_of_closed {target : Target} (closed : target.Forall (Closed root)) :
    ReturnsChecked root target := by
  rcases target with ⟨primary, constraints⟩
  intro t resolved element run found
  obtain ⟨index, addressed, passed⟩ := passed_of_resolveTarget run found
  refine ⟨index, addressed, ?_⟩
  intro c declared
  obtain ⟨container, u, infix_, checked⟩ := passed c declared
  exact ⟨container, u, infix_, checked, closed.mem c declared primary container index u checked⟩

/-- A target fails closed, with its containers, exactly where no constraint of it or of a
container is satisfied by the value that a failed reading falls back on. -/
theorem failsClosed_iff (root : Root) (target : Target) :
    (target.Forall (Closed root) ∧ ReturnsChecked root target) ↔
      target.Forall fun constraint => ¬ FailsOpen constraint := by
  rw [← Target.forall_iff fun _ => @closed_iff root _]
  constructor
  · intro both
    exact both.1
  · intro closed
    exact ⟨closed, returnsChecked_of_closed closed⟩

/-- One button, whose attribute cannot be read, is returned as one whose attribute differs. -/
theorem notEquals_unread :
    Act.Runs (resolveTarget .page (.mk (byCss "button")
        [.attribute "aria-disabled" .notEquals (some "true")])) ()
      [⟨.count .page (byCss "button"), .ok (1 : Nat)⟩,
        ⟨.getAttribute ⟨.page, byCss "button", some 0⟩ "aria-disabled", .error lostPage⟩]
      (.ok { element := some ⟨.page, byCss "button", some 0⟩, matchCount := 1
             finalCandidateCount := 1 }) () :=
  .call _ (.call _ (.done _))

end Dingdongditch.Resolver
