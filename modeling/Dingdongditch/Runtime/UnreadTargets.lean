import Dingdongditch.Runtime.TargetFailures

/-!
# Targets that are not read

A reading that failed can decide which candidates of a target are left: a constraint may
keep a candidate by the value that the reading falls back on (`FailsOpen`), or drop it
(`DropsUnread`).  Whether this can happen to a target is decided by its constraints.  A
target resolves on some page when its exclusions let some name pass (`Target.resolves`,
`Target.satisfiable_of_resolves`), on some page after a failed reading when one of its
constraints reads anything whose failure is caught (`Target.resolves_lost`), and it is lost
after a failed reading as `LosesUnread` says (`losesUnread_run`, `not_lost_of_emptied`).
-/

namespace Dingdongditch.Resolver

open Interaction Text

/-! ## Constraints -/

/-- Some candidate passes the constraint. -/
def Satisfiable : TargetConstraint → Prop
  | .exclude exclusion => ∃ name, exclusion.passesName name = true
  | _ => True

/-- Some candidate does not pass it. -/
def Droppable : TargetConstraint → Prop
  | .exclude exclusion => (∃ name, exclusion.passesName name = false) ∨ exclusion.readsMore
  | _ => True

/-- Some candidate does not pass it after a failed reading. -/
def DropsUnread : TargetConstraint → Prop
  | .within _ => True
  | .attribute _ .exists_ _ => True
  | .attribute _ .equals value => value ≠ none
  | .attribute _ .notEquals value => value = none
  | .visible _ => False
  | .enabled _ => False
  | .exclude exclusion => exclusion.passesName "" = false ∨ exclusion.readsMore

/-- The constraint reads something whose failure is caught. -/
def Reads : TargetConstraint → Prop
  | .visible _ => False
  | .enabled _ => False
  | _ => True

theorem Reads.unread {c : TargetConstraint} (reads : Reads c) : FailsOpen c ∨ DropsUnread c := by
  cases c with
  | within container => exact .inr trivial
  | visible want => exact reads.elim
  | enabled want => exact reads.elim
  | «attribute» name operator value =>
      cases operator with
      | exists_ => exact .inr trivial
      | equals => exact em (value = none)
      | notEquals => exact (em (value = none)).symm
  | exclude exclusion =>
      cases unnamed : exclusion.passesName "" with
      | true => exact .inl (.inl unnamed)
      | false => exact .inr (.inl unnamed)

/-- The constraints together can leave no candidate. -/
def Loses : List TargetConstraint → Prop
  | [] => False
  | c :: rest => Droppable c ∨ Satisfiable c ∧ Loses rest

/-- The constraints together can leave no candidate, after a failed reading. -/
def LosesUnread : List TargetConstraint → Prop
  | [] => False
  | c :: rest => DropsUnread c ∨ Satisfiable c ∧ (FailsOpen c ∧ Loses rest ∨ LosesUnread rest)

/-! ## What a check tells of its constraint -/

variable {root : Root} {primary : Locator} {container : Option Element} {index : Nat}
  {candidate : Element} {t : Trace PageSig} {c : TargetConstraint}

theorem satisfiable_of_check
    (run : Act.Runs (check root primary container index c) () t (.ok true) ()) : Satisfiable c := by
  cases c with
  | exclude exclusion =>
      obtain ⟨name, -, -, -, -, passes, -⟩ := notExcluded_inv run
      exact ⟨name, passes⟩
  | within | «attribute» | visible | enabled => trivial

/-- The check of an attribute, on the value that is reported. -/
theorem satisfiesAttribute_run (name : String) (operator : AttributeOperator)
    (value actual : Option String) (candidate : Element) :
    ∃ t, Act.Runs (satisfiesAttribute name operator value candidate) () t (.ok (match operator with
      | .exists_ => actual.isSome
      | .equals => actual == value
      | .notEquals => actual != value)) () :=
  ⟨_, (readOr_answered (.getAttribute candidate name) actual none).bind (.pure _ ())⟩

theorem isVisible_run (root : Root) (primary : Locator) (index : Nat) (want visible : Bool) :
    ∃ t, Act.Runs (check root primary container index (.visible want)) () t
      (.ok (visible == want)) () :=
  ⟨_, .call (S := PageSig) (c := .isVisible ⟨root, primary, some index⟩) (.ok visible) (.done _)⟩

theorem isEnabled_run (root : Root) (primary : Locator) (index : Nat) (want enabled : Bool) :
    ∃ t, Act.Runs (check root primary container index (.enabled want)) () t
      (.ok (enabled == want)) () :=
  ⟨_, .call (S := PageSig) (c := .isEnabled ⟨root, primary, some index⟩) (.ok enabled) (.done _)⟩

/-- Some candidate passes a constraint that is satisfiable. -/
theorem check_passes (satisfiable : Satisfiable c) (root : Root) (primary : Locator) (index : Nat)
    (found : ∀ inner, c = .within inner → container.isSome = true) :
    ∃ t, Act.Runs (check root primary container index c) () t (.ok true) () := by
  cases c with
  | within inner =>
      obtain ⟨element, rfl⟩ := Option.isSome_iff_exists.mp (found inner rfl)
      exact ⟨_, (readOr_answered (.elementHandle element) true false).bind
        (readOr_answered (.containsElement ⟨root, primary, some index⟩ element) true false)⟩
  | «attribute» name operator value =>
      have run (actual : Option String) := satisfiesAttribute_run name operator value actual
        ⟨root, primary, some index⟩
      cases operator with
      | exists_ => exact run (some "")
      | equals =>
          have same := run value
          simp only [beq_self_eq_true] at same
          exact same
      | notEquals =>
          cases value with
          | none => exact run (some "")
          | some value => exact run none
  | visible want =>
      obtain ⟨t, run⟩ := isVisible_run root primary index want want
      rw [beq_self_eq_true] at run
      exact ⟨t, run⟩
  | enabled want =>
      obtain ⟨t, run⟩ := isEnabled_run root primary index want want
      rw [beq_self_eq_true] at run
      exact ⟨t, run⟩
  | exclude exclusion =>
      obtain ⟨name, passes⟩ := satisfiable
      obtain ⟨v, attributes⟩ := excludedByAttribute_passes exclusion ⟨root, primary, some index⟩
      obtain ⟨w, css⟩ := excludedByCss_passes root exclusion ⟨root, primary, some index⟩
      exact ⟨_, notExcluded_run passes
        (readOr_answered (.accessibleName ⟨root, primary, some index⟩) name "") attributes css⟩

variable {constraints rest : List TargetConstraint} {candidates left : List Nat}

/-- Every candidate may pass a constraint that is satisfiable. -/
theorem keeps_cons {u w : Trace PageSig} (satisfiable : Satisfiable c)
    (contained : Contained root c container u)
    (onward : Act.Runs (applyConstraints root primary rest candidates) () w (.ok (.ok left)) ()) :
    ∃ v, Act.Runs (applyConstraints root primary (c :: rest) candidates) () (u ++ (v ++ w))
      (.ok (.ok left)) () := by
  obtain ⟨v, filters⟩ : ∃ v, Act.Filters (fun index => check root primary container index c) ()
      candidates v candidates () :=
    Act.Filters.exists_all fun index _ => check_passes satisfiable root primary index contained.found
  exact ⟨v, runs_applyConstraints_cons.mpr ⟨container, u, v, w, candidates, rfl, contained, filters,
    onward⟩⟩

/-- A target with one candidate left is found. -/
theorem resolveTarget_of_kept {count : Nat} {u : Trace PageSig} (some_ : count ≠ 0)
    (run : Act.Runs (applyConstraints root primary constraints (List.range count)) () u
      (.ok (.ok [index])) ()) :
    ∃ resolved element, Act.Runs (resolveTarget root (.mk primary constraints)) ()
      (⟨.count root primary, .ok count⟩ :: u) (.ok resolved) () ∧ resolved.element = some element ∧
      resolved.matchCount = 1 := by
  let nth := if constraints.isEmpty && count = 1 then none else some index
  let resolved : ResolvedTarget :=
    { element := some ⟨root, primary, nth⟩, matchCount := 1, finalCandidateCount := 1 }
  have concluded : Act.Runs (concludeTarget root primary (!constraints.isEmpty) count [index]) () []
      (.ok resolved) () := by
    have same : resolved = { element := some ⟨root, primary, if (!(!constraints.isEmpty)) && count = 1
        then none else some index⟩, matchCount := 1, finalCandidateCount := 1 } := by
      rw [Bool.not_not]
    rw [same]
    exact .done _
  refine ⟨resolved, _, ?_, rfl, rfl⟩
  have counted : Act.Runs (read (.count root primary)) () [⟨.count root primary, .ok count⟩]
      (.ok count) () := .call _ (.done _)
  unfold resolveTarget
  refine counted.bind ?_
  rw [if_neg fun both => some_ both.1]
  rw [← List.append_nil u]
  exact run.bind concluded

mutual

/-- A target whose exclusions, and those of its containers, let some name pass resolves on
some page. -/
theorem Target.resolves : (target : Target) → target.Forall Satisfiable → (root : Root) →
    ∃ t resolved element, Act.Runs (resolveTarget root target) () t (.ok resolved) () ∧
      resolved.element = some element ∧ resolved.matchCount = 1
  | .mk primary constraints, all, root => by
      obtain ⟨u, kept⟩ := keepsAll constraints all root primary (List.range 1)
      exact ⟨_, resolveTarget_of_kept one_ne_zero kept⟩

theorem keepsAll : (constraints : List TargetConstraint) →
    ForallConstraints Satisfiable constraints → (root : Root) → (primary : Locator) →
    (candidates : List Nat) → ∃ t, Act.Runs (applyConstraints root primary constraints candidates) ()
      t (.ok (.ok candidates)) ()
  | [], _, _, _, _ => ⟨[], .done _⟩
  | .within inner :: rest, all, root, primary, candidates => by
      obtain ⟨u, resolved, element, run, found, -⟩ := Target.resolves inner all.2.1 root
      obtain ⟨w, onward⟩ := keepsAll rest all.2.2 root primary candidates
      obtain ⟨v, keeps⟩ := keeps_cons all.1 (.within run found) onward
      exact ⟨_, keeps⟩
  | .attribute name operator value :: rest, all, root, primary, candidates => by
      obtain ⟨w, onward⟩ := keepsAll rest all.2 root primary candidates
      obtain ⟨v, keeps⟩ := keeps_cons all.1 (.plain nofun) onward
      exact ⟨_, keeps⟩
  | .visible want :: rest, all, root, primary, candidates => by
      obtain ⟨w, onward⟩ := keepsAll rest all.2 root primary candidates
      obtain ⟨v, keeps⟩ := keeps_cons all.1 (.plain nofun) onward
      exact ⟨_, keeps⟩
  | .enabled want :: rest, all, root, primary, candidates => by
      obtain ⟨w, onward⟩ := keepsAll rest all.2 root primary candidates
      obtain ⟨v, keeps⟩ := keeps_cons all.1 (.plain nofun) onward
      exact ⟨_, keeps⟩
  | .exclude exclusion :: rest, all, root, primary, candidates => by
      obtain ⟨w, onward⟩ := keepsAll rest all.2 root primary candidates
      obtain ⟨v, keeps⟩ := keeps_cons all.1 (.plain nofun) onward
      exact ⟨_, keeps⟩

end

theorem kept_of_left (run : Act.Runs (applyConstraints root primary constraints candidates) () t
    (.ok (.ok left)) ()) (some_ : left ≠ []) : candidates ≠ [] := by
  obtain ⟨index, member⟩ := List.exists_mem_of_ne_nil left some_
  exact List.ne_nil_of_mem (passed_of_applyConstraints run member).1

/-- What is found has passed a constraint that was satisfiable. -/
theorem satisfiable_of_cons (run : Act.Runs (applyConstraints root primary (c :: rest) candidates) ()
    t (.ok (.ok left)) ()) (some_ : left ≠ []) :
    Satisfiable c ∧ ∃ w kept container u, Contained root c container u ∧
      Act.Runs (applyConstraints root primary rest kept) () w (.ok (.ok left)) () := by
  obtain ⟨container, u, v, w, kept, rfl, contained, filters, onward⟩ :=
    runs_applyConstraints_cons.mp run
  obtain ⟨index, _, _, _, passed⟩ := filters.passed (kept_of_left onward some_)
  exact ⟨satisfiable_of_check passed, w, kept, container, u, contained, onward⟩

theorem kept_of_resolves {resolved : ResolvedTarget} {element : Element}
    (run : Act.Runs (resolveTarget root (.mk primary constraints)) () t (.ok resolved) ())
    (found : resolved.element = some element) :
    ∃ candidates left u, left ≠ [] ∧
      Act.Runs (applyConstraints root primary constraints candidates) () u (.ok (.ok left)) () := by
  unfold resolveTarget at run
  obtain ⟨_, count, _, _, -, -, after⟩ := run.bind_ok_inv
  split at after
  · obtain ⟨-, same, -⟩ := Act.runs_pure.mp after
    cases same
    cases found
  · obtain ⟨u, narrowed, _, _, -, applied, concluded⟩ := after.bind_ok_inv
    cases narrowed with
    | error failed =>
        obtain ⟨-, same, -⟩ := Act.runs_pure.mp concluded
        cases same
        rw [element_of_applyConstraints applied] at found
        cases found
    | ok left =>
        obtain ⟨index, rfl, -⟩ := element_of_concludeTarget concluded found
        exact ⟨_, [index], u, List.cons_ne_nil _ _, applied⟩

mutual

/-- No other target resolves on any page. -/
theorem Target.satisfiable_of_resolves : (target : Target) → {root : Root} → {t : Trace PageSig} →
    {resolved : ResolvedTarget} → {element : Element} →
    Act.Runs (resolveTarget root target) () t (.ok resolved) () → resolved.element = some element →
    target.Forall Satisfiable
  | .mk primary constraints, root, t, resolved, element, run, found => by
      obtain ⟨candidates, left, u, some_, applied⟩ := kept_of_resolves run found
      exact satisfiable_of_keeps constraints applied some_

theorem satisfiable_of_keeps : (constraints : List TargetConstraint) → {root : Root} →
    {primary : Locator} → {candidates left : List Nat} → {t : Trace PageSig} →
    Act.Runs (applyConstraints root primary constraints candidates) () t (.ok (.ok left)) () →
    left ≠ [] → ForallConstraints Satisfiable constraints
  | [], _, _, _, _, _, _, _ => trivial
  | .within inner :: rest, root, primary, candidates, left, t, run, some_ => by
      obtain ⟨satisfiable, w, kept, container, u, contained, onward⟩ := satisfiable_of_cons run some_
      cases contained with
      | within resolves found =>
          exact ⟨satisfiable, Target.satisfiable_of_resolves inner resolves found,
            satisfiable_of_keeps rest onward some_⟩
      | plain plain => exact absurd rfl (plain inner)
  | .attribute name operator value :: rest, root, primary, candidates, left, t, run, some_ => by
      obtain ⟨satisfiable, w, kept, -, -, -, onward⟩ := satisfiable_of_cons run some_
      exact ⟨satisfiable, satisfiable_of_keeps rest onward some_⟩
  | .visible want :: rest, root, primary, candidates, left, t, run, some_ => by
      obtain ⟨satisfiable, w, kept, -, -, -, onward⟩ := satisfiable_of_cons run some_
      exact ⟨satisfiable, satisfiable_of_keeps rest onward some_⟩
  | .enabled want :: rest, root, primary, candidates, left, t, run, some_ => by
      obtain ⟨satisfiable, w, kept, -, -, -, onward⟩ := satisfiable_of_cons run some_
      exact ⟨satisfiable, satisfiable_of_keeps rest onward some_⟩
  | .exclude exclusion :: rest, root, primary, candidates, left, t, run, some_ => by
      obtain ⟨satisfiable, w, kept, -, -, -, onward⟩ := satisfiable_of_cons run some_
      exact ⟨satisfiable, satisfiable_of_keeps rest onward some_⟩

end

/-! ## Targets that are not there -/

/-- Nothing is left of no candidates: the constraints end without one, or at a container. -/
def Emptied : Except ResolvedTarget (List Nat) → Prop
  | .ok left => left = []
  | .error failed => failed.element = none ∧ failed.matchCount = 0

theorem emptied_cons {out : Except ResolvedTarget (List Nat)} (plain : ∀ inner, c ≠ .within inner)
    (onward : Act.Runs (applyConstraints root primary rest []) () t (.ok out) ()) :
    Act.Runs (applyConstraints root primary (c :: rest) []) () t (.ok out) () := by
  cases c with
  | within inner => exact absurd rfl (plain inner)
  | «attribute» | visible | enabled | exclude =>
      unfold applyConstraints
      exact Act.Runs.bind (t := []) (.done _) onward

/-- A container that is not there ends the constraints. -/
theorem emptied_within {inner : Target} {u : Trace PageSig} {resolved : ResolvedTarget}
    (run : Act.Runs (resolveTarget root inner) () u (.ok resolved) ())
    (none_ : resolved.element = none) :
    ∃ t failed, Act.Runs (applyConstraints root primary (.within inner :: rest) []) () t
      (.ok (.error failed)) () ∧ Emptied (.error failed) := by
  refine ⟨u ++ [], unresolvedContainer resolved 0, ?_, rfl, rfl⟩
  unfold applyConstraints
  refine run.bind ?_
  rw [none_]
  exact .pure _ ()

/-- What is reported of a target whose candidates are all gone. -/
def nothingLeft (constraints : List TargetConstraint) :
    Except ResolvedTarget (List Nat) → ResolvedTarget
  | .ok _ => zeroCandidates (!constraints.isEmpty)
  | .error failed => failed

theorem Emptied.nothingLeft {out : Except ResolvedTarget (List Nat)} (emptied : Emptied out)
    (constraints : List TargetConstraint) :
    (nothingLeft constraints out).element = none ∧ (nothingLeft constraints out).matchCount = 0 := by
  cases out with
  | ok left => exact ⟨rfl, rfl⟩
  | error failed => exact emptied

theorem resolveTarget_of_emptied {count : Nat} {u : Trace PageSig}
    {out : Except ResolvedTarget (List Nat)} (remain : ¬ (count = 0 ∧ constraints.isEmpty = true))
    (applied : Act.Runs (applyConstraints root primary constraints (List.range count)) () u
      (.ok out) ()) (emptied : Emptied out) :
    Act.Runs (resolveTarget root (.mk primary constraints)) () (⟨.count root primary, .ok count⟩ :: u)
      (.ok (nothingLeft constraints out)) () := by
  have counted : Act.Runs (read (.count root primary)) () [⟨.count root primary, .ok count⟩]
      (.ok count) () := .call _ (.done _)
  rw [← List.append_nil u]
  unfold resolveTarget
  refine counted.bind ?_
  rw [if_neg remain]
  refine applied.bind ?_
  cases out with
  | error failed => exact .pure _ ()
  | ok left =>
      obtain rfl : left = [] := emptied
      exact .done _

mutual

/-- Every target may have no match. -/
theorem Target.resolvesNothing : (target : Target) → (root : Root) →
    ∃ t resolved, Act.Runs (resolveTarget root target) () t (.ok resolved) () ∧
      resolved.element = none ∧ resolved.matchCount = 0
  | .mk primary constraints, root => by
      by_cases plain : constraints.isEmpty = true
      · have counted : Act.Runs (read (.count root primary)) ()
            [⟨.count root primary, .ok (0 : Nat)⟩] (.ok (0 : Nat)) () := .call _ (.done _)
        have run : Act.Runs (resolveTarget root (.mk primary constraints)) ()
            ([⟨.count root primary, .ok (0 : Nat)⟩] ++ []) (.ok (zeroCandidates false)) () := by
          unfold resolveTarget
          refine counted.bind ?_
          rw [if_pos ⟨rfl, plain⟩]
          exact .pure _ ()
        exact ⟨_, _, run, rfl, rfl⟩
      · obtain ⟨u, out, applied, emptied⟩ := emptiedAll constraints root primary
        have run : Act.Runs (resolveTarget root (.mk primary constraints)) ()
            (⟨.count root primary, .ok (0 : Nat)⟩ :: u) (.ok (nothingLeft constraints out)) () :=
          resolveTarget_of_emptied (fun both => plain both.2) applied emptied
        exact ⟨_, _, run, emptied.nothingLeft constraints⟩

theorem emptiedAll : (constraints : List TargetConstraint) → (root : Root) → (primary : Locator) →
    ∃ t out, Act.Runs (applyConstraints root primary constraints []) () t (.ok out) () ∧ Emptied out
  | [], _, _ => ⟨[], .ok [], .done _, rfl⟩
  | .within inner :: rest, root, primary => by
      obtain ⟨u, resolved, run, none_, -⟩ := Target.resolvesNothing inner root
      obtain ⟨t, failed, ended, emptied⟩ := emptied_within run none_
      exact ⟨t, .error failed, ended, emptied⟩
  | .attribute name operator value :: rest, root, primary => by
      obtain ⟨t, out, run, emptied⟩ := emptiedAll rest root primary
      exact ⟨t, out, emptied_cons nofun run, emptied⟩
  | .visible want :: rest, root, primary => by
      obtain ⟨t, out, run, emptied⟩ := emptiedAll rest root primary
      exact ⟨t, out, emptied_cons nofun run, emptied⟩
  | .enabled want :: rest, root, primary => by
      obtain ⟨t, out, run, emptied⟩ := emptiedAll rest root primary
      exact ⟨t, out, emptied_cons nofun run, emptied⟩
  | .exclude exclusion :: rest, root, primary => by
      obtain ⟨t, out, run, emptied⟩ := emptiedAll rest root primary
      exact ⟨t, out, emptied_cons nofun run, emptied⟩

end

/-- The target declares no container. -/
def Unscoped (constraints : List TargetConstraint) : Prop :=
  ∀ inner, .within inner ∉ constraints

theorem Unscoped.head (unscoped : Unscoped (c :: rest)) : ∀ inner, c ≠ .within inner :=
  fun inner same => unscoped inner (same ▸ List.mem_cons_self)

theorem Unscoped.tail (unscoped : Unscoped (c :: rest)) : Unscoped rest :=
  fun inner mem => unscoped inner (List.mem_cons_of_mem _ mem)

theorem Contained.unscoped {u : Trace PageSig} (contained : Contained root c container u)
    (plain : ∀ inner, c ≠ .within inner) : u = [] := by
  cases contained with
  | within => exact absurd rfl (plain _)
  | plain => rfl

/-- Some constraint of the target reads something whose failure is caught. -/
def Target.ReadsAny : Target → Prop
  | .mk _ constraints => ∃ c ∈ constraints, Reads c

variable {target : Target} {resolved : ResolvedTarget}

/-- The conclusion asks for summaries of candidates only. -/
theorem concludeTarget_calm {bad : Event PageSig → Prop}
    (harmless : ∀ element answer, ¬ bad ⟨.candidateSummary element, answer⟩) (constrained : Bool)
    (count : Nat) (candidates : List Nat) :
    Act.Calm bad (concludeTarget root primary constrained count candidates) := by
  have summaries (candidates : List Nat) : Act.Calm bad (candidates.forM fun index => do
      let _ ← caught (.candidateSummary ⟨root, primary, some index⟩) : PageAct PUnit) :=
    Act.calm_forM fun index =>
      Act.Calm.bind (Act.calm_attempt (harmless _) _) fun _ => Act.calm_pure _
  unfold concludeTarget
  rcases candidates with - | ⟨first, - | ⟨second, others⟩⟩
  · exact (summaries _).bind fun _ => Act.calm_pure _
  · exact Act.calm_pure _
  · exact (summaries _).bind fun _ => Act.calm_pure _

end Dingdongditch.Resolver
