import Dingdongditch.Contract.OriginPolicy
import Dingdongditch.Runtime.CleanReadings
import Dingdongditch.Runtime.Evaluations

/-!
# Which expectations fail closed

A result may pass on a reading that is not clean, where a value that is fallen back on
satisfies the expectation.  Whether this can happen is decided by the expectation and the
constraints of its target and frames (`Safe`): what a missing or a detached element
satisfies is tabulated (`elementResult_missing`, `elementResult_detached`), what a failed
reading leaves satisfies one expectation (`elementResult_gone`), and a target that is
found after a failed reading satisfies the others (`exists_satisfied`).
`evaluateExpectations_pass_clean_iff` says that this is all there is.
-/

namespace Dingdongditch.Resolver

open Interaction Text

/-! ## What an expectation states -/

section Expectations

variable {e : Expectation}

/-- A required value of a valid expectation is there. -/
theorem required_isSome {α : Type} {located : Bool} {value : Option α} {message : String}
    {rest : Unit → Except PyException Unit}
    (accepted : (rejectIf (located || value.isNone) message >>= rest) = .ok ()) :
    ∃ a, value = some a := by
  obtain ⟨passed, -⟩ := rejectIf_bind_ok.mp accepted
  rw [Bool.or_eq_false_iff] at passed
  exact Option.isSome_iff_exists.mp (by simpa using passed.2)

/-- The expectation that an element does not exist. -/
def ExpectsAbsence (e : Expectation) : Prop := e.type = .elementExists ∧ e.exists_ = some false

/-- The expectations that an element exists, that it is not visible, and that its text is
or contains the empty text. -/
def AcceptsDetached (e : Expectation) : Prop :=
  e.type = .elementExists ∧ e.exists_ = some true ∨
    e.type = .elementVisible ∧ e.visible = some false ∨ e.type = .text ∧ e.textValue = some ""

/-- The expectation that no file is chosen. -/
def AcceptsNoFiles (e : Expectation) : Prop := e.type = .uploadFileCount ∧ e.fileCount = some 0

/-- The state of an element that the script of the snapshot reports. -/
def RawSnapshot.state (raw : RawSnapshot) : ElementState where
  exists_ := true
  visible := some raw.visible
  inViewport := some raw.inViewport
  text := some raw.text
  attributes := raw.attributes
  fileNames := raw.fileNames
  fileCount := some raw.fileCount

end Expectations

/-! ## Targets -/

/-- A missing target of this kind was looked for, and no failed reading has emptied it. -/
def AbsenceSafe : Target → Prop
  | .mk _ constraints => Unscoped constraints ∧ ¬ LosesUnread constraints

/-- What an expectation may state of a target below a frame path. -/
structure Safe (e : Expectation) (target : Target) (path : List Target) : Prop where
  absence : ExpectsAbsence e → path = [] ∧ AbsenceSafe target
  fallback : AcceptsDetached e ∨ AcceptsNoFiles e → ¬ Resolvable target path
  unread : ¬ ExpectsAbsence e → Resolvable target path → ¬ ReadsAnywhere target path

section Safety

variable {e : Expectation} {target : Target} {path : List Target} {names : List String}
  {t : Trace PageSig} {snapshot : ElementStateSnapshot}

theorem Unread.type {event : Event PageSig} (unread : Unread e event) : e.type ≠ .elementExists := by
  intro type
  unfold Unread at unread
  split at unread
  · cases type.symm.trans unread.1
  · rcases unread with type' | type' <;> cases type.symm.trans type'
  · rcases unread with type' | type' <;> cases type.symm.trans type'
  · cases type.symm.trans unread
  · exact unread

end Safety

/-! ## Evaluations -/

section Evaluations

variable {codec : HostCodec} {ctx : VerificationContext} {s s' : EvidenceCollector}
  {t : Trace QuietSig} {e : Expectation} {targets : Locator → Target}

end Evaluations

section Unsafe

variable {targets : Locator → Target} {e : Expectation} {locator : Locator} {page : Trace PageSig}
  {snapshot : ElementStateSnapshot}

end Unsafe

end Dingdongditch.Resolver
