import Dingdongditch.Contract.ChainSealing
import Dingdongditch.Contract.PublicReceipt
import Dingdongditch.Text.JsonLayout

/-!
# Receipts that are read again

A receipt that is exported, encoded and decoded as JSON, and parsed, has the
dictionary that it had, if its version is the current one and its control epoch is
none or not negative (`ExecutionReceipt.reread_of_readable`).  Nothing else that it
holds keeps it from being read.
-/

namespace Dingdongditch.PublicReceipt

open Text
open Plan (PlanVerdict CompletionStatus)

variable {F : Type}

/-! ## Parts -/

@[simp] theorem ok_bind {α β ε : Type} (a : α) (f : α → Except ε β) : (Except.ok a >>= f) = f a := rfl

theorem verdict_of_value (v : Verdict) :
    memberOf Verdict.all Verdict.value (.str v.value : Json F) = some v := by
  cases v <;> rfl

theorem planVerdict_of_value (v : PlanVerdict) :
    memberOf PlanVerdict.all PlanVerdict.value (.str v.value : Json F) = some v := by
  cases v <;> rfl

theorem completionStatus_of_value (s : CompletionStatus) :
    memberOf CompletionStatus.all CompletionStatus.value (.str s.value : Json F) = some s := by
  cases s <;> rfl

theorem signalKind_of_value (k : SignalKind) :
    memberOf SignalKind.all SignalKind.value (.str k.value : Json F) = some k := by
  cases k <;> rfl

theorem availability_of_value (a : SignalAvailability) :
    memberOf SignalAvailability.all SignalAvailability.value (.str a.value : Json F) = some a := by
  cases a <;> rfl

theorem make_toJson {cls : DataClass F} (item : Instance cls) : make cls item.toJson = .ok item := by
  rw [make, DataClass.construct_toJson]
  rfl

@[simp] theorem item_cons (entries : Public F) (key other : String) (value : Json F) :
    item ((key, value) :: entries) other = if other = key then .ok value else item entries other := by
  by_cases same : other = key
  · subst same
    simp [item, orRaise]
  · have ne : (other == key) = false := beq_false_of_ne same
    simp [item, List.lookup_cons, ne, same]

@[simp] theorem get_cons (entries : Public F) (key other : String) (value : Json F) :
    Json.get ((key, value) :: entries) other = if other = key then value else Json.get entries other := by
  by_cases same : other = key
  · subst same
    simp [Json.get]
  · have ne : (other == key) = false := beq_false_of_ne same
    simp [Json.get, List.lookup_cons, ne, same]

@[simp] theorem orRaise_some {α : Type} (text : String) (a : α) : orRaise text (some a) = .ok a := rfl

@[simp] theorem mapping_dict (entries : Public F) : mapping (.dict entries) = .ok entries := rfl

@[simp] theorem listOf_list (items : List (Json F)) : listOf (.list items) = .ok items := rfl

@[simp] theorem integer_int (n : Int) : integer (.int n : Json F) = .ok n := rfl

theorem EvidenceSignal.ofJson_toJson (signal : EvidenceSignal F) :
    EvidenceSignal.ofJson signal.toJson = .ok signal := by
  unfold EvidenceSignal.ofJson EvidenceSignal.toJson
  simp [Json.getOr, List.lookup_cons, signalKind_of_value, availability_of_value]

theorem mapM_map_ok {α β γ ε : Type} {f : α → β} {g : β → Except ε γ} {h : α → γ} (items : List α)
    (back : ∀ a ∈ items, g (f a) = .ok (h a)) : (items.map f).mapM g = .ok (items.map h) := by
  induction items with
  | nil => rfl
  | cons a items ih =>
      obtain ⟨first, rest⟩ := List.forall_mem_cons.mp back
      rw [List.map_cons, List.mapM_cons, first, ih rest]
      rfl

theorem mapM_map_error {α β γ ε : Type} {f : α → β} {g : β → Except ε γ} {items : List α} {a : α}
    (mem : a ∈ items) (refused : ∃ e, g (f a) = .error e) : ∃ e, (items.map f).mapM g = .error e := by
  obtain ⟨e, fails⟩ := refused
  induction items with
  | nil => cases mem
  | cons b items ih =>
      rw [List.map_cons, List.mapM_cons]
      cases first : g (f b) with
      | error e' => exact ⟨e', rfl⟩
      | ok c =>
          rcases List.mem_cons.mp mem with same | later
          · subst same
            rw [fails] at first
            cases first
          · obtain ⟨e', rest⟩ := ih later
            exact ⟨e', by rw [ok_bind, rest]; rfl⟩

theorem summaryOf_toJson (summary : Option (Instance (observationSummary (F := F)))) :
    summaryOf (summary.elim .null (·.toJson)) = .ok summary := by
  cases summary with
  | none => rfl
  | some summary =>
      change (make observationSummary summary.toJson).map some = _
      rw [make_toJson]
      rfl

/-! ## Execution receipts -/

namespace ExecutionReceipt

/-- The receipt as it is read: a list that is `None` is exported as an empty one. -/
def listed (r : ExecutionReceipt F) : ExecutionReceipt F :=
  { r with
    telemetry := some (r.telemetry.getD [])
    expectationEvidence := some (r.expectationEvidence.getD [])
    artifacts := some (r.artifacts.getD []) }

theorem executionReceiptOf_toDict (r : ExecutionReceipt F) :
    executionReceiptOf r.toDict = .ok r.listed := by
  have results := mapM_map_ok (h := id) r.expectationResults fun result _ => make_toJson result
  have signals := mapM_map_ok (h := id) r.evidence fun signal _ => signal.ofJson_toJson
  have attempts := mapM_map_ok (h := id) r.recoveryAttempts fun attempt _ => make_toJson attempt
  unfold executionReceiptOf toDict
  simp [verdict_of_value, summaryOf_toJson, make_toJson, results, signals, attempts]
  rfl

/-- The version is the current one, and the control epoch is none or not negative. -/
structure Readable (r : ExecutionReceipt F) : Prop where
  version : r.schemaVersion = .str RECEIPT_SCHEMA_VERSION
  epoch : r.controlEpoch = .null ∨ ∃ n : Nat, r.controlEpoch = .int n

theorem allowed_toDict (r : ExecutionReceipt F) :
    ∀ entry ∈ r.toDict, entry.1 ∈ executionReceiptKind.allowed := by
  have names : r.toDict.map (·.1) = executionReceiptKind.allowed := rfl
  intro entry mem
  exact names ▸ List.mem_map_of_mem (f := (·.1)) mem

end ExecutionReceipt

theorem isEpoch_iff {v : Json F} : isEpoch v = true ↔ v = .null ∨ ∃ n : Nat, v = .int n := by
  cases v with
  | int n =>
      suffices counted : 0 ≤ n ↔ ∃ m : Nat, n = m by simpa [isEpoch] using counted
      exact ⟨fun _ => ⟨n.toNat, by omega⟩, fun ⟨m, eq⟩ => by omega⟩
  | _ => simp [isEpoch]

/-! ## Plan receipts -/

/-- The step as it is read. -/
def PlanStepRecord.listed (step : PlanStepRecord F) : PlanStepRecord F :=
  { step with receipt := step.receipt.map (·.listed) }

namespace PlanReceipt

/-- The receipt as it is read. -/
def listed (r : PlanReceipt F) : PlanReceipt F := { r with steps := r.steps.map (·.listed) }

theorem allowed_toDict (r : PlanReceipt F) :
    ∀ entry ∈ r.toDict, entry.1 ∈ planReceiptKind.allowed := by
  have names : r.toDict.map (·.1) = planReceiptKind.allowed := rfl
  intro entry mem
  exact names ▸ List.mem_map_of_mem (f := (·.1)) mem

/-- The version is the current one, and the receipts of the steps are readable. -/
structure Readable (r : PlanReceipt F) : Prop where
  version : r.schemaVersion = .str PLAN_RECEIPT_SCHEMA_VERSION
  steps : ∀ step ∈ r.steps, ∀ receipt, step.receipt = some receipt → receipt.Readable

variable [Floating F]

/-- The checks read nothing of a receipt of a step. -/
theorem checkInvariants_listed (r : PlanReceipt F) : r.listed.checkInvariants = r.checkInvariants := by
  have attempted : (r.steps.map (·.listed)).filter hasAttempted =
      (r.steps.filter hasAttempted).map (·.listed) := by
    rw [List.filter_map]
    rfl
  have shared (steps : List (PlanStepRecord F)) :
      shareSession (steps.map (·.listed)) = shareSession steps := by
    cases steps with
    | nil => rfl
    | cons first steps =>
        unfold shareSession
        simp [List.any_map, List.all_map, Function.comp_def, PlanStepRecord.listed]
  have all (p : PlanStepRecord F → Bool) (same : ∀ step, p step.listed = p step) :
      (r.steps.map (·.listed)).any p = r.steps.any p := by
    simp [List.any_map, Function.comp_def, same]
  unfold checkInvariants listed
  dsimp only
  rw [attempted, shared, List.length_map, all _ fun _ => rfl, all _ fun _ => rfl]

end PlanReceipt

/-! ## Parsing -/

variable [Floating F] [Json.ReadsFloat F]

/-- A payload of a kind is accepted by its version. -/
theorem requireReceiptMapping_dict {kind : ReceiptKind} {entries : Public F}
    (allowed : ∀ entry ∈ entries, entry.1 ∈ kind.allowed) :
    requireReceiptMapping kind (.dict entries) =
      if Json.pyEq (Json.get entries "schema_version") (.str kind.version) then .ok entries
      else .error ⟨"unsupported_receipt_version", "/schema_version",
        "unsupported " ++ kind.label ++ " schema version", some kind.version,
        safeType (Json.get entries "schema_version")⟩ := by
  have known : (entries.any fun entry => !kind.allowed.contains entry.1) = false := by
    simpa using allowed
  unfold requireReceiptMapping
  rw [show coercePayload (.dict entries) = .ok entries from rfl, ok_bind, known]
  cases version : Json.pyEq (Json.get entries "schema_version") (.str kind.version) with
  | true => rfl
  | false => rfl

namespace ExecutionReceipt

/-- A receipt is parsed from its dictionary if and only if it is readable. -/
theorem parse_toDict (r : ExecutionReceipt F) :
    (r.Readable → parseExecutionReceipt (.dict r.toDict) = .ok r.listed) ∧
      (¬r.Readable → ∃ issue, parseExecutionReceipt (.dict r.toDict) = .error issue) := by
  have version : Json.get r.toDict "schema_version" = r.schemaVersion := rfl
  have epoch : Json.get r.toDict "control_epoch" = r.controlEpoch := rfl
  unfold parseExecutionReceipt
  rw [requireReceiptMapping_dict r.allowed_toDict, version]
  constructor
  · intro readable
    have current : Json.pyEq r.schemaVersion (.str executionReceiptKind.version) = true := by
      rw [readable.version]
      exact Json.pyEq_self rfl
    have counted : isEpoch r.controlEpoch = true := isEpoch_iff.mpr readable.epoch
    rw [if_pos current, ok_bind, epoch, counted, executionReceiptOf_toDict]
    rfl
  · intro unreadable
    by_cases current : Json.pyEq r.schemaVersion (.str executionReceiptKind.version) = true
    · have uncounted : isEpoch r.controlEpoch = false := by
        rw [← Bool.not_eq_true]
        intro counted
        exact unreadable ⟨Json.eq_str_of_pyEq current, isEpoch_iff.mp counted⟩
      rw [if_pos current, ok_bind, epoch, uncounted]
      exact ⟨_, rfl⟩
    · rw [if_neg current]
      exact ⟨_, rfl⟩

end ExecutionReceipt

namespace PlanStepRecord

theorem receiptOf_toJson {receipt : Option (ExecutionReceipt F)}
    (readable : ∀ r, receipt = some r → r.Readable) :
    receiptOf (receipt.elim .null fun r => .dict r.toDict) = .ok (receipt.map (·.listed)) := by
  cases receipt with
  | none => rfl
  | some r =>
      simp only [Option.elim_some, receiptOf, r.parse_toDict.1 (readable r rfl), Option.map_some]

theorem ofJson_toJson {step : PlanStepRecord F} (readable : ∀ r, step.receipt = some r → r.Readable) :
    ofJson step.toJson = .ok step.listed := by
  unfold ofJson toJson
  simp [receiptOf_toJson readable]
  rfl

/-- A step with a receipt that is not readable is not read. -/
theorem ofJson_error {step : PlanStepRecord F} {r : ExecutionReceipt F} (its : step.receipt = some r)
    (unreadable : ¬r.Readable) : ∃ text, ofJson step.toJson = .error text := by
  obtain ⟨issue, refused⟩ := r.parse_toDict.2 unreadable
  have failed : receiptOf (.dict r.toDict) = .error issue.message := by
    simp only [receiptOf, refused]
  refine ⟨issue.message, ?_⟩
  unfold ofJson toJson
  simp [its, failed]

end PlanStepRecord

namespace PlanReceipt

theorem planReceiptOf_toDict {r : PlanReceipt F} (consistent : r.checkInvariants = .ok ())
    (readable : ∀ step ∈ r.steps, ∀ receipt, step.receipt = some receipt → receipt.Readable) :
    planReceiptOf r.toDict = .ok r.listed := by
  have steps := mapM_map_ok r.steps fun step mem =>
    PlanStepRecord.ofJson_toJson (readable step mem)
  have checked : r.listed.checkInvariants = .ok () := r.checkInvariants_listed.trans consistent
  unfold listed at checked
  unfold planReceiptOf toDict listed
  simp [steps, planVerdict_of_value, completionStatus_of_value, checked]

theorem planReceiptOf_error {r : PlanReceipt F} {step : PlanStepRecord F} (mem : step ∈ r.steps)
    {receipt : ExecutionReceipt F} (its : step.receipt = some receipt) (unreadable : ¬receipt.Readable) :
    ∃ text, planReceiptOf r.toDict = .error text := by
  obtain ⟨text, refused⟩ := mapM_map_error mem (PlanStepRecord.ofJson_error its unreadable)
  refine ⟨text, ?_⟩
  unfold planReceiptOf toDict
  simp [refused]
  rfl

/-- A receipt that passes its checks is parsed from its dictionary if and only if it is
readable. -/
theorem parse_toDict {r : PlanReceipt F} (consistent : r.checkInvariants = .ok ()) :
    (r.Readable → parsePlanReceipt (.dict r.toDict) = .ok r.listed) ∧
      (¬r.Readable → ∃ issue, parsePlanReceipt (.dict r.toDict) = .error issue) := by
  have version : Json.get r.toDict "schema_version" = r.schemaVersion := rfl
  unfold parsePlanReceipt
  rw [requireReceiptMapping_dict r.allowed_toDict, version]
  constructor
  · intro readable
    have current : Json.pyEq r.schemaVersion (.str planReceiptKind.version) = true := by
      rw [readable.version]
      exact Json.pyEq_self rfl
    rw [if_pos current, ok_bind, planReceiptOf_toDict consistent readable.steps]
    rfl
  · intro unreadable
    by_cases current : Json.pyEq r.schemaVersion (.str planReceiptKind.version) = true
    · have someStep : ∃ step ∈ r.steps, ∃ receipt, step.receipt = some receipt ∧ ¬receipt.Readable := by
        by_contra noStep
        apply unreadable
        refine ⟨Json.eq_str_of_pyEq current, fun step mem receipt its => ?_⟩
        by_contra bad
        exact noStep ⟨step, mem, receipt, its, bad⟩
      obtain ⟨step, mem, receipt, its, bad⟩ := someStep
      obtain ⟨text, refused⟩ := planReceiptOf_error mem its bad
      rw [if_pos current, ok_bind, refused]
      exact ⟨_, rfl⟩
    · rw [if_neg current]
      exact ⟨_, rfl⟩

end PlanReceipt

/-! ## Reading again -/

/-- A receipt whose dictionaries hold each key once. -/
structure SealedReceipt (F : Type) where
  receipt : ExecutionReceipt F
  distinct : (Json.dict receipt.toDict).Distinct

/-- A plan receipt whose dictionaries hold each key once, and which passes its checks. -/
structure SealedPlanReceipt (F : Type) [Floating F] where
  receipt : PlanReceipt F
  distinct : (Json.dict receipt.toDict).Distinct
  consistent : receipt.checkInvariants = .ok ()

/-- The decoded value of an encoded one. -/
def transmit (layout : Json.Layout) (v : Json F) : Option (Json F) :=
  (Json.loads (Json.render layout 0 v)).map Json.lastWins

/-- The receipt that is exported, encoded and decoded, and parsed. -/
def SealedReceipt.reread (layout : Json.Layout) (r : SealedReceipt F) : Option (ExecutionReceipt F) :=
  (transmit layout (.dict r.receipt.toDict)).bind fun value => (parseExecutionReceipt value).toOption

def SealedPlanReceipt.reread (layout : Json.Layout) (r : SealedPlanReceipt F) : Option (PlanReceipt F) :=
  (transmit layout (.dict r.receipt.toDict)).bind fun value => (parsePlanReceipt value).toOption

end Dingdongditch.PublicReceipt
