import Dingdongditch.Evidence.Bounded
import Dingdongditch.Runtime.VerdictTruth

/-!
# What a receipt reports of its dispatches

How an execution on the backend of its caller ends (`executeOperation_ending`):
nothing was dispatched; the receipt carries the start of the action and its
evidence; a branch action failed; or something raised after a dispatch, and the
receipt of the exception knows nothing of it (`Lost`).
-/

namespace Dingdongditch

open Interaction Text

variable {platform : Platform} {op : Operation} {ctx : ExecutionContext} {startedAtMs : Int}

/-- After a dispatch something raises: a dispatch, or a stage that follows it. -/
structure Lost (platform : Platform) (op : Operation) (ctx : ExecutionContext)
    (s : EvidenceCollector) (t : Trace RuntimeSig) : Prop where
  dispatched : rights t ≠ []
  parts : ∃ startedAtMs validation before s₁ acting facts s₂ after rest,
    t = before.map Event.left ++ acting ++ (after ++ rest).map Event.left ∧
      Entered platform op ctx s startedAtMs validation before s₁ ∧
      Act.Runs (act platform op ctx startedAtMs validation) s₁ acting facts s₂ ∧
      ((∃ e, facts = .error (.raised e)) ∨ ∃ known halt s₃, facts = .ok known ∧
        Act.Runs (conclude platform op ctx startedAtMs known) s₂ after (.error halt) s₃)

/-- What the receipt of an execution that was not cut short reports. -/
structure Reported (platform : Platform) (facts : ActionFacts) (receipt : ExecutionReceipt) : Prop where
  started : receipt.actionStartedAtMs = some facts.actionStarted
  evidence : ∃ status, receipt.actionEvidence =
    (attachWebauthn status facts.actionEvidence).map (sanitizeEvidence platform)

/-- The four ways in which an execution ends. -/
inductive Ending (platform : Platform) (op : Operation) (ctx : ExecutionContext)
    (s : EvidenceCollector) : Trace RuntimeSig → Except Halt ExecutionReceipt → Prop
  | refused {t out} (quiet : rights t = [])
      (unstarted : ∀ receipt, out = .ok receipt → receipt.actionStartedAtMs = none) :
      Ending platform op ctx s t out
  | concluded {t startedAtMs validation before s₁ acting facts s₂ receipt}
      (dispatches : rights t = rights acting)
      (entered : Entered platform op ctx s startedAtMs validation before s₁)
      (acts : Act.Runs (act platform op ctx startedAtMs validation) s₁ acting (.ok facts) s₂)
      (reported : Reported platform facts receipt)
      (opened : ∃ opening closing : Trace QuietSig,
        t = opening.map Event.left ++ acting ++ closing.map Event.left) :
      Ending platform op ctx s t (.ok receipt)
  | failed {t startedAtMs validation before s₁ acting failed s₂}
      (dispatches : rights t = rights acting)
      (entered : Entered platform op ctx s startedAtMs validation before s₁)
      (acts : Act.Runs (act platform op ctx startedAtMs validation) s₁ acting
        (.error (.receipt failed)) s₂) : Ending platform op ctx s t (.ok failed.receipt)
  | lost {t} (failed : FailedReceipt) (lost : Lost platform op ctx s t) :
      Ending platform op ctx s t (.ok failed.receipt)

theorem conclude_reported {facts : ActionFacts} {receipt : ExecutionReceipt}
    {s s' : EvidenceCollector} {t : Trace QuietSig}
    (run : Act.Runs (conclude platform op ctx startedAtMs facts) s t (.ok receipt) s') :
    Reported platform facts receipt := by
  unfold conclude at run
  obtain ⟨_, status, s₁, _, -, -, run₁⟩ := run.bind_ok_inv
  dsimp only at run₁
  obtain ⟨_, _, s₂, _, -, -, run₂⟩ := run₁.bind_ok_inv
  obtain ⟨_, verification, s₃, _, -, -, run₃⟩ := run₂.bind_ok_inv
  obtain ⟨_, collector, s₄, _, -, -, run₄⟩ := run₃.bind_ok_inv
  obtain ⟨_, verdict, s₅, _, -, -, run₅⟩ := run₄.bind_ok_inv
  obtain ⟨_, conclusion, s₆, _, -, -, run₆⟩ := run₅.bind_ok_inv
  obtain ⟨_, finished, s₇, _, -, -, run₇⟩ := run₆.bind_ok_inv
  obtain ⟨_, url, s₈, _, -, -, run₈⟩ := run₇.bind_ok_inv
  obtain ⟨_, first, s₉, _, -, network, run₉⟩ := run₈.bind_ok_inv
  obtain ⟨_, second, s₁₀, _, -, screenshot, last⟩ := run₉.bind_ok_inv
  obtain ⟨-, eq, -⟩ := Act.runs_pure.mp last
  cases eq
  have same := (attachNetworkArtifact_sameReport network).trans
    (attachScreenshot_sameReport screenshot)
  refine ⟨same.started, status, ?_⟩
  exact congrArg (Option.map (sanitizeEvidence platform)) same.evidence

/-- A backend that the caller provided is not released. -/
theorem guardedRun_provided {configMatches : Bool} (provided : ctx.source = .provided configMatches)
    {s s' : EvidenceCollector} {t : Trace RuntimeSig} {r : Except Halt ExecutionReceipt}
    (run : Act.Runs (guardedRun platform op ctx startedAtMs) s t r s') :
    Act.Runs (tryCatch (runOperation platform op ctx startedAtMs) (recover platform op startedAtMs))
      s t r s' := by
  unfold guardedRun at run
  obtain ⟨first, r₁, s₁, second, c, rfl, body, cleanup, rfl⟩ := Act.runs_andFinally.mp run
  obtain ⟨u, rfl, released⟩ := cleanup.of_left
  unfold releaseBackend at released
  rw [provided] at released
  obtain ⟨rfl, rfl, rfl⟩ := Act.runs_pure.mp released
  rw [List.map_nil, List.append_nil]
  exact body

/-- What the recovery makes of the end of the `try` body. -/
theorem recover_inv {halt : Halt} {s s' : EvidenceCollector} {t : Trace RuntimeSig}
    {r : Except Halt ExecutionReceipt}
    (run : Act.Runs (recover platform op startedAtMs halt) s t r s') :
    ∃ u : Trace QuietSig, t = u.map Event.left ∧ ∃ failed, r = .ok failed.receipt ∧
      (∀ known, halt = .receipt known → failed = known) := by
  unfold recover at run
  cases halt with
  | receipt known =>
      obtain ⟨rfl, rfl, -⟩ := Act.runs_pure.mp run
      refine ⟨[], rfl, known, rfl, ?_⟩
      intro other eq
      exact Halt.receipt.inj eq
  | raised e =>
      rcases run.left_bind_inv with ⟨u, halt, -, -, reporting⟩ | ⟨u, failed, s₁, _, rfl, -, last⟩
      · -- the report of an exception does not raise
        unfold internalError failedReceipt at reporting
        obtain ⟨now, _, -, stamped⟩ := reporting.ask_bind_inv
        obtain ⟨-, eq, -⟩ := Act.runs_pure.mp stamped.get_bind_inv
        cases eq
      · obtain ⟨rfl, rfl, -⟩ := Act.runs_pure.mp last
        refine ⟨u, List.append_nil _, failed, rfl, ?_⟩
        intro known eq
        cases eq

theorem executeOperation_ending {configMatches : Bool}
    (provided : ctx.source = .provided configMatches) {s s' : EvidenceCollector}
    {t : Trace RuntimeSig} {out : Except Halt ExecutionReceipt}
    (run : Act.Runs (executeOperation platform op ctx) s t out s') :
    Ending platform op ctx s t out := by
  unfold executeOperation at run
  rcases run.left_bind_inv with ⟨u, e, rfl, rfl, -⟩ | ⟨t₀, startedAtMs, s₀, body, rfl, started, trying⟩
  · refine .refused (rights_map_left u) ?_
    intro receipt eq
    cases eq
  have settled : ∀ {s halt t r s'}, Act.Runs (settle halt) s t r s' → t = [] ∧
      ∀ receipt, r = .ok receipt → receipt.actionStartedAtMs = none := by
    intro s halt t r s' run
    cases halt with
    | receipt failed =>
        obtain ⟨rfl, rfl, -⟩ := Act.runs_pure.mp run
        refine ⟨rfl, ?_⟩
        rintro receipt ⟨⟩
        exact failed.unstarted
    | raised e =>
        obtain ⟨rfl, rfl, -⟩ := Act.runs_throw.mp run
        refine ⟨rfl, ?_⟩
        intro receipt eq
        cases eq
  -- the checks before the `try` statement dispatch nothing
  have guarded : ∀ {u v r s₁ s₂}, Act.Runs (validateRequest platform op ctx startedAtMs) s₀ u (.ok ())
      s₁ → Act.Runs (guardedRun platform op ctx startedAtMs) s₁ v r s₂ →
      (∃ receipt, r = .ok receipt) ∧
        Ending platform op ctx s (t₀.map Event.left ++ (u.map Event.left ++ v)) r := by
    intro u v r s₁ s₂ checked guarding
    have entering : ∀ {t₂ sA t₃ validation sB}, Act.Runs (acquireBackend platform op ctx startedAtMs) s₁
        t₂ (.ok ()) sA → Act.Runs (prepare platform op ctx startedAtMs) sA t₃ (.ok validation) sB →
        Entered platform op ctx s startedAtMs validation (t₀ ++ (u ++ (t₂ ++ t₃))) sB :=
      fun acquired prepared => ⟨⟨t₀, s₀, u, s₁, _, _, _, rfl, started, checked, acquired, prepared⟩⟩
    have opening : ∀ (w : Trace QuietSig) (x y : Trace RuntimeSig),
        t₀.map Event.left ++ (u.map Event.left ++ (w.map Event.left ++ x ++ y)) =
          (t₀ ++ (u ++ w)).map Event.left ++ x ++ y := by
      intro w x y
      simp only [List.map_append, List.append_assoc]
    have onlyActs : ∀ (w z : Trace QuietSig) (acting : Trace RuntimeSig),
        rights (w.map Event.left ++ acting ++ z.map Event.left) = rights acting := by
      intro w z acting
      simp only [rights_append, rights_map_left, List.nil_append, List.append_nil]
    rcases Act.runs_tryCatch.mp (guardedRun_provided provided guarding) with
      ⟨receipt, rfl, inner⟩ | ⟨v₁, halt, s₃, v₂, rfl, inner, handler⟩
    · refine ⟨⟨receipt, rfl⟩, ?_⟩
      rcases runOperation_inv inner with ⟨-, halt, eq⟩ |
        ⟨t₂, sA, t₃, validation, sB, acting, facts, sC, after, rfl, acquired, prepared, acts, ends⟩
      · cases eq
      rcases ends with ⟨halt, -, -, eq, -⟩ | ⟨known, rfl, concludes⟩
      · cases eq
      rw [opening]
      exact .concluded (onlyActs _ _ _) (entering acquired prepared) acts (conclude_reported concludes)
        ⟨_, _, rfl⟩
    · obtain ⟨w, rfl, failed, rfl, same⟩ := recover_inv handler
      refine ⟨⟨_, rfl⟩, ?_⟩
      rcases runOperation_inv inner with ⟨quiet, -⟩ |
        ⟨t₂, sA, t₃, validation, sB, acting, facts, sC, after, rfl, acquired, prepared, acts, ends⟩
      · refine .refused ?_ ?_
        · simp only [rights_append, rights_map_left, quiet, List.append_nil]
        · rintro receipt ⟨⟩
          exact failed.unstarted
      rw [List.append_assoc, ← List.map_append, opening]
      have dispatches := onlyActs (t₀ ++ (u ++ (t₂ ++ t₃))) (after ++ w) acting
      by_cases quiet : rights acting = []
      · refine .refused (dispatches.trans quiet) ?_
        rintro receipt ⟨⟩
        exact failed.unstarted
      have dispatched : rights ((t₀ ++ (u ++ (t₂ ++ t₃))).map Event.left ++ acting ++
          (after ++ w).map Event.left) ≠ [] := fun none => quiet (dispatches.symm.trans none)
      rcases ends with ⟨halt', rfl, rfl, eq, -⟩ | ⟨known, rfl, concludes⟩
      · obtain rfl := Except.error.inj eq
        cases halt with
        | receipt known =>
            obtain rfl := same known rfl
            exact .failed dispatches (entering acquired prepared) acts
        | raised e =>
            exact .lost failed ⟨dispatched, _, _, _, _, _, _, _, _, _, rfl,
              entering acquired prepared, acts, .inl ⟨e, rfl⟩⟩
      · exact .lost failed ⟨dispatched, _, _, _, _, _, _, _, _, _, rfl,
          entering acquired prepared, acts, .inr ⟨known, halt, _, rfl, concludes⟩⟩
  rcases Act.runs_tryCatch.mp trying with ⟨receipt, rfl, inner⟩ | ⟨v₁, halt, s₁, v₂, rfl, inner, handler⟩
  · rcases inner.left_bind_inv with ⟨u, e, -, eq, -⟩ | ⟨u, _, s₂, v, rfl, checked, guarding⟩
    · cases eq
    · exact (guarded checked guarding).2
  · obtain ⟨rfl, unstarted⟩ := settled handler
    rcases inner.left_bind_inv with ⟨u, e, rfl, -, -⟩ | ⟨u, _, s₂, v, rfl, checked, guarding⟩
    · refine .refused ?_ unstarted
      simp only [rights_append, rights_map_left, List.append_nil]
    · obtain ⟨⟨receipt, eq⟩, -⟩ := guarded checked guarding
      cases eq

/-! ## Branch actions -/

/-- The published form of evidence is the one of the source, with string rules
that leave the names of action types alone. -/
structure BoundsEvidence (platform : Platform) : Prop where
  codec : platform.codec.Lawful
  sanitizes : ∃ safeString,
    platform.sanitizeEvidenceValue = sanitizeEvidenceValue platform.codec safeString ∧
      ∀ type : ActionType, safeString (some "action_type") type.value = type.value

/-- `evidence["guard"]["branch_actions"]`, where both have the expected types. -/
def PyDict.branchReport (evidence : PyDict) : Option (List PyVal) :=
  match evidence.get "guard" with
  | .dict guard =>
      match PyDict.get guard "branch_actions" with
      | .list items => some items
      | _ => none
  | _ => none

namespace PyDict

theorem lookup_of_get {d : PyDict} {key : String} {value : PyVal} (read : d.get key = value)
    (present : value ≠ .none) : d.lookup key = some value := by
  unfold get at read
  cases found : d.lookup key with
  | none =>
      rw [found] at read
      exact absurd read.symm present
  | some v =>
      rw [found] at read
      exact congrArg some read

theorem branchReport_eq_some {evidence : PyDict} {items : List PyVal}
    (reported : evidence.branchReport = some items) :
    ∃ guard, evidence.lookup "guard" = some (.dict guard) ∧
      guard.lookup "branch_actions" = some (.list items) := by
  unfold branchReport at reported
  split at reported
  · next guard isGuard =>
      split at reported
      · next list isList =>
          obtain rfl := Option.some.inj reported
          exact ⟨guard, lookup_of_get isGuard nofun, lookup_of_get isList nofun⟩
      · cases reported
  · cases reported

theorem branchReport_of_lookup {evidence guard : PyDict} {items : List PyVal}
    (found : evidence.lookup "guard" = some (.dict guard))
    (listed : guard.lookup "branch_actions" = some (.list items)) :
    evidence.branchReport = some items := by
  unfold branchReport get
  rw [found]
  dsimp only [Option.getD_some]
  rw [listed]
  rfl

/-- Updates of other keys leave the report alone. -/
theorem branchReport_congr {a b : PyDict} (same : a.get "guard" = b.get "guard") :
    a.branchReport = b.branchReport := by
  unfold branchReport
  rw [same]

end PyDict

section Published

variable {safeString : Option String → String → String}

theorem sanitizeEvidence_eq
    (sanitizes : platform.sanitizeEvidenceValue = sanitizeEvidenceValue platform.codec safeString)
    (d : PyDict) : sanitizeEvidence platform d = boundedEntries (redactEntries platform.codec d)
      fun key value => sanitizeValue platform.codec safeString 4 (some key) value := by
  unfold sanitizeEvidence
  rw [sanitizes]
  rfl

/-- Published evidence reports branch actions only where the evidence did. -/
theorem branchReport_published (bounds : BoundsEvidence platform) {d : PyDict} {items : List PyVal}
    (reported : (sanitizeEvidence platform d).branchReport = some items) :
    ∃ before, d.branchReport = some before := by
  obtain ⟨safeString, sanitizes, -⟩ := bounds.sanitizes
  rw [sanitizeEvidence_eq sanitizes] at reported
  obtain ⟨guard, isGuard, isList⟩ := PyDict.branchReport_eq_some reported
  rcases lookup_published (by decide) isGuard with redacted | ⟨v, found, eq⟩
  · cases redacted
  obtain ⟨rest, entries, -, isRedacted, rfl⟩ := sanitizeValue_eq_dict eq.symm
  obtain ⟨inner, rfl, rfl⟩ := redact_eq_dict isRedacted
  rcases lookup_published (by decide) isList with redacted | ⟨w, foundList, eqList⟩
  · cases redacted
  obtain ⟨l, isL⟩ := sanitizeValue_eq_list eqList.symm
  obtain ⟨l', rfl⟩ := redact_eq_list isL
  rw [lookup_redactEntries] at foundList
  obtain ⟨x, listed, isX⟩ := Option.map_eq_some_iff.mp foundList
  split at isX
  · cases isX
  · obtain ⟨before, rfl⟩ := redact_eq_list isX
    exact ⟨before, PyDict.branchReport_of_lookup found listed⟩

theorem sensitiveKey_ascii (lawful : platform.codec.Lawful) {key : String}
    (ascii : ∀ c ∈ key.toList, isAscii c = true) : sensitiveKey platform.codec key =
      sensitiveKeyParts.any fun part => contains part.toList (lowerAscii key.toList) := by
  unfold sensitiveKey
  rw [lawful.lower_ascii _ ascii]

/-- The action type that a published record of a branch action names. -/
def reportedType : PyVal → Option PyVal
  | .dict entries => some (PyDict.get entries "action_type")
  | _ => none

theorem reportedType_published (bounds : BoundsEvidence platform)
    (keeps : ∀ type : ActionType, safeString (some "action_type") type.value = type.value)
    (index : Nat) (action : Action) (dispatched : ActionDispatchResult) :
    reportedType (sanitizeValue platform.codec safeString 2 none (redact platform.codec
      (redact platform.codec (branchActionRecord index action dispatched)))) =
        some (.str action.type.value) := by
  have plain : sensitiveKey platform.codec "action_type" = false := by
    rw [sensitiveKey_ascii bounds.codec (by decide)]
    decide
  have found : (redactEntries platform.codec (redactEntries platform.codec
      [("index", .int index), ("action_type", .str action.type.value),
        ("dispatched", .bool dispatched.ok),
        ("failure_kind", (dispatched.failureKind.map PyVal.str).getD .none)])).lookup "action_type" =
      some (.str action.type.value) := by
    rw [lookup_redactEntries, lookup_redactEntries, plain]
    rfl
  have short : (redactEntries platform.codec (redactEntries platform.codec
      [("index", .int index), ("action_type", .str action.type.value),
        ("dispatched", .bool dispatched.ok),
        ("failure_kind", (dispatched.failureKind.map PyVal.str).getD .none)])).length ≤
      maxEvidenceMappingItems := by
    rw [length_redactEntries, length_redactEntries]
    simp [maxEvidenceMappingItems]
  have published : PyDict.get (boundedEntries (redactEntries platform.codec _) fun key value =>
      sanitizeValue platform.codec safeString 1 (some key) value) "action_type" = _ :=
    get_boundedEntries short plain found
  refine congrArg some (published.trans ?_)
  have kept : sanitizeValue platform.codec safeString 1 (some "action_type")
      (.str action.type.value) = .str (safeString (some "action_type") action.type.value) := by
    simp [sanitizeValue, plain]
  exact kept.trans (congrArg PyVal.str (keeps action.type))

/-- The records of branch actions, numbered from `index` on. -/
def branchRecords (index : Nat) : List (Action × ActionDispatchResult) → List PyVal
  | [] => []
  | (action, dispatched) :: rest =>
      branchActionRecord index action dispatched :: branchRecords (index + 1) rest

theorem branchRecords_length (index : Nat) (pairs : List (Action × ActionDispatchResult)) :
    (branchRecords index pairs).length = pairs.length := by
  induction pairs generalizing index with
  | nil => rfl
  | cons pair rest ih => exact congrArg Nat.succ (ih (index + 1))

theorem reportedTypes_published (bounds : BoundsEvidence platform)
    (keeps : ∀ type : ActionType, safeString (some "action_type") type.value = type.value)
    (index : Nat) (pairs : List (Action × ActionDispatchResult)) :
    ((branchRecords index pairs).filterMap fun record =>
      reportedType (sanitizeValue platform.codec safeString 2 none (redact platform.codec
        (redact platform.codec record)))) = pairs.map fun pair => .str pair.1.type.value := by
  induction pairs generalizing index with
  | nil => rfl
  | cons pair rest ih =>
      rcases pair with ⟨action, dispatched⟩
      unfold branchRecords
      rw [List.filterMap_cons, reportedType_published bounds keeps, ih]
      rfl

/-- The evidence of a branch whose last action failed. -/
def failedBranchEvidence (selection : BranchSelection) (records : List PyVal) : PyDict :=
  [("guard", .dict (PyDict.set (branchEvidence selection records) "failure_reason"
    (.str "guard_branch_action_failed")))]

/-- The published evidence of a failed branch reports the type of every action
that was dispatched. -/
theorem branchReport_failed (bounds : BoundsEvidence platform) (selection : BranchSelection)
    {pairs : List (Action × ActionDispatchResult)} (short : pairs.length ≤ maxEvidenceListItems) :
    ∃ items, (sanitizeEvidence platform
        (failedBranchEvidence selection (branchRecords 0 pairs))).branchReport = some items ∧
      items.filterMap reportedType = pairs.map fun pair => .str pair.1.type.value := by
  obtain ⟨safeString, sanitizes, keeps⟩ := bounds.sanitizes
  have plainGuard : sensitiveKey platform.codec "guard" = false := by
    rw [sensitiveKey_ascii bounds.codec (by decide)]
    decide
  have plainActions : sensitiveKey platform.codec "branch_actions" = false := by
    rw [sensitiveKey_ascii bounds.codec (by decide)]
    decide
  let records := branchRecords 0 pairs
  let guard := PyDict.set (branchEvidence selection records) "failure_reason"
    (.str "guard_branch_action_failed")
  have few : (redactEntries platform.codec guard).length ≤ maxEvidenceMappingItems := by
    rw [length_redactEntries]
    simp [guard, PyDict.set, branchEvidence, BranchSelection.evidence, maxEvidenceMappingItems]
  have listed : (redactEntries platform.codec guard).lookup "branch_actions" =
      some (.list (redactItems platform.codec records)) := by
    have found : guard.lookup "branch_actions" = some (.list records) := by
      simp [guard, PyDict.set, branchEvidence, BranchSelection.evidence, List.lookup_cons]
    rw [lookup_redactEntries, found, plainActions, Option.map_some]
    simp [redact]
  rw [sanitizeEvidence_eq sanitizes]
  have isGuard : PyDict.get (boundedEntries (redactEntries platform.codec
      (failedBranchEvidence selection records)) fun key value =>
        sanitizeValue platform.codec safeString 4 (some key) value) "guard" =
      .dict (boundedEntries (redactEntries platform.codec (redactEntries platform.codec guard))
        fun key value => sanitizeValue platform.codec safeString 3 (some key) value) := by
    refine (get_boundedEntries (by simp [failedBranchEvidence, maxEvidenceMappingItems])
      plainGuard rfl).trans ?_
    simp [sanitizeValue, plainGuard, redact, guard, records]
  have isList : PyDict.get (boundedEntries (redactEntries platform.codec
      (redactEntries platform.codec guard)) fun key value =>
        sanitizeValue platform.codec safeString 3 (some key) value) "branch_actions" =
      .list (boundedItems (redactItems platform.codec (redactItems platform.codec records))
        (sanitizeValue platform.codec safeString 2 none)) := by
    refine (get_boundedEntries few plainActions listed).trans ?_
    simp [sanitizeValue, plainActions, redact]
  refine ⟨boundedItems (redactItems platform.codec (redactItems platform.codec records))
    (sanitizeValue platform.codec safeString 2 none), ?_, ?_⟩
  · unfold PyDict.branchReport
    rw [isGuard]
    dsimp only
    rw [isList]
  · rw [redactItems_eq_map, redactItems_eq_map, boundedItems_of_short, List.filterMap_map,
      List.filterMap_map, List.filterMap_map]
    · exact reportedTypes_published bounds keeps 0 pairs
    · rw [List.length_map, List.length_map, branchRecords_length]
      exact short

end Published

/-! ## A branch action that fails -/

theorem fail_inv {α : Type} {failure : Failure} {s s' : EvidenceCollector} {t : Trace QuietSig}
    {r : Except Halt α} (run : Act.Runs (fail platform op startedAtMs failure) s t r s') :
    ∃ failed, r = .error (.receipt failed) ∧ failed.receipt.actionEvidence =
      (failure.actionEvidence.filter (!·.isEmpty)).map (sanitizeEvidence platform) := by
  unfold fail failedReceipt at run
  rcases run.bind_inv with ⟨halt, -, reporting⟩ | ⟨_, failed, s₁, _, -, reporting, throwing⟩
  · obtain ⟨now, _, -, stamped⟩ := reporting.ask_bind_inv
    obtain ⟨-, eq, -⟩ := Act.runs_pure.mp stamped.get_bind_inv
    cases eq
  · obtain ⟨now, _, -, stamped⟩ := reporting.ask_bind_inv
    obtain ⟨-, eq, -⟩ := Act.runs_pure.mp stamped.get_bind_inv
    obtain ⟨-, rfl, -⟩ := Act.runs_throw.mp throwing
    obtain rfl := Except.ok.inj eq
    exact ⟨_, rfl, rfl⟩

/-- The dispatches of branch actions with their results. -/
def branchEvents (op : Operation) (ctx : ExecutionContext)
    (pairs : List (Action × ActionDispatchResult)) : List (Event EffectSig) :=
  pairs.map fun pair => dispatchEvent (op.branchOperation pair.1) ctx.planTiming (.ok pair.2)

/-- A branch that ends in a receipt dispatched its first actions, the last one
of which failed, and reports them all. -/
theorem dispatchBranchActions_failed {selection : BranchSelection} {done : List PyVal}
    {actions : List Action} {failed : FailedReceipt} {s s' : EvidenceCollector}
    {t : Trace RuntimeSig}
    (run : Act.Runs (dispatchBranchActions platform op ctx startedAtMs selection done actions) s t
      (.error (.receipt failed)) s') :
    ∃ pairs, rights t = branchEvents op ctx pairs ∧ pairs.map (·.1) <+: actions ∧
      (∃ pair ∈ pairs, pair.2.ok = false) ∧
      failed.receipt.actionEvidence = some (sanitizeEvidence platform
        (failedBranchEvidence selection (done ++ branchRecords done.length pairs))) := by
  induction actions generalizing done s t with
  | nil =>
      obtain ⟨-, eq, -⟩ := Act.runs_pure.mp run
      cases eq
  | cons action rest ih =>
      unfold dispatchBranchActions at run
      rcases run.bind_inv with ⟨halt, eq, acting⟩ | ⟨first, dispatched, s₁, later, rfl, acting, after⟩
      · obtain ⟨answer, -, view, -⟩ := Act.runs_attempt.mp acting
        obtain rfl := Except.error.inj eq
        cases answer with
        | ok result => cases view
        | error e => cases view
      obtain ⟨answer, rfl, view, rfl⟩ := Act.runs_attempt.mp acting
      have answered : answer = .ok dispatched := by
        cases answer with
        | ok result => exact congrArg Except.ok (Except.ok.inj view).symm
        | error e => cases view
      subst answered
      dsimp only at after
      split at after
      · rcases after.bind_inv with ⟨halt, eq, loop⟩ | ⟨_, _, _, _, -, -, last⟩
        · obtain rfl := Except.error.inj eq
          obtain ⟨pairs, events, isPrefix, isFailed, evidence⟩ := ih loop
          refine ⟨(action, dispatched) :: pairs, ?_, ?_, ?_, ?_⟩
          · exact congrArg (List.cons _) events
          · exact List.cons_prefix_cons.mpr ⟨rfl, isPrefix⟩
          · obtain ⟨pair, mem, bad⟩ := isFailed
            exact ⟨pair, List.mem_cons_of_mem _ mem, bad⟩
          · rw [evidence, List.length_append, List.append_assoc]
            rfl
        · obtain ⟨-, eq, -⟩ := Act.runs_pure.mp last
          cases eq
      · next bad =>
          obtain ⟨u, rfl, failing⟩ := after.of_left
          obtain ⟨known, eq, evidence⟩ := fail_inv failing
          obtain rfl := Halt.receipt.inj (Except.error.inj eq)
          refine ⟨[(action, dispatched)], ?_, ?_, ?_, evidence⟩
          · rw [rights_append, rights_map_left]
            rfl
          · exact List.cons_prefix_cons.mpr ⟨rfl, List.nil_prefix⟩
          · exact ⟨_, List.mem_singleton_self _, by simpa using bad⟩

/-- The receipt of a guard whose branch failed after some dispatches. -/
structure BranchFailure (platform : Platform) (op : Operation) (ctx : ExecutionContext)
    (t : Trace RuntimeSig) (receipt : ExecutionReceipt) : Prop where
  parts : ∃ guard selection actions pairs, op.guard = some guard ∧ guard.whenTargetAbsent = none ∧
    actions ∈ guard.alternatives ∧ pairs.map (·.1) <+: actions ∧
    rights t = branchEvents op ctx pairs ∧ (∃ pair ∈ pairs, pair.2.ok = false) ∧
    receipt.actionEvidence = some (sanitizeEvidence platform
      (failedBranchEvidence selection (branchRecords 0 pairs)))

theorem act_failed {validation : Option ObservationFreshnessResult} {failed : FailedReceipt}
    {s s' : EvidenceCollector} {t : Trace RuntimeSig}
    (run : Act.Runs (act platform op ctx startedAtMs validation) s t (.error (.receipt failed)) s') :
    rights t = [] ∨ BranchFailure platform op ctx t failed.receipt := by
  have notPrimary : ∀ {evidence attempts s t s'}, ¬ Act.Runs (dispatchPrimary op ctx evidence attempts
      validation) s t (.error (.receipt failed)) s' := by
    intro evidence attempts s t s' primary
    obtain ⟨answer, -, eq⟩ := runs_dispatchPrimary primary
    cases answer with
    | ok result => cases eq
    | error e => cases eq
  unfold act at run
  split at run
  · exact (notPrimary run).elim
  · next guard guarded =>
      split at run
      · rcases run.left_bind_inv with ⟨u, halt, rfl, -, -⟩ | ⟨u, outcome, s₁, rest, rfl, -, after⟩
        · exact .inl (rights_map_left u)
        · cases outcome with
          | targetPresent => exact (notPrimary after).elim
          | targetAbsent started completed =>
              obtain ⟨-, eq, -⟩ := Act.runs_pure.mp after
              cases eq
      · next branching =>
          rcases run.left_bind_inv with ⟨u, halt, rfl, -, -⟩ |
            ⟨u, selection, s₁, rest, rfl, selecting, after⟩
          · exact .inl (rights_map_left u)
          rcases after.bind_inv with ⟨halt, eq, acting⟩ | ⟨_, ⟨records, attempts⟩, _, _, -, -, last⟩
          · obtain rfl := Except.error.inj eq
            obtain ⟨pairs, events, isPrefix, isFailed, evidence⟩ := dispatchBranchActions_failed acting
            refine .inr ⟨guard, selection, selection.actions, pairs, guarded, branching,
              selectBranch_alternative selecting, isPrefix, ?_, isFailed, evidence⟩
            rw [rights_append, rights_map_left]
            exact events
          · exact (notPrimary last).elim

/-! ## Executions that are not lost -/

/-- An operation that declares nothing to verify or to capture. -/
structure Operation.Bare (op : Operation) : Prop where
  webauthn : op.webauthn = none
  expectations : op.expectations = []
  quorum : op.verificationQuorum = none
  network : op.networkArtifact = none

/-- The browser answers a call without raising; a dispatch adds no evidence. -/
def calm : Event RuntimeSig → Bool
  | ⟨.inl .pageUrl, answer⟩ => (answer : Except PyException String).isOk
  | ⟨.inl (.captureScreenshot _ _), answer⟩ => (answer : Except PyException ScreenshotFacts).isOk
  | ⟨.inr (.dispatch _ _), answer⟩ =>
      match (answer : Except PyException ActionDispatchResult) with
      | .ok result => result.actionEvidence.isNone
      | .error _ => false
  | _ => true

theorem decideVerdict_bare {evidence : Option PyDict}
    (download : (evidence.getD []).get "download" = .none)
    (transition : (evidence.getD []).get "page_transition" = .none) (type : ActionType) (ok : Bool)
    (declared : Nat) (results : List ExpectationResult) (stale : List String) :
    ∃ verdict, decideVerdict ok declared results stale type evidence = .ok verdict := by
  have noDownload : downloadCompleted (evidence.getD []) = .ok false := by
    unfold downloadCompleted
    rw [download]
    rfl
  have noTransition : transitionVerified (evidence.getD []) = .ok false := by
    unfold transitionVerified
    rw [transition]
    rfl
  unfold decideVerdict
  dsimp only
  rw [noDownload, noTransition]
  split
  · exact ⟨_, rfl⟩
  · split
    · exact ⟨_, rfl⟩
    · split
      · exact ⟨_, rfl⟩
      · split
        · exact ⟨_, rfl⟩
        · split
          · exact ⟨_, rfl⟩
          · exact ⟨_, rfl⟩

/-- What follows the dispatch of a bare operation raises where the browser does. -/
theorem conclude_calm (bare : op.Bare) {facts : ActionFacts} (none : facts.activeExpectations = [])
    (download : (facts.actionEvidence.getD []).get "download" = .none)
    (transition : (facts.actionEvidence.getD []).get "page_transition" = .none)
    {s s' : EvidenceCollector} {t : Trace QuietSig} {halt : Halt}
    (run : Act.Runs (conclude platform op ctx startedAtMs facts) s t (.error halt) s') :
    ∃ e ∈ t, calm e.left = false := by
  unfold conclude at run
  rcases run.bind_inv with ⟨e, -, failed⟩ | ⟨_, status, s₁, _, rfl, participated, run₁⟩
  · unfold participateWebauthn at failed
    rw [bare.webauthn] at failed
    obtain ⟨-, eq, -⟩ := Act.runs_pure.mp failed
    cases eq
  have noStatus : status = .none := by
    unfold participateWebauthn at participated
    rw [bare.webauthn] at participated
    obtain ⟨-, eq, -⟩ := Act.runs_pure.mp participated
    exact Except.ok.inj eq
  subst noStatus
  dsimp only at run₁
  have later {u v : Trace QuietSig} (found : ∃ e ∈ v, calm e.left = false) :
      ∃ e ∈ u ++ v, calm e.left = false := by
    obtain ⟨e, mem, raised⟩ := found
    exact ⟨e, List.mem_append_right _ mem, raised⟩
  refine later ?_
  rcases run₁.bind_inv with ⟨e, -, failed⟩ | ⟨_, _, s₂, _, rfl, -, run₂⟩
  · obtain ⟨_, _, -, recorded⟩ := failed.ask_bind_inv
    -- `addSignal` only writes to the collector
    rcases recorded.bind_inv with ⟨_, -, adding⟩ | ⟨_, _, _, _, -, -, rest⟩
    · obtain ⟨-, eq, -⟩ := Act.runs_modifyGet.mp adding
      cases eq
    rcases rest.bind_inv with ⟨_, -, adding⟩ | ⟨_, _, _, _, -, -, last⟩
    · obtain ⟨-, eq, -⟩ := Act.runs_modifyGet.mp adding
      cases eq
    obtain ⟨-, eq, -⟩ := Act.runs_pure.mp last
    cases eq
  refine later ?_
  rcases run₂.bind_inv with ⟨e, -, failed⟩ | ⟨_, verification, s₃, _, rfl, -, run₃⟩
  · unfold verify at failed
    obtain ⟨_, _, -, verified⟩ := failed.get_bind_inv.ask_bind_inv
    rw [none] at verified
    simp only [List.isEmpty_nil, Bool.not_true, Bool.and_false, Bool.false_eq_true, if_false] at verified
    obtain ⟨-, eq, -⟩ := Act.runs_pure.mp verified
    cases eq
  refine later ?_
  replace run₃ := run₃.get_bind_inv
  rcases run₃.ofExcept_bind_inv with ⟨e, isError, -⟩ | ⟨verdict, -, run₄⟩
  · obtain ⟨verdict, decided⟩ := decideVerdict_bare download transition op.action.type
      facts.actionOk facts.activeExpectations.length verification.results
      (if facts.activeExpectations.isEmpty then []
        else (finalFreshness op facts verification s₃.signals).staleSignalIds)
    have same : attachWebauthn .none facts.actionEvidence = facts.actionEvidence := rfl
    rw [same, decided] at isError
    cases isError
  rcases run₄.ofExcept_bind_inv with ⟨e, isError, -⟩ | ⟨conclusion, -, run₅⟩
  · unfold applyQuorum at isError
    rw [bare.quorum] at isError
    cases isError
  obtain ⟨finished, u₅, rfl, run₆⟩ := run₅.ask_bind_inv
  refine later (u := [_]) ?_
  rcases run₆.bind_inv with ⟨e, -, failed⟩ | ⟨_, url, s₆, _, rfl, -, run₇⟩
  · obtain ⟨answer, rfl, view, -⟩ := Act.runs_attempt.mp failed
    refine ⟨_, List.mem_singleton_self _, ?_⟩
    cases answer with
    | ok text => cases view
    | error e => rfl
  refine later ?_
  rcases run₇.bind_inv with ⟨e, -, failed⟩ | ⟨_, first, s₇, _, rfl, -, run₈⟩
  · unfold attachNetworkArtifact at failed
    rw [bare.network] at failed
    obtain ⟨-, eq, -⟩ := Act.runs_pure.mp failed
    cases eq
  refine later ?_
  rcases run₈.bind_inv with ⟨e, -, failed⟩ | ⟨_, second, s₈, _, rfl, -, last⟩
  · unfold attachScreenshot at failed
    dsimp only at failed
    split at failed
    · rcases failed.bind_inv with ⟨e, -, capturing⟩ | ⟨_, _, _, _, -, -, captured⟩
      · obtain ⟨answer, rfl, view, -⟩ := Act.runs_attempt.mp capturing
        refine ⟨_, List.mem_singleton_self _, ?_⟩
        cases answer with
        | ok shot => cases view
        | error e => rfl
      · obtain ⟨-, eq, -⟩ := Act.runs_pure.mp captured
        cases eq
    · obtain ⟨-, eq, -⟩ := Act.runs_pure.mp failed
      cases eq
  · obtain ⟨-, eq, -⟩ := Act.runs_pure.mp last
    cases eq

/-- A bare operation without a guard is not lost where the browser raises nothing. -/
theorem not_lost_of_calm (bare : op.Bare) (unguarded : op.guard = none) {s : EvidenceCollector}
    {t : Trace RuntimeSig} (quiet : ∀ e ∈ t, calm e = true) : ¬ Lost platform op ctx s t := by
  intro lost
  obtain ⟨startedAtMs, validation, before, s₁, acting, facts, s₂, after, rest, rfl, -, acts, ends⟩ :=
    lost.parts
  unfold act at acts
  rw [unguarded] at acts
  obtain ⟨answer, rfl, isFacts⟩ := runs_dispatchPrimary acts
  have answered := quiet _ (List.mem_append_left _ (List.mem_append_right _
    (List.mem_singleton_self _)))
  cases answer with
  | error e => cases answered
  | ok result =>
      obtain rfl := isFacts
      have noEvidence : result.actionEvidence = none := Option.isNone_iff_eq_none.mp answered
      rcases ends with ⟨e, eq⟩ | ⟨known, halt, s₃, eq, concludes⟩
      · cases eq
      obtain rfl := Except.ok.inj eq
      have absent {key : String} (other : key ≠ "observation_transaction") :
          (((primaryFacts op .none [] validation result).actionEvidence).getD []).get key = .none := by
        unfold primaryFacts
        rw [noEvidence]
        cases validation with
        | none => rfl
        | some v => exact PyDict.get_set_ne other _ _
      obtain ⟨e, mem, raised⟩ := conclude_calm bare bare.expectations (absent (by decide))
        (absent (by decide)) concludes
      have answeredToo := quiet e.left (List.mem_append_right _
        (List.mem_map_of_mem (List.mem_append_left _ mem)))
      rw [raised] at answeredToo
      cases answeredToo

end Dingdongditch
