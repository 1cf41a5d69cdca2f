import Dingdongditch.Contract.OriginPolicy
import Dingdongditch.Runtime.Dispatches

/-!
# Execution bound to an observation

An execution that carries an observation reference validates it once, as the
last of its preconditions.  Nothing is dispatched without that validation, and
an operation without a guard is dispatched right after it
(`executeOperation_observationBound`).  The page is free to change between the
validation and the dispatch (`PageHistory`).
-/

namespace Dingdongditch

open Interaction Text

variable {platform : Platform} {op : Operation} {ctx : ExecutionContext} {startedAtMs : Int}

/-! ## What a validation establishes -/

/-- A reference is valid on a page: the observation is retained, the page and
its URL are the observed ones, the observation has not expired, and the node it
names is still there, with the properties the planner expects. -/
structure ReferenceHolds (reference : ObservationReference) (facts : ReferenceFacts) : Prop where
  observed : ∃ obs old, facts.observation = some obs ∧ facts.pageId = obs.pageId ∧
    facts.pageUrl = obs.url ∧ facts.nowMs - obs.capturedAtMs ≤ obs.maxAgeMs ∧
    obs.interactiveElements.find? (·.elementId = reference.elementId) = some old ∧
    given old.nodeContinuityToken = true ∧ facts.node.matchCount = 1 ∧
    facts.node.nodeContinuityToken = old.nodeContinuityToken ∧
    ∀ entry ∈ reference.expected,
      ((facts.node.overlay old.properties).get entry.1 == entry.2) = true

theorem referenceHolds_iff {reference : ObservationReference} {facts : ReferenceFacts} :
    (validateReference reference facts).fresh = true ↔ ReferenceHolds reference facts := by
  constructor
  · intro fresh
    unfold validateReference at fresh
    split at fresh
    · cases fresh
    · next obs retained =>
        split at fresh
        · cases fresh
        · next samePage =>
            split at fresh
            · cases fresh
            · next unexpired =>
                split at fresh
                · cases fresh
                · next old isOld =>
                    obtain ⟨page, url⟩ := not_or.mp samePage
                    refine ⟨obs, old, retained, not_not.mp page, not_not.mp url, by omega, isOld, ?_⟩
                    split at fresh
                    · cases fresh
                    · next continuity =>
                        split at fresh
                        · cases fresh
                        · next unique =>
                            split at fresh
                            · cases fresh
                            · next sameNode =>
                                refine ⟨by simpa using continuity, not_not.mp unique,
                                  not_not.mp sameNode, ?_⟩
                                dsimp only at fresh
                                split at fresh
                                · cases fresh
                                · next unchanged =>
                                    intro entry mem
                                    have same := List.find?_eq_none.mp unchanged entry mem
                                    simpa [bne] using same
  · rintro ⟨obs, old, retained, page, url, unexpired, isOld, continuity, unique, sameNode, kept⟩
    have unchanged : reference.expected.find? (fun entry =>
        (facts.node.overlay old.properties).get entry.1 != entry.2) = none := by
      refine List.find?_eq_none.mpr fun entry mem => ?_
      simp [bne, kept entry mem]
    unfold validateReference
    rw [retained]
    dsimp only
    rw [if_neg (by simp [page, url]), if_neg (by omega), isOld]
    dsimp only
    rw [if_neg (by simp [continuity]), if_neg (by simp [unique]), if_neg (by simp [sameNode]),
      unchanged]
    dsimp only
    split <;> rfl

/-- The event of a validation with what the page reported. -/
abbrev validationEvent (reference : ObservationReference)
    (answer : Except PyException ReferenceFacts) : Event QuietSig :=
  ⟨.validateObservationReference reference, answer⟩

theorem checkObservation_inv {s s' : EvidenceCollector} {t : Trace QuietSig}
    {reference : ObservationReference} {validation : Option ObservationFreshnessResult}
    (carried : ctx.observationReference = some reference)
    (run : Act.Runs (checkObservation platform op ctx startedAtMs) s t (.ok validation) s') :
    ∃ facts, t = [validationEvent reference (.ok facts)] ∧ ReferenceHolds reference facts := by
  unfold checkObservation at run
  rw [carried] at run
  obtain ⟨_, facts, _, _, rfl, validating, rest⟩ := run.bind_ok_inv
  obtain ⟨answer, rfl, view, -⟩ := Act.runs_attempt.mp validating
  have isOk : answer = .ok facts := Act.mapError_eq_ok.mp view.symm
  subst isOk
  dsimp only at rest
  split at rest
  · next fresh =>
      obtain ⟨rfl, -, -⟩ := Act.runs_pure.mp rest
      exact ⟨facts, rfl, referenceHolds_iff.mp fresh⟩
  · exact (fail_not_ok rest).elim

/-- The validation is the last thing before the guard. -/
theorem Entered.validated {s s' : EvidenceCollector} {before : Trace QuietSig}
    {reference : ObservationReference} {validation : Option ObservationFreshnessResult}
    (carried : ctx.observationReference = some reference)
    (entered : Entered platform op ctx s startedAtMs validation before s') :
    ∃ checks facts, before = checks ++ [validationEvent reference (.ok facts)] ∧
      ReferenceHolds reference facts := by
  obtain ⟨t₀, _, t₁, _, t₂, _, t₃, rfl, -, -, -, prepared⟩ := entered.stages
  unfold prepare at prepared
  obtain ⟨_, _, _, _, rfl, -, deadline⟩ := prepared.bind_ok_inv
  obtain ⟨_, _, _, _, rfl, -, observing⟩ := deadline.bind_ok_inv
  obtain ⟨_, _, _, _, rfl, -, validating⟩ := observing.bind_ok_inv
  obtain ⟨facts, rfl, holds⟩ := checkObservation_inv carried validating
  have split_ : ∀ {t₄ t₅ t₆ last : Trace QuietSig}, t₀ ++ (t₁ ++ (t₂ ++ (t₄ ++ (t₅ ++ (t₆ ++ last))))) =
      (t₀ ++ (t₁ ++ (t₂ ++ (t₄ ++ (t₅ ++ t₆))))) ++ last := by
    intro t₄ t₅ t₆ last
    simp only [List.append_assoc]
  exact ⟨_, facts, split_, holds⟩

/-! ## Nothing is dispatched without it -/

/-- In every execution that carries an observation reference, a dispatch comes
after a validation of that reference that found it valid; and an operation
without a guard is dispatched right after its validation, and only then. -/
theorem executeOperation_observationBound (platform : Platform) (op : Operation)
    (ctx : ExecutionContext) (reference : ObservationReference)
    (carried : ctx.observationReference = some reference) (s s' : EvidenceCollector)
    (t : Trace RuntimeSig) (r : Except Halt ExecutionReceipt)
    (run : Act.Runs (executeOperation platform op ctx) s t r s') (dispatched : rights t ≠ []) :
    ∃ (checks : Trace QuietSig) (facts : ReferenceFacts) (rest : Trace RuntimeSig),
      t = checks.map Event.left ++ Event.left (validationEvent reference (.ok facts)) :: rest ∧
        ReferenceHolds reference facts ∧
        (op.guard = none → ∃ answer after,
          rest = Event.right (dispatchEvent op ctx.planTiming answer) :: after ∧
            rights after = []) := by
  have shape := executeOperation_shape run
  cases shape with
  | early _ _ silent _ => exact absurd silent dispatched
  | reached startedAtMs validation before s₁ acting facts s₂ after _ entered acts quiet _ =>
      obtain ⟨checks, page, rfl, holds⟩ := entered.validated carried
      refine ⟨checks, page, acting ++ after, ?_, holds, fun unguarded => ?_⟩
      · simp only [List.map_append, List.map_cons, List.map_nil, List.append_assoc,
          List.cons_append, List.nil_append]
      · unfold act at acts
        rw [unguarded] at acts
        obtain ⟨answer, rfl, -⟩ := runs_dispatchPrimary acts
        exact ⟨answer, after, rfl, quiet⟩

/-! ## The page after the validation -/

/-- What the page shows at each moment of a run, wherever the run itself looks:
at its validations, and where it reads the URL. -/
structure PageHistory (t : Trace RuntimeSig) (page : Nat → ReferenceFacts) : Prop where
  validated : ∀ k reference facts,
    t[k]? = some (Event.left (validationEvent reference (.ok facts))) → page k = facts
  located : ∀ k url, t[k]? = some (Event.left (S := QuietSig) ⟨.pageUrl, .ok url⟩) →
    (page k).pageUrl = url

/-- The reference is valid at every dispatch, whatever the page does. -/
def ValidAtDispatches (reference : ObservationReference) (t : Trace RuntimeSig) : Prop :=
  ∀ page, PageHistory t page → ∀ k op timing answer,
    t[k]? = some (Event.right (dispatchEvent op timing answer)) → ReferenceHolds reference (page k)

/-- The page of a moment: the one of the answer, or else the page `elsewhere`. -/
def ReferenceFacts.seenBy (elsewhere : ReferenceFacts) : Option (Event RuntimeSig) → ReferenceFacts
  | some ⟨.inl (.validateObservationReference _), .ok facts⟩ => facts
  | some ⟨.inl .pageUrl, .ok url⟩ => { elsewhere with pageUrl := url }
  | _ => elsewhere

/-- No run that dispatches is protected from a page that changes in between. -/
theorem not_validAtDispatches {reference : ObservationReference} {t : Trace RuntimeSig}
    (dispatched : rights t ≠ []) : ¬ ValidAtDispatches reference t := by
  intro valid
  let elsewhere : ReferenceFacts := ⟨some ⟨"https://app.test/", "page-1", 0, 0, [], ""⟩, "page-2",
    "https://other.test/", 0, ⟨0, none, .none, .none, .none, .none, ""⟩⟩
  have history : PageHistory t fun k => elsewhere.seenBy t[k]? := by
    refine ⟨fun k reference facts isEvent => ?_, fun k url isEvent => ?_⟩
    · rw [isEvent]
      rfl
    · rw [isEvent]
      rfl
  obtain ⟨⟨⟨op, timing⟩, answer⟩, rest, isHead⟩ := List.exists_cons_of_ne_nil dispatched
  have mem : dispatchEvent op timing answer ∈ rights t := isHead ▸ List.mem_cons_self
  obtain ⟨k, isEvent⟩ := List.getElem?_of_mem (mem_rights.mp mem)
  obtain ⟨obs, _, retained, samePage, -⟩ := valid _ history k op timing answer isEvent
  rw [isEvent] at retained samePage
  cases retained
  have moved : "page-2" = "page-1" := samePage
  exact absurd moved (by decide)

/-! ## A click bound to an observation -/

def boundClick : Operation where
  operationId := "click"
  url := "https://app.test/"
  action := { type := .click, locator := some { strategy := .css, value := "#send" } }

def boundReference : ObservationReference := { observationId := "obs-1", elementId := "element-1" }

def boundPage : ReferenceFacts where
  observation := some {
    url := "https://app.test/"
    pageId := "page-1"
    capturedAtMs := 0
    maxAgeMs := 5000
    interactiveElements := [⟨"element-1", some "node-1", []⟩]
    fingerprint := "f" }
  pageId := "page-1"
  pageUrl := "https://app.test/"
  nowMs := 10
  node := ⟨1, some "node-1", .bool true, .bool true, .none, .none, "f"⟩

def boundContext : ExecutionContext := { maxPolls := 0, observationReference := some boundReference }

theorem boundClick_dispatched : ∃ t r s', Act.Runs
    (executeOperation ⟨asciiCodec, id⟩ boundClick boundContext) ⟨[], "click", 1, 512, 0⟩ t r s' ∧
      rights t ≠ [] := by
  obtain ⟨before, s₁, entered⟩ : ∃ before s₁, Entered ⟨asciiCodec, id⟩ boundClick boundContext
      ⟨[], "click", 1, 512, 0⟩ 0 (some (validateReference boundReference boundPage)) before s₁ :=
    exists_entered boundPage (by decide) rfl rfl (by decide) rfl fun reference isSome => by
      cases isSome
      decide
  obtain ⟨t, receipt, s', run, events⟩ := exists_dispatched rfl entered
    (.ok { ok := true, error := none, startedAtMs := 20, completedAtMs := 30 })
  exact ⟨t, _, s', run, by rw [events]; exact List.cons_ne_nil _ _⟩

theorem executeOperation_observationBound_click : ∃ t r s', Act.Runs
    (executeOperation ⟨asciiCodec, id⟩ boundClick boundContext) ⟨[], "click", 1, 512, 0⟩ t r s' ∧
      ∃ (checks : Trace QuietSig) (facts : ReferenceFacts) (rest : Trace RuntimeSig),
        t = checks.map Event.left ++ Event.left (validationEvent boundReference (.ok facts)) :: rest ∧
          ReferenceHolds boundReference facts ∧
          (boundClick.guard = none → ∃ answer after,
            rest = Event.right (dispatchEvent boundClick boundContext.planTiming answer) :: after ∧
              rights after = []) := by
  obtain ⟨t, r, s', run, dispatched⟩ := boundClick_dispatched
  exact ⟨t, r, s', run, executeOperation_observationBound _ _ _ boundReference rfl _ s' t r run
    dispatched⟩

/-- The click is dispatched on a page that no longer is the one observed. -/
theorem boundClick_elsewhere : ∃ t r s', Act.Runs
    (executeOperation ⟨asciiCodec, id⟩ boundClick boundContext) ⟨[], "click", 1, 512, 0⟩ t r s' ∧
      ¬ ValidAtDispatches boundReference t := by
  obtain ⟨t, r, s', run, dispatched⟩ := boundClick_dispatched
  exact ⟨t, r, s', run, not_validAtDispatches dispatched⟩

end Dingdongditch
