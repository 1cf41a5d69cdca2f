import Dingdongditch.Continuity.Calls
import Dingdongditch.Contract.ChainSealing
import Mathlib.Algebra.GroupWithZero.Nat

/-!
# Lives of a directory

Whatever is called on the directory of a session, and wherever a call is cut
short, the journals are those of a lawful ledger (`Life.ledger`); the ledger is
tidy if the calls brought nothing untidy from outside (`LifeStep.Tidy`).
-/

namespace Dingdongditch.Continuity

open Interaction Text Store
open Text.Json (ReadsFloat)

variable {F : Type}

/-- What `create` leaves. -/
theorem createSession_ok {request : CreateRequest F} {createdAt : F} {s : ContinuitySession F}
    (created : createSession request createdAt = .ok s) :
    s.disk = { manifest := s.header } ∧ Plain s.header.sessionId ∧
      s.header.schemaVersion = CONTINUITY_SCHEMA_VERSION := by
  obtain ⟨_, isSession, rest⟩ := bind_eq_ok.mp created
  obtain ⟨_, isPrincipal, rest⟩ := bind_eq_ok.mp rest
  obtain ⟨_, isObjective, rest⟩ := bind_eq_ok.mp rest
  obtain ⟨_, isOwner, rest⟩ := bind_eq_ok.mp rest
  split at rest
  · cases rest
  · cases rest
    exact ⟨rfl, (plain_of_identifier isSession).2, rfl⟩

theorem foldl_apply_written {header : SessionHeader F} {entries more : List (Entry F)}
    {writes : List (Write F)} (wrote : writes = more.map Entry.write) :
    writes.foldl Disk.apply (diskOf header entries) = diskOf header (entries ++ more) := by
  rw [wrote, diskOf_append]

variable [Floating F] [ReadsFloat F]

/-- A call that brings nothing untidy from outside, neither in its arguments nor
in a receipt. -/
structure LifeStep.Tidy (step : LifeStep F) : Prop where
  method : step.method.Tidy step.before.disk
  answers : ∀ event ∈ step.trace, PlainAnswer event

/-- One call of a life: what it wrote extends the ledger lawfully. -/
theorem LifeStep.ledger {step : LifeStep F} {header : SessionHeader F} {tidy : Prop}
    {entries : List (Entry F)} (called : step.Complete ∨ step.Cut) (plainHeader : Plain header.sessionId)
    (isTidy : tidy → step.Tidy) (lawful : Follows (Lawful header tidy) [] entries)
    (isDisk : step.before.disk = diskOf header entries) (owned : Owned header step.before) :
    ∃ more, landed step.trace = more.map Entry.write ∧ Follows (Lawful header tidy) entries more ∧
      step.after.disk = diskOf header (entries ++ more) ∧ Owned header step.after := by
  have keeps := keeps_body step.method plainHeader lawful fun assumed =>
    isDisk ▸ (isTidy assumed).method
  have holds : ∀ event ∈ step.trace, tidy → PlainAnswer event :=
    fun event mem assumed => (isTidy assumed).answers event mem
  rcases called with ⟨r, run⟩ | ⟨⟨later, r, s', run⟩, isAfter⟩
  · rw [← List.append_nil step.trace] at run
    obtain ⟨more, wrote, follows, final⟩ := keeps _ _ _ _ _ isDisk owned run holds
    obtain ⟨isDisk', owned'⟩ := final rfl
    exact ⟨more, wrote, follows, isDisk', owned'⟩
  · obtain ⟨more, wrote, follows, -⟩ := keeps _ _ _ _ _ isDisk owned run holds
    rw [isAfter]
    exact ⟨more, wrote, follows, by rw [isDisk]; exact foldl_apply_written wrote, owned⟩

/-- Whatever is called on a directory, its journals are a lawful ledger. -/
theorem Life.ledger (tidy : Prop) {s₀ s : ContinuitySession F} {steps : List (LifeStep F)}
    {header : SessionHeader F} (life : Life s₀ steps s)
    (isDisk : s₀.disk = { manifest := header }) (owned : Owned header s₀)
    (plainHeader : Plain header.sessionId) (isTidy : tidy → ∀ step ∈ steps, step.Tidy) :
    ∃ entries, written steps = entries.map Entry.write ∧ Follows (Lawful header tidy) [] entries ∧
      s.disk = diskOf header entries ∧ Owned header s := by
  induction life with
  | nil => exact ⟨[], rfl, trivial, isDisk, owned⟩
  | snoc step earlier called ih =>
      obtain ⟨entries, wrote, lawful, isDisk', owned'⟩ :=
        ih fun assumed step mem => isTidy assumed step (List.mem_append_left _ mem)
      have last : tidy → step.Tidy := fun assumed => isTidy assumed step (by simp)
      obtain ⟨more, wrote', follows, isDisk'', owned''⟩ :=
        LifeStep.ledger called plainHeader last lawful isDisk' owned'
      refine ⟨entries ++ more, ?_, follows_append.mpr ⟨lawful, follows⟩, isDisk'', owned''⟩
      rw [written, List.flatMap_append, List.map_append, ← wrote, ← wrote']
      simp [written]

/-! ## Scripted lives -/

theorem Life.trans {s₀ s s' : ContinuitySession F} {steps more : List (LifeStep F)}
    (first : Life s₀ steps s) (second : Life s more s') : Life s₀ (steps ++ more) s' := by
  induction second with
  | nil => simpa using first
  | snoc step _ called ih =>
      rw [← List.append_assoc]
      exact .snoc step ih called

/-- The life that calls lead, one after the other, against a script. -/
def live {ω : Type} (script : Script (ContinuitySig F) ω) :
    ContinuitySession F → ω → List (ContinuityMethod F) →
      Option (List (LifeStep F) × ContinuitySession F)
  | s, _, [] => some ([], s)
  | s, w, method :: rest =>
      match (method.body s).play script w with
      | none => none
      | some (t, (_, s'), w') =>
          (live script s' w' rest).map fun (steps, last) => (⟨method, s, t, s'⟩ :: steps, last)

theorem life_of_live {ω : Type} {script : Script (ContinuitySig F) ω} {s last : ContinuitySession F}
    {w : ω} {methods : List (ContinuityMethod F)} {steps : List (LifeStep F)}
    (lived : live script s w methods = some (steps, last)) : Life s steps last := by
  induction methods generalizing s w steps with
  | nil =>
      cases lived
      exact .nil _
  | cons method rest ih =>
      rw [live] at lived
      split at lived
      · cases lived
      · next t r s' w' played =>
        obtain ⟨⟨later, final⟩, isLater, same⟩ := Option.map_eq_some_iff.mp lived
        cases same
        have called : LifeStep.Complete ⟨method, s, t, s'⟩ := ⟨r, Prog.runs_of_play played⟩
        have first : Life s ([] ++ [⟨method, s, t, s'⟩]) s' := .snoc ⟨method, s, t, s'⟩ (.nil s) (.inl called)
        exact first.trans (ih isLater)

theorem methods_of_live {ω : Type} {script : Script (ContinuitySig F) ω}
    {s last : ContinuitySession F} {w : ω} {methods : List (ContinuityMethod F)}
    {steps : List (LifeStep F)} (lived : live script s w methods = some (steps, last)) :
    steps.map (·.method) = methods := by
  induction methods generalizing s w steps with
  | nil =>
      cases lived
      rfl
  | cons method rest ih =>
      rw [live] at lived
      split at lived
      · cases lived
      · obtain ⟨⟨later, final⟩, isLater, same⟩ := Option.map_eq_some_iff.mp lived
        cases same
        exact congrArg (method :: ·) (ih isLater)

/-- A scripted life, with a property of it that can be evaluated. -/
theorem exists_life {ω : Type} (script : Script (ContinuitySig F) ω) (s : ContinuitySession F) (w : ω)
    (methods : List (ContinuityMethod F)) (shows : List (LifeStep F) → ContinuitySession F → Bool)
    (shown : (live script s w methods).any (fun (steps, last) => shows steps last) = true) :
    ∃ steps last, Life s steps last ∧ steps.map (·.method) = methods ∧ shows steps last = true := by
  obtain ⟨⟨steps, last⟩, isLife, holds⟩ := (Option.any_eq_true _ _).mp shown
  exact ⟨steps, last, life_of_live isLife, methods_of_live isLife, holds⟩

/-! ### A session to start from -/

local instance neZero_digits : NeZero 10 := ⟨by decide⟩

/-- A clock that stands still, writes that succeed, and one receipt. -/
def calmScript (receipt : Json (Fin 10)) : Script (ContinuitySig (Fin 10)) Unit :=
  fun w c => match c with
  | .now => ((3 : Fin 10), w)
  | .write _ => (WriteOutcome.written, w)
  | .resolve reference => (reference, w)
  | .readReceipt _ =>
      ((.ok (receipt, "digest") : Except PyException (Json (Fin 10) × String)), w)

def newSession : CreateRequest (Fin 10) where
  sessionId := "session"
  principalId := "principal"
  objectiveId := "objective"
  objective := .null
  ownerGeneration := "owner"
  permissionReference := "permission"

def newHeader : SessionHeader (Fin 10) where
  sessionId := "session"
  createdAt := 3
  principalId := "principal"
  objectiveId := "objective"
  objective := .null
  ownerGeneration := "owner"
  permissionReference := "permission"

def fresh : ContinuitySession (Fin 10) :=
  { disk := { manifest := newHeader }, header := newHeader, closed := false }

theorem created_fresh : createSession newSession 3 = .ok fresh := rfl

def proposal (payload : String) : ProposeRequest := ⟨"command", "planner", payload, "v1"⟩

def tabRequest : AcquireRequest (Fin 10) :=
  ⟨"binding", "generation", "profile", "backend", "tab", "owner", []⟩

/-- The calls that bring a command to its dispatch. -/
def toDispatch : List (ContinuityMethod (Fin 10)) :=
  [.recordAuthorizedCommand (proposal "plan.json"), .acquireBrowserBinding tabRequest,
    .dispatchCommand "command" "generation"]

end Dingdongditch.Continuity
