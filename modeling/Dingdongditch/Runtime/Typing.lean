import Dingdongditch.Interaction.Output
import Dingdongditch.Interaction.Scripted
import Dingdongditch.Runtime.Methods
import Mathlib.Data.List.TakeWhile

/-!
# The two paths of a typing session

`TypingSession.run` sends a text through an operation executor, one PRESS_KEY
operation for each character, or hands it to the keyboard of the backend in
batches.  Both paths send a text up to its first unsupported character
(`run_outputs`), as far as the grammar of key strings does not come in between.
-/

namespace Dingdongditch.Typing

open Interaction Text

/-- What the module takes from the language: `str.isprintable` and `repr`, on one
character. -/
structure TypingHost where
  isPrintable : Char → Bool
  repr : Char → String

/-- What a receipt says of the dispatch it reports. -/
structure DispatchFacts where
  ok : Bool
  failureKind : Option String := none
  error : Option String := none
  deriving DecidableEq, Repr

/-- The calls of a typing session: the checks of a session before it executes an
operation, the execution of a valid operation, the dispatch of a key and of a batch
on the backend, the pauses, and the final verification. -/
inductive Call
  | admitOperation (op : Operation)
  | execute (op : Operation)
  | isStarted
  | dispatch (op : Operation)
  | type (text : List Char)
  | waitForTimeout (ms : Int)
  | finalVerify

def Call.Answer : Call → Type
  | .admitOperation _ => Except PyException Unit
  | .execute _ => Except PyException DispatchFacts
  | .isStarted => Bool
  | .dispatch _ => Except PyException DispatchFacts
  | .type _ => Except PyException Unit
  | .waitForTimeout _ => Except PyException Unit
  | .finalVerify => Except PyException Bool

abbrev TypingSig : Sig := ⟨Call, Call.Answer⟩

abbrev TypingAct (α : Type) : Type := Act TypingSig Unit PyException α

/-! ## The paths -/

/-- `execute_operation`: an invalid operation ends in a failed receipt. -/
def executeOperation (op : Operation) : TypingAct DispatchFacts :=
  match op.validate with
  | .error e => pure ⟨false, e.failureKind, some e.message⟩
  | .ok () => Act.attempt (S := TypingSig) (.execute op) id

/-- The operation executor of a governed session. -/
def operationExecutor (op : Operation) : TypingAct DispatchFacts := do
  Act.attempt (S := TypingSig) (.admitOperation op) id
  executeOperation op

/-- `dispatch_typing_key` -/
def dispatchTypingKey (op : Operation) : TypingAct DispatchFacts := do
  Act.ofExcept op.validate
  Act.ofExcept (rejectIf (op.action.type ≠ .pressKey) "typing fast dispatch accepts only PRESS_KEY")
  let started ← (Act.ask (S := TypingSig) .isStarted : TypingAct Bool)
  if !started then
    return ⟨false, some "browser_session_not_active",
      some "host-owned backend must be active before key dispatch"⟩
  else Act.attempt (S := TypingSig) (.dispatch op) id

/-- `dispatch_typing_text` -/
def dispatchTypingText (text : List Char) : TypingAct DispatchFacts := do
  let started ← (Act.ask (S := TypingSig) .isStarted : TypingAct Bool)
  if !started then
    return ⟨false, some "browser_session_not_active",
      some "host-owned backend must be active before text dispatch"⟩
  else
    let answer ← (Act.ask (S := TypingSig) (.type text) : TypingAct (Except PyException Unit))
    match answer with
    | .ok () => return ⟨true, none, none⟩
    | .error e => return ⟨false, some "action_dispatch_failed", some e.describe⟩

/-- How a session sends its input: with an operation executor or without. -/
inductive Path
  | governed
  | direct
  deriving DecidableEq, Repr

/-- `_execute` -/
def Path.execute : Path → Operation → TypingAct DispatchFacts
  | .governed, op => operationExecutor op
  | .direct, op => executeOperation op

variable (config : TypingSessionConfig)

/-- `_dispatch_key` -/
def Path.dispatchKey : Path → Nat → String → TypingAct DispatchFacts
  | .governed, index, key => operationExecutor (config.keyOperation index key)
  | .direct, index, key => dispatchTypingKey (config.keyOperation index key)

/-- The characters of a batch, key by key, until one fails. -/
def dispatchKeys (index : Nat) : List Char → TypingAct DispatchFacts
  | [] => return ⟨true, none, none⟩
  | c :: rest => do
      let receipt ← Path.governed.dispatchKey config index (String.ofList [c])
      if receipt.error.isSome then return receipt else dispatchKeys (index + 1) rest

/-- `_dispatch_text` -/
def Path.dispatchText : Path → Nat → List Char → TypingAct DispatchFacts
  | .governed, index, text => dispatchKeys config index text
  | .direct, _, text => dispatchTypingText text

/-! ## The loop -/

/-- What the loop sends at once: a control key, or a batch of printable characters. -/
inductive Input
  | key (key : String)
  | text (first : Char) (more : List Char)

/-- The characters that an input consumes after the first. -/
def Input.extra : Input → Nat
  | .key _ => 0
  | .text _ more => more.length

def Path.dispatch (path : Path) (index : Nat) : Input → TypingAct DispatchFacts
  | .key key => path.dispatchKey config index key
  | .text first more => path.dispatchText config index (first :: more)

variable (host : TypingHost)

/-- A character that the loop sends. -/
def supported (c : Char) : Bool := (controlKey c).isSome || host.isPrintable c

/-- A character that is sent as part of a batch. -/
def isPlain (c : Char) : Bool := (controlKey c).isNone && host.isPrintable c

/-- The next input of a text; `none` where its first character is unsupported. -/
def nextInput (c : Char) (text : List Char) : Option Input :=
  match controlKey c with
  | some key => some (.key key)
  | none =>
      if !host.isPrintable c then none
      else match ((c :: text).take config.maxTextChunkCharacters).takeWhile (isPlain host) with
        | [] => none
        | first :: more => some (.text first more)

/-- Why a session ends early. -/
structure Stop where
  typed : Nat
  failureKind : String
  error : String
  deriving DecidableEq, Repr

/-- The loop of `run`, from a position of the text. -/
def typeFrom (path : Path) (index : Nat) : List Char → TypingAct (Option Stop)
  | [] => return none
  | c :: text =>
      match nextInput config host c text with
      | none =>
          return some ⟨index, "unsupported_character",
            "unsupported typing character: " ++ host.repr c⟩
      | some input => do
          let receipt ← path.dispatch config index input
          match receipt.error with
          | some error =>
              return some ⟨index,
                (receipt.failureKind.filter (· ≠ "")).getD "input_dispatch_failed", error⟩
          | none => do
              let rest := text.drop input.extra
              if config.interKeyDelayMs ≠ 0 && !rest.isEmpty then
                Act.attempt (S := TypingSig) (.waitForTimeout config.interKeyDelayMs) id
              typeFrom path (index + input.extra + 1) rest
termination_by text => text.length
decreasing_by
  simp only [List.length_drop, List.length_cons]
  omega

inductive SessionStatus
  | completed
  | stopped
  | failed
  deriving DecidableEq, Repr

structure TypingSessionResult where
  status : SessionStatus
  requestedCharacters : Nat
  typedCharacters : Nat
  failureKind : Option String := none
  error : Option String := none
  deriving DecidableEq, Repr

/-- `_result` -/
def result (status : SessionStatus) (typed : Nat) (failureKind error : Option String := none) :
    TypingSessionResult :=
  ⟨status, config.text.length, typed, failureKind, error⟩

/-- `run` -/
def run (path : Path) : TypingAct TypingSessionResult := do
  let target ← path.execute config.targetOperation
  match target.error with
  | some error => return result config .failed 0 (some "target_dispatch_failed") (some error)
  | none =>
      let stopped ← typeFrom config host path 0 config.text
      match stopped with
      | some stop => return result config .failed stop.typed (some stop.failureKind) (some stop.error)
      | none =>
          if config.finalExpectations.isEmpty then
            return result config .completed config.text.length
          else
            let passed ← (Act.attempt (S := TypingSig) .finalVerify id : TypingAct Bool)
            if !passed then
              return result config .stopped config.text.length (some "final_verification_failed")
                (some "declared final verification did not pass")
            else return result config .completed config.text.length

/-! ## What is sent -/

/-- The characters that a key types. -/
def keyText (key : String) : List Char :=
  match ['\n', '\t', Char.ofNat 27, Char.ofNat 8, Char.ofNat 127].find? (controlKey · = some key) with
  | some c => [c]
  | none => key.toList

/-- The characters that an operation types. -/
def operationText (op : Operation) : List Char :=
  if op.action.type = .pressKey then op.action.key.elim [] keyText else []

/-- The characters that a call sends. -/
def callText : Call → List Char
  | .execute op | .dispatch op => operationText op
  | .type text => text
  | _ => []

/-- An answer without a failure. -/
def Ordinary : Event TypingSig → Prop
  | ⟨.admitOperation _, answer⟩ | ⟨.type _, answer⟩ | ⟨.waitForTimeout _, answer⟩ =>
      (answer : Except PyException Unit) = .ok ()
  | ⟨.execute _, answer⟩ | ⟨.dispatch _, answer⟩ =>
      ∃ facts : DispatchFacts, answer = .ok facts ∧ facts.error = none
  | ⟨.isStarted, answer⟩ => answer = true
  | ⟨.finalVerify, answer⟩ => answer = .ok true

/-- The characters of a session, where nothing fails. -/
def keyboard : Port TypingSig Char where
  output event := callText event.1
  ordinary := Ordinary

/-! ## The operations of a session -/

variable {config host}

/-- What an accepted configuration fulfils. -/
structure Accepted (config : TypingSessionConfig) : Prop where
  sessionId : config.sessionId ≠ ""
  url : config.url ≠ ""
  locator : config.targetLocator.validate = .ok ()
  chunk : 1 ≤ config.maxTextChunkCharacters
  timeout : 100 ≤ config.operationTimeoutMs

theorem accepted_of_validate (valid : config.validate = .ok ()) : Accepted config := by
  unfold TypingSessionConfig.validate at valid
  obtain ⟨session, valid⟩ := rejectIf_bind_ok.mp valid
  obtain ⟨url, valid⟩ := rejectIf_bind_ok.mp valid
  obtain ⟨-, valid⟩ := rejectIf_bind_ok.mp valid
  obtain ⟨_, locator, valid⟩ := bind_eq_ok.mp valid
  obtain ⟨chunk, valid⟩ := rejectIf_bind_ok.mp valid
  obtain ⟨timeout, -⟩ := rejectIf_bind_ok.mp valid
  constructor
  · intro empty
    rw [empty] at session
    revert session
    decide
  · simpa using url
  · exact locator
  · simp only [Bool.not_eq_false', Bool.and_eq_true, decide_eq_true_eq] at chunk
    exact chunk.1
  · simpa using timeout

theorem operation_valid (accepted : Accepted config) {suffix : String} {action : Action}
    (valid : action.validate = .ok ()) :
    (config.operation suffix action).validate = .ok () := by
  have named : config.sessionId ++ "-" ++ suffix ≠ "" := by
    intro empty
    have := congrArg String.length empty
    simp at this
  have timeout := accepted.timeout
  unfold Operation.validate
  refine rejectIf_bind_ok.mpr ⟨decide_eq_false named, ?_⟩
  refine rejectIf_bind_ok.mpr ⟨decide_eq_false accepted.url, ?_⟩
  refine rejectIf_bind_ok.mpr ⟨decide_eq_false (Int.not_lt.mpr timeout), ?_⟩
  refine rejectIf_bind_ok.mpr ⟨rfl, ?_⟩
  refine rejectIf_bind_ok.mpr ⟨Bool.and_false _, ?_⟩
  refine rejectIf_bind_ok.mpr ⟨rfl, ?_⟩
  refine bind_eq_ok.mpr ⟨(), rfl, ?_⟩
  refine bind_eq_ok.mpr ⟨(), valid, ?_⟩
  rfl

theorem targetOperation_valid (accepted : Accepted config) :
    config.targetOperation.validate = .ok () := by
  refine operation_valid accepted (bind_eq_ok.mpr ⟨(), rfl, ?_⟩)
  refine bind_eq_ok.mpr ⟨(), bind_eq_ok.mpr ⟨(), rfl, accepted.locator⟩, rfl⟩

theorem keyOperation_valid (accepted : Accepted config) {key : String}
    (valid : Action.validateKeyString key = .ok ()) (index : Nat) :
    (config.keyOperation index key).validate = .ok () := by
  refine operation_valid accepted (bind_eq_ok.mpr ⟨(), rfl, ?_⟩)
  refine bind_eq_ok.mpr ⟨(), rfl, ?_⟩
  refine bind_eq_ok.mpr ⟨(), rfl, ?_⟩
  refine bind_eq_ok.mpr ⟨(), rfl, ?_⟩
  refine bind_eq_ok.mpr ⟨(), rfl, ?_⟩
  exact bind_eq_ok.mpr ⟨(), valid, rfl⟩

/-! ## Keys -/

/-- A control key passes as a key, and types its character. -/
theorem controlKey_spec {c : Char} {key : String} (isControl : controlKey c = some key) :
    Action.validateKeyString key = .ok () ∧ keyText key = [c] := by
  have charOf : ∀ n, c.toNat = n → c = Char.ofNat n := fun n same => by
    rw [← same, Char.ofNat_toNat]
  unfold controlKey at isControl
  split at isControl
  · next same =>
      subst same
      cases isControl
      decide +kernel
  split at isControl
  · next same =>
      subst same
      cases isControl
      decide +kernel
  split at isControl
  · next same =>
      rw [charOf _ same]
      cases isControl
      decide +kernel
  split at isControl
  · next same =>
      rw [charOf _ same]
      cases isControl
      decide +kernel
  split at isControl
  · next same =>
      rw [charOf _ same]
      cases isControl
      decide +kernel
  · cases isControl

/-- A character that is no key of its own in the grammar of key strings: a blank, or
the separator of chords. -/
def isSeparator (c : Char) : Bool := isSpace c || c = '+'

theorem validateKeyString_single {c : Char} (good : isSeparator c = false) :
    Action.validateKeyString (String.ofList [c]) = .ok () := by
  simp only [isSeparator, Bool.or_eq_false_iff, decide_eq_false_iff_not] at good
  obtain ⟨notSpace, notPlus⟩ := good
  have stripped : stripBy isSpace [c] = [c] := by
    simp [stripBy, lstripBy, rstripBy, notSpace]
  have blank : c ≠ ' ' := by
    rintro rfl
    revert notSpace
    decide
  have whole : [c].splitOn '+' = [[c]] := by
    refine List.splitOn_eq_singleton ?_
    simpa using Ne.symm notPlus
  have parts : ([c].splitOn '+').map String.ofList = [String.ofList [c]] := by
    rw [whole]
    rfl
  have token : Action.isKeyToken (String.ofList [c]) = true := by
    simp [Action.isKeyToken, notSpace]
  unfold Action.validateKeyString
  rw [String.toList_ofList, stripped]
  refine rejectIf_bind_ok.mpr ⟨rfl, ?_⟩
  refine rejectIf_bind_ok.mpr ⟨by simp, ?_⟩
  refine rejectIf_bind_ok.mpr ⟨by simpa using Ne.symm blank, ?_⟩
  refine rejectIf_bind_ok.mpr ⟨by simp [parts], ?_⟩
  rw [rejectIf_eq_ok, parts]
  simp only [List.any_cons, List.any_nil, token, Bool.not_true, Bool.or_false]

theorem keyText_single {c : Char} : keyText (String.ofList [c]) = [c] := by
  have longer : ∀ d ∈ ['\n', '\t', Char.ofNat 27, Char.ofNat 8, Char.ofNat 127],
      (controlKey d).any (·.length = 1) = false := by decide +kernel
  have unlike : ['\n', '\t', Char.ofNat 27, Char.ofNat 8, Char.ofNat 127].find?
      (controlKey · = some (String.ofList [c])) = none := by
    rw [List.find?_eq_none]
    intro d mem same
    have short := longer d mem
    rw [of_decide_eq_true same] at short
    simp at short
  unfold keyText
  rw [unlike]
  exact String.toList_ofList

/-! ## What each part sends -/

variable {op : Operation} {path : Path} {s : Unit}

/-- A dispatch that succeeded. -/
def Succeeded (receipt : DispatchFacts) (_ : Unit) : Prop := receipt.error = none

theorem executeOperation_outputs (valid : op.validate = .ok ()) :
    Act.Outputs keyboard (executeOperation op) s (operationText op) Succeeded := by
  unfold executeOperation
  rw [valid]
  refine Act.outputs_attempt ?_
  rintro answer ⟨facts, rfl, succeeded⟩
  exact ⟨rfl, facts, rfl, succeeded⟩

theorem operationExecutor_outputs (valid : op.validate = .ok ()) :
    Act.Outputs keyboard (operationExecutor op) s (operationText op) Succeeded := by
  have admitted : Act.Outputs keyboard
      (Act.attempt (S := TypingSig) (.admitOperation op) id : TypingAct Unit) s [] fun _ _ => True := by
    refine Act.outputs_attempt ?_
    rintro answer isOk
    exact ⟨rfl, (), isOk, trivial⟩
  exact admitted.bind fun _ _ _ => executeOperation_outputs valid

theorem isStarted_outputs : Act.Outputs keyboard
    (Act.ask (S := TypingSig) .isStarted : TypingAct Bool) s [] fun started _ => started = true := by
  refine Act.outputs_ask ?_
  intro answer isTrue
  exact ⟨rfl, isTrue⟩

theorem dispatchTypingKey_outputs (valid : op.validate = .ok ())
    (press : op.action.type = .pressKey) :
    Act.Outputs keyboard (dispatchTypingKey op) s (operationText op) Succeeded := by
  have isPress : rejectIf (op.action.type ≠ .pressKey)
      "typing fast dispatch accepts only PRESS_KEY" = .ok () := by
    rw [press]
    rfl
  unfold dispatchTypingKey
  rw [valid, isPress]
  refine isStarted_outputs.first fun started _ isTrue => ?_
  subst isTrue
  refine Act.outputs_attempt ?_
  rintro answer ⟨facts, rfl, succeeded⟩
  exact ⟨rfl, facts, rfl, succeeded⟩

theorem dispatchTypingText_outputs (text : List Char) :
    Act.Outputs keyboard (dispatchTypingText text) s text Succeeded := by
  unfold dispatchTypingText
  refine isStarted_outputs.first fun started _ isTrue => ?_
  subst isTrue
  have typed : Act.Outputs keyboard
      (Act.ask (S := TypingSig) (.type text) : TypingAct (Except PyException Unit)) s text
      fun answer _ => answer = .ok () := by
    refine Act.outputs_ask ?_
    intro answer isOk
    exact ⟨rfl, isOk⟩
  refine typed.then fun answer _ isOk => ?_
  subst isOk
  exact Act.outputs_pure rfl

theorem keyOperation_text (index : Nat) (key : String) :
    operationText (config.keyOperation index key) = keyText key := rfl

theorem dispatchKey_outputs (accepted : Accepted config) (path : Path) {key : String}
    (valid : Action.validateKeyString key = .ok ()) (index : Nat) :
    Act.Outputs keyboard (path.dispatchKey config index key) s (keyText key) Succeeded := by
  have opValid := keyOperation_valid accepted valid index
  have sent : operationText (config.keyOperation index key) = keyText key := keyOperation_text index key
  rw [← sent]
  cases path with
  | governed => exact operationExecutor_outputs opValid
  | direct => exact dispatchTypingKey_outputs opValid rfl

theorem dispatchKeys_outputs (accepted : Accepted config) (index : Nat) {text : List Char}
    (good : ∀ c ∈ text, isSeparator c = false) :
    Act.Outputs keyboard (dispatchKeys config index text) s text Succeeded := by
  induction text generalizing index s with
  | nil => exact Act.outputs_pure rfl
  | cons c text ih =>
      obtain ⟨first, later⟩ := List.forall_mem_cons.mp good
      have sent := dispatchKey_outputs (s := s) accepted .governed (validateKeyString_single first) index
      rw [keyText_single] at sent
      refine sent.bind fun receipt _ succeeded => ?_
      rw [Succeeded] at succeeded
      rw [succeeded]
      exact ih (index + 1) later

/-- A path can send a character. -/
def Path.Carries (path : Path) (c : Char) : Prop :=
  path = .direct ∨ (controlKey c).isSome ∨ isSeparator c = false

theorem dispatchText_outputs (accepted : Accepted config) (index : Nat) {text : List Char}
    (plain : ∀ c ∈ text, isPlain host c = true) (carries : ∀ c ∈ text, path.Carries c) :
    Act.Outputs keyboard (path.dispatchText config index text) s text Succeeded := by
  cases path with
  | direct => exact dispatchTypingText_outputs text
  | governed =>
      refine dispatchKeys_outputs accepted index ?_
      intro c mem
      rcases carries c mem with direct | control | good
      · cases direct
      · have isPlain := plain c mem
        simp only [Typing.isPlain, Bool.and_eq_true, Option.isNone_iff_eq_none] at isPlain
        rw [isPlain.1] at control
        cases control
      · exact good

/-! ## The loop -/

theorem nextInput_some {c : Char} {text : List Char} {input : Input}
    (next : nextInput config host c text = some input) :
    (∃ key, input = .key key ∧ controlKey c = some key) ∨
      ∃ more, input = .text c more ∧ more = text.take more.length ∧
        ∀ d ∈ c :: more, isPlain host d = true := by
  unfold nextInput at next
  split at next
  · next key isControl =>
      cases next
      exact .inl ⟨key, rfl, isControl⟩
  · split at next
    · cases next
    · split at next
      · cases next
      · next first more run =>
          cases next
          have start : first :: more <+: c :: text :=
            (run ▸ List.takeWhile_prefix _).trans (List.take_prefix _ _)
          obtain ⟨rfl, isPrefix⟩ := List.cons_prefix_cons.mp start
          refine .inr ⟨more, rfl, List.prefix_iff_eq_take.mp isPrefix, ?_⟩
          intro d mem
          rw [← run] at mem
          exact List.all_eq_true.mp List.all_takeWhile d mem

theorem nextInput_none (accepted : Accepted config) {c : Char} {text : List Char}
    (next : nextInput config host c text = none) : supported host c = false := by
  unfold nextInput at next
  split at next
  · cases next
  · next notControl =>
      split at next
      · next unprintable => simpa [supported, notControl] using unprintable
      · next printable =>
          split at next
          · next run =>
              obtain ⟨n, isSucc⟩ := Nat.exists_eq_succ_of_ne_zero
                (Nat.one_le_iff_ne_zero.mp accepted.chunk)
              rw [isSucc, List.take_succ_cons, List.takeWhile_cons] at run
              simp only [Bool.not_eq_true', Bool.not_eq_false] at printable
              simp [isPlain, notControl, printable] at run
          · cases next

/-- Where a session stops in a text of which nothing fails: at the first unsupported
character, if there is one. -/
def stopOf (host : TypingHost) (index : Nat) (text : List Char) : Option Stop :=
  (text.dropWhile (supported host)).head?.map fun c =>
    ⟨index + (text.takeWhile (supported host)).length, "unsupported_character",
      "unsupported typing character: " ++ host.repr c⟩

theorem supported_of_isPlain {c : Char} (plain : isPlain host c = true) :
    supported host c = true := by
  simp only [isPlain, Bool.and_eq_true] at plain
  simp [supported, plain.2]

/-- What an input sends is the start of the supported part of the text. -/
theorem nextInput_splits {c : Char} {text : List Char} {input : Input}
    (next : nextInput config host c text = some input) :
    (c :: text).takeWhile (supported host) =
      c :: text.take input.extra ++ (text.drop input.extra).takeWhile (supported host) ∧
    (c :: text).dropWhile (supported host) =
      (text.drop input.extra).dropWhile (supported host) ∧
    (text.take input.extra).length = input.extra := by
  rcases nextInput_some next with ⟨key, rfl, isControl⟩ | ⟨more, rfl, isTake, plain⟩
  · have good : supported host c = true := by simp [supported, isControl]
    simp [Input.extra, good]
  · obtain ⟨plainFirst, plainMore⟩ := List.forall_mem_cons.mp plain
    have good : ∀ d ∈ c :: more, supported host d = true := fun d mem =>
      supported_of_isPlain (plain d mem)
    have whole : c :: text = (c :: more) ++ text.drop more.length := by
      conv_lhs => rw [← List.take_append_drop more.length text, ← isTake]
      rfl
    simp only [Input.extra]
    rw [whole, List.takeWhile_append_of_pos good, List.dropWhile_append_of_pos good, ← isTake]
    exact ⟨rfl, rfl, rfl⟩

theorem dispatch_outputs (accepted : Accepted config) (index : Nat) {c : Char} {text : List Char}
    {input : Input} (next : nextInput config host c text = some input)
    (carries : ∀ d ∈ c :: text.take input.extra, path.Carries d) :
    Act.Outputs keyboard (path.dispatch config index input) s (c :: text.take input.extra)
      Succeeded := by
  rcases nextInput_some next with ⟨key, rfl, isControl⟩ | ⟨more, rfl, isTake, plain⟩
  · obtain ⟨valid, types⟩ := controlKey_spec isControl
    have sent := dispatchKey_outputs (s := s) accepted path valid index
    rw [types] at sent
    exact sent
  · simp only [Input.extra, ← isTake] at carries ⊢
    exact dispatchText_outputs accepted index plain carries

theorem typeFrom_outputs (accepted : Accepted config) (path : Path) (index : Nat)
    (text : List Char) (carries : ∀ c ∈ text.takeWhile (supported host), path.Carries c) :
    Act.Outputs keyboard (typeFrom config host path index text) s
      (text.takeWhile (supported host)) fun stopped _ => stopped = stopOf host index text := by
  fun_induction typeFrom config host path index text generalizing s with
  | case1 => exact Act.outputs_pure rfl
  | case2 index c text next =>
      have unsupported := nextInput_none accepted next
      rw [List.takeWhile_cons, unsupported]
      refine Act.outputs_pure ?_
      simp [stopOf, unsupported]
  | case3 index c text input next ih =>
      obtain ⟨sentOf, leftOf, length⟩ := nextInput_splits next
      have stops : stopOf host index (c :: text) =
          stopOf host (index + input.extra + 1) (text.drop input.extra) := by
        have position : index + ((c :: text).takeWhile (supported host)).length =
            index + input.extra + 1 +
              ((text.drop input.extra).takeWhile (supported host)).length := by
          rw [sentOf, List.length_append, List.length_cons, length]
          omega
        rw [stopOf, stopOf, leftOf, position]
      rw [sentOf] at carries ⊢
      rw [stops]
      have first : ∀ d ∈ c :: text.take input.extra, path.Carries d := fun d mem =>
        carries d (List.mem_append_left _ mem)
      have rest := ih (s := ()) fun d mem => carries d (List.mem_append_right _ mem)
      refine (dispatch_outputs accepted index next first).bind fun receipt _ succeeded => ?_
      rw [Succeeded] at succeeded
      rw [succeeded]
      dsimp only
      split
      · have paused : Act.Outputs keyboard
            (Act.attempt (S := TypingSig) (.waitForTimeout config.interKeyDelayMs) id : TypingAct Unit)
            () [] fun _ _ => True := by
          refine Act.outputs_attempt ?_
          intro answer isOk
          exact ⟨rfl, (), isOk, trivial⟩
        exact paused.first fun _ _ _ => rest
      · exact rest

/-- What a session returns where nothing fails. -/
def sessionResult (config : TypingSessionConfig) (host : TypingHost) : TypingSessionResult :=
  match stopOf host 0 config.text with
  | some stop => result config .failed stop.typed (some stop.failureKind) (some stop.error)
  | none => result config .completed config.text.length

theorem run_outputs (accepted : Accepted config) (path : Path)
    (carries : ∀ c ∈ config.text.takeWhile (supported host), path.Carries c) :
    Act.Outputs keyboard (run config host path) s (config.text.takeWhile (supported host))
      fun r _ => r = sessionResult config host := by
  have targetValid := targetOperation_valid accepted
  have target : Act.Outputs keyboard (path.execute config.targetOperation) s [] Succeeded := by
    cases path with
    | governed => exact operationExecutor_outputs targetValid
    | direct => exact executeOperation_outputs targetValid
  refine target.first fun receipt _ succeeded => ?_
  rw [Succeeded] at succeeded
  rw [succeeded]
  refine (typeFrom_outputs accepted path 0 config.text carries).then fun stopped _ isStop => ?_
  subst isStop
  unfold sessionResult
  split
  · exact Act.outputs_pure rfl
  · split
    · exact Act.outputs_pure rfl
    · have verified : Act.Outputs keyboard
          (Act.attempt (S := TypingSig) .finalVerify id : TypingAct Bool) () []
          fun passed _ => passed = true := by
        refine Act.outputs_attempt ?_
        rintro answer isOk
        exact ⟨rfl, true, isOk, rfl⟩
      refine verified.first fun passed _ isTrue => ?_
      subst isTrue
      exact Act.outputs_pure rfl

/-! ## A session returns -/

theorem terminates_executeOperation : Act.Terminates (executeOperation op) := by
  unfold executeOperation
  split
  · exact Act.terminates_pure _
  · exact Act.terminates_attempt _ _

theorem terminates_operationExecutor : Act.Terminates (operationExecutor op) :=
  (Act.terminates_attempt _ _).bind fun _ => terminates_executeOperation

theorem terminates_dispatchKeys (index : Nat) (text : List Char) :
    Act.Terminates (dispatchKeys config index text) := by
  induction text generalizing index with
  | nil => exact Act.terminates_pure _
  | cons c text ih =>
      refine terminates_operationExecutor.bind fun receipt => ?_
      split
      · exact Act.terminates_pure _
      · exact ih (index + 1)

theorem terminates_dispatch (path : Path) (index : Nat) (input : Input) :
    Act.Terminates (path.dispatch config index input) := by
  cases path with
  | governed =>
      cases input with
      | key key => exact terminates_operationExecutor
      | text first more => exact terminates_dispatchKeys index _
  | direct =>
      cases input with
      | key key =>
          refine (Act.terminates_ofExcept _).bind fun _ => (Act.terminates_ofExcept _).bind fun _ =>
            (Act.terminates_ask _).bind fun started => ?_
          split
          · exact Act.terminates_pure _
          · exact Act.terminates_attempt _ _
      | text first more =>
          refine (Act.terminates_ask _).bind fun started => ?_
          split
          · exact Act.terminates_pure _
          · refine (Act.terminates_ask _).bind fun answer => ?_
            split
            · exact Act.terminates_pure _
            · exact Act.terminates_pure _

theorem terminates_typeFrom (path : Path) (index : Nat) (text : List Char) :
    Act.Terminates (typeFrom config host path index text) := by
  fun_induction typeFrom config host path index text with
  | case1 => exact Act.terminates_pure _
  | case2 => exact Act.terminates_pure _
  | case3 index c text input next ih =>
      refine (terminates_dispatch path index input).bind fun receipt => ?_
      split
      · exact Act.terminates_pure _
      · dsimp only
        split
        · exact (Act.terminates_attempt _ _).bind fun _ => ih
        · exact ih

theorem terminates_run (path : Path) : Act.Terminates (run config host path) := by
  have target : Act.Terminates (path.execute config.targetOperation) := by
    cases path with
    | governed => exact terminates_operationExecutor
    | direct => exact terminates_executeOperation
  refine target.bind fun receipt => ?_
  split
  · exact Act.terminates_pure _
  · refine (terminates_typeFrom path 0 config.text).bind fun stopped => ?_
    split
    · exact Act.terminates_pure _
    · split
      · exact Act.terminates_pure _
      · refine (Act.terminates_attempt _ _).bind fun passed => ?_
        split
        · exact Act.terminates_pure _
        · exact Act.terminates_pure _

/-- Every call has an ordinary answer. -/
theorem exists_ordinary (c : Call) : ∃ answer, Ordinary ⟨c, answer⟩ := by
  cases c with
  | execute _ => exact ⟨(.ok ⟨true, none, none⟩ : Except PyException DispatchFacts), _, rfl, rfl⟩
  | dispatch _ => exact ⟨(.ok ⟨true, none, none⟩ : Except PyException DispatchFacts), _, rfl, rfl⟩
  | isStarted => exact ⟨true, rfl⟩
  | finalVerify => exact ⟨(.ok true : Except PyException Bool), rfl⟩
  | _ => exact ⟨(.ok () : Except PyException Unit), rfl⟩

/-! ## The two paths -/

/-- A path types a text: where nothing fails it sends the text up to its first
unsupported character and reports where it stopped, and there is such a run. -/
structure Types (config : TypingSessionConfig) (host : TypingHost) (path : Path) : Prop where
  sends : Act.Outputs keyboard (run config host path) () (config.text.takeWhile (supported host))
    fun r _ => r = sessionResult config host
  returns : ∃ t r s', Act.Runs (run config host path) () t r s' ∧ keyboard.Smooth t
  whole : (∀ c ∈ config.text, supported host c = true) →
    config.text.takeWhile (supported host) = config.text ∧
      sessionResult config host = result config .completed config.text.length

/-- Both paths type the same characters, where the governed one meets no separator of
the grammar of key strings before the first unsupported character. -/
theorem paths_agree (valid : config.validate = .ok ()) (path : Path)
    (keyed : path = .governed → ∀ c ∈ config.text.takeWhile (supported host),
      (controlKey c).isSome ∨ isSeparator c = false) :
    Types config host path where
  sends := by
    refine run_outputs (accepted_of_validate valid) path fun c mem => ?_
    cases path with
    | direct => exact .inl rfl
    | governed => exact .inr (keyed rfl c mem)
  returns := by
    obtain ⟨t, ⟨r, s'⟩, ran, smooth⟩ := (terminates_run path ()).exists_runs exists_ordinary
    exact ⟨t, r, s', ran, smooth⟩
  whole all := by
    refine ⟨List.takeWhile_eq_self_iff.mpr all, ?_⟩
    have none : stopOf host 0 config.text = none := by
      rw [stopOf, List.dropWhile_eq_nil_iff.mpr all]
      rfl
    rw [sessionResult, none]

/-! ## Three texts -/

def asciiTyping : TypingHost where
  isPrintable c := 32 ≤ c.toNat && c.toNat ≤ 126
  repr c := if c.toNat = 0 then "'\\x00'" else "'" ++ String.singleton c ++ "'"

def typingConfig (text : String) : TypingSessionConfig where
  sessionId := "typing"
  url := "https://example.test/"
  text := text.toList
  targetLocator := { strategy := .css, value := "#editor" }
  maxTextChunkCharacters := 2

/-- A text with a line break, on both paths. -/
theorem paths_agree_lineBreak : (typingConfig "abc\nd").validate = .ok () ∧
    (∀ path, Types (typingConfig "abc\nd") asciiTyping path) ∧
    sessionResult (typingConfig "abc\nd") asciiTyping = ⟨.completed, 5, 5, none, none⟩ := by
  have valid : (typingConfig "abc\nd").validate = .ok () := by decide +kernel
  have keyed : ∀ c ∈ (typingConfig "abc\nd").text.takeWhile (supported asciiTyping),
      (controlKey c).isSome ∨ isSeparator c = false := by decide +kernel
  exact ⟨valid, fun path => paths_agree valid path fun _ => keyed, by decide +kernel⟩

/-- A browser in which nothing fails. -/
def calm : Script TypingSig Unit := fun _ c => match c with
  | .execute _ => ((.ok ⟨true, none, none⟩ : Except PyException DispatchFacts), ())
  | .dispatch _ => ((.ok ⟨true, none, none⟩ : Except PyException DispatchFacts), ())
  | .isStarted => (true, ())
  | .finalVerify => ((.ok true : Except PyException Bool), ())
  | .admitOperation _ => ((.ok () : Except PyException Unit), ())
  | .type _ => ((.ok () : Except PyException Unit), ())
  | .waitForTimeout _ => ((.ok () : Except PyException Unit), ())

/-- Both paths stop before a character that is neither printable nor a control key;
and the governed path stops before a blank that the direct path types. -/
theorem accepted_text_unsent :
    (typingConfig "a\x00b").validate = .ok () ∧ (typingConfig "a b").validate = .ok () ∧
    (∀ path, ∃ t r s', Act.Runs (run (typingConfig "a\x00b") asciiTyping path) () t r s' ∧
      (keyboard.sent t = ['a'] ∧ r.toOption.map (·.failureKind) = some (some "unsupported_character"))) ∧
    (∃ t r s', Act.Runs (run (typingConfig "a b") asciiTyping .governed) () t r s' ∧
      (keyboard.sent t = ['a'] ∧ r.toOption.map (·.failureKind) = some (some "input_dispatch_failed"))) ∧
    ∃ t r s', Act.Runs (run (typingConfig "a b") asciiTyping .direct) () t r s' ∧
      (keyboard.sent t = ['a', ' ', 'b'] ∧ r.toOption.map (·.status) = some .completed) := by
  refine ⟨by decide +kernel, by decide +kernel, ?_, ?_, ?_⟩
  · intro path
    obtain ⟨t, r, s', ran, shown⟩ := Act.exists_runs calm
      (run (typingConfig "a\x00b") asciiTyping path) () () (fun t r _ => keyboard.sent t = ['a'] ∧
        r.toOption.map (·.failureKind) = some (some "unsupported_character"))
      (by cases path <;> decide +kernel)
    exact ⟨t, r, s', ran, of_decide_eq_true shown⟩
  · obtain ⟨t, r, s', ran, shown⟩ := Act.exists_runs calm
      (run (typingConfig "a b") asciiTyping .governed) () () (fun t r _ => keyboard.sent t = ['a'] ∧
        r.toOption.map (·.failureKind) = some (some "input_dispatch_failed"))
      (by decide +kernel)
    exact ⟨t, r, s', ran, of_decide_eq_true shown⟩
  · obtain ⟨t, r, s', ran, shown⟩ := Act.exists_runs calm
      (run (typingConfig "a b") asciiTyping .direct) () ()
      (fun t r _ => keyboard.sent t = ['a', ' ', 'b'] ∧
        r.toOption.map (·.status) = some .completed)
      (by decide +kernel)
    exact ⟨t, r, s', ran, of_decide_eq_true shown⟩

end Dingdongditch.Typing
