import Dingdongditch.Runtime.Typing

/-!
# The progress of a typing session

A dispatch is acknowledged when it answers without an error.  Whatever the browser
answers, the acknowledged characters are the start of the text; the number that a
session reports is theirs where they end with a batch (`typed_exact_iff`), which on
the governed path a failure inside a batch can prevent.
-/

namespace Dingdongditch.Typing

open Interaction Text

/-- The characters of a dispatch that is acknowledged. -/
def acknowledgedText : Event TypingSig → List Char
  | ⟨.execute op, answer⟩ | ⟨.dispatch op, answer⟩ =>
      match (answer : Except PyException DispatchFacts) with
      | .ok facts => if facts.error.isNone then operationText op else []
      | .error _ => []
  | ⟨.type text, answer⟩ =>
      match (answer : Except PyException Unit) with
      | .ok () => text
      | .error _ => []
  | _ => []

def acknowledgements : Port TypingSig Char where
  output := acknowledgedText
  ordinary _ := True

/-- Where the inputs of a text start, and where the last of them ends. -/
def boundaries (config : TypingSessionConfig) (host : TypingHost) (index : Nat) :
    List Char → List Nat
  | [] => [index]
  | c :: text =>
      match nextInput config host c text with
      | none => [index]
      | some input => index ::
          boundaries config host (index + input.extra + 1) (text.drop input.extra)
termination_by text => text.length
decreasing_by
  simp only [List.length_drop, List.length_cons]
  omega

variable {config : TypingSessionConfig} {host : TypingHost} {op : Operation} {path : Path} {s : Unit}

theorem mem_boundaries_self (index : Nat) (text : List Char) :
    index ∈ boundaries config host index text := by
  unfold boundaries
  split
  · simp
  · split
    · simp
    · simp

theorem le_of_mem_boundaries {index n : Nat} {text : List Char}
    (member : n ∈ boundaries config host index text) : index ≤ n := by
  fun_induction boundaries config host index text with
  | case1 => simp_all
  | case2 => simp_all
  | case3 index c text input next ih =>
      rw [List.mem_cons] at member
      rcases member with same | later
      · omega
      · have := ih later
        omega

/-! ## One dispatch -/

/-- All of the text is acknowledged, or none of it and the dispatch fails. -/
def AllOrNone (text sent : List Char) : Except PyException DispatchFacts → Prop
  | .ok facts => sent = if facts.error.isNone then text else []
  | .error _ => sent = []

theorem executeOperation_sends :
    Act.Sends acknowledgements (executeOperation op) s (AllOrNone (operationText op)) := by
  unfold executeOperation
  split
  · exact Act.sends_pure rfl
  · apply Act.sends_attempt
    intro answer
    cases answer with
    | ok facts => rfl
    | error e => rfl

theorem operationExecutor_sends :
    Act.Sends acknowledgements (operationExecutor op) s (AllOrNone (operationText op)) :=
  (Act.sends_attempt fun _ => rfl : Act.Sends acknowledgements
    (Act.attempt (S := TypingSig) (.admitOperation op) id : TypingAct Unit) s _).first
    (fun _ _ => executeOperation_sends) fun _ => rfl

theorem dispatchTypingKey_sends :
    Act.Sends acknowledgements (dispatchTypingKey op) s (AllOrNone (operationText op)) := by
  refine (Act.sends_ofExcept rfl).first (fun _ _ => ?_) fun _ => rfl
  refine (Act.sends_ofExcept rfl).first (fun _ _ => ?_) fun _ => rfl
  refine (Act.sends_ask fun _ => rfl).first (fun started _ => ?_) fun _ => rfl
  split
  · exact Act.sends_pure rfl
  · apply Act.sends_attempt
    intro answer
    cases answer with
    | ok facts => rfl
    | error e => rfl

theorem dispatchTypingText_sends (text : List Char) :
    Act.Sends acknowledgements (dispatchTypingText text) s (AllOrNone text) := by
  refine (Act.sends_ask fun _ => rfl).first (fun started _ => ?_) fun _ => rfl
  split
  · exact Act.sends_pure rfl
  · have typed : Act.Sends acknowledgements
        (Act.ask (S := TypingSig) (.type text) : TypingAct (Except PyException Unit)) ()
        fun sent r => ∃ answer, r = .ok answer ∧ sent = acknowledgedText ⟨.type text, answer⟩ :=
      Act.sends_ask fun answer => ⟨answer, rfl, rfl⟩
    refine typed.bind (T := AllOrNone text) ?_ ?_
    · rintro sent answer _ ⟨answer', same, isSent⟩
      cases same
      rw [isSent]
      cases answer with
      | ok _ => exact Act.sends_pure (List.append_nil _)
      | error e => exact Act.sends_pure rfl
    · rintro sent e ⟨answer, same, -⟩
      cases same

theorem dispatchKey_sends (path : Path) (index : Nat) (key : String) :
    Act.Sends acknowledgements (path.dispatchKey config index key) s (AllOrNone (keyText key)) := by
  cases path with
  | governed => exact operationExecutor_sends
  | direct => exact dispatchTypingKey_sends

/-- How much of an input is acknowledged: the start of it, all of it if the dispatch
succeeds, and less if it fails. -/
def StartOf (text sent : List Char) (r : Except PyException DispatchFacts) : Prop :=
  sent <+: text ∧ ∀ facts, r = .ok facts →
    (facts.error = none → sent = text) ∧ (facts.error ≠ none → sent.length < text.length)

theorem StartOf.of_allOrNone {text sent : List Char} {r : Except PyException DispatchFacts}
    (filled : text ≠ []) (either : AllOrNone text sent r) : StartOf text sent r := by
  have positive := List.length_pos_iff.mpr filled
  cases r with
  | error e =>
      rw [AllOrNone] at either
      subst either
      exact ⟨List.nil_prefix, by simp⟩
  | ok facts =>
      rw [AllOrNone] at either
      cases failed : facts.error with
      | none =>
          have whole : sent = text := by simpa [failed] using either
          subst whole
          refine ⟨List.prefix_rfl, ?_⟩
          intro facts' same
          cases same
          simp [failed]
      | some error =>
          have nothing : sent = [] := by simpa [failed] using either
          subst nothing
          refine ⟨List.nil_prefix, ?_⟩
          intro facts' same
          cases same
          simpa [failed] using positive

theorem dispatchKeys_sends (index : Nat) (text : List Char) :
    Act.Sends acknowledgements (dispatchKeys config index text) s (StartOf text) := by
  induction text generalizing index s with
  | nil => exact Act.sends_pure ⟨List.prefix_rfl, by simp⟩
  | cons c text ih =>
      have first := @dispatchKey_sends config s .governed index (String.ofList [c])
      rw [keyText_single] at first
      refine first.bind (T := StartOf (c :: text)) ?_ ?_
      · intro sent receipt _ either
        rw [AllOrNone] at either
        cases failed : receipt.error with
        | none =>
            have whole : sent = [c] := by simpa [failed] using either
            subst whole
            refine (ih (s := ()) (index + 1)).mono ?_
            intro rest r start
            refine ⟨by simpa using start.1, ?_⟩
            intro facts same
            obtain ⟨succeeded, stopped⟩ := start.2 facts same
            refine ⟨fun good => by simp [succeeded good], ?_⟩
            intro bad
            simpa using stopped bad
        | some error =>
            have nothing : sent = [] := by simpa [failed] using either
            subst nothing
            refine Act.sends_pure ⟨List.nil_prefix, ?_⟩
            intro facts same
            cases same
            simp [failed]
      · intro sent e nothing
        rw [AllOrNone] at nothing
        subst nothing
        exact ⟨List.nil_prefix, by simp⟩

/-- On the direct path nothing of an input is acknowledged where its dispatch fails. -/
theorem dispatch_sends {index : Nat} {c : Char} {text : List Char} {input : Input}
    (next : nextInput config host c text = some input) :
    Act.Sends acknowledgements (path.dispatch config index input) s fun sent r =>
      StartOf (c :: text.take input.extra) sent r ∧
      (path = .direct → AllOrNone (c :: text.take input.extra) sent r) := by
  rcases nextInput_some next with ⟨key, isKey, isControl⟩ | ⟨more, isText, isTake, -⟩
  · subst isKey
    obtain ⟨-, types⟩ := controlKey_spec isControl
    have sends := @dispatchKey_sends config s path index key
    rw [types] at sends
    refine sends.mono ?_
    intro sent r either
    exact ⟨.of_allOrNone (by simp) either, fun _ => either⟩
  · subst isText
    simp only [Input.extra, ← isTake]
    cases path with
    | governed =>
        refine (dispatchKeys_sends index (c :: more)).mono ?_
        intro sent r start
        exact ⟨start, by simp⟩
    | direct =>
        refine (dispatchTypingText_sends (c :: more)).mono ?_
        intro sent r either
        exact ⟨.of_allOrNone (by simp) either, fun _ => either⟩

/-! ## The loop -/

/-- What the loop has sent from a position of the text on, and what it says of it. -/
def Progress (config : TypingSessionConfig) (host : TypingHost) (path : Path) (index : Nat)
    (text sent : List Char) (r : Except PyException (Option Stop)) : Prop :=
  sent <+: text ∧
  (r = .ok none → sent = text ∧ index + sent.length ∈ boundaries config host index text) ∧
  ∀ stop, r = .ok (some stop) →
    (stop.typed = index + sent.length ↔
      index + sent.length ∈ boundaries config host index text) ∧
    (path = .direct → stop.typed = index + sent.length)

/-- What a successful dispatch puts before the rest of the text. -/
theorem Progress.after {index : Nat} {c : Char} {text sent : List Char} {input : Input}
    {r : Except PyException (Option Stop)}
    (next : nextInput config host c text = some input)
    (progress : Progress config host path (index + input.extra + 1) (text.drop input.extra) sent r) :
    Progress config host path index (c :: text) (c :: text.take input.extra ++ sent) r := by
  obtain ⟨start, finished, stopped⟩ := progress
  obtain ⟨-, -, length⟩ := nextInput_splits next
  have position : index + (c :: text.take input.extra ++ sent).length =
      index + input.extra + 1 + sent.length := by
    rw [List.length_append, List.length_cons, length]
    omega
  have bounds : index + (c :: text.take input.extra ++ sent).length ∈
        boundaries config host index (c :: text) ↔
      index + input.extra + 1 + sent.length ∈
        boundaries config host (index + input.extra + 1) (text.drop input.extra) := by
    rw [position, boundaries, next]
    simp only [List.mem_cons]
    constructor
    · rintro (same | later)
      · omega
      · exact later
    · exact .inr
  refine ⟨?_, ?_, ?_⟩
  · have whole : c :: text = (c :: text.take input.extra) ++ text.drop input.extra := by simp
    rw [whole]
    exact (List.prefix_append_right_inj _).mpr start
  · intro done
    obtain ⟨all, member⟩ := finished done
    exact ⟨by simp [all], bounds.mpr member⟩
  · intro stop same
    obtain ⟨exact_, direct⟩ := stopped stop same
    rw [bounds, position]
    exact ⟨exact_, direct⟩

theorem typeFrom_sends (path : Path) (index : Nat) (text : List Char) :
    Act.Sends acknowledgements (typeFrom config host path index text) s
      (Progress config host path index text) := by
  fun_induction typeFrom config host path index text generalizing s with
  | case1 index =>
      exact Act.sends_pure ⟨List.prefix_rfl, by simp [boundaries], by simp⟩
  | case2 index c text next =>
      refine Act.sends_pure ⟨List.nil_prefix, by simp, ?_⟩
      intro stop same
      cases same
      simp [mem_boundaries_self]
  | case3 index c text input next ih =>
      obtain ⟨-, -, length⟩ := nextInput_splits next
      have start : ∀ sent, sent <+: c :: text.take input.extra → sent <+: c :: text := by
        intro sent isPrefix
        apply isPrefix.trans
        rw [List.prefix_cons_inj]
        exact List.take_prefix _ _
      refine (dispatch_sends next).bind (T := Progress config host path index (c :: text)) ?_ ?_
      · rintro sent receipt _ ⟨⟨isPrefix, ends⟩, direct⟩
        obtain ⟨succeeded, failed⟩ := ends receipt rfl
        cases outcome : receipt.error with
        | some error =>
            refine Act.sends_pure ⟨by simpa using start _ isPrefix, by simp, ?_⟩
            intro stop same
            cases same
            have short := failed (by simp [outcome])
            rw [List.length_cons, length] at short
            refine ⟨?_, ?_⟩
            · rw [boundaries, next]
              simp only [List.append_nil, List.mem_cons]
              constructor
              · intro same
                exact .inl same.symm
              · rintro (same | later)
                · exact same.symm
                · have := le_of_mem_boundaries later
                  omega
            · intro isDirect
              have nothing := direct isDirect
              rw [AllOrNone, outcome] at nothing
              simp at nothing
              simp [nothing]
        | none =>
            have whole := succeeded outcome
            subst whole
            have rest : Act.Sends acknowledgements
                (typeFrom config host path (index + input.extra + 1) (text.drop input.extra)) ()
                fun ys r => Progress config host path index (c :: text)
                  (c :: text.take input.extra ++ ys) r :=
              ih.mono fun ys r progress => progress.after next
            dsimp only
            split
            · refine (Act.sends_attempt fun _ => rfl).first (fun _ _ => rest) fun e => ?_
              exact ⟨by simpa using start _ isPrefix, by simp, by simp⟩
            · exact rest
      · rintro sent e ⟨⟨isPrefix, -⟩, -⟩
        exact ⟨start _ isPrefix, by simp, by simp⟩

/-! ## A session -/

theorem execute_targetOperation_sends :
    Act.Sends acknowledgements (path.execute config.targetOperation) s fun sent _ => sent = [] := by
  have none : operationText config.targetOperation = [] := rfl
  have sends : Act.Sends acknowledgements (path.execute config.targetOperation) s
      (AllOrNone (operationText config.targetOperation)) := by
    cases path with
    | governed => exact operationExecutor_sends
    | direct => exact executeOperation_sends
  refine sends.mono ?_
  intro sent r either
  rw [none] at either
  cases r with
  | ok facts => simpa [AllOrNone] using either
  | error e => exact either

/-- What a session has sent, and what it reports. -/
def Reported (config : TypingSessionConfig) (host : TypingHost) (path : Path) (sent : List Char)
    (r : Except PyException TypingSessionResult) : Prop :=
  sent <+: config.text ∧ ∀ result, r = .ok result →
    (result.typedCharacters = sent.length ↔
      sent.length ∈ boundaries config host 0 config.text) ∧
    (path = .direct → result.typedCharacters = sent.length)

theorem Reported.of_exact {sent : List Char} {typed : Nat} {result : TypingSessionResult}
    (isPrefix : sent <+: config.text) (reports : result.typedCharacters = typed)
    (exact_ : typed = sent.length ↔ sent.length ∈ boundaries config host 0 config.text)
    (direct : path = .direct → typed = sent.length) :
    Reported config host path sent (.ok result) := by
  refine ⟨isPrefix, ?_⟩
  intro result' same
  cases same
  rw [reports]
  exact ⟨exact_, direct⟩

theorem run_sends (path : Path) :
    Act.Sends acknowledgements (run config host path) s (Reported config host path) := by
  refine execute_targetOperation_sends.first (fun receipt _ => ?_) fun e =>
    ⟨List.nil_prefix, by simp⟩
  split
  · apply Act.sends_pure
    apply Reported.of_exact List.nil_prefix rfl ?_ (fun _ => rfl)
    exact iff_of_true rfl (by simp [mem_boundaries_self])
  · refine (typeFrom_sends path 0 config.text).bind ?_ ?_
    · intro sent stopped _ progress
      obtain ⟨isPrefix, finished, stops⟩ := progress
      cases stopped with
      | some stop =>
          obtain ⟨exact_, direct⟩ := stops stop rfl
          rw [Nat.zero_add] at exact_ direct
          apply Act.sends_pure
          rw [List.append_nil]
          exact .of_exact isPrefix rfl exact_ direct
      | none =>
          obtain ⟨all, member⟩ := finished rfl
          subst all
          rw [Nat.zero_add] at member
          have whole (result : TypingSessionResult)
              (reports : result.typedCharacters = config.text.length) :
              Reported config host path (config.text ++ []) (.ok result) := by
            rw [List.append_nil]
            exact .of_exact isPrefix reports (by simp [member]) (by simp)
          dsimp only
          split
          · exact Act.sends_pure (whole _ rfl)
          · refine (Act.sends_attempt fun _ => rfl).first (fun passed _ => ?_) fun e => ?_
            · split
              · exact Act.sends_pure (whole _ rfl)
              · exact Act.sends_pure (whole _ rfl)
            · exact ⟨by simp, by simp⟩
    · intro sent e progress
      exact ⟨progress.1, by simp⟩

/-- A session returns or raises; its acknowledged characters are the start of the text;
and the number it reports is theirs exactly where they end with an input, as they always
do on the direct path. -/
theorem typed_exact_iff (config : TypingSessionConfig) (host : TypingHost) (path : Path) :
    Act.Terminates (run config host path) ∧
    ∀ t r s', Act.Runs (run config host path) () t r s' →
      acknowledgements.sent t <+: config.text ∧ ∀ result, r = .ok result →
        (result.typedCharacters = (acknowledgements.sent t).length ↔
          (acknowledgements.sent t).length ∈ boundaries config host 0 config.text) ∧
        (path = .direct → result.typedCharacters = (acknowledgements.sent t).length) :=
  ⟨terminates_run path, fun t r s' ran => run_sends path t r s' ran⟩

/-- A blank inside a batch ends a governed session that has typed a character and
reports none. -/
theorem typed_of_blank : (typingConfig "a b").validate = .ok () ∧
    ∃ t r s', Act.Runs (run (typingConfig "a b") asciiTyping .governed) () t r s' ∧
      acknowledgements.sent t = ['a'] ∧ r.toOption.map (·.typedCharacters) = some 0 := by
  have valid : (typingConfig "a b").validate = .ok () := by decide +kernel
  obtain ⟨t, r, s', ran, shown⟩ := Act.exists_runs calm
    (run (typingConfig "a b") asciiTyping .governed) () ()
    (fun t r _ => acknowledgements.sent t = ['a'] ∧ r.toOption.map (·.typedCharacters) = some 0)
    (by decide +kernel)
  exact ⟨valid, t, r, s', ran, of_decide_eq_true shown⟩

end Dingdongditch.Typing
