import Dingdongditch.Authentication.ImportReceipt
import Dingdongditch.Authentication.SessionImport
import Dingdongditch.Interaction.Scripted
import Dingdongditch.Text.JsonLayout

/-!
# Where an import of a session may stop

An import that stops while it reads leaves the context as it is.  Later there is no way
back: what the steps before a failed one have done stays (`ImportOutcome` lists the cut
points).  Pages of the context may store things of their own at any time, so all this is
said of runs in which they store nothing (`Quiet`).
-/

namespace Dingdongditch.SessionImport

open Interaction Text PortableState

variable {F : Type}

/-! ## What the scripts have written -/

/-- The items that a script has set, in a page that was sent to one origin and arrived at another. -/
structure Write where
  sentTo : String
  arrived : String
  items : List (String × String)
  deriving DecidableEq, Repr

def write? (event : Event (ImportSig F)) : Option Write :=
  match event with
  | ⟨.evaluate origin items, answer⟩ =>
      match (answer : Answered (.evaluate origin items)).result with
      | .ok arrived => some ⟨origin, arrived, items⟩
      | .error (_, some (arrived, count)) => some ⟨origin, arrived, items.take count⟩
      | .error (_, none) => none
  | _ => none

def written (t : Trace (ImportSig F)) : List Write := t.filterMap write?

/-- The origins that were asked for, with the items. -/
def pairs (writes : List Write) : List (String × List (String × String)) :=
  writes.map fun write => (write.sentTo, write.items)

def pair (origin : PortableOrigin F) : String × List (String × String) :=
  (origin.origin, origin.localStorage)

def BrowserContext.writes (context : BrowserContext F) (writes : List Write) : BrowserContext F :=
  writes.foldl (fun context write => context.store write.arrived write.items) context

/-- No page of the context stores anything itself. -/
def Quiet (t : Trace (ImportSig F)) : Prop :=
  ∀ event ∈ t, (event.2 : Answered event.1).pages = []

/-- A call of the browser -/
def IsBrowser (event : Event (ImportSig F)) : Prop := ImportCall.isBrowser event.1 = true

/-- A call that failed -/
def Failed (event : Event (ImportSig F)) : Prop :=
  ∃ e, (event.2 : Answered event.1).result = .error e

section Writes

variable {context : BrowserContext F} {t u : Trace (ImportSig F)}

theorem written_append : written (t ++ u) = written t ++ written u := List.filterMap_append

theorem quiet_append : Quiet (t ++ u) ↔ Quiet t ∧ Quiet u := by
  unfold Quiet
  exact List.forall_mem_append

theorem writes_append (first second : List Write) :
    context.writes (first ++ second) = (context.writes first).writes second := List.foldl_append

theorem pairs_append (first second : List Write) : pairs (first ++ second) = pairs first ++ pairs second :=
  List.map_append

theorem writes_cookies (writes : List Write) : (context.writes writes).cookies = context.cookies := by
  induction writes generalizing context with
  | nil => rfl
  | cons write rest ih => exact ih

theorem writes_elsewhere {writes : List Write} {origin : String}
    (elsewhere : origin ∉ writes.map (·.arrived)) :
    (context.writes writes).localStorage origin = context.localStorage origin := by
  induction writes generalizing context with
  | nil => rfl
  | cons write rest ih =>
      rw [List.map_cons, List.mem_cons, not_or] at elsewhere
      have here : (context.store write.arrived write.items).localStorage origin =
          context.localStorage origin := Function.update_of_ne elsewhere.1 _ _
      exact (ih elsewhere.2).trans here

end Writes

/-! ## Steps -/

section Steps

variable {put : List (Cookie F) → Cookie F → List (Cookie F)} {context context' : BrowserContext F}
  {t : Trace (ImportSig F)}

theorem step_inv {call : ImportCall F} {r : Except Raised call.Value}
    (run : Act.Runs (step put call) context t r context') (quiet : Quiet t) :
    ∃ answer : Answered call, t = [⟨call, answer⟩] ∧ r = answer.result.mapError (·.1) ∧
      context' = effect put call answer.result context := by
  obtain ⟨answer, rest, rfl, asked⟩ := run.ask_bind_inv
  have answered := asked.modify_bind_inv
  obtain ⟨rfl, rfl, rfl⟩ := Act.runs_ofExcept.mp answered
  have none : (answer : Answered call).pages = [] := quiet _ List.mem_cons_self
  refine ⟨answer, rfl, rfl, ?_⟩
  rw [none]
  rfl

/-- Reading changes nothing. -/
theorem file_step {call : ImportCall F} {r : Except Raised call.Value} (isFile : call.isBrowser = false)
    (run : Act.Runs (step put call) context t r context') (quiet : Quiet t) :
    context' = context ∧ ¬ Happens IsBrowser t := by
  obtain ⟨answer, rfl, -, rfl⟩ := step_inv run quiet
  constructor
  · cases call <;> first | rfl | cases isFile
  · rw [happens_cons]
    intro happens
    rcases happens with isBrowser | rest
    · rw [IsBrowser, isFile] at isBrowser
      cases isBrowser
    · exact not_happens_nil rest

/-- Opening, sending and closing a page changes nothing that an import is about. -/
def ImportCall.isPageCall : ImportCall F → Bool
  | newPage | goto _ | closePage => true
  | _ => false

theorem page_step {call : ImportCall F} {r : Except Raised call.Value} (isPage : call.isPageCall = true)
    (run : Act.Runs (step put call) context t r context') (quiet : Quiet t) :
    context' = context ∧ written t = [] := by
  obtain ⟨answer, rfl, -, rfl⟩ := step_inv run quiet
  cases call <;> first | exact ⟨rfl, rfl⟩ | cases isPage

/-- A part of the items of an origin has been written, or nothing. -/
def PartOf (origin : PortableOrigin F) (writes : List Write) : Prop :=
  writes = [] ∨ ∃ count, pairs writes = [(origin.origin, origin.localStorage.take count)]

theorem partOf_of_whole {origin : PortableOrigin F} {writes : List Write}
    (whole : pairs writes = [pair origin]) : PartOf origin writes := by
  refine .inr ⟨origin.localStorage.length, ?_⟩
  rw [whole, pair, List.take_length]

theorem evaluate_step {origin : PortableOrigin F} {r : Except Raised String}
    (run : Act.Runs (step put (.evaluate origin.origin origin.localStorage)) context t r context')
    (quiet : Quiet t) :
    context' = context.writes (written t) ∧
      ((∃ arrived, r = .ok arrived) ∧ pairs (written t) = [pair origin] ∨
        (∃ e, r = .error e) ∧ PartOf origin (written t)) := by
  obtain ⟨⟨pages, result⟩, rfl, rfl, rfl⟩ := step_inv run quiet
  match result with
  | .ok arrived => exact ⟨rfl, .inl ⟨⟨arrived, rfl⟩, rfl⟩⟩
  | .error (e, some (arrived, count)) => exact ⟨rfl, .inr ⟨⟨e, rfl⟩, .inr ⟨count, rfl⟩⟩⟩
  | .error (e, none) => exact ⟨rfl, .inr ⟨⟨e, rfl⟩, .inl rfl⟩⟩

end Steps

/-! ## Origins -/

section Origins

variable {put : List (Cookie F) → Cookie F → List (Cookie F)} {context context' : BrowserContext F}
  {t : Trace (ImportSig F)}

/-- Some origins are written, one at most in part, and the rest is not reached. -/
def CutAt (origins : List (PortableOrigin F)) (writes : List Write) : Prop :=
  ∃ done next rest whole part, origins = done ++ next :: rest ∧ writes = whole ++ part ∧
    pairs whole = done.map pair ∧ PartOf next part

/-- The page is closed after its scripts, whether they fail or not. -/
theorem importOrigin_runs {origin : PortableOrigin F} {r : Except Raised Unit}
    (run : Act.Runs (importOrigin put origin) context t r context') (quiet : Quiet t) :
    context' = context.writes (written t) ∧
      (r = .ok () ∧ pairs (written t) = [pair origin] ∨
        (∃ e, r = .error e) ∧ PartOf origin (written t)) := by
  rcases run.bind_inv with ⟨e, rfl, raised⟩ | ⟨opening, _, context₁, rest, rfl, opened, visit⟩
  · obtain ⟨rfl, nowhere⟩ := page_step rfl raised quiet
    rw [nowhere]
    exact ⟨rfl, .inr ⟨⟨e, rfl⟩, .inl rfl⟩⟩
  obtain ⟨quietOpening, quietRest⟩ := quiet_append.mp quiet
  obtain ⟨rfl, opens⟩ := page_step rfl opened quietOpening
  obtain ⟨scripts, r₁, context₂, closing, closes, rfl, body, close, isResult⟩ := Act.runs_andFinally.mp visit
  obtain ⟨quietScripts, quietClosing⟩ := quiet_append.mp quietRest
  obtain ⟨rfl, ends⟩ := page_step rfl close quietClosing
  have writes : written (opening ++ (scripts ++ closing)) = written scripts := by
    rw [written_append, written_append, opens, ends, List.nil_append, List.append_nil]
  rw [writes]
  have visited : context' = context₁.writes (written scripts) ∧
      (r₁ = .ok () ∧ pairs (written scripts) = [pair origin] ∨
        (∃ e, r₁ = .error e) ∧ PartOf origin (written scripts)) := by
    rcases body.bind_inv with ⟨e, rfl, raised⟩ | ⟨going, _, context₃, later, rfl, gone, scripted⟩
    · obtain ⟨rfl, nowhere⟩ := page_step rfl raised quietScripts
      rw [nowhere]
      exact ⟨rfl, .inr ⟨⟨e, rfl⟩, .inl rfl⟩⟩
    obtain ⟨quietGoing, quietLater⟩ := quiet_append.mp quietScripts
    obtain ⟨rfl, goes⟩ := page_step rfl gone quietGoing
    rw [written_append, goes, List.nil_append]
    rcases scripted.bind_inv with ⟨e, rfl, raised⟩ | ⟨evaluating, _, context₄, last, rfl, evaluated, ended⟩
    · obtain ⟨isContext, isWritten⟩ := evaluate_step raised quietLater
      refine ⟨isContext, ?_⟩
      rcases isWritten with ⟨⟨_, isOk⟩, -⟩ | ⟨-, part⟩
      · cases isOk
      · exact .inr ⟨⟨e, rfl⟩, part⟩
    · obtain ⟨rfl, rfl, rfl⟩ := Act.runs_pure.mp ended
      rw [List.append_nil] at quietLater ⊢
      obtain ⟨isContext, isWritten⟩ := evaluate_step evaluated quietLater
      refine ⟨isContext, ?_⟩
      rcases isWritten with ⟨-, whole⟩ | ⟨⟨_, isError⟩, -⟩
      · exact .inl ⟨rfl, whole⟩
      · cases isError
  refine ⟨visited.1, ?_⟩
  cases closes with
  | ok _ =>
      rw [isResult]
      exact visited.2
  | error e =>
      refine .inr ⟨⟨e, isResult⟩, ?_⟩
      rcases visited.2 with ⟨-, whole⟩ | ⟨-, part⟩
      · exact partOf_of_whole whole
      · exact part

theorem importOrigins_runs {origins : List (PortableOrigin F)} {r : Except Raised Unit}
    (run : Act.Runs (importOrigins put origins) context t r context') (quiet : Quiet t) :
    context' = context.writes (written t) ∧
      (r = .ok () ∧ pairs (written t) = origins.map pair ∨
        (∃ e, r = .error e) ∧ CutAt origins (written t)) := by
  induction origins generalizing context t with
  | nil =>
      obtain ⟨rfl, rfl, rfl⟩ := Act.runs_pure.mp run
      exact ⟨rfl, .inl ⟨rfl, rfl⟩⟩
  | cons origin rest ih =>
      rcases run.bind_inv with ⟨e, rfl, raised⟩ | ⟨first, _, context₁, later, rfl, returned, others⟩
      · obtain ⟨isContext, isWritten⟩ := importOrigin_runs raised quiet
        refine ⟨isContext, .inr ⟨⟨e, rfl⟩, ?_⟩⟩
        rcases isWritten with ⟨isOk, -⟩ | ⟨-, part⟩
        · cases isOk
        · exact ⟨[], origin, rest, [], written t, rfl, rfl, rfl, part⟩
      · obtain ⟨quietFirst, quietLater⟩ := quiet_append.mp quiet
        obtain ⟨isContext, isWritten⟩ := importOrigin_runs returned quietFirst
        obtain ⟨isContext', isWritten'⟩ := ih others quietLater
        rcases isWritten with ⟨-, whole⟩ | ⟨⟨_, isError⟩, -⟩
        · rw [written_append, writes_append, ← isContext]
          refine ⟨isContext', ?_⟩
          rcases isWritten' with ⟨isOk, all⟩ | ⟨isError, done, next, unreached, whole', part, split, rest', areDone, isPart⟩
          · refine .inl ⟨isOk, ?_⟩
            rw [pairs_append, whole, all]
            rfl
          · refine .inr ⟨isError, origin :: done, next, unreached, written first ++ whole', part, ?_, ?_, ?_, isPart⟩
            · rw [split, List.cons_append]
            · rw [rest', List.append_assoc]
            · rw [pairs_append, whole, areDone]
              rfl
        · cases isError

end Origins

/-! ## Failures -/

section Failures

variable {put : List (Cookie F) → Cookie F → List (Cookie F)}

/-- The statement raises only what one of its calls raised. -/
def Blames {α : Type} (m : Import F α) : Prop :=
  ∀ context t e context', Act.Runs m context t (.error e) context' → Happens Failed t

theorem blames_step (call : ImportCall F) : Blames (step put call) := by
  intro context t e context' run
  obtain ⟨answer, rest, rfl, asked⟩ := run.ask_bind_inv
  obtain ⟨rfl, isError, -⟩ := Act.runs_ofExcept.mp asked.modify_bind_inv
  refine ⟨_, List.mem_singleton_self _, ?_⟩
  change Answered call at answer
  cases isResult : answer.result with
  | ok a =>
      rw [isResult] at isError
      cases isError
  | error e => exact ⟨e, isResult⟩

theorem blames_pure {α : Type} (a : α) : Blames (pure a : Import F α) := by
  intro context t e context' run
  obtain ⟨-, isError, -⟩ := Act.runs_pure.mp run
  cases isError

theorem Blames.bind {α β : Type} {m : Import F α} {f : α → Import F β} (first : Blames m)
    (second : ∀ a, Blames (f a)) : Blames (m >>= f) := by
  intro context t e context' run
  rcases run.bind_inv with ⟨e', isError, raised⟩ | ⟨early, a, context₁, rest, rfl, -, later⟩
  · exact first _ _ _ _ raised
  · exact happens_append.mpr (.inr (second a _ _ _ _ later))

theorem Blames.andFinally {α : Type} {m : Import F α} {cleanup : Import F Unit} (body : Blames m)
    (last : Blames cleanup) : Blames (m.andFinally cleanup) := by
  intro context t e context' run
  obtain ⟨early, r, context₁, rest, c, rfl, ran, cleaned, isError⟩ := Act.runs_andFinally.mp run
  rw [happens_append]
  cases c with
  | ok _ =>
      obtain rfl : .error e = r := isError
      exact .inl (body _ _ _ _ ran)
  | error e' => exact .inr (last _ _ _ _ cleaned)

theorem importOrigin_blames (origin : PortableOrigin F) : Blames (importOrigin put origin) := by
  refine (blames_step _).bind fun _ => Blames.andFinally ?_ (blames_step _)
  refine (blames_step _).bind fun _ => (blames_step _).bind fun _ => blames_pure _

theorem importOrigins_blames (origins : List (PortableOrigin F)) : Blames (importOrigins put origins) := by
  induction origins with
  | nil => exact blames_pure _
  | cons origin rest ih => exact (importOrigin_blames origin).bind fun _ => ih

end Failures

/-! ## Reading -/

section Reading

variable {put : List (Cookie F) → Cookie F → List (Cookie F)}

/-- A statement that does not touch the context -/
def Aside {α : Type} (m : Import F α) : Prop :=
  ∀ context t r context', Act.Runs m context t r context' → Quiet t →
    context' = context ∧ ¬ Happens IsBrowser t

theorem aside_file {call : ImportCall F} (isFile : call.isBrowser = false) : Aside (step put call) :=
  fun _ _ _ _ run quiet => file_step isFile run quiet

theorem Aside.of_calm {α : Type} {m : Import F α} (calm : Act.Calm IsBrowser m) : Aside m :=
  fun context t r context' run _ => calm context t r context' run

theorem Aside.bind {α β : Type} {m : Import F α} {f : α → Import F β} (first : Aside m)
    (second : ∀ a, Aside (f a)) : Aside (m >>= f) := by
  intro context t r context' run quiet
  rcases run.bind_inv with ⟨e, rfl, raised⟩ | ⟨early, a, context₁, rest, rfl, returned, later⟩
  · exact first _ _ _ _ raised quiet
  · obtain ⟨quietEarly, quietRest⟩ := quiet_append.mp quiet
    obtain ⟨rfl, none⟩ := first _ _ _ _ returned quietEarly
    obtain ⟨rfl, none'⟩ := second a _ _ _ _ later quietRest
    refine ⟨rfl, ?_⟩
    rw [happens_append]
    intro either
    exact either.elim none none'

/-- Without a browser call nothing is written. -/
theorem written_of_aside {t : Trace (ImportSig F)} (aside : ¬ Happens IsBrowser t) : written t = [] := by
  unfold written
  rw [List.filterMap_eq_nil_iff]
  intro event member
  have notBrowser : ¬ IsBrowser event := fun isBrowser => aside ⟨event, member, isBrowser⟩
  obtain ⟨call, answer⟩ := event
  cases call <;> first | rfl | exact (notBrowser rfl).elim

/-! ## Cookies -/

variable {context context' : BrowserContext F} {t : Trace (ImportSig F)} {r : Except Raised Unit}

/-- The call and its answer, with nothing stored meanwhile. -/
abbrev answers (call : ImportCall F) (result : Except (Raised × call.Partly) call.Value) :
    Event (ImportSig F) := ⟨call, ({ result } : Answered call)⟩

theorem step_answers {call : ImportCall F} {α : Except Raised call.Value}
    (run : Act.Runs (step put call) context t α context') (quiet : Quiet t) :
    ∃ result, t = [answers call result] ∧ α = result.mapError (·.1) ∧
      context' = effect put call result context := by
  have silent := quiet
  obtain ⟨⟨pages, result⟩, rfl, isResult, isContext⟩ := step_inv run quiet
  obtain rfl : pages = [] := silent _ (List.mem_singleton_self _)
  exact ⟨result, rfl, isResult, isContext⟩

theorem clearCookies_runs (run : Act.Runs (step put .clearCookies) context t r context')
    (quiet : Quiet t) :
    (r = .ok () ∧ t = [answers .clearCookies (.ok ())] ∧ context' = { context with cookies := [] }) ∨
      ∃ e left, r = .error e ∧ t = [answers .clearCookies (.error (e, left))] ∧
        context' = { context with cookies := left } := by
  obtain ⟨result, rfl, rfl, rfl⟩ := step_answers run quiet
  match result with
  | .ok () => exact .inl ⟨rfl, rfl, rfl⟩
  | .error (e, left) => exact .inr ⟨e, left, rfl, rfl, rfl⟩

/-- The calls that add cookies: none where there are none. -/
def adds (cookies : List (Cookie F)) : Trace (ImportSig F) :=
  if cookies.isEmpty then [] else [answers (.addCookies cookies) (.ok ())]

theorem addCookies_runs {cookies : List (Cookie F)}
    (run : Act.Runs (addCookies put cookies) context t r context') (quiet : Quiet t) :
    (r = .ok () ∧ t = adds cookies ∧
        context' = { context with cookies := cookies.foldl put context.cookies }) ∨
      ∃ e left, r = .error e ∧ t = [answers (.addCookies cookies) (.error (e, left))] ∧
        context' = { context with cookies := left } := by
  cases cookies with
  | nil =>
      obtain ⟨rfl, rfl, rfl⟩ := Act.runs_pure.mp run
      exact .inl ⟨rfl, rfl, rfl⟩
  | cons cookie cookies =>
      obtain ⟨result, rfl, rfl, rfl⟩ := step_answers run quiet
      match result with
      | .ok () => exact .inl ⟨rfl, rfl, rfl⟩
      | .error (e, left) => exact .inr ⟨e, left, rfl, rfl, rfl⟩

omit r in
theorem written_adds (cookies : List (Cookie F)) : written (adds cookies) = [] := by
  unfold adds
  split <;> rfl

end Reading

/-! ## Imports -/

section Imports

variable [Floating F] [Json.ReadsFloat F] {codec : HostCodec}
  {put : List (Cookie F) → Cookie F → List (Cookie F)} {maxAgeMs : Int}
  {context context' : BrowserContext F} {t : Trace (ImportSig F)}

/-- The run began with the reading of a file that holds this state, and went on with
these calls. -/
def Read (codec : HostCodec) (put : List (Cookie F) → Cookie F → List (Cookie F)) (maxAgeMs : Int)
    (context : BrowserContext F) (t : Trace (ImportSig F)) (state : StorageState F) (receipt : Receipt)
    (steps : Trace (ImportSig F)) : Prop :=
  ∃ early, t = early ++ steps ∧
    Act.Runs (readState codec put maxAgeMs) context early (.ok (state, receipt)) context

/-- The calls that replace the cookies of the context. -/
def replaces (cookies : List (Cookie F)) : Trace (ImportSig F) :=
  answers .clearCookies (.ok ()) :: adds cookies

/-- The calls end with one that failed to replace the cookies, and left these. -/
inductive CookiesFail (cookies : List (Cookie F)) (left : List (Cookie F)) (e : Raised) :
    Trace (ImportSig F) → Prop
  | clearing : CookiesFail cookies left e [answers .clearCookies (.error (e, left))]
  | adding : CookiesFail cookies left e
      [answers .clearCookies (.ok ()), answers (.addCookies cookies) (.error (e, left))]

/-- The context with the cookies of a state, and with some local storage written. -/
def BrowserContext.imported (put : List (Cookie F) → Cookie F → List (Cookie F)) (state : StorageState F)
    (writes : List Write) (context : BrowserContext F) : BrowserContext F :=
  BrowserContext.writes { context with cookies := state.cookies.foldl put [] } writes

/-- How an import may end, with one case for each kind of cut point. -/
inductive ImportOutcome (codec : HostCodec) (put : List (Cookie F) → Cookie F → List (Cookie F))
    (maxAgeMs : Int) (context : BrowserContext F) (t : Trace (ImportSig F)) :
    Except Raised Receipt → BrowserContext F → Prop
  /-- The browser was not called. -/
  | untouched (e : Raised) (aside : ¬ Happens IsBrowser t) :
      ImportOutcome codec put maxAgeMs context t (.error e) context
  /-- A call failed that replaces the cookies, the last one; it left these. -/
  | cookiesFailed (state : StorageState F) (receipt : Receipt) (steps : Trace (ImportSig F))
      (read : Read codec put maxAgeMs context t state receipt steps) (e e' : Raised)
      (left : List (Cookie F)) (fail : CookiesFail state.cookies left e' steps) :
      ImportOutcome codec put maxAgeMs context t (.error e) { context with cookies := left }
  /-- The cookies were replaced, and a call for an origin failed. -/
  | originFailed (state : StorageState F) (receipt : Receipt) (visits : Trace (ImportSig F))
      (read : Read codec put maxAgeMs context t state receipt (replaces state.cookies ++ visits))
      (e : Raised) (fail : Happens Failed visits) (cut : CutAt state.origins (written t)) :
      ImportOutcome codec put maxAgeMs context t (.error e) (context.imported put state (written t))
  | returned (state : StorageState F) (receipt : Receipt) (visits : Trace (ImportSig F))
      (read : Read codec put maxAgeMs context t state receipt (replaces state.cookies ++ visits))
      (all : pairs (written t) = state.origins.map pair) :
      ImportOutcome codec put maxAgeMs context t (.ok receipt) (context.imported put state (written t))

omit [Json.ReadsFloat F] in
theorem aside_validateFile (raw : Json F) : Aside (validateFile codec put raw maxAgeMs) := by
  unfold validateFile
  cases raw with
  | dict entries =>
      dsimp only
      split
      · exact .of_calm (Act.calm_ofExcept _)
      · exact (aside_file rfl).bind fun _ => .of_calm (Act.calm_ofExcept _)
  | _ => exact .of_calm (Act.calm_throw _)

theorem aside_readState : Aside (readState codec put maxAgeMs) := by
  unfold readState
  refine (aside_file rfl).bind fun size => ?_
  split
  · exact .of_calm (Act.calm_throw _)
  · refine (aside_file rfl).bind fun text => ?_
    exact (Aside.of_calm (Act.calm_ofExcept _)).bind fun raw => aside_validateFile raw

theorem ImportOutcome.failed_with {e : Raised}
    (outcome : ImportOutcome codec put maxAgeMs context t (.error e) context') (e' : Raised) :
    ImportOutcome codec put maxAgeMs context t (.error e') context' := by
  cases outcome with
  | untouched _ aside => exact .untouched e' aside
  | cookiesFailed state receipt steps read _ raised left fail =>
      exact .cookiesFailed state receipt steps read e' raised left fail
  | originFailed state receipt visits read _ fail cut =>
      exact .originFailed state receipt visits read e' fail cut

theorem importFile_outcome {r : Except Raised Receipt}
    (run : Act.Runs (importFile codec put maxAgeMs) context t r context') (quiet : Quiet t) :
    ImportOutcome codec put maxAgeMs context t r context' := by
  rcases run.bind_inv with ⟨e, rfl, raised⟩ | ⟨reading, ⟨state, receipt⟩, context₁, rest, rfl, isRead, steps⟩
  · obtain ⟨rfl, aside⟩ := aside_readState _ _ _ _ raised quiet
    exact .untouched e aside
  obtain ⟨quietReading, quietRest⟩ := quiet_append.mp quiet
  obtain ⟨rfl, aside⟩ := aside_readState _ _ _ _ isRead quietReading
  have reads : written reading = [] := written_of_aside aside
  rcases steps.bind_inv with ⟨e, rfl, raised⟩ | ⟨clearing, _, context₂, later, rfl, cleared, steps⟩
  · rcases clearCookies_runs raised quietRest with ⟨isOk, -⟩ | ⟨e', left, -, rfl, rfl⟩
    · cases isOk
    · exact .cookiesFailed state receipt _ ⟨reading, rfl, isRead⟩ e e' left .clearing
  obtain ⟨quietClearing, quietLater⟩ := quiet_append.mp quietRest
  rcases clearCookies_runs cleared quietClearing with ⟨-, rfl, rfl⟩ | ⟨e', left, isError, -⟩
  case inr => cases isError
  rcases steps.bind_inv with ⟨e, rfl, raised⟩ | ⟨adding, _, context₃, visits, rfl, added, steps⟩
  · rcases addCookies_runs raised quietLater with ⟨isOk, -⟩ | ⟨e', left, -, rfl, rfl⟩
    · cases isOk
    · exact .cookiesFailed state receipt _ ⟨reading, rfl, isRead⟩ e e' left .adding
  obtain ⟨quietAdding, quietVisits⟩ := quiet_append.mp quietLater
  rcases addCookies_runs added quietAdding with ⟨-, rfl, rfl⟩ | ⟨e', left, isError, -⟩
  case inr => cases isError
  have read : Read codec put maxAgeMs context₁ (reading ++ (replaces state.cookies ++ visits)) state
      receipt (replaces state.cookies ++ visits) := ⟨reading, rfl, isRead⟩
  have isWritten : written (reading ++ (replaces state.cookies ++ visits)) = written visits := by
    rw [written_append, written_append, reads, replaces]
    change written (adds state.cookies) ++ written visits = _
    rw [written_adds, List.nil_append]
  change ImportOutcome codec put maxAgeMs context₁ (reading ++ (replaces state.cookies ++ visits)) r context'
  rcases steps.bind_inv with ⟨e, rfl, raised⟩ | ⟨visiting, _, context₄, last, rfl, visited, ended⟩
  · have fail := importOrigins_blames _ _ _ _ _ raised
    obtain ⟨rfl, ⟨isOk, -⟩ | ⟨-, cut⟩⟩ := importOrigins_runs raised quietVisits
    · cases isOk
    · rw [← isWritten] at cut ⊢
      exact .originFailed state receipt visits read e fail cut
  · obtain ⟨rfl, rfl, rfl⟩ := Act.runs_pure.mp ended
    rw [List.append_nil] at quietVisits isWritten read ⊢
    obtain ⟨rfl, ⟨-, all⟩ | ⟨⟨_, isError⟩, -⟩⟩ := importOrigins_runs visited quietVisits
    · rw [← isWritten] at all ⊢
      exact .returned state receipt visiting read all
    · cases isError

theorem importSession_ends {hasContext : Bool} {r : Except Raised Receipt}
    (run : Act.Runs (importSession codec put hasContext maxAgeMs) context t r context') (quiet : Quiet t) :
    ImportOutcome codec put maxAgeMs context t r context' := by
  unfold importSession at run
  cases hasContext with
  | false =>
      obtain ⟨rfl, rfl, rfl⟩ := Act.runs_throw.mp run
      exact .untouched _ not_happens_nil
  | true =>
      rcases Act.runs_tryCatch.mp run with ⟨receipt, rfl, passed⟩ | ⟨early, e, context₁, rest, rfl, raised, handled⟩
      · exact importFile_outcome passed quiet
      · obtain ⟨rfl, rfl, rfl⟩ := Act.runs_throw.mp handled
        rw [List.append_nil] at quiet ⊢
        exact (importFile_outcome raised quiet).failed_with _

omit [Floating F] [Json.ReadsFloat F] in
/-- The last entry of an origin is what its local storage holds, where every page stayed at its origin. -/
theorem imported_localStorage {state : StorageState F} {writes : List Write}
    (all : pairs writes = state.origins.map pair)
    (stayed : ∀ write ∈ writes, write.arrived = write.sentTo)
    {before after : List (PortableOrigin F)} {origin : PortableOrigin F}
    (split : state.origins = before ++ origin :: after)
    (isLast : origin.origin ∉ after.map (·.origin)) :
    (context.imported put state writes).localStorage origin.origin = stored origin.localStorage := by
  rw [split, List.map_append, List.map_cons] at all
  obtain ⟨early, rest, rfl, -, isRest⟩ := List.map_eq_append_iff.mp all
  obtain ⟨write, later, rfl, isWrite, isLater⟩ := List.map_eq_cons_iff.mp isRest
  obtain ⟨sentTo, items⟩ := Prod.mk.inj isWrite
  have arrived : write.arrived = origin.origin := by
    rw [stayed write (by simp), sentTo]
  have arrivals : later.map (·.arrived) = after.map (·.origin) := by
    have sent : later.map (·.sentTo) = after.map (·.origin) := by
      have firsts := congrArg (List.map Prod.fst) isLater
      simpa [pair, Function.comp_def] using firsts
    rw [← sent]
    apply List.map_congr_left
    intro other member
    exact stayed other (by simp [member])
  rw [← arrivals] at isLast
  unfold BrowserContext.imported
  rw [writes_append]
  refine (writes_elsewhere isLast).trans ?_
  rw [← arrived, ← items]
  exact Function.update_self _ _ _

/-- An import ends at one of its cut points; one that returns has brought the cookies, and the last entry
of each origin, where every page stayed at its origin. -/
theorem importSession_outcome {hasContext : Bool} {r : Except Raised Receipt}
    (run : Act.Runs (importSession codec put hasContext maxAgeMs) context t r context') (quiet : Quiet t) :
    ImportOutcome codec put maxAgeMs context t r context' ∧
      ∀ receipt, r = .ok receipt → (∀ write ∈ written t, write.arrived = write.sentTo) →
        ∃ state steps, Read codec put maxAgeMs context t state receipt steps ∧
          context'.cookies = state.cookies.foldl put [] ∧
          ∀ before origin after, state.origins = before ++ origin :: after →
            origin.origin ∉ after.map (·.origin) →
            context'.localStorage origin.origin = stored origin.localStorage := by
  have outcome := importSession_ends run quiet
  refine ⟨outcome, ?_⟩
  intro receipt isOk stayed
  rw [isOk] at outcome
  cases outcome with
  | returned state _ visits read all =>
      refine ⟨state, _, read, writes_cookies _, ?_⟩
      intro before origin after split isLast
      exact imported_localStorage all stayed split isLast

end Imports

/-! ## Two imports -/

def sessionText : List Char := Json.render .compact 0 browserDocument.toJson

/-- A context in which somebody is signed in elsewhere. -/
def signedIn : BrowserContext (Fin 10) where
  cookies := [[("name", .str "sid"), ("value", .str "1"), ("domain", .str "b.example"), ("path", .str "/")]]
  localStorage _ := []

def addToJar (jar : List (Cookie (Fin 10))) (cookie : Cookie (Fin 10)) : List (Cookie (Fin 10)) :=
  jar ++ [cookie]

theorem foldl_addToJar (jar cookies : List (Cookie (Fin 10))) : cookies.foldl addToJar jar = jar ++ cookies := by
  induction cookies generalizing jar with
  | nil => simp
  | cons cookie rest ih =>
      rw [List.foldl_cons, ih, addToJar, List.append_assoc]
      rfl

/-- A browser that takes the cookies or does not. -/
def sessionScript (takes : Bool) : Script (ImportSig (Fin 10)) Unit := fun w call =>
  let answered : Answered call :=
    match call with
    | .stat => { result := .ok 400 }
    | .readText => { result := .ok sessionText }
    | .now => { result := .ok 5000 }
    | .addCookies _ =>
        { result := if takes then .ok () else .error (⟨.other, "Protocol error", none, none⟩, []) }
    | .evaluate origin _ => { result := .ok origin }
    | .clearCookies | .newPage | .goto _ | .closePage => { result := .ok () }
  (answered, w)

theorem quiet_sessionScript (takes : Bool) (w : Unit) (call : ImportCall (Fin 10)) :
    (sessionScript takes w call).1.pages = [] := by
  cases call <;> rfl

theorem importSession_outcome_signedIn :
    ∃ t receipt context',
      Act.Runs (importSession asciiCodec addToJar true defaultMaxAgeMs) signedIn t (.ok receipt) context' ∧
      ∃ state steps, Read asciiCodec addToJar defaultMaxAgeMs signedIn t state receipt steps ∧
        context'.cookies = state.cookies ∧
        context'.localStorage "https://a.example" = [("theme", "dark")] := by
  obtain ⟨t, r, context', run, quiet, shown⟩ := Act.exists_answered_runs (sessionScript true)
    (importSession asciiCodec addToJar true defaultMaxAgeMs) signedIn ()
    (Q := fun event => (event.2 : Answered event.1).pages = []) (quiet_sessionScript true)
    (fun t r context' => r.toOption.isSome && (written t).all (fun write => write.arrived = write.sentTo) &&
      context'.localStorage "https://a.example" = [("theme", "dark")])
    (by decide +kernel)
  simp only [Bool.and_eq_true, decide_eq_true_iff, List.all_eq_true] at shown
  obtain ⟨⟨isOk, stayed⟩, isStored⟩ := shown
  cases r with
  | error e => cases isOk
  | ok receipt =>
      obtain ⟨-, returns⟩ := importSession_outcome run quiet
      obtain ⟨state, steps, read, cookies, -⟩ := returns receipt rfl stayed
      rw [foldl_addToJar, List.nil_append] at cookies
      exact ⟨t, receipt, context', run, state, steps, read, cookies, isStored⟩

/-- The browser refuses the cookies of the session, and those from before are gone. -/
theorem failed_import_signs_out :
    ∃ t e context',
      Act.Runs (importSession asciiCodec addToJar true defaultMaxAgeMs) signedIn t (.error e) context' ∧
      Quiet t ∧ context'.cookies ≠ signedIn.cookies := by
  obtain ⟨t, r, context', run, quiet, shown⟩ := Act.exists_answered_runs (sessionScript false)
    (importSession asciiCodec addToJar true defaultMaxAgeMs) signedIn ()
    (Q := fun event => (event.2 : Answered event.1).pages = []) (quiet_sessionScript false)
    (fun _ r context' => r.toOption.isNone && context'.cookies.isEmpty)
    (by decide +kernel)
  simp only [Bool.and_eq_true] at shown
  cases r with
  | ok receipt => cases shown.1
  | error e =>
      refine ⟨t, e, context', run, quiet, ?_⟩
      rw [List.isEmpty_iff.mp shown.2]
      simp [signedIn]

end Dingdongditch.SessionImport
