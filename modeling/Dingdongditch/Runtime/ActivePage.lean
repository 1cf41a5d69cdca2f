import Dingdongditch.Interaction.Scripted
import Dingdongditch.Interaction.Within
import Dingdongditch.Runtime.PageRegistry

/-!
# The active page

The active page is registered under the active id in every state that a backend reaches
(`Registered`).  A dispatch that fails leaves it as it was unless it brought another page
to the front (`Activates`): where the browser refused, or where a dialog broke the contract
of the dispatch afterwards, the other page stays active.
-/

namespace Dingdongditch.Pages

open Interaction

/-! ## Entries -/

/-- A list without two items of one key is searched by key. -/
theorem find?_of_nodup {α κ : Type} [DecidableEq κ] {key : α → κ} {xs : List α} {x : α}
    (nodup : (xs.map key).Nodup) (member : x ∈ xs) : xs.find? (key · = key x) = some x := by
  induction xs with
  | nil => cases member
  | cons y xs ih =>
      rw [List.map_cons, List.nodup_cons] at nodup
      rcases List.mem_cons.mp member with rfl | later
      · simp
      · have ne : key y ≠ key x := by
          intro same
          apply nodup.1
          rw [same]
          exact List.mem_map_of_mem later
        rw [List.find?_cons_of_neg (by simpa using ne)]
        exact ih nodup.2 later

namespace PageRegistry

variable {registry : PageRegistry} {entry entry' : PageRegistryEntry}

theorem entry?_of_mem (known : entry ∈ registry.entries) :
    registry.entry? entry.pageId = some entry :=
  find?_of_nodup registry.oneId known

theorem pageId?_of_mem (known : entry ∈ registry.entries) :
    registry.pageId? entry.page = some entry.pageId := by
  unfold pageId?
  rw [find?_of_nodup registry.onePage known]
  rfl

/-- A page has one id. -/
theorem pageId_unique (known : entry ∈ registry.entries) (known' : entry' ∈ registry.entries)
    (same : entry.page = entry'.page) : entry.pageId = entry'.pageId := by
  have isId := pageId?_of_mem known
  rw [same, pageId?_of_mem known', Option.some.injEq] at isId
  exact isId.symm

theorem mem_register (registry : PageRegistry) (page : PageObject) (opener : Option PageId)
    (operationId : Option String) :
    ∃ entry ∈ (registry.register page opener operationId).entries, entry.page = page := by
  unfold register
  split
  · exact ⟨_, List.mem_append_right _ (List.mem_singleton_self _), rfl⟩
  · next isKnown =>
      obtain ⟨entry, known, isPage⟩ := List.mem_map.mp (not_not.mp isKnown)
      exact ⟨entry, known, isPage⟩

end PageRegistry

/-! ## Calls that leave the active page alone -/

/-- Every page of the registry is still there, under its id. -/
def Grows (before after : PageRegistry) : Prop :=
  ∀ entry ∈ before.entries, ∃ entry' ∈ after.entries,
    entry'.page = entry.page ∧ entry'.pageId = entry.pageId

theorem Grows.refl (registry : PageRegistry) : Grows registry registry :=
  fun entry known => ⟨entry, known, rfl, rfl⟩

theorem Grows.trans {a b c : PageRegistry} (first : Grows a b) (second : Grows b c) : Grows a c := by
  intro entry known
  obtain ⟨entry', known', samePage, sameId⟩ := first entry known
  obtain ⟨entry'', known'', samePage', sameId'⟩ := second entry' known'
  exact ⟨entry'', known'', samePage'.trans samePage, sameId'.trans sameId⟩

theorem grows_register (registry : PageRegistry) (page : PageObject) (opener : Option PageId)
    (operationId : Option String) : Grows registry (registry.register page opener operationId) := by
  intro entry known
  unfold PageRegistry.register
  split
  · exact ⟨entry, List.mem_append_left _ known, rfl, rfl⟩
  · exact ⟨entry, known, rfl, rfl⟩

theorem grows_close (registry : PageRegistry) (page : PageObject) :
    Grows registry (registry.close page) := by
  intro entry known
  refine ⟨_, List.mem_map_of_mem known, ?_⟩
  split
  · exact ⟨rfl, rfl⟩
  · exact ⟨rfl, rfl⟩

theorem grows_registerAll (registry : PageRegistry) (pages : List PageObject) {opener : Option PageId}
    {operationId : Option String} :
    Grows registry (pages.foldl (fun registry page =>
      registry.register page opener operationId) registry) := by
  induction pages generalizing registry with
  | nil => exact .refl registry
  | cons page pages ih => exact (grows_register registry page _ _).trans (ih _)

/-- Events may have come in, and the active page is the same. -/
structure Later (s s' : PageSession) : Prop where
  page : s'.page = s.page
  pageId : s'.pageId = s.pageId
  started : s'.started = s.started
  grows : Grows s.registry s'.registry

instance : Std.Refl Later where
  refl s := ⟨rfl, rfl, rfl, .refl s.registry⟩

instance : IsTrans PageSession Later where
  trans _ _ _ first second := ⟨second.page.trans first.page, second.pageId.trans first.pageId,
    second.started.trans first.started, first.grows.trans second.grows⟩

/-- The browser is asked to bring a page to the front. -/
def Fronts (event : Event BrowserSig) : Prop := ∃ page, event.1 = BrowserCall.bringToFront page

theorem later_handle (s : PageSession) (event : PageEvent) : Later s (s.handle event) := by
  cases event with
  | opened page => exact ⟨rfl, rfl, rfl, grows_register _ _ _ _⟩
  | closed page => exact ⟨rfl, rfl, rfl, grows_close _ _⟩
  | dialog dialog => exact ⟨rfl, rfl, rfl, .refl _⟩

theorem later_deliver (s : PageSession) (events : List PageEvent) :
    Later s (events.foldl PageSession.handle s) := by
  induction events generalizing s with
  | nil => exact refl s
  | cons event events ih => exact trans_of Later (later_handle s event) (ih (s.handle event))

/-- Away from the active page. -/
abbrev Aside {α : Type} (m : Backend α) : Prop := Act.Within Later Fronts m

section Aside

variable {α β : Type} {m : Backend α}

theorem Aside.bind {f : α → Backend β} (first : Aside m) (second : ∀ a, Aside (f a)) :
    Aside (m >>= f) :=
  Act.Within.bind first second

theorem Aside.tryCatch {handler : Raised → Backend α} (body : Aside m)
    (caught : ∀ e, Aside (handler e)) : Aside (tryCatch m handler) :=
  Act.Within.tryCatch body caught

theorem aside_pure (a : α) : Aside (pure a) := Act.within_pure a

theorem aside_throw (e : Raised) : Aside (throw e : Backend α) := Act.within_throw e

theorem aside_get : Aside get := Act.within_get

end Aside

theorem browser_aside {call : BrowserCall} (other : ∀ page, call ≠ .bringToFront page) :
    Aside (browser call) := by
  unfold browser
  refine Aside.bind (Act.within_ask ?_) fun answer => ?_
  · intro answer ⟨page, isFront⟩
    exact other page isFront
  · refine Aside.bind (Act.within_modify fun s => later_deliver s _) fun _ => ?_
    exact Act.within_ofExcept _

theorem later_triggered (s : PageSession) (operationId : String) :
    Later s (s.triggered operationId) :=
  ⟨rfl, rfl, rfl, .refl s.registry⟩

theorem untriggers_aside : Aside (modify PageSession.untriggered) :=
  Act.within_modify fun s => ⟨rfl, rfl, rfl, .refl s.registry⟩

theorem isClosed_aside (entry : PageRegistryEntry) : Aside (isClosed entry) := by
  unfold isClosed
  split
  · exact browser_aside (by simp)
  · exact aside_pure _

theorem clickPage_aside (operation : ClickOperation) (openBefore : List PageId) :
    Aside (clickPage operation openBefore) := by
  have click : Aside (browser (.clickExpectingPage operation.operationId)) :=
    browser_aside (by simp)
  unfold clickPage
  refine Aside.bind aside_get fun s => ?_
  dsimp only
  split
  · refine Aside.tryCatch (Aside.bind click fun _ => aside_pure _) fun e => ?_
    refine Aside.bind aside_get fun s => ?_
    split
    · exact Aside.bind (browser_aside (by simp)) fun _ => aside_pure _
    · split
      · exact aside_pure _
      · exact aside_throw e
  · refine Aside.tryCatch (Aside.bind click fun _ => aside_pure _) fun e => ?_
    split
    · exact aside_pure _
    · exact aside_throw e

theorem clickAndObserve_aside (operation : ClickOperation) (openBefore : List PageId) :
    Aside (clickAndObserve operation openBefore) := by
  unfold clickAndObserve
  refine Aside.bind aside_get fun s => ?_
  refine Aside.bind (clickPage_aside operation openBefore) fun observed => ?_
  cases observed with
  | error result => exact aside_pure _
  | ok popupEventFired =>
      refine Aside.bind (browser_aside (by simp)) fun pages => ?_
      refine Aside.bind (Act.within_modify fun s => ?_) fun _ => aside_pure _
      exact ⟨rfl, rfl, rfl, grows_registerAll _ _⟩

theorem checkAll_aside (page : PageObject) (expectations : List Declared) :
    Aside (verifyNewPage.checkAll page expectations) := by
  induction expectations with
  | nil => exact aside_pure _
  | cons expectation rest ih =>
      unfold verifyNewPage.checkAll
      refine Aside.bind (browser_aside (by simp)) fun results => ?_
      exact Aside.bind ih fun more => aside_pure _

theorem verifyNewPage_aside (page : PageObject) (expectations : List Declared) :
    Aside (verifyNewPage page expectations) := by
  unfold verifyNewPage
  refine Aside.bind (Aside.tryCatch (browser_aside (by simp)) fun e => ?_) fun _ => ?_
  · split
    · exact aside_pure _
    · exact aside_throw e
  · refine Aside.bind (browser_aside (by simp)) fun closed => ?_
    split
    · exact aside_throw _
    · exact checkAll_aside page expectations

theorem newPageClosed_aside (entry : PageRegistryEntry) : Aside (newPageClosed entry) := by
  unfold newPageClosed
  refine Aside.tryCatch (browser_aside (by simp)) fun e => ?_
  split
  · exact aside_pure _
  · exact aside_throw e

theorem acceptNewPage_aside (operation : ClickOperation) (entry : PageRegistryEntry)
    (evidence : PageEvidence) : Aside (acceptNewPage operation entry evidence) := by
  unfold acceptNewPage
  refine Aside.bind (newPageClosed_aside entry) fun closed => ?_
  split
  · exact aside_pure _
  · refine Aside.tryCatch ?_ fun e => ?_
    · refine Aside.bind (verifyNewPage_aside _ _) fun results => ?_
      dsimp only
      split
      · exact aside_pure _
      · exact aside_pure _
    · split
      · exact aside_pure _
      · exact aside_throw e

theorem isStarted_aside : Aside isStarted := by
  unfold isStarted
  refine Aside.bind aside_get fun s => ?_
  split
  · exact Aside.tryCatch (browser_aside (by simp)) fun _ => aside_pure _
  · exact aside_pure _

/-! ## Activations -/

/-- The browser was asked to bring the page to the front, and answered. -/
def frontEvent (page : PageObject) (events : List PageEvent) (front : Except Raised Unit) :
    Event BrowserSig :=
  ⟨BrowserCall.bringToFront page, ⟨events, front⟩⟩

theorem fronts_frontEvent {page : PageObject} {events : List PageEvent} {front : Except Raised Unit} :
    Fronts (frontEvent page events front) :=
  ⟨page, rfl⟩

theorem frontEvent_inj {page page' : PageObject} {events events' : List PageEvent}
    {front front' : Except Raised Unit}
    (same : frontEvent page events front = frontEvent page' events' front') :
    page = page' ∧ front = front' := by
  obtain ⟨isCall, isAnswer⟩ := Sigma.mk.inj same
  obtain rfl := BrowserCall.bringToFront.inj isCall
  obtain ⟨-, isFront⟩ := Answered.mk.inj (eq_of_heq isAnswer)
  exact ⟨rfl, isFront⟩

/-- The page became active, and this is what the browser answered when it was asked, once, to bring it
to the front. -/
structure Activates (s : PageSession) (t : Trace BrowserSig) (s' : PageSession) (page : PageObject)
    (front : Except Raised Unit) : Prop where
  active : s'.page = some page
  registered : ∃ entry ∈ s'.registry.entries, entry.page = page ∧ s'.pageId = some entry.pageId
  started : s'.started = s.started
  grows : Grows s.registry s'.registry
  asked : ∃ events, frontEvent page events front ∈ t
  once : ∀ page' events front', frontEvent page' events front' ∈ t → page' = page ∧ front' = front

section Activates

variable {s s₁ s' : PageSession} {t early rest : Trace BrowserSig} {page : PageObject}
  {front : Except Raised Unit}

theorem Activates.after (activates : Activates s₁ t s' page front) (later : Later s s₁)
    (quiet : ¬ Happens Fronts early) : Activates s (early ++ t) s' page front where
  active := activates.active
  registered := activates.registered
  started := activates.started.trans later.started
  grows := later.grows.trans activates.grows
  asked := by
    obtain ⟨events, member⟩ := activates.asked
    exact ⟨events, List.mem_append_right _ member⟩
  once := by
    intro page' events front' member
    rcases List.mem_append.mp member with member | member
    · exact (quiet ⟨_, member, fronts_frontEvent⟩).elim
    · exact activates.once page' events front' member

theorem Activates.followed (activates : Activates s t s₁ page front) (later : Later s₁ s')
    (quiet : ¬ Happens Fronts rest) : Activates s (t ++ rest) s' page front where
  active := later.page.trans activates.active
  registered := by
    obtain ⟨entry, known, isPage, isId⟩ := activates.registered
    obtain ⟨entry', known', samePage, sameId⟩ := later.grows entry known
    refine ⟨entry', known', samePage.trans isPage, ?_⟩
    rw [later.pageId, isId, sameId]
  started := later.started.trans activates.started
  grows := activates.grows.trans later.grows
  asked := by
    obtain ⟨events, member⟩ := activates.asked
    exact ⟨events, List.mem_append_left _ member⟩
  once := by
    intro page' events front' member
    rcases List.mem_append.mp member with member | member
    · exact activates.once page' events front' member
    · exact (quiet ⟨_, member, fronts_frontEvent⟩).elim

theorem runs_bringToFront {r : Except Raised Unit}
    (run : Act.Runs (browser (.bringToFront page)) s t r s') :
    Later s s' ∧ ∃ events, t = [frontEvent page events r] := by
  unfold browser at run
  obtain ⟨answer, rest, rfl, delivered⟩ := run.ask_bind_inv
  replace delivered := Act.Runs.modify_bind_inv delivered
  obtain ⟨rfl, rfl, rfl⟩ := Act.runs_ofExcept.mp delivered
  exact ⟨later_deliver s answer.events, answer.events, rfl⟩

/-- `_activate_page` raises before it changes anything, or the page becomes active; then it raises where
the browser does. -/
theorem activatePage_runs {pageId : PageId} {r : Except Raised Unit}
    (run : Act.Runs (activatePage pageId) s t r s') :
    (∃ e, r = .error e ∧ Later s s' ∧ ¬ Happens Fronts t) ∨ ∃ page, Activates s t s' page r := by
  unfold activatePage at run
  replace run := run.get_bind_inv
  cases isEntry : s.registry.entry? pageId with
  | none =>
      rw [isEntry] at run
      obtain ⟨rfl, rfl, rfl⟩ := Act.runs_throw.mp run
      exact .inl ⟨_, rfl, refl s', not_happens_nil⟩
  | some entry =>
      rw [isEntry] at run
      rcases (isClosed_aside entry).bind_inv run with
        ⟨e, isError, later, quiet⟩ | ⟨closed, s₁, early, rest, -, later, run, quiet, rfl⟩
      · exact .inl ⟨e, isError, later, quiet⟩
      · cases closed with
        | true =>
            obtain ⟨rfl, rfl, rfl⟩ := Act.runs_throw.mp run
            rw [List.append_nil]
            exact .inl ⟨_, rfl, later, quiet⟩
        | false =>
            obtain ⟨moved, events, rfl⟩ := runs_bringToFront run.modify_bind_inv
            have known : entry ∈ s.registry.entries := List.mem_of_find?_eq_some isEntry
            obtain ⟨entry', known', samePage, sameId⟩ := later.grows entry known
            obtain ⟨entry'', known'', samePage', sameId'⟩ := moved.grows entry' known'
            have activates : Activates s₁ [frontEvent entry.page events r] s' entry.page r := {
              active := moved.page
              registered := by
                refine ⟨entry'', known'', samePage'.trans samePage, ?_⟩
                rw [moved.pageId, sameId', sameId]
              started := moved.started
              grows := moved.grows
              asked := ⟨events, List.mem_singleton_self _⟩
              once := by
                intro page' events' front' member
                exact frontEvent_inj (List.mem_singleton.mp member) }
            exact .inr ⟨entry.page, activates.after later quiet⟩

end Activates

/-! ## Dispatches -/

/-- A dispatch raises or reports a failure. -/
def Fails : Except Raised ActionDispatchResult → Prop
  | .ok result => result.ok = false
  | .error _ => True

/-- Either the active page is left alone, or one page becomes active and `P` holds of what the browser
answers. -/
def Moves (P : Except Raised Unit → Prop) (s : PageSession) (t : Trace BrowserSig) (s' : PageSession) :
    Prop :=
  (Later s s' ∧ ¬ Happens Fronts t) ∨ ∃ page front, Activates s t s' page front ∧ P front

section Moves

variable {s s₁ s' : PageSession} {t early rest : Trace BrowserSig} {P : Except Raised Unit → Prop}

theorem Moves.after (moves : Moves P s₁ t s') (later : Later s s₁) (quiet : ¬ Happens Fronts early) :
    Moves P s (early ++ t) s' := by
  rcases moves with ⟨later', quiet'⟩ | ⟨page, front, activates, holds⟩
  · refine .inl ⟨trans_of Later later later', ?_⟩
    rw [happens_append]
    intro either
    exact either.elim quiet quiet'
  · exact .inr ⟨page, front, activates.after later quiet, holds⟩

theorem Moves.later (moves : Moves P s₁ t s') (later : Later s s₁) : Moves P s t s' :=
  moves.after later not_happens_nil

theorem Moves.of_aside {α : Type} {m : Backend α} {r : Except Raised α} (aside : Aside m)
    (run : Act.Runs m s t r s') : Moves P s t s' :=
  .inl (aside s t r s' run)

theorem activatePage_moves {pageId : PageId} {r : Except Raised Unit}
    (run : Act.Runs (activatePage pageId) s t r s') : Moves (· = r) s t s' := by
  rcases activatePage_runs run with ⟨e, -, later, quiet⟩ | ⟨page, activates⟩
  · exact .inl ⟨later, quiet⟩
  · exact .inr ⟨page, r, activates, rfl⟩

theorem applyPageAction_runs {action : PageAction} {r : Except Raised Unit}
    (run : Act.Runs (applyPageAction action) s t r s') : Moves (· = r) s t s' := by
  cases action with
  | switchToPage pageId => exact activatePage_moves run
  | switchToOpener =>
      unfold applyPageAction at run
      replace run := run.get_bind_inv
      cases isOpener : (s.pageId.bind s.registry.entry?).bind (·.openerPageId) with
      | none =>
          rw [isOpener] at run
          exact .of_aside (aside_throw _) run
      | some opener =>
          rw [isOpener] at run
          exact activatePage_moves run
  | closePage pageId =>
      unfold applyPageAction at run
      replace run := run.get_bind_inv
      cases isEntry : s.registry.entry? pageId with
      | none =>
          rw [isEntry] at run
          exact .of_aside (aside_throw _) run
      | some entry =>
          rw [isEntry] at run
          dsimp only at run
          by_cases isActive : some entry.pageId = s.pageId
          · rw [if_pos isActive] at run
            exact .of_aside (aside_throw _) run
          · rw [if_neg isActive] at run
            exact .of_aside (browser_aside (by simp)) run

theorem dispatchPageAction_runs {action : PageAction} {r : Except Raised ActionDispatchResult}
    (run : Act.Runs (dispatchPageAction action) s t r s') :
    Moves (fun front => Fails r ↔ ∃ e, front = .error e) s t s' := by
  unfold dispatchPageAction at run
  replace run := run.get_bind_inv
  rcases Act.runs_tryCatch.mp run with
    ⟨result, rfl, completed⟩ | ⟨early, e, s₁, rest, rfl, raised, handled⟩
  · obtain ⟨early, _, s₁, rest, rfl, applied, last⟩ := completed.bind_ok_inv
    replace last := last.get_bind_inv
    obtain ⟨rfl, isResult, rfl⟩ := Act.runs_pure.mp last
    rw [List.append_nil]
    rcases applyPageAction_runs applied with still | ⟨page, front, activates, isFront⟩
    · exact .inl still
    · refine .inr ⟨page, front, activates, ?_⟩
      rw [isResult, isFront]
      simp [Fails]
  · have applied : Act.Runs (applyPageAction action) s early (.error e) s₁ := by
      rcases raised.bind_inv with ⟨e', isError, applied⟩ | ⟨_, _, _, _, _, _, last⟩
      · rw [Except.error.inj isError]
        exact applied
      · replace last := last.get_bind_inv
        obtain ⟨-, isOk, -⟩ := Act.runs_pure.mp last
        cases isOk
    have failed : Fails r ∧ Later s₁ s' ∧ ¬ Happens Fronts rest := by
      by_cases isValue : e.type = .valueError
      · rw [if_pos isValue] at handled
        replace handled := handled.get_bind_inv
        obtain ⟨rfl, rfl, rfl⟩ := Act.runs_pure.mp handled
        exact ⟨rfl, refl s', not_happens_nil⟩
      · rw [if_neg isValue] at handled
        obtain ⟨rfl, rfl, rfl⟩ := Act.runs_throw.mp handled
        exact ⟨trivial, refl s', not_happens_nil⟩
    obtain ⟨fails, later, quiet⟩ := failed
    rcases applyPageAction_runs applied with ⟨before, quiet'⟩ | ⟨page, front, activates, isFront⟩
    · refine .inl ⟨trans_of Later before later, ?_⟩
      rw [happens_append]
      intro either
      exact either.elim quiet' quiet
    · refine .inr ⟨page, front, activates.followed later quiet, ?_⟩
      constructor
      · intro _
        exact ⟨e, isFront⟩
      · intro _
        exact fails

theorem activateNewPage_runs {transition : PageTransition} {entry : PageRegistryEntry}
    {r : Except Raised Unit} (run : Act.Runs (activateNewPage transition entry) s t r s') :
    Moves (· = r) s t s' := by
  unfold activateNewPage at run
  by_cases switches : shouldSwitch transition = true
  · rw [if_pos switches] at run
    exact activatePage_moves run
  · rw [if_neg switches] at run
    exact .of_aside (aside_pure _) run

theorem finish_runs {opener : Option PageId} {evidence : PageEvidence}
    {r : Except Raised ActionDispatchResult}
    (run : Act.Runs (dispatchClick.finish opener evidence) s t r s') :
    t = [] ∧ s' = s ∧ ¬ Fails r := by
  unfold dispatchClick.finish at run
  replace run := run.get_bind_inv
  obtain ⟨rfl, rfl, rfl⟩ := Act.runs_pure.mp run
  exact ⟨rfl, rfl, by simp [Fails]⟩

theorem activate_finish_runs {transition : PageTransition} {entry : PageRegistryEntry}
    {opener : Option PageId} {evidence : PageEvidence} {r : Except Raised ActionDispatchResult}
    (run : Act.Runs (activateNewPage transition entry >>= fun _ =>
      dispatchClick.finish opener evidence) s t r s') :
    Moves (fun front => Fails r ↔ ∃ e, front = .error e) s t s' := by
  rcases run.bind_inv with ⟨e, isError, raised⟩ | ⟨early, _, s₁, rest, rfl, activated, last⟩
  · rcases activateNewPage_runs raised with still | ⟨page, front, activates, isFront⟩
    · exact .inl still
    · refine .inr ⟨page, front, activates, ?_⟩
      rw [isError, isFront]
      simp [Fails]
  · obtain ⟨rfl, rfl, succeeds⟩ := finish_runs last
    rw [List.append_nil]
    rcases activateNewPage_runs activated with still | ⟨page, front, activates, isFront⟩
    · exact .inl still
    · refine .inr ⟨page, front, activates, ?_⟩
      rw [isFront]
      simp [succeeds]

theorem dispatchClick_runs {operation : ClickOperation} {r : Except Raised ActionDispatchResult}
    (run : Act.Runs (dispatchClick operation) s t r s') :
    Moves (fun front => Fails r ↔ ∃ e, front = .error e) s t s' := by
  unfold dispatchClick at run
  replace run := Act.Runs.modify_bind_inv run.get_bind_inv
  have later := later_triggered s operation.operationId
  have observing := Act.Within.andFinally (clickAndObserve_aside operation
    ((s.registry.entries.filter (·.isOpen)).map (·.pageId))) untriggers_aside
  refine Moves.later ?_ later
  rcases observing.bind_inv run with
    ⟨e, -, later, quiet⟩ | ⟨observed, s₁, early, rest, -, later, run, quiet, rfl⟩
  · exact .inl ⟨later, quiet⟩
  · refine Moves.after ?_ later quiet
    cases observed with
    | error result => exact .of_aside (aside_pure _) run
    | ok popupEventFired =>
        replace run := run.get_bind_inv
        dsimp only at run
        split at run
        · exact .of_aside (aside_pure _) run
        · split at run
          · exact .of_aside (aside_pure _) run
          · cases isCreated : s₁.registry.entries.filter fun entry =>
              entry.pageId ∉ (s.registry.entries.filter (·.isOpen)).map (·.pageId) ∧
                entry.triggeringOperationId = some operation.operationId with
            | nil =>
                rw [isCreated] at run
                obtain ⟨rfl, rfl, -⟩ := finish_runs run
                exact .inl ⟨refl s', not_happens_nil⟩
            | cons entry _ =>
                rw [isCreated] at run
                rcases (acceptNewPage_aside operation entry _).bind_inv run with
                  ⟨e, -, later, quiet⟩ | ⟨accepted, s₂, early, rest, -, later, run, quiet, rfl⟩
                · exact .inl ⟨later, quiet⟩
                · refine Moves.after ?_ later quiet
                  cases accepted with
                  | error result => exact .of_aside (aside_pure _) run
                  | ok evidence => exact activate_finish_runs run

theorem dispatchAction_runs {operation : Operation} {r : Except Raised ActionDispatchResult}
    (run : Act.Runs (dispatchAction operation) s t r s') :
    Moves (fun front => Fails r ↔ ∃ e, front = .error e) s t s' := by
  have perform : Aside (browser (.perform operation.operationId)) := browser_aside (by simp)
  unfold dispatchAction at run
  cases isAction : operation.action with
  | pages action =>
      rw [isAction] at run
      exact dispatchPageAction_runs run
  | click transition =>
      rw [isAction] at run
      have prepares : Aside (browser (.prepareTarget operation.operationId)) := browser_aside (by simp)
      rcases prepares.bind_inv run with
        ⟨e, -, later, quiet⟩ | ⟨prepared, s₁, early, rest, -, later, run, quiet, rfl⟩
      · exact .inl ⟨later, quiet⟩
      · refine Moves.after ?_ later quiet
        cases prepared with
        | some failure => exact .of_aside (aside_pure _) run
        | none => exact dispatchClick_runs run
  | download =>
      rw [isAction] at run
      have triggers : Aside (modify (·.triggered operation.operationId)) :=
        Act.within_modify fun s => later_triggered s _
      have downloads := Aside.bind triggers fun _ => Act.Within.andFinally perform untriggers_aside
      exact .of_aside downloads run
  | other =>
      rw [isAction] at run
      exact .of_aside perform run

theorem dispatchCore_runs {lower : List Char → List Char} {operation : Operation}
    {r : Except Raised ActionDispatchResult}
    (run : Act.Runs (dispatchCore lower operation) s t r s') :
    Moves (fun front => Fails r ↔ ∃ e, front = .error e) s t s' := by
  unfold dispatchCore at run
  rcases Act.runs_tryCatch.mp run with
    ⟨result, rfl, completed⟩ | ⟨early, e, s₁, rest, rfl, raised, handled⟩
  · exact dispatchAction_runs completed
  · have failed : Fails r ∧ rest = [] ∧ s' = s₁ := by
      split at handled
      · obtain ⟨rfl, rfl, rfl⟩ := Act.runs_pure.mp handled
        exact ⟨rfl, rfl, rfl⟩
      · split at handled
        · obtain ⟨rfl, rfl, rfl⟩ := Act.runs_pure.mp handled
          exact ⟨rfl, rfl, rfl⟩
        · obtain ⟨rfl, rfl, rfl⟩ := Act.runs_throw.mp handled
          exact ⟨trivial, rfl, rfl⟩
    obtain ⟨fails, rfl, rfl⟩ := failed
    rw [List.append_nil]
    rcases dispatchAction_runs raised with still | ⟨page, front, activates, isFront⟩
    · exact .inl still
    · refine .inr ⟨page, front, activates, ?_⟩
      have refused := isFront.mp trivial
      exact ⟨fun _ => refused, fun _ => fails⟩

/-- A dispatch that activates a page fails where the browser refuses, or where the dialogs break the
contract of the dispatch. -/
theorem dispatch_runs {lower : List Char → List Char} {operation : Operation}
    {r : Except Raised ActionDispatchResult} (run : Act.Runs (dispatch lower operation) s t r s') :
    Moves (fun front => Fails r ↔
      (∃ e, front = .error e) ∨ operation.dialogContract.failure s'.observed ≠ none) s t s' := by
  unfold dispatch at run
  rcases run.ofExcept_bind_inv with ⟨e, -, rfl, -, rfl⟩ | ⟨_, -, valid⟩
  · exact .inl ⟨refl s', not_happens_nil⟩
  · replace valid := valid.get_bind_inv
    split at valid
    · exact .of_aside (aside_throw _) valid
    · replace valid := Act.Runs.modify_bind_inv valid
      have later : Later s { s with observed := [] } := ⟨rfl, rfl, rfl, .refl _⟩
      refine Moves.later ?_ later
      rcases valid.bind_inv with ⟨e, isError, raised⟩ | ⟨early, result, s₁, rest, rfl, returned, last⟩
      · rcases dispatchCore_runs raised with still | ⟨page, front, activates, isFront⟩
        · exact .inl still
        · refine .inr ⟨page, front, activates, ?_⟩
          change Fails r ↔ _
          rw [← isFront, isError]
          simp [Fails]
      · replace last := last.get_bind_inv
        cases broken : operation.dialogContract.failure s₁.observed with
        | some kinds =>
            rw [broken] at last
            obtain ⟨rfl, rfl, rfl⟩ := Act.runs_pure.mp last
            rw [List.append_nil]
            rcases dispatchCore_runs returned with still | ⟨page, front, activates, -⟩
            · exact .inl still
            · refine .inr ⟨page, front, activates, ?_⟩
              change Fails _ ↔ _
              simp [Fails, broken]
        | none =>
            rw [broken] at last
            obtain ⟨rfl, rfl, rfl⟩ := Act.runs_pure.mp last
            rw [List.append_nil]
            rcases dispatchCore_runs returned with still | ⟨page, front, activates, isFront⟩
            · exact .inl still
            · refine .inr ⟨page, front, activates, ?_⟩
              change Fails _ ↔ _
              rw [isFront]
              simp [broken]

end Moves

/-! ## The session -/

/-- The active page is registered, under the active id, as long as the backend is started. -/
def Registered (s : PageSession) : Prop :=
  (s.started = false ∧ s.page = none ∧ s.pageId = none) ∨
    s.started = true ∧ ∃ entry ∈ s.registry.entries,
      s.page = some entry.page ∧ s.pageId = some entry.pageId

theorem registered_new : Registered .new := .inl ⟨rfl, rfl, rfl⟩

theorem Registered.later {s s' : PageSession} (registered : Registered s) (later : Later s s') :
    Registered s' := by
  rcases registered with ⟨idle, noPage, noId⟩ | ⟨started, entry, known, isPage, isId⟩
  · exact .inl ⟨later.started.trans idle, later.page.trans noPage, later.pageId.trans noId⟩
  · obtain ⟨entry', known', samePage, sameId⟩ := later.grows entry known
    refine .inr ⟨later.started.trans started, entry', known', ?_, ?_⟩
    · rw [later.page, isPage, samePage]
    · rw [later.pageId, isId, sameId]

/-- The active page is that of the entry under the active id. -/
theorem Registered.page_eq {s : PageSession} (registered : Registered s) :
    s.page = (s.pageId.bind s.registry.entry?).map (·.page) := by
  rcases registered with ⟨-, noPage, noId⟩ | ⟨-, entry, known, isPage, isId⟩
  · rw [noPage, noId]
    rfl
  · rw [isPage, isId, Option.bind_some, PageRegistry.entry?_of_mem known]
    rfl

theorem Activates.keeps_registered {s s' : PageSession} {t : Trace BrowserSig} {page : PageObject}
    {front : Except Raised Unit} (activates : Activates s t s' page front)
    (started : s.started = true) : Registered s' := by
  obtain ⟨entry, known, isPage, isId⟩ := activates.registered
  refine .inr ⟨activates.started.trans started, entry, known, ?_, isId⟩
  rw [activates.active, isPage]

theorem Moves.keeps_registered {P : Except Raised Unit → Prop} {s s' : PageSession}
    {t : Trace BrowserSig} (moves : Moves P s t s') (registered : Registered s)
    (started : s.started = true) : Registered s' := by
  rcases moves with ⟨later, -⟩ | ⟨page, front, activates, -⟩
  · exact registered.later later
  · exact activates.keeps_registered started

theorem stop_runs {s s' : PageSession} {t : Trace BrowserSig} {r : Except Raised Unit}
    (run : Act.Runs stop s t r s') : Registered s' ∧ r = .ok () := by
  unfold stop at run
  rcases run.bind_inv with ⟨e, -, failed⟩ | ⟨_, _, s₁, _, -, -, last⟩
  · rcases Act.runs_tryCatch.mp failed with ⟨_, isOk, -⟩ | ⟨_, _, _, _, _, -, handled⟩
    · cases isOk
    · obtain ⟨-, isOk, -⟩ := Act.runs_pure.mp handled
      cases isOk
  · obtain ⟨-, rfl, rfl⟩ := Act.runs_modifyGet.mp last
    exact ⟨.inl ⟨rfl, rfl, rfl⟩, rfl⟩

theorem openPages_runs {s s' : PageSession} {t : Trace BrowserSig}
    (run : Act.Runs openPages s t (.ok ()) s') : Registered s' := by
  unfold openPages at run
  obtain ⟨_, _, s₁, _, -, -, run⟩ := run.bind_ok_inv
  obtain ⟨_, page, s₂, _, -, -, run⟩ := run.bind_ok_inv
  replace run := Act.Runs.modify_bind_inv run
  obtain ⟨early, _, s₃, _, -, verified, run⟩ := run.bind_ok_inv
  have verifies : Aside (browser .verifyReady) := browser_aside (by simp)
  obtain ⟨later, -⟩ := verifies _ _ _ _ verified
  replace run := Act.Runs.modify_bind_inv run
  obtain ⟨-, -, rfl⟩ := Act.runs_modifyGet.mp run
  obtain ⟨entry, known, isPage⟩ := s₃.registry.mem_register page none none
  refine .inr ⟨rfl, entry, known, ?_, ?_⟩
  · change s₃.page = some entry.page
    rw [later.page, isPage]
  · have isId := PageRegistry.pageId?_of_mem known
    rw [isPage] at isId
    exact isId

theorem start_runs {s s' : PageSession} {t : Trace BrowserSig} {r : Except Raised Unit}
    (run : Act.Runs start s t r s') (registered : Registered s) : Registered s' := by
  unfold start at run
  rcases isStarted_aside.bind_inv run with
    ⟨e, -, later, -⟩ | ⟨alive, s₁, _, _, -, later, run, -, -⟩
  · exact registered.later later
  · replace registered := registered.later later
    replace run := run.get_bind_inv
    split at run
    · obtain ⟨-, -, rfl⟩ := Act.runs_pure.mp run
      exact registered
    · split at run
      · obtain ⟨-, -, rfl⟩ := Act.runs_throw.mp run
        exact registered
      · replace run := Act.Runs.modify_bind_inv run
        rcases Act.runs_tryCatch.mp run with ⟨_, -, opened⟩ | ⟨_, e, s₂, _, -, -, handled⟩
        · exact openPages_runs opened
        · rcases handled.bind_inv with ⟨_, -, stopped⟩ | ⟨_, _, s₃, _, -, stopped, last⟩
          · exact (stop_runs stopped).1
          · obtain ⟨-, -, rfl⟩ := Act.runs_throw.mp last
            exact (stop_runs stopped).1

/-- `is_started` answers yes only of a backend that has started. -/
theorem isStarted_runs {s s' : PageSession} {t : Trace BrowserSig}
    (run : Act.Runs isStarted s t (.ok true) s') : s.started = true := by
  unfold isStarted at run
  replace run := run.get_bind_inv
  by_cases started : (s.started && s.page.isSome) = true
  · rw [Bool.and_eq_true] at started
    exact started.1
  · rw [if_neg started] at run
    obtain ⟨-, isTrue, -⟩ := Act.runs_pure.mp run
    cases isTrue

theorem selectBackendPage_runs {pageId : PageId} {s s' : PageSession} {t : Trace BrowserSig}
    {r : Except Raised Unit} (run : Act.Runs (selectBackendPage pageId) s t r s')
    (registered : Registered s) : Registered s' := by
  unfold selectBackendPage at run
  rcases isStarted_aside.bind_inv run with
    ⟨e, -, later, -⟩ | ⟨started, s₁, _, _, asked, later, run, -, -⟩
  · exact registered.later later
  · replace registered := registered.later later
    replace run := run.get_bind_inv
    cases started with
    | false =>
        obtain ⟨-, -, rfl⟩ := Act.runs_throw.mp run
        exact registered
    | true =>
        have isStarted := isStarted_runs asked
        rw [← later.started] at isStarted
        simp only [Bool.not_true, Bool.false_eq_true, if_false] at run
        split at run
        · exact (activatePage_moves run).keeps_registered registered isStarted
        · obtain ⟨-, -, rfl⟩ := Act.runs_throw.mp run
          exact registered

/-- A dispatch of a backend that has no page raises before it does anything. -/
theorem dispatch_keeps_registered {lower : List Char → List Char} {operation : Operation}
    {s s' : PageSession} {t : Trace BrowserSig} {r : Except Raised ActionDispatchResult}
    (run : Act.Runs (dispatch lower operation) s t r s') (registered : Registered s) :
    Registered s' := by
  rcases registered with ⟨idle, noPage, noId⟩ | active
  · have still : s' = s := by
      unfold dispatch at run
      rcases run.ofExcept_bind_inv with ⟨e, -, -, -, same⟩ | ⟨_, -, valid⟩
      · exact same
      · replace valid := valid.get_bind_inv
        rw [if_pos noPage] at valid
        exact (Act.runs_throw.mp valid).2.2
    rw [still]
    exact .inl ⟨idle, noPage, noId⟩
  · exact (dispatch_runs run).keeps_registered (.inr active) active.1

/-! ## Runs -/

/-- The call is a dispatch that fails. -/
def FailedDispatch : (method : Method) → Except Raised method.Reply → Prop
  | .dispatch _, outcome => Fails outcome
  | _, _ => False

/-- The call is a dispatch that activates another page, and the browser refuses to bring that page to
the front or the dialogs break the contract. -/
def Strands : Method → PageSession → Trace BrowserSig → PageSession → Prop
  | .dispatch operation, s, t, s' => ∃ page events front, frontEvent page events front ∈ t ∧
      s.page ≠ some page ∧
        ((∃ e, front = .error e) ∨ operation.dialogContract.failure s'.observed ≠ none)
  | _, _, _, _ => False

/-- The active page, by its object and by its id. -/
def SameActivePage (s s' : PageSession) : Prop := s'.page = s.page ∧ s'.pageId = s.pageId

section Backend

variable {lower : List Char → List Char}

theorem step_registered (step : (pageBackend lower).Step) (registered : Registered step.before) :
    Registered step.after := by
  obtain ⟨method, before, trace, outcome, after, run⟩ := step
  cases method with
  | start => exact start_runs run registered
  | stop => exact (stop_runs run).1
  | selectPage pageId => exact selectBackendPage_runs run registered
  | dispatch operation => exact dispatch_keeps_registered run registered
  | otherMethod =>
      have other : Aside (browser .otherCall) := browser_aside (by simp)
      exact registered.later (other _ _ _ _ run).1

/-- A dispatch that fails leaves the active page as it was exactly where it does not strand the backend
on another page. -/
theorem dispatch_leaves_iff {operation : Operation} {s s' : PageSession} {t : Trace BrowserSig}
    {r : Except Raised ActionDispatchResult} (run : Act.Runs (dispatch lower operation) s t r s')
    (registered : Registered s) :
    (Fails r → SameActivePage s s') ↔ ¬ Strands (.dispatch operation) s t s' := by
  rcases dispatch_runs run with ⟨later, quiet⟩ | ⟨page, front, activates, fails⟩
  · constructor
    · intro _ ⟨page, events, front, member, _, _⟩
      exact quiet ⟨_, member, fronts_frontEvent⟩
    · intro _ _
      exact ⟨later.page, later.pageId⟩
  · constructor
    · intro leaves ⟨page', events, front', member, other, breaks⟩
      obtain ⟨rfl, rfl⟩ := activates.once page' events front' member
      have same := leaves (fails.mpr breaks)
      rw [SameActivePage, activates.active] at same
      exact other same.1.symm
    · intro stays failed
      obtain ⟨events, member⟩ := activates.asked
      have isSame : s.page = some page := by
        by_contra other
        exact stays ⟨page, events, front, member, other, fails.mp failed⟩
      rcases registered with ⟨-, noPage, -⟩ | ⟨-, entry, known, isPage, isId⟩
      · rw [noPage] at isSame
        cases isSame
      · obtain ⟨entry', known', samePage, sameId⟩ := activates.grows entry known
        obtain ⟨entry'', known'', isPage'', isId''⟩ := activates.registered
        rw [isPage, Option.some.injEq] at isSame
        have unique := PageRegistry.pageId_unique known' known'' (by rw [samePage, isSame, isPage''])
        refine ⟨?_, ?_⟩
        · rw [activates.active, isPage, isSame]
        · rw [isId'', isId, ← unique, sameId]

theorem step_leaves_iff (step : (pageBackend lower).Step) (registered : Registered step.before) :
    (FailedDispatch step.method step.outcome → SameActivePage step.before step.after) ↔
      ¬ Strands step.method step.before step.trace step.after := by
  obtain ⟨method, before, trace, outcome, after, run⟩ := step
  cases method with
  | dispatch operation => exact dispatch_leaves_iff run registered
  | _ => simp [FailedDispatch, Strands]

/-- In a run of a backend every dispatch that fails leaves the active page as it was exactly where none
strands the backend on another page.  In every state of the run the active page is the one that is
registered under the active id. -/
theorem failed_dispatches_leave_page_iff {steps : List (pageBackend lower).Step} {s' : PageSession}
    (run : (pageBackend lower).Run .new steps s') :
    ((∀ step ∈ steps, FailedDispatch step.method step.outcome →
        SameActivePage step.before step.after) ↔
      ∀ step ∈ steps, ¬ Strands step.method step.before step.trace step.after) ∧
    (∀ s, s = s' ∨ s ∈ steps.map (·.before) →
      s.page = (s.pageId.bind s.registry.entry?).map (·.page)) := by
  have registered := run.holds_before (I := Registered) (P := fun _ => True)
    (fun step _ => step_registered step) registered_new (fun _ _ => trivial)
  constructor
  · constructor
    · intro leaves step member
      exact (step_leaves_iff step (registered.1 step member)).mp (leaves step member)
    · intro stays step member
      exact (step_leaves_iff step (registered.1 step member)).mpr (stays step member)
  · intro s isState
    rcases isState with rfl | isBefore
    · exact registered.2.page_eq
    · obtain ⟨step, member, rfl⟩ := List.mem_map.mp isBefore
      exact (registered.1 step member).page_eq

end Backend

/-! ## A switch to a second page -/

instance (r : Except Raised ActionDispatchResult) : Decidable (Fails r) :=
  match r with
  | .ok result => inferInstanceAs (Decidable (result.ok = false))
  | .error _ => .isTrue trivial

instance decidableFailedDispatch (method : Method) (outcome : Except Raised method.Reply) :
    Decidable (FailedDispatch method outcome) :=
  match method with
  | .dispatch _ => inferInstanceAs (Decidable (Fails outcome))
  | .start | .stop | .selectPage _ | .otherMethod => .isFalse id

instance {lower : List Char → List Char} (step : (pageBackend lower).Step) :
    Decidable (FailedDispatch step.method step.outcome) :=
  decidableFailedDispatch step.method step.outcome

instance (s s' : PageSession) : Decidable (SameActivePage s s') :=
  inferInstanceAs (Decidable (_ ∧ _))

/-- A browser that has one page, opens a second one at the first chance, and may refuse to bring a page
to the front. -/
def secondPageScript (refuses : Bool) : Script BrowserSig Unit := fun w call =>
  let answered : Answered call.Result :=
    match call with
    | .isAlive => { result := .ok true }
    | .isClosed _ | .deadlineExpired => { result := .ok false }
    | .contextPages => { result := .ok [0] }
    | .newPage => { result := .ok 0 }
    | .prepareTarget _ => { result := .ok none }
    | .checkExpectation _ _ => { result := .ok [] }
    | .perform _ => { result := .ok { ok := true } }
    | .bringToFront _ =>
        { result := if refuses then .error ⟨.playwright, "Target closed"⟩ else .ok () }
    | .otherCall => { events := [.opened 1], result := .ok () }
    | .launch | .verifyReady | .closeBrowser | .closePage _ | .clickExpectingPage _
    | .waitForLoadState _ => { result := .ok () }
  (answered, w)

def switchToSecondPage : List Method :=
  [.start, .otherMethod, .dispatch { operationId := "switch", action := .pages (.switchToPage 1) }]

theorem failed_dispatches_leave_second_page :
    ∃ steps s', (pageBackend id).Run .new steps s' ∧ s'.page = some 1 ∧
      ((∀ step ∈ steps, FailedDispatch step.method step.outcome →
          SameActivePage step.before step.after) ↔
        ∀ step ∈ steps, ¬ Strands step.method step.before step.trace step.after) ∧
      (∀ s, s = s' ∨ s ∈ steps.map (·.before) →
        s.page = (s.pageId.bind s.registry.entry?).map (·.page)) := by
  obtain ⟨steps, s', run, -, shown⟩ := Component.exists_run (C := pageBackend id)
    (secondPageScript false) switchToSecondPage .new () (fun _ s' => s'.page = some 1) (by decide +kernel)
  exact ⟨steps, s', run, of_decide_eq_true shown, failed_dispatches_leave_page_iff run⟩

/-- The browser refuses to bring the second page to the front, and the failed switch leaves it active. -/
theorem failed_switch_leaves_second_page :
    ∃ steps s', (pageBackend id).Run .new steps s' ∧ steps.map (·.method) = switchToSecondPage ∧
      ∃ step ∈ steps, FailedDispatch step.method step.outcome ∧
        ¬ SameActivePage step.before step.after := by
  obtain ⟨steps, s', run, methods, shown⟩ := Component.exists_run (C := pageBackend id)
    (secondPageScript true) switchToSecondPage .new ()
    (fun steps _ => steps.any fun step => FailedDispatch step.method step.outcome ∧
      ¬ SameActivePage step.before step.after) (by decide +kernel)
  obtain ⟨step, member, holds⟩ := List.any_eq_true.mp shown
  exact ⟨steps, s', run, methods, step, member, of_decide_eq_true holds⟩

end Dingdongditch.Pages
