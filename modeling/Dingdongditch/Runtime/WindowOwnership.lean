import Dingdongditch.Interaction.Scripted
import Dingdongditch.Interaction.Within
import Dingdongditch.Runtime.DesktopWindows

/-!
# Windows that a session closes

A session closes the windows of its ledger by their handles.  They are its own as long as
the desktop stays clean (`Clean`): no window of another is taken for the one that a launch
or an activation made, and the handle of an own window is never given to one of another.

`Onward` is what every statement of the session keeps, whatever happens on the desktop
meanwhile; only the registration and the closing need to know more of a handle (`Known`).
-/

namespace Dingdongditch.WindowsDesktop

open Interaction

/-! ## Clean desktops -/

/-- A window of the session's own was opened with the handle. -/
def OwnHandle (log : List Entry) (handle : Handle) : Prop :=
  ∃ window, Entry.opened window ∈ log ∧ window.own = true ∧ window.handle = handle

/-- No registration inspects a window of another that passes its filters, and the handle of an own
window is never reused for one of another. -/
structure Clean (host : DesktopHost) (log : List Entry) : Prop where
  unmistaken : ∀ window registration, Entry.inspected window registration ∈ log →
    registration.accepts host window = true → window.own = true
  unreused : ∀ before window after, log = before ++ Entry.opened window :: after →
    window.own = false → ¬ OwnHandle before window.handle

theorem OwnHandle.append {log : List Entry} {handle : Handle} (own : OwnHandle log handle)
    (more : List Entry) : OwnHandle (log ++ more) handle := by
  obtain ⟨window, opened, isOwn, isHandle⟩ := own
  exact ⟨window, List.mem_append_left more opened, isOwn, isHandle⟩

theorem ownHandle_opened {log : List Entry} {window : Window} {handle : Handle} :
    OwnHandle (log ++ [.opened window]) handle ↔
      OwnHandle log handle ∨ (window.own = true ∧ window.handle = handle) := by
  simp only [OwnHandle, List.mem_append, List.mem_singleton, Entry.opened.injEq, or_and_right,
    exists_or, exists_eq_left]

theorem Clean.of_append {host : DesktopHost} {log more : List Entry}
    (clean : Clean host (log ++ more)) : Clean host log where
  unmistaken window registration inspected :=
    clean.unmistaken window registration (List.mem_append_left more inspected)
  unreused before window after split := by
    apply clean.unreused before window (after ++ more)
    rw [split, List.append_assoc, List.cons_append]

/-- What a session relies on; of the handles `held` it knows that they are its own. -/
structure Sound (held : List Handle) (s : Session) : Prop where
  ledger : ∀ owned ∈ s.ownedWindows, OwnHandle s.desktop.log owned.handle
  windows : ∀ window ∈ s.desktop.windows,
    window.own = true ↔ OwnHandle s.desktop.log window.handle
  closed : ∀ window, Entry.closed window ∈ s.desktop.log → window.own = true
  holds : ∀ handle ∈ held, OwnHandle s.desktop.log handle

/-- The log grows, and on a clean desktop the session stays sound. -/
structure Onward (host : DesktopHost) (held : List Handle) (s s' : Session) : Prop where
  grows : s.desktop.log <+: s'.desktop.log
  sound : Clean host s'.desktop.log → Sound held s → Sound held s'

/-- From a sound state `s` on, the handle is that of an own window by the time of `s'`. -/
def Known (host : DesktopHost) (held : List Handle) (s s' : Session) (handle : Handle) : Prop :=
  Clean host s'.desktop.log → Sound held s → OwnHandle s'.desktop.log handle

section Onward

variable {host : DesktopHost} {held : List Handle} {s s' : Session}

theorem Clean.of_onward (clean : Clean host s'.desktop.log) (onward : Onward host held s s') :
    Clean host s.desktop.log := by
  obtain ⟨more, isLog⟩ := onward.grows
  rw [← isLog] at clean
  exact clean.of_append

instance : Std.Refl (Onward host held) where
  refl _ := ⟨List.prefix_rfl, fun _ sound => sound⟩

instance : IsTrans Session (Onward host held) where
  trans _ _ _ first second := {
    grows := first.grows.trans second.grows
    sound := fun clean sound => second.sound clean (first.sound (clean.of_onward second) sound) }

/-- What is known of a handle stays known. -/
theorem Known.later {s₁ : Session} {handle : Handle} (known : Known host held s s₁ handle)
    (onward : Onward host held s₁ s') : Known host held s s' handle := by
  intro clean sound
  have own := known (clean.of_onward onward) sound
  obtain ⟨more, isLog⟩ := onward.grows
  rw [← isLog]
  exact own.append more

theorem Known.since {s₁ : Session} {handle : Handle} (known : Known host held s₁ s' handle)
    (before : Onward host held s s₁) (after : Onward host held s₁ s') : Known host held s s' handle :=
  fun clean sound => known clean (before.sound (clean.of_onward after) sound)

theorem onward_of_same (sameDesktop : s'.desktop = s.desktop)
    (ledger : ∀ owned ∈ s'.ownedWindows, owned ∈ s.ownedWindows) : Onward host held s s' where
  grows := by
    rw [sameDesktop]
  sound _ sound := {
    ledger := by
      intro owned member
      rw [sameDesktop]
      exact sound.ledger owned (ledger owned member)
    windows := by
      rw [sameDesktop]
      exact sound.windows
    closed := by
      rw [sameDesktop]
      exact sound.closed
    holds := by
      rw [sameDesktop]
      exact sound.holds }

/-- An entry of the session itself: a window that it closes has to be its own. -/
theorem onward_record {s₁ : Session} {entry : Entry} (onward : Onward host held s s₁)
    (notOpened : ∀ window, entry ≠ .opened window)
    (closes : ∀ window, entry = .closed window → Clean host s₁.desktop.log → Sound held s →
      window.own = true) : Onward host held s (s₁.record entry) where
  grows := onward.grows.trans (List.prefix_append _ _)
  sound clean sound := by
    have before : Clean host s₁.desktop.log := clean.of_append
    have sound₁ := onward.sound before sound
    refine ⟨?_, ?_, ?_, ?_⟩
    · intro owned member
      exact (sound₁.ledger owned member).append _
    · intro window member
      rw [sound₁.windows window member]
      constructor
      · intro own
        exact own.append _
      · intro ⟨first, opened, isFirst⟩
        rcases List.mem_append.mp opened with old | isLast
        · exact ⟨first, old, isFirst⟩
        · exact (notOpened first (List.mem_singleton.mp isLast).symm).elim
    · intro window closed
      rcases List.mem_append.mp closed with old | isLast
      · exact sound₁.closed window old
      · exact closes window (List.mem_singleton.mp isLast).symm before sound
    · intro handle member
      exact (sound₁.holds handle member).append _

/-- A window that is known may go into the ledger. -/
theorem onward_own {s₁ : Session} {window : Window} (onward : Onward host held s s₁)
    (known : Known host held s s₁ window.handle) (application : ApprovedApplication) (source : String) :
    Onward host held s (s₁.own window application source) where
  grows := onward.grows
  sound clean sound := by
    have sound₁ := onward.sound clean sound
    refine ⟨?_, sound₁.windows, sound₁.closed, sound₁.holds⟩
    intro owned member
    rcases List.mem_append.mp member with old | isNew
    · exact sound₁.ledger owned (List.mem_filter.mp old).1
    · rw [List.mem_singleton.mp isNew]
      exact known clean sound

theorem onward_release (s : Session) (handle : Handle) : Onward host held s (s.release handle) :=
  onward_of_same rfl fun _ member => (List.mem_filter.mp member).1

/-! ## Moves of others -/

theorem onward_withWindow (s : Session) (window : Window) :
    Onward host held s { s with desktop := s.desktop.withWindow window } := by
  by_cases taken : window.handle ∈ s.desktop.windows.map (·.handle)
  · rw [Desktop.withWindow_taken taken]
    exact refl s
  have grown : ∀ {handle}, OwnHandle s.desktop.log handle →
      OwnHandle (s.desktop.withWindow window).log handle := by
    intro handle own
    rw [Desktop.withWindow_log taken]
    exact own.append _
  refine ⟨?_, fun clean sound => ⟨?_, ?_, ?_, ?_⟩⟩
  · rw [Desktop.withWindow_log taken]
    exact List.prefix_append _ _
  · intro owned member
    exact grown (sound.ledger owned member)
  · intro other member
    rw [Desktop.withWindow_log taken] at clean ⊢
    rw [Desktop.withWindow_windows taken] at member
    rcases List.mem_append.mp member with old | isNew
    · -- the new window has a handle of its own, so nothing changes for an older one
      rw [sound.windows other old, ownHandle_opened]
      have differs : window.handle ≠ other.handle := by
        intro same
        rw [same] at taken
        exact taken (List.mem_map_of_mem old)
      simp [differs]
    · rw [List.mem_singleton.mp isNew, ownHandle_opened]
      cases isOwn : window.own with
      | true => simp
      | false =>
          have unused := clean.unreused s.desktop.log window [] rfl isOwn
          simp [unused]
  · intro closed member
    rw [Desktop.withWindow_log taken] at member
    have old : Entry.closed closed ∈ s.desktop.log := by simpa using member
    exact sound.closed closed old
  · intro handle member
    exact grown (sound.holds handle member)

theorem onward_move (s : Session) (move : Move) :
    Onward host held s { s with desktop := s.desktop.apply move } := by
  cases move with
  | opens window => exact onward_withWindow s window
  | changes handle title visible =>
      refine ⟨List.prefix_rfl, fun _ sound => ⟨sound.ledger, ?_, sound.closed, sound.holds⟩⟩
      intro window member
      obtain ⟨before, old, rfl⟩ := List.mem_map.mp member
      have same := sound.windows before old
      split
      · exact same
      · exact same
  | vanishes handle =>
      refine ⟨List.prefix_rfl, fun _ sound => ⟨sound.ledger, ?_, sound.closed, sound.holds⟩⟩
      intro window member
      exact sound.windows window (List.mem_filter.mp member).1

theorem onward_interrupted (s : Session) (moves : List Move) :
    Onward host held s (s.interrupted moves) := by
  induction moves generalizing s with
  | nil => exact refl s
  | cons move moves ih =>
      exact trans_of (Onward host held) (onward_move s move) (ih { s with desktop := s.desktop.apply move })

end Onward

/-! ## Statements -/

/-- The session goes on. -/
abbrev Steady (host : DesktopHost) (held : List Handle) {α : Type} (m : Desk α) : Prop :=
  Act.Within (Onward host held) (fun _ => False) m

section Steady

variable {host : DesktopHost} {held : List Handle} {α β : Type} {m : Desk α} {s s' : Session} {t : Trace NativeSig}

theorem Steady.onward (steady : Steady host held m) {r : Except Raised α} (run : Act.Runs m s t r s') :
    Onward host held s s' :=
  (steady s t r s' run).1

theorem steady_of (onward : ∀ s t r s', Act.Runs m s t r s' → Onward host held s s') : Steady host held m :=
  fun s t r s' run => ⟨onward s t r s' run, fun ⟨_, _, never⟩ => never⟩

theorem Steady.bind {f : α → Desk β} (first : Steady host held m) (second : ∀ a, Steady host held (f a)) :
    Steady host held (m >>= f) :=
  Act.Within.bind first second

theorem Steady.tryCatch {handler : Raised → Desk α} (body : Steady host held m)
    (caught : ∀ e, Steady host held (handler e)) : Steady host held (tryCatch m handler) :=
  Act.Within.tryCatch body caught

theorem steady_pure (a : α) : Steady host held (pure a) := Act.within_pure a

theorem steady_throw (e : Raised) : Steady host held (throw e : Desk α) := Act.within_throw e

theorem steady_get : Steady host held get := Act.within_get

theorem steady_native (call : NativeCall) : Steady host held (native call) := by
  unfold native
  refine Steady.bind (Act.within_ask fun _ => id) fun answer => ?_
  refine Steady.bind (Act.within_modify fun s => onward_interrupted s _) fun _ => ?_
  exact Act.within_ofExcept _

theorem steady_topLevelHandles : Steady host held topLevelHandles := by
  unfold topLevelHandles
  refine Steady.bind (steady_native _) fun _ => ?_
  exact Steady.bind steady_get fun _ => steady_pure _

theorem steady_look (call : NativeCall) (handle : Handle) : Steady host held (look call handle) := by
  unfold look
  refine Steady.bind (steady_native _) fun _ => ?_
  refine Steady.bind steady_get fun s => ?_
  cases s.desktop.window? handle with
  | some window => exact steady_pure window
  | none => exact steady_throw _

theorem steady_windowInfo (handle : Handle) : Steady host held (windowInfo handle) := by
  unfold windowInfo
  refine Steady.bind (steady_look _ handle) fun _ => ?_
  refine Steady.bind (steady_look _ handle) fun _ => ?_
  exact Steady.bind (steady_look _ handle) fun _ => steady_pure _

theorem steady_poll {predicate : Desk (Option α)} (steady : Steady host held predicate) (timeoutMs : Int)
    (failureKind : String) (turns : Nat) (lastError : Option String) :
    Steady host held (poll timeoutMs failureKind predicate turns lastError) := by
  induction turns generalizing lastError with
  | zero => exact steady_throw _
  | succ turns ih =>
      unfold poll
      refine Steady.bind (Steady.tryCatch ?_ fun e => ?_) fun seen => ?_
      · exact Steady.bind steady fun _ => steady_pure _
      · split
        · exact steady_throw e
        · exact steady_pure _
      · cases seen with
        | ok value =>
            cases value with
            | some value => exact steady_pure value
            | none => exact ih lastError
        | error message => exact ih (some message)

theorem steady_waitUntil {predicate : Desk (Option α)} (steady : Steady host held predicate)
    (timeoutMs : Int) (failureKind : String) :
    Steady host held (waitUntil timeoutMs failureKind predicate) := by
  unfold waitUntil
  exact Steady.bind (steady_native _) fun turns => steady_poll steady _ _ turns none

theorem steady_given (value : Option α) : Steady host held (given value) := by
  cases value with
  | some value => exact steady_pure value
  | none => exact steady_throw _

theorem steady_matchesSelector (selector : WindowSelector) (handle : Handle) :
    Steady host held (matchesSelector host selector handle) := by
  unfold matchesSelector
  refine Steady.bind steady_get fun s => ?_
  split
  · exact steady_pure _
  · refine Steady.tryCatch ?_ fun _ => steady_pure _
    refine Steady.bind (steady_windowInfo handle) fun _ => ?_
    exact Steady.bind steady_get fun _ => steady_pure _

theorem steady_matching (selector : WindowSelector) (handles : List Handle) :
    Steady host held (matching host selector handles) := by
  induction handles with
  | nil => exact steady_pure _
  | cons handle rest ih =>
      unfold matching
      refine Steady.bind (steady_matchesSelector selector handle) fun _ => ?_
      exact Steady.bind ih fun _ => steady_pure _

theorem steady_selectableHandles (selector : WindowSelector) :
    Steady host held (selectableHandles selector) := by
  unfold selectableHandles
  refine Steady.bind steady_get fun s => ?_
  split
  · exact steady_pure _
  · exact steady_topLevelHandles

theorem steady_resolveWindow (selector : WindowSelector) (timeoutMs : Int) :
    Steady host held (resolveWindow host selector timeoutMs) := by
  apply steady_waitUntil
  unfold discoverSelected
  refine Steady.bind (steady_selectableHandles selector) fun handles => ?_
  refine Steady.bind (steady_matching selector handles) fun matched => ?_
  split
  · exact steady_throw _
  · exact steady_pure _

theorem steady_openExplorer (path : String) (timeoutMs : Int) :
    Steady host held (openExplorer host path timeoutMs) := by
  unfold openExplorer
  refine Steady.bind (steady_resolveWindow _ _) fun handle => ?_
  refine Steady.bind (steady_native _) fun _ => ?_
  refine Steady.bind (steady_native _) fun _ => ?_
  refine Steady.bind (steady_waitUntil ?_ _ _) fun _ => ?_
  · exact Steady.bind (steady_native _) fun _ => steady_pure _
  refine Steady.bind (steady_native _) fun _ => ?_
  refine Steady.bind (steady_waitUntil ?_ _ _) fun _ => ?_
  · exact Steady.bind (steady_windowInfo handle) fun _ => steady_pure _
  refine Steady.bind (steady_windowInfo handle) fun _ => ?_
  refine Steady.bind steady_get fun s => ?_
  cases s.owned? handle with
  | some owned => exact steady_pure handle
  | none => exact steady_throw _

theorem steady_activate (handle : Handle) (target : UITarget) : Steady host held (activate handle target) := by
  unfold activate
  refine Steady.bind (steady_native _) fun _ => ?_
  exact Steady.tryCatch (steady_native _) fun _ => steady_native _

theorem steady_verifyFocused (expected : Option Bool) (present : Bool) (handle : Handle) :
    Steady host held (verifyFocused expected present handle) := by
  unfold verifyFocused
  cases expected with
  | none => exact steady_pure true
  | some expected =>
      dsimp only
      split
      · exact Steady.bind (steady_native _) fun _ => steady_pure _
      · exact steady_pure _

theorem steady_verifyTarget (expected : Option UITarget) (handle : Handle) :
    Steady host held (verifyTarget expected handle) := by
  unfold verifyTarget
  cases expected with
  | none => exact steady_pure true
  | some target => exact Steady.bind (steady_native _) fun _ => steady_pure _

theorem steady_verifyPath (expected : Option String) (handle : Handle) :
    Steady host held (verifyPath host expected handle) := by
  unfold verifyPath
  cases expected with
  | none => exact steady_pure true
  | some path => exact Steady.bind (steady_native _) fun _ => steady_pure _

theorem steady_verifyExpected (expected : DesktopExpectedState) (handle : Handle) :
    Steady host held (verifyExpected host expected handle) := by
  unfold verifyExpected
  refine Steady.bind steady_topLevelHandles fun handles => ?_
  refine Steady.bind (steady_verifyFocused _ _ handle) fun _ => ?_
  refine Steady.bind (steady_verifyTarget _ handle) fun _ => ?_
  exact Steady.bind (steady_verifyPath _ handle) fun _ => steady_pure _

end Steady

/-! ## Registrations -/

section Registrations

variable {host : DesktopHost} {held : List Handle} {before : List Handle} {registration : Registration}
  {s s₁ s' : Session} {t : Trace NativeSig}

theorem look_shown {call : NativeCall} {handle : Handle} {window : Window}
    (run : Act.Runs (look call handle) s t (.ok window) s') :
    window ∈ s'.desktop.windows ∧ window.handle = handle := by
  obtain ⟨early, _, s₁, rest, -, -, run⟩ := run.bind_ok_inv
  have run := run.get_bind_inv
  cases found : s₁.desktop.window? handle with
  | none =>
      rw [found] at run
      cases (Act.runs_throw.mp run).2.1
  | some shown =>
      rw [found] at run
      obtain ⟨-, isWindow, rfl⟩ := Act.runs_pure.mp run
      cases isWindow
      have isHandle := List.find?_some found
      exact ⟨List.mem_of_find?_eq_some found, by simpa using isHandle⟩

/-- Whose a window is, and its handle, are those that are shown when it has been read. -/
theorem windowInfo_shown {handle : Handle} {window : Window}
    (run : Act.Runs (windowInfo handle) s t (.ok window) s') :
    ∃ shown ∈ s'.desktop.windows, shown.own = window.own ∧ shown.handle = window.handle := by
  obtain ⟨early, first, s₁, rest, -, -, run⟩ := run.bind_ok_inv
  obtain ⟨early', second, s₂, rest', -, -, run⟩ := run.bind_ok_inv
  obtain ⟨early'', third, s₃, rest'', -, read, run⟩ := run.bind_ok_inv
  obtain ⟨-, isWindow, rfl⟩ := Act.runs_pure.mp run
  cases isWindow
  exact ⟨third, (look_shown read).1, rfl, rfl⟩

theorem onward_inspected (s : Session) (window : Window) :
    Onward host held s (s.record (.inspected window registration)) := by
  apply onward_record (refl s)
  · intro other same
    cases same
  · intro other same
    cases same

theorem steady_candidate (handle : Handle) : Steady host held (candidate host before registration handle) := by
  unfold candidate
  refine Steady.bind steady_get fun s => ?_
  split
  · exact steady_pure _
  · refine Steady.tryCatch ?_ fun _ => steady_pure _
    refine Steady.bind (steady_windowInfo handle) fun window => ?_
    refine Steady.bind (Act.within_modify fun s => onward_inspected s window) fun _ => ?_
    exact steady_pure _

theorem steady_candidates (handles : List Handle) :
    Steady host held (candidates host before registration handles) := by
  induction handles with
  | nil => exact steady_pure _
  | cons handle rest ih =>
      unfold candidates
      refine Steady.bind (steady_candidate handle) fun _ => ?_
      exact Steady.bind ih fun _ => steady_pure _

/-- A candidate passed the filters, so on a clean desktop it is an own window. -/
theorem candidate_known {handle : Handle} {found : List Window}
    (run : Act.Runs (candidate host before registration handle) s t (.ok found) s') :
    ∀ window ∈ found, Known host held s s' window.handle := by
  intro window member
  have run := run.get_bind_inv
  by_cases known : handle ∈ before ∨ s.owned? handle ≠ none
  · rw [if_pos known] at run
    obtain ⟨-, isFound, -⟩ := Act.runs_pure.mp run
    cases isFound
    cases member
  rw [if_neg known] at run
  rcases Act.runs_tryCatch.mp run with ⟨a, isFound, run⟩ | ⟨early, e, s₁, rest, -, -, caught⟩
  · cases isFound
    obtain ⟨early, info, s₁, rest, -, read, run⟩ := run.bind_ok_inv
    have run := run.modify_bind_inv
    obtain ⟨-, isFound, rfl⟩ := Act.runs_pure.mp run
    cases isFound
    cases accepts : registration.accepts host info with
    | false =>
        rw [accepts] at member
        cases member
    | true =>
        rw [accepts, if_pos rfl, List.mem_singleton] at member
        obtain ⟨shown, isShown, sameOwn, sameHandle⟩ := windowInfo_shown read
        intro clean sound
        have isOwn : info.own = true :=
          clean.unmistaken info registration (List.mem_append_right _ (List.mem_singleton_self _)) accepts
        have sound₁ := ((steady_windowInfo handle).onward read).sound clean.of_append sound
        have own := (sound₁.windows shown isShown).mp (by rw [sameOwn, isOwn])
        rw [member, ← sameHandle]
        exact own.append _
  · obtain ⟨-, isFound, -⟩ := Act.runs_pure.mp caught
    cases isFound
    cases member

theorem candidates_known {handles : List Handle} {found : List Window}
    (run : Act.Runs (candidates host before registration handles) s t (.ok found) s') :
    ∀ window ∈ found, Known host held s s' window.handle := by
  induction handles generalizing s t found with
  | nil =>
      obtain ⟨-, isFound, -⟩ := Act.runs_pure.mp run
      cases isFound
      intro window member
      cases member
  | cons handle rest ih =>
      obtain ⟨early, first, s₁, later, -, looked, run⟩ := run.bind_ok_inv
      obtain ⟨early', more, s₂, later', -, others, run⟩ := run.bind_ok_inv
      obtain ⟨-, isFound, rfl⟩ := Act.runs_pure.mp run
      cases isFound
      have onward : Onward host held s s₁ := (steady_candidate handle).onward looked
      have onward' : Onward host held s₁ s' := (steady_candidates rest).onward others
      intro window member
      rcases List.mem_append.mp member with isFirst | isMore
      · exact (candidate_known looked window isFirst).later onward'
      · exact (ih others window isMore).since onward onward'

theorem steady_discoverNew (source : String) :
    Steady host held (discoverNew host before registration source) := by
  unfold discoverNew
  refine Steady.bind steady_topLevelHandles fun handles => ?_
  apply steady_of
  intro s t r s' run
  rcases run.bind_inv with ⟨e, -, raised⟩ | ⟨early, found, s₁, rest, -, searched, run⟩
  · exact (steady_candidates handles).onward raised
  have onward : Onward host held s s₁ := (steady_candidates handles).onward searched
  cases found with
  | nil =>
      obtain ⟨-, -, rfl⟩ := Act.runs_pure.mp run
      exact onward
  | cons window others =>
      cases others with
      | nil =>
          have run := run.modify_bind_inv
          obtain ⟨-, -, rfl⟩ := Act.runs_pure.mp run
          have known : Known host held s s₁ window.handle :=
            candidates_known searched window (List.mem_singleton_self window)
          exact onward_own onward known _ _
      | cons =>
          obtain ⟨-, -, rfl⟩ := Act.runs_throw.mp run
          exact onward

theorem steady_registerNewWindow (timeoutMs : Int) (source : String) :
    Steady host held (registerNewWindow host before registration timeoutMs source) :=
  steady_waitUntil (steady_discoverNew source) _ _

theorem steady_launch (application : ApprovedApplication) (timeoutMs : Int) :
    Steady host held (launch host application timeoutMs) := by
  unfold launch
  refine Steady.bind steady_topLevelHandles fun handles => ?_
  refine Steady.bind (steady_native _) fun launched => ?_
  refine Steady.bind (Act.within_modify fun s => onward_of_same rfl fun _ => id) fun _ => ?_
  refine Steady.bind (steady_registerNewWindow _ _) fun handle => ?_
  exact Steady.bind (steady_windowInfo handle) fun _ => steady_pure handle

theorem steady_activateUiTarget (selector : WindowSelector) (target : UITarget)
    (action : DesktopAction) : Steady host held (activateUiTarget host selector target action) := by
  unfold activateUiTarget
  refine Steady.bind (steady_resolveWindow selector _) fun handle => ?_
  refine Steady.bind (steady_native _) fun found => ?_
  split
  · exact steady_throw _
  split
  · exact steady_throw _
  refine Steady.bind steady_topLevelHandles fun handles => ?_
  refine Steady.bind (steady_activate handle target) fun _ => ?_
  split
  · refine Steady.bind (steady_registerNewWindow _ _) fun opened => ?_
    exact Steady.bind (steady_windowInfo opened) fun _ => steady_pure opened
  · exact steady_pure handle

end Registrations

/-! ## Closing -/

section Closing

variable {host : DesktopHost} {held : List Handle} {s s' : Session}

/-- The handles of the ledger are those of own windows anyway. -/
theorem Onward.of_ledger (onward : Onward host held s s')
    (inLedger : ∀ handle ∈ held, ∃ owned ∈ s.ownedWindows, owned.handle = handle) :
    Onward host [] s s' where
  grows := onward.grows
  sound clean sound := by
    have holds : ∀ handle ∈ held, OwnHandle s.desktop.log handle := by
      intro handle member
      obtain ⟨owned, isOwned, rfl⟩ := inLedger handle member
      exact sound.ledger owned isOwned
    have sound' := onward.sound clean ⟨sound.ledger, sound.windows, sound.closed, holds⟩
    exact ⟨sound'.ledger, sound'.windows, sound'.closed, List.forall_mem_nil _⟩

/-- Closing a window records it, so its handle has to be that of an own window. -/
theorem steady_closeHandle {handle : Handle} (isHeld : handle ∈ held) :
    Steady host held (closeHandle handle) := by
  unfold closeHandle
  refine Steady.bind (Act.within_ask fun _ => id) fun answer => ?_
  refine Steady.bind (Act.within_modify fun s => onward_interrupted s _) fun _ => ?_
  apply steady_of
  intro s t r s' run
  have run := run.get_bind_inv
  cases found : s.desktop.window? handle with
  | none =>
      rw [found] at run
      obtain ⟨-, -, rfl⟩ := Act.runs_throw.mp run
      exact refl s'
  | some window =>
      rw [found] at run
      obtain ⟨-, -, rfl⟩ := Act.runs_ofExcept.mp run.modify_bind_inv
      apply onward_record (refl s)
      · intro other same
        cases same
      · intro closed isClosed _ sound
        obtain rfl := Entry.closed.inj isClosed
        have isHandle : window.handle = handle := by simpa using List.find?_some found
        rw [sound.windows window (List.mem_of_find?_eq_some found), isHandle]
        exact sound.holds handle isHeld

theorem steady_awaitGone (handle : Handle) (timeoutMs : Int) (failureKind : String) :
    Steady host held (waitUntil timeoutMs failureKind do
      let handles ← topLevelHandles
      pure (holds (handle ∉ handles))) := by
  apply steady_waitUntil
  exact Steady.bind steady_topLevelHandles fun _ => steady_pure _

theorem steady_release (handle : Handle) :
    Steady host held (modify (·.release handle) : Desk Unit) :=
  Act.within_modify fun s => onward_release s handle

/-- The ledger is searched before the window is closed, and only the session writes it. -/
theorem steady_closeWindow (selector : WindowSelector) (timeoutMs : Int) :
    Steady host [] (closeWindow host selector timeoutMs) := by
  unfold closeWindow
  refine Steady.bind (steady_resolveWindow selector timeoutMs) fun handle => ?_
  apply steady_of
  intro s t r s' run
  have run := run.get_bind_inv
  cases isOwned : s.owned? handle with
  | none =>
      rw [isOwned] at run
      obtain ⟨-, -, rfl⟩ := Act.runs_throw.mp run
      exact refl s'
  | some owned =>
      rw [isOwned] at run
      have isHandle : owned.handle = handle := by simpa using List.find?_some isOwned
      have closing : Onward host [handle] s s' := by
        refine Steady.onward ?_ run
        refine Steady.bind (steady_closeHandle (List.mem_singleton_self handle)) fun _ => ?_
        refine Steady.bind (steady_awaitGone handle _ _) fun _ => ?_
        exact Steady.bind (steady_release handle) fun _ => steady_pure handle
      apply closing.of_ledger
      intro other member
      rw [List.mem_singleton.mp member]
      exact ⟨owned, List.mem_of_find?_eq_some isOwned, isHandle⟩

theorem steady_cleanUp {owned : OwnedWindow} (isHeld : owned.handle ∈ held) :
    Steady host held (cleanUp owned) := by
  unfold cleanUp
  refine Steady.bind steady_topLevelHandles fun handles => ?_
  split
  · refine Steady.bind (steady_closeHandle isHeld) fun _ => ?_
    exact Steady.bind (steady_awaitGone owned.handle _ _) fun _ => steady_release _
  · exact steady_release _

theorem steady_cleanUpAll {ledger : List OwnedWindow}
    (areHeld : ∀ owned ∈ ledger, owned.handle ∈ held) : Steady host held (cleanUpAll ledger) := by
  induction ledger with
  | nil => exact steady_pure ()
  | cons owned rest ih =>
      unfold cleanUpAll
      refine Steady.bind (Steady.tryCatch ?_ fun e => ?_) fun _ => ?_
      · exact steady_cleanUp (areHeld owned List.mem_cons_self)
      · exact Act.within_modify fun s => onward_of_same rfl fun _ => id
      · exact ih fun other member => areHeld other (List.mem_cons_of_mem owned member)

end Closing

/-! ## Sessions -/

section Sessions

variable {host : DesktopHost} {s s' : Session}

theorem steady_perform (action : DesktopAction) : Steady host [] (perform host action) := by
  unfold perform
  cases action.type with
  | launchApplication => exact Steady.bind (steady_given _) fun _ => steady_launch _ _
  | openPathInExplorer => exact Steady.bind (steady_given _) fun _ => steady_openExplorer _ _
  | waitForWindow =>
      refine Steady.bind (steady_given _) fun selector => ?_
      refine Steady.bind (steady_resolveWindow selector _) fun handle => ?_
      exact Steady.bind (steady_windowInfo handle) fun _ => steady_pure handle
  | focusWindow =>
      refine Steady.bind (steady_given _) fun selector => ?_
      refine Steady.bind (steady_resolveWindow selector _) fun handle => ?_
      refine Steady.bind (steady_native _) fun _ => ?_
      refine Steady.bind (steady_waitUntil ?_ _ _) fun _ => ?_
      · exact Steady.bind (steady_native _) fun _ => steady_pure _
      · exact Steady.bind (steady_windowInfo handle) fun _ => steady_pure handle
  | activateUiTarget =>
      refine Steady.bind (steady_given _) fun selector => ?_
      exact Steady.bind (steady_given _) fun target => steady_activateUiTarget selector target action
  | closeWindow => exact Steady.bind (steady_given _) fun selector => steady_closeWindow selector _

theorem steady_dispatch (action : DesktopAction) : Steady host [] (dispatch host action) := by
  unfold dispatch
  refine Steady.bind (Act.within_ofExcept _) fun _ => ?_
  refine Steady.bind steady_get fun s => ?_
  split
  · exact steady_throw _
  refine Steady.bind (steady_native _) fun _ => ?_
  refine Steady.tryCatch ?_ fun e => ?_
  · refine Steady.bind (steady_perform action) fun handle => ?_
    refine Steady.bind (steady_verifyExpected _ handle) fun passed => ?_
    exact Steady.bind (steady_native _) fun _ => steady_pure _
  · exact Steady.bind (steady_native _) fun _ => steady_pure _

theorem steady_start : Steady host [] start := by
  unfold start
  refine Steady.bind steady_get fun s => ?_
  split
  · exact steady_pure ()
  refine Steady.bind (Act.within_modify fun s => onward_of_same rfl fun _ => id) fun _ => ?_
  refine Steady.bind steady_topLevelHandles fun handles => ?_
  exact Act.within_modify fun s => onward_of_same rfl fun _ => id

theorem steady_stop : Steady host [] stop := by
  unfold stop
  apply steady_of
  intro s t r s' run
  have run := run.get_bind_inv
  split at run
  · obtain ⟨-, -, rfl⟩ := Act.runs_pure.mp run
    exact refl s'
  have closing : Onward host (s.ownedWindows.map (·.handle)) s s' := by
    refine Steady.onward ?_ run
    refine Steady.bind (Act.within_modify fun s => onward_of_same rfl fun _ => id) fun _ => ?_
    refine Steady.bind (steady_cleanUpAll fun owned => List.mem_map_of_mem) fun _ => ?_
    exact Act.within_modify fun s => onward_of_same rfl fun _ => id
  apply closing.of_ledger
  intro handle member
  exact List.mem_map.mp member

theorem onward_step (step : (desktopSession host).Step) : Onward host [] step.before step.after := by
  obtain ⟨method, before, trace, outcome, after, run⟩ := step
  cases method with
  | start => exact steady_start.onward run
  | stop => exact steady_stop.onward run
  | dispatch action => exact (steady_dispatch action).onward run
  | otherMethod => exact (steady_native .otherCall).onward run

theorem sound_new (initial : Desktop.Initial) : Sound [] (.new initial) where
  ledger := List.forall_mem_nil _
  windows window member := by
    rw [initial.foreign window member]
    simp [OwnHandle, Session.new, Desktop.Initial.shown]
  closed := by simp [Session.new, Desktop.Initial.shown]
  holds := List.forall_mem_nil _

/-- On a clean desktop a session closes only windows of its own. -/
theorem closes_only_own_windows {initial : Desktop.Initial} {steps : List (desktopSession host).Step}
    (run : (desktopSession host).Run (.new initial) steps s') (clean : Clean host s'.desktop.log) :
    ∀ window, Entry.closed window ∈ s'.desktop.log → window.own = true := by
  have kept := run.holds_before (I := fun s => Clean host s.desktop.log → Sound [] s)
    (P := fun _ => True) (fun step _ sound clean => ?_) (fun _ => sound_new initial) (fun _ _ => trivial)
  · exact (kept.2 clean).closed
  · have onward := onward_step step
    exact onward.sound clean (sound (clean.of_onward onward))

end Sessions

/-! ## Two sessions beside a user -/

def plainDesk : DesktopHost where
  lower := id
  isAbsolute _ := true
  isDirectory _ := true
  resolve path := path
  fileName path := path

/-- The user has a folder open. -/
def folderOpen : Desktop.Initial where
  windows := [⟨1, "reports", 10, "explorer.exe", true, false⟩]
  distinct := by decide
  foreign := by decide

/-- A window comes up during one kind of call, and a window that is closed is gone by the next call. -/
def deskScript (isOpening : NativeCall → Bool) (window : Window) : Script NativeSig (Option Handle) :=
  fun closing call =>
    let moves := closing.toList.map Move.vanishes ++ if isOpening call then [.opens window] else []
    let answered : Answered call.Value :=
      match call with
      | .foregroundWindow => { moves := moves, result := .ok 1 }
      | .startApplication _ => { moves := moves, result := .ok 42 }
      | .descendants _ _ => { moves := moves, result := .ok 1 }
      | .polls _ => { moves := moves, result := .ok 3 }
      | .addressEdit _ => { moves := moves, result := .ok true }
      | .addressValues _ => { moves := moves, result := .ok [] }
      | .topLevelWindows | .windowProcess _ | .windowTitle _ | .windowState _ | .targetProperties _ _
      | .invoke _ _ | .doubleClick _ _ | .setFocus _ | .typeKeys _ | .enterPath _ _ | .close _
      | .otherCall => { moves := moves, result := .ok () }
    (answered, match call with | .close handle => some handle | _ => none)

def launchedNotepad : Window := ⟨7, "notepad", 42, "notepad.exe", true, true⟩

theorem launched_notepad_closes :
    ∃ steps s', (desktopSession plainDesk).Run (.new folderOpen) steps s' ∧
      Entry.closed launchedNotepad ∈ s'.desktop.log ∧
      ∀ window, Entry.closed window ∈ s'.desktop.log → window.own = true := by
  obtain ⟨steps, s', run, -, shown⟩ := Component.exists_run (C := desktopSession plainDesk)
    (deskScript (· matches .startApplication _) launchedNotepad)
    [.start, .dispatch { type := .launchApplication, application := some .notepad }, .stop]
    (.new folderOpen) none
    (fun _ s' => s'.desktop.log = [.opened launchedNotepad,
      .inspected launchedNotepad ⟨.notepad, none, some 42⟩, .closed launchedNotepad])
    (by decide +kernel)
  have log := of_decide_eq_true shown
  refine ⟨steps, s', run, by simp [log], closes_only_own_windows run ⟨?_, ?_⟩⟩
  · intro window registration inspected _
    have isWindow : window = launchedNotepad := by
      simp [log] at inspected
      exact inspected.1
    rw [isWindow]
    rfl
  · intro before window after split foreign
    have opened : Entry.opened window ∈ s'.desktop.log := by simp [split]
    have isWindow : window = launchedNotepad := by simpa [log] using opened
    rw [isWindow] at foreign
    cases foreign

def usersNotepad : Window := ⟨7, "shopping list - notepad", 90, "notepad.exe", true, false⟩

/-- The user opens a Notepad while the session activates a target, and the session closes it. -/
theorem session_closes_users_notepad :
    ∃ steps s', (desktopSession plainDesk).Run (.new folderOpen) steps s' ∧
      Entry.closed usersNotepad ∈ s'.desktop.log ∧ usersNotepad.own = false := by
  obtain ⟨steps, s', run, -, shown⟩ := Component.exists_run (C := desktopSession plainDesk)
    (deskScript (· matches .invoke _ _) usersNotepad)
    [.start,
      .dispatch {
        type := .activateUiTarget
        window := some { title := some "reports", ownedOnly := false }
        target := some { name := "summary.txt", controlType := "ListItem" } },
      .stop]
    (.new folderOpen) none (fun _ s' => Entry.closed usersNotepad ∈ s'.desktop.log) (by decide +kernel)
  exact ⟨steps, s', run, of_decide_eq_true shown, rfl⟩

end Dingdongditch.WindowsDesktop
