import Dingdongditch.Interaction.Scripted

/-!
# Clients of a component

Clients run side by side: each is a program that calls the methods of a component
and an environment of its own.  A call of a method is one indivisible step, and
the steps of the clients interleave in any order (`Interleaved`); clients start
at any time, and leave when their program has returned.

A `Protocol` reads off the past of a client what it holds.  `Prog.Follows` says
that a program makes only calls that the protocol allows, whatever the answers
are.  `Interleaved.invariant` is the rule for what the state of the component has
to do with what all the clients hold.
-/

namespace Dingdongditch.Interaction

variable {S T : Sig} {σ ε α β ρ κ ω : Type}

/-! ## Protocols -/

/-- What the events of a client make of what it holds. -/
structure Protocol (S : Sig) (κ : Type) where
  start : κ
  allowed : κ → Event S → Prop
  move : κ → Event S → κ

/-- What a client holds after the events of `past`. -/
def Protocol.holding (protocol : Protocol S κ) (past : Trace S) : κ :=
  past.foldl protocol.move protocol.start

variable {protocol : Protocol S κ}

theorem Protocol.holding_append (past : Trace S) (e : Event S) :
    protocol.holding (past ++ [e]) = protocol.move (protocol.holding past) e := by
  unfold Protocol.holding
  rw [List.foldl_append]
  rfl

/-- The program makes only calls that are allowed, and returns when `Q` holds. -/
def Prog.Follows (protocol : Protocol S κ) : κ → Prog S α → (κ → α → Prop) → Prop
  | k, .done a, Q => Q k a
  | k, .call c next, Q => ∀ answer, protocol.allowed k ⟨c, answer⟩ ∧
      Follows protocol (protocol.move k ⟨c, answer⟩) (next answer) Q
  | _, .diverge, _ => True

theorem Prog.Follows.mono {k : κ} {p : Prog S α} {P Q : κ → α → Prop}
    (follows : p.Follows protocol k P) (weaker : ∀ k a, P k a → Q k a) :
    p.Follows protocol k Q := by
  induction p generalizing k with
  | done a => exact weaker k a follows
  | call c next ih => exact fun answer => ⟨(follows answer).1, ih answer (follows answer).2⟩
  | diverge => trivial

theorem Prog.Follows.bind {k : κ} {p : Prog S α} {f : α → Prog S β} {P : κ → α → Prop}
    {Q : κ → β → Prop} (first : p.Follows protocol k P)
    (second : ∀ k a, P k a → (f a).Follows protocol k Q) : (p.bind f).Follows protocol k Q := by
  induction p generalizing k with
  | done a => exact second k a first
  | call c next ih => exact fun answer => ⟨(first answer).1, ih answer (first answer).2⟩
  | diverge => trivial

/-- Every event of the trace is allowed where it occurs. -/
def Protocol.Admits (protocol : Protocol S κ) : κ → Trace S → Prop
  | _, [] => True
  | k, e :: t => protocol.allowed k e ∧ Admits protocol (protocol.move k e) t

/-- A run of a program that follows the protocol. -/
theorem Prog.Follows.admits {k : κ} {p : Prog S α} {Q : κ → α → Prop} (follows : p.Follows protocol k Q)
    {t : Trace S} {a : α} (run : p.Runs t a) :
    protocol.Admits k t ∧ Q (t.foldl protocol.move k) a := by
  induction run generalizing k with
  | done a => exact ⟨trivial, follows⟩
  | call answer _ ih =>
      obtain ⟨allowed, rest⟩ := follows answer
      obtain ⟨admits, last⟩ := ih rest
      exact ⟨⟨allowed, admits⟩, last⟩

namespace Act

/-- Every run of the program follows the protocol. -/
def Follows (protocol : Protocol S κ) (k : κ) (m : Act S σ ε α) (Q : κ → Except ε α → Prop) : Prop :=
  ∀ s, (m s).Follows protocol k fun k out => Q k out.1

variable {k : κ} {P : κ → Except ε α → Prop} {Q : κ → Except ε β → Prop} {R : κ → Except ε α → Prop}

theorem follows_pure {a : α} (holds : P k (.ok a)) :
    Follows protocol k (Pure.pure a : Act S σ ε α) P := fun _ => holds

theorem follows_throw {e : ε} (holds : P k (.error e)) :
    Follows protocol k (throw e : Act S σ ε α) P := fun _ => holds

theorem follows_ofExcept {x : Except ε α} (holds : P k x) :
    Follows protocol k (ofExcept x : Act S σ ε α) P := by
  cases x with
  | ok a => exact follows_pure holds
  | error e => exact follows_throw holds

theorem follows_attempt {c : S.Call} {view : S.Answer c → Except ε α}
    (each : ∀ answer, protocol.allowed k ⟨c, answer⟩ ∧
      P (protocol.move k ⟨c, answer⟩) (view answer)) :
    Follows protocol k (attempt c view : Act S σ ε α) P := fun _ => each

theorem Follows.mono {m : Act S σ ε α} (follows : Follows protocol k m P)
    (weaker : ∀ k r, P k r → R k r) : Follows protocol k m R :=
  fun s => (follows s).mono fun k out => weaker k out.1

theorem Follows.bind {m : Act S σ ε α} {f : α → Act S σ ε β} (first : Follows protocol k m P)
    (raised : ∀ k e, P k (.error e) → Q k (.error e))
    (second : ∀ k a, P k (.ok a) → Follows protocol k (f a) Q) :
    Follows protocol k (m >>= f) Q := by
  intro s
  refine (first s).bind ?_
  rintro k ⟨e | a, s₁⟩ holds
  · exact raised k e holds
  · exact second k a holds s₁

theorem Follows.andFinally {m : Act S σ ε α} {cleanup : Act S σ ε Unit}
    (body : Follows protocol k m P)
    (last : ∀ k r, P k r → Follows protocol k cleanup fun k c =>
      R k (match c with
        | .ok _ => r
        | .error e => .error e)) :
    Follows protocol k (m.andFinally cleanup) R := by
  intro s
  refine (body s).bind ?_
  rintro k ⟨r, s₁⟩ holds
  refine (last k r holds s₁).bind ?_
  rintro k ⟨e | u, s₂⟩ after
  · exact after
  · exact after

/-- A call that leaves what is held, and what follows it. -/
theorem follows_attempt_bind {c : S.Call} {view : S.Answer c → Except ε α} {f : α → Act S σ ε β}
    (quiet : ∀ answer, protocol.allowed k ⟨c, answer⟩ ∧ protocol.move k ⟨c, answer⟩ = k)
    (raised : ∀ e, Q k (.error e)) (next : ∀ a, Follows protocol k (f a) Q) :
    Follows protocol k (attempt c view >>= f) Q := by
  apply Follows.bind (P := fun k' _ => k' = k)
  · exact follows_attempt quiet
  · rintro _ e rfl
    exact raised e
  · rintro _ a rfl
    exact next a

/-- A check that may raise, and what follows it. -/
theorem follows_ofExcept_bind {x : Except ε α} {f : α → Act S σ ε β}
    (raised : ∀ e, Q k (.error e)) (next : ∀ a, x = .ok a → Follows protocol k (f a) Q) :
    Follows protocol k (ofExcept x >>= f) Q := by
  apply Follows.bind (P := fun k' r => k' = k ∧ r = x)
  · exact follows_ofExcept ⟨rfl, rfl⟩
  · rintro _ e ⟨rfl, -⟩
    exact raised e
  · rintro _ a ⟨rfl, rfl⟩
    exact next a rfl

/-! ### Programs with a state -/

/-- Every run of the program from the state follows the protocol. -/
def FollowsAt (protocol : Protocol S κ) (k : κ) (s : σ) (m : Act S σ ε α)
    (Q : κ → Except ε α → σ → Prop) : Prop :=
  (m s).Follows protocol k fun k out => Q k out.1 out.2

section FollowsAt

variable {s : σ} {P R : κ → Except ε α → σ → Prop} {Q : κ → Except ε β → σ → Prop}

theorem followsAt_pure {a : α} (holds : P k (.ok a) s) :
    FollowsAt protocol k s (Pure.pure a : Act S σ ε α) P := holds

theorem followsAt_throw {e : ε} (holds : P k (.error e) s) :
    FollowsAt protocol k s (throw e : Act S σ ε α) P := holds

theorem FollowsAt.mono {m : Act S σ ε α} (follows : FollowsAt protocol k s m P)
    (weaker : ∀ k r s, P k r s → R k r s) : FollowsAt protocol k s m R :=
  Prog.Follows.mono follows fun k out => weaker k out.1 out.2

theorem FollowsAt.bind {m : Act S σ ε α} {f : α → Act S σ ε β} (first : FollowsAt protocol k s m P)
    (raised : ∀ k e s, P k (.error e) s → Q k (.error e) s)
    (second : ∀ k a s, P k (.ok a) s → FollowsAt protocol k s (f a) Q) :
    FollowsAt protocol k s (m >>= f) Q := by
  refine Prog.Follows.bind first ?_
  rintro k ⟨e | a, s₁⟩ holds
  · exact raised k e s₁ holds
  · exact second k a s₁ holds

theorem FollowsAt.tryCatch {m : Act S σ ε α} {handler : ε → Act S σ ε α}
    (body : FollowsAt protocol k s m P) (returned : ∀ k a s, P k (.ok a) s → R k (.ok a) s)
    (caught : ∀ k e s, P k (.error e) s → FollowsAt protocol k s (handler e) R) :
    FollowsAt protocol k s (tryCatch m handler) R := by
  refine Prog.Follows.bind body ?_
  rintro k ⟨e | a, s₁⟩ holds
  · exact caught k e s₁ holds
  · exact returned k a s₁ holds

theorem FollowsAt.andFinally {m : Act S σ ε α} {cleanup : Act S σ ε Unit}
    (body : FollowsAt protocol k s m P)
    (last : ∀ k r s, P k r s → FollowsAt protocol k s cleanup fun k c s =>
      R k (c.bind fun _ => r) s) : FollowsAt protocol k s (m.andFinally cleanup) R := by
  refine Prog.Follows.bind body ?_
  rintro k ⟨r, s₁⟩ holds
  refine Prog.Follows.bind (last k r s₁ holds) ?_
  rintro k ⟨e | u, s₂⟩ after
  · exact after
  · exact after

/-- A call, and what follows each answer. -/
theorem followsAt_attempt_bind {c : S.Call} {view : S.Answer c → Except ε α} {f : α → Act S σ ε β}
    (each : ∀ answer, protocol.allowed k ⟨c, answer⟩ ∧
      (∀ e, view answer = .error e → Q (protocol.move k ⟨c, answer⟩) (.error e) s) ∧
      ∀ a, view answer = .ok a → FollowsAt protocol (protocol.move k ⟨c, answer⟩) s (f a) Q) :
    FollowsAt protocol k s (attempt c view >>= f) Q := by
  have asked : FollowsAt protocol k s (attempt c view) fun k' r s' =>
      s' = s ∧ ∃ answer, k' = protocol.move k ⟨c, answer⟩ ∧ view answer = r :=
    fun answer => ⟨(each answer).1, rfl, answer, rfl, rfl⟩
  apply asked.bind
  · rintro _ e _ ⟨rfl, answer, rfl, seen⟩
    exact (each answer).2.1 e seen
  · rintro _ a _ ⟨rfl, answer, rfl, seen⟩
    exact (each answer).2.2 a seen

theorem followsAt_ask_bind {c : S.Call} {f : S.Answer c → Act S σ ε β}
    (each : ∀ answer, protocol.allowed k ⟨c, answer⟩ ∧
      FollowsAt protocol (protocol.move k ⟨c, answer⟩) s (f answer) Q) :
    FollowsAt protocol k s (ask c >>= f) Q := each

theorem followsAt_get_bind {f : σ → Act S σ ε β} (next : FollowsAt protocol k s (f s) Q) :
    FollowsAt protocol k s (get >>= f) Q := next

theorem followsAt_set_bind {s₁ : σ} {f : PUnit → Act S σ ε β}
    (next : FollowsAt protocol k s₁ (f ⟨⟩) Q) : FollowsAt protocol k s (set s₁ >>= f) Q := next

end FollowsAt

/-! ### Programs that leave what is held -/

/-- The program follows the protocol, and leaves what is held. -/
def Stays (protocol : Protocol S κ) (k : κ) (m : Act S σ ε α) : Prop :=
  Follows protocol k m fun k' _ => k' = k

theorem stays_pure {a : α} : Stays protocol k (Pure.pure a : Act S σ ε α) := follows_pure rfl

theorem stays_throw {e : ε} : Stays protocol k (throw e : Act S σ ε α) := follows_throw rfl

theorem stays_ofExcept {x : Except ε α} : Stays protocol k (ofExcept x : Act S σ ε α) :=
  follows_ofExcept rfl

theorem stays_attempt {c : S.Call} {view : S.Answer c → Except ε α}
    (quiet : ∀ answer, protocol.allowed k ⟨c, answer⟩ ∧ protocol.move k ⟨c, answer⟩ = k) :
    Stays protocol k (attempt c view : Act S σ ε α) :=
  follows_attempt quiet

theorem Stays.bind_follows {m : Act S σ ε α} {f : α → Act S σ ε β} (first : Stays protocol k m)
    (raised : ∀ e, Q k (.error e)) (next : ∀ a, Follows protocol k (f a) Q) :
    Follows protocol k (m >>= f) Q := by
  apply Follows.bind first
  · rintro _ e rfl
    exact raised e
  · rintro _ a rfl
    exact next a

theorem Stays.bind {m : Act S σ ε α} {f : α → Act S σ ε β} (first : Stays protocol k m)
    (next : ∀ a, Stays protocol k (f a)) : Stays protocol k (m >>= f) :=
  first.bind_follows (fun _ => rfl) next

theorem Stays.andFinally {m : Act S σ ε α} {cleanup : Act S σ ε Unit} (body : Stays protocol k m)
    (last : Stays protocol k cleanup) : Stays protocol k (m.andFinally cleanup) := by
  apply Follows.andFinally body
  rintro _ r rfl
  exact last

end Act

namespace Component

variable {C : Component S σ ε}

/-- The methods, as an interface to those who call them. -/
def calls (C : Component S σ ε) : Sig where
  Call := C.Method
  Answer := fun m => Except ε (C.Reply m)

/-- A call as its caller sees it. -/
def Step.event (step : C.Step) : Event C.calls := ⟨step.method, step.outcome⟩

/-- A client: what it has done, and the rest of its program. -/
structure Client (C : Component S σ ε) (T : Sig) (ρ : Type) where
  past : Trace (C.calls.sum T)
  rest : Prog (C.calls.sum T) ρ

/-- From a state and some clients to another state and other clients, with the
calls of the component on the way. -/
inductive Interleaved (starts : Prog (C.calls.sum T) ρ → Prop) :
    σ → List (Client C T ρ) → List C.Step → σ → List (Client C T ρ) → Prop
  | stop (s : σ) (clients : List (Client C T ρ)) : Interleaved starts s clients [] s clients
  | start {s s' : σ} {clients clients' : List (Client C T ρ)} {steps : List C.Step}
      {p : Prog (C.calls.sum T) ρ} (admitted : starts p)
      (later : Interleaved starts s (clients ++ [⟨[], p⟩]) steps s' clients') :
      Interleaved starts s clients steps s' clients'
  | call {s' : σ} {before after clients' : List (Client C T ρ)} {past : Trace (C.calls.sum T)}
      {steps : List C.Step} (step : C.Step)
      {next : C.calls.Answer step.method → Prog (C.calls.sum T) ρ}
      (later : Interleaved starts step.after
        (before ++ ⟨past ++ [Event.left step.event], next step.outcome⟩ :: after) steps s' clients') :
      Interleaved starts step.before (before ++ ⟨past, .call (.inl step.method) next⟩ :: after)
        (step :: steps) s' clients'
  | serve {s s' : σ} {before after clients' : List (Client C T ρ)} {past : Trace (C.calls.sum T)}
      {steps : List C.Step} (e : Event T) {next : T.Answer e.1 → Prog (C.calls.sum T) ρ}
      (later : Interleaved starts s (before ++ ⟨past ++ [Event.right e], next e.2⟩ :: after) steps
        s' clients') :
      Interleaved starts s (before ++ ⟨past, .call (.inr e.1) next⟩ :: after) steps s' clients'
  | finish {s s' : σ} {before after clients' : List (Client C T ρ)} {past : Trace (C.calls.sum T)}
      {steps : List C.Step} {a : ρ}
      (later : Interleaved starts s (before ++ after) steps s' clients') :
      Interleaved starts s (before ++ ⟨past, .done a⟩ :: after) steps s' clients'

namespace Interleaved

variable {starts : Prog (C.calls.sum T) ρ → Prop} {s s₁ s' : σ} {steps steps' : List C.Step}
  {clients clients₁ clients' : List (Client C T ρ)}

/-- The calls of all clients are a run of the component. -/
theorem run (interleaved : Interleaved starts s clients steps s' clients') : Run C s steps s' := by
  induction interleaved with
  | stop s _ => exact .nil s
  | start _ _ ih => exact ih
  | call step _ ih => exact .cons step ih
  | serve _ _ ih => exact ih
  | finish _ ih => exact ih

theorem append (first : Interleaved starts s clients steps s₁ clients₁)
    (second : Interleaved starts s₁ clients₁ steps' s' clients') :
    Interleaved starts s clients (steps ++ steps') s' clients' := by
  induction first with
  | stop _ _ => exact second
  | start admitted _ ih => exact .start admitted (ih second)
  | call step _ ih => exact .call step (ih second)
  | serve e _ ih => exact .serve e (ih second)
  | finish _ ih => exact .finish (ih second)

variable {protocol : Protocol (C.calls.sum T) κ} {final : κ → Prop}

/-- What a client holds. -/
def Client.holding (protocol : Protocol (C.calls.sum T) κ) (client : Client C T ρ) : κ :=
  protocol.holding client.past

/-- What a client has left to do follows the protocol. -/
def Client.Follows (protocol : Protocol (C.calls.sum T) κ) (final : κ → Prop)
    (client : Client C T ρ) : Prop :=
  client.rest.Follows protocol (Client.holding protocol client) fun k _ => final k

/-- One of some clients goes on. -/
theorem forall_replaced {P : Client C T ρ → Prop} {before after : List (Client C T ρ)}
    {old new : Client C T ρ} (all : ∀ client ∈ before ++ old :: after, P client) (holds : P new) :
    ∀ client ∈ before ++ new :: after, P client := by
  intro client mem
  rcases List.mem_append.mp mem with left | right
  · exact all client (List.mem_append_left _ left)
  · rcases List.mem_cons.mp right with rfl | right
    · exact holds
    · exact all client (List.mem_append_right _ (List.mem_cons_of_mem _ right))

theorem Client.Follows.next {past : Trace (C.calls.sum T)} {e : Event (C.calls.sum T)}
    {p : Prog (C.calls.sum T) ρ}
    (follows : p.Follows protocol (protocol.move (protocol.holding past) e) fun k _ => final k) :
    Client.Follows protocol final ⟨past ++ [e], p⟩ := by
  unfold Client.Follows Client.holding
  rw [Protocol.holding_append]
  exact follows

/-- The rule for what the calls so far and the state have to do with what the
clients hold: it is kept when a client starts, holding nothing, when a client makes
a call that the protocol allows, and when a client leaves. -/
theorem history (protocol : Protocol (C.calls.sum T) κ) (final : κ → Prop)
    (Good : List C.Step → Prop) (I : List C.Step → σ → List κ → Prop)
    (shorter : ∀ xs ys, Good (xs ++ ys) → Good xs)
    (begins : ∀ past s ks, I past s ks → I past s (ks ++ [protocol.start]))
    (calls : ∀ past (step : C.Step) before k after, Good (past ++ [step]) →
      protocol.allowed k (Event.left step.event) → I past step.before (before ++ k :: after) →
      I (past ++ [step]) step.after (before ++ protocol.move k (Event.left step.event) :: after))
    (serves : ∀ past s before k after e, protocol.allowed k (Event.right e) →
      I past s (before ++ k :: after) → I past s (before ++ protocol.move k (Event.right e) :: after))
    (ends : ∀ past s before k after, final k → I past s (before ++ k :: after) →
      I past s (before ++ after))
    (programs : ∀ p, starts p → p.Follows protocol protocol.start fun k _ => final k)
    (interleaved : Interleaved starts s clients steps s' clients') (past : List C.Step)
    (good : Good (past ++ steps)) (follow : ∀ client ∈ clients, Client.Follows protocol final client)
    (holds : I past s (clients.map (Client.holding protocol))) :
    I (past ++ steps) s' (clients'.map (Client.holding protocol)) := by
  induction interleaved generalizing past with
  | stop =>
      rw [List.append_nil]
      exact holds
  | @start s s' clients clients' steps p admitted later ih =>
      apply ih _ good
      · intro client mem
        rcases List.mem_append.mp mem with old | new
        · exact follow client old
        · cases List.mem_singleton.mp new
          exact programs p admitted
      · rw [List.map_append]
        exact begins past s _ holds
  | @call s' before after clients' earlier steps step next later ih =>
      have caller := follow _ (List.mem_append_right before List.mem_cons_self) step.outcome
      rw [List.append_cons] at good ⊢
      apply ih _ good
      · exact forall_replaced follow (.next caller.2)
      · rw [List.map_append, List.map_cons] at holds ⊢
        have moved := calls past step _ _ _ (shorter _ _ good) caller.1 holds
        rw [Client.holding, Protocol.holding_append]
        exact moved
  | @serve s s' before after clients' earlier steps e next later ih =>
      have caller := follow _ (List.mem_append_right before List.mem_cons_self) e.2
      apply ih _ good
      · exact forall_replaced follow (.next caller.2)
      · rw [List.map_append, List.map_cons] at holds ⊢
        have moved := serves past s _ _ _ e caller.1 holds
        rw [Client.holding, Protocol.holding_append]
        exact moved
  | @finish s s' before after clients' earlier steps a later ih =>
      have ended := follow _ (List.mem_append_right before List.mem_cons_self)
      apply ih _ good
      · intro client mem
        rcases List.mem_append.mp mem with left | right
        · exact follow client (List.mem_append_left _ left)
        · exact follow client (List.mem_append_right _ (List.mem_cons_of_mem _ right))
      · rw [List.map_append, List.map_cons] at holds
        rw [List.map_append]
        exact ends past s _ _ _ ended holds

/-- The rule for what the state has to do with what the clients hold. -/
theorem invariant (protocol : Protocol (C.calls.sum T) κ) (final : κ → Prop) (I : σ → List κ → Prop)
    (begins : ∀ s ks, I s ks → I s (ks ++ [protocol.start]))
    (calls : ∀ (step : C.Step) before k after, protocol.allowed k (Event.left step.event) →
      I step.before (before ++ k :: after) →
      I step.after (before ++ protocol.move k (Event.left step.event) :: after))
    (serves : ∀ s before k after e, protocol.allowed k (Event.right e) →
      I s (before ++ k :: after) → I s (before ++ protocol.move k (Event.right e) :: after))
    (ends : ∀ s before k after, final k → I s (before ++ k :: after) → I s (before ++ after))
    (programs : ∀ p, starts p → p.Follows protocol protocol.start fun k _ => final k)
    (interleaved : Interleaved starts s [] steps s' clients') (holds : I s []) :
    I s' (clients'.map (Client.holding protocol)) ∧
      ∀ step ∈ steps, ∃ k, protocol.allowed k (Event.left step.event) := by
  refine interleaved.history protocol final (fun _ => True)
    (fun past s ks => I s ks ∧ ∀ step ∈ past, ∃ k, protocol.allowed k (Event.left step.event))
    (fun _ _ _ => trivial) ?_ ?_ ?_ ?_ programs [] trivial (by simp) ⟨holds, by simp⟩
  · exact fun _ s ks known => ⟨begins s ks known.1, known.2⟩
  · intro past step before k after _ allowed known
    refine ⟨calls step before k after allowed known.1, ?_⟩
    intro other mem
    rcases List.mem_append.mp mem with old | new
    · exact known.2 other old
    · cases List.mem_singleton.mp new
      exact ⟨k, allowed⟩
  · exact fun _ s before k after e allowed known => ⟨serves s before k after e allowed known.1, known.2⟩
  · exact fun _ s before k after last known => ⟨ends s before k after last known.1, known.2⟩

end Interleaved

/-! ## Scripted clients -/

/-- A client that runs alone against a script, from its start to its end. -/
def playClient (C : Component S σ ε) (inner : Script S ω) (outer : Script T ω) :
    Prog (C.calls.sum T) ρ → σ → ω → Option (List C.Step × σ × ω)
  | .done _, s, w => some ([], s, w)
  | .call (.inl m) next, s, w =>
      match played : ((C.body m) s).play inner w with
      | none => none
      | some (t, (outcome, s₁), w₁) =>
          (playClient C inner outer (next outcome) s₁ w₁).map fun (steps, out) =>
            (⟨m, s, t, outcome, s₁, Prog.runs_of_play played⟩ :: steps, out)
  | .call (.inr c) next, s, w =>
      let answer := outer w c
      playClient C inner outer (next answer.1) s answer.2
  | .diverge, _, _ => none

/-- Clients that run one after the other. -/
def playClients (C : Component S σ ε) (inner : Script S ω) (outer : Script T ω) :
    List (Prog (C.calls.sum T) ρ) → σ → ω → Option (List C.Step × σ)
  | [], s, _ => some ([], s)
  | p :: programs, s, w => do
      let (steps, s₁, w₁) ← playClient C inner outer p s w
      let (later, s') ← playClients C inner outer programs s₁ w₁
      return (steps ++ later, s')

variable {starts : Prog (C.calls.sum T) ρ → Prop} {inner : Script S ω} {outer : Script T ω}

theorem interleaved_of_playClient {p : Prog (C.calls.sum T) ρ} {past : Trace (C.calls.sum T)}
    {s s' : σ} {w w' : ω} {steps : List C.Step}
    (played : playClient C inner outer p s w = some (steps, s', w')) :
    Interleaved starts s [⟨past, p⟩] steps s' [] := by
  induction p generalizing s w past steps with
  | done a =>
      cases played
      have finished (s : σ) : Interleaved starts s ([] ++ ⟨past, .done a⟩ :: []) [] s [] :=
        .finish (.stop _ _)
      exact finished _
  | diverge => cases played
  | call c next ih =>
      cases c with
      | inl m =>
          unfold playClient at played
          split at played
          · cases played
          · next t outcome s₁ w₁ single =>
              obtain ⟨⟨later, out⟩, rest, eq⟩ := Option.map_eq_some_iff.mp played
              cases eq
              have called : Interleaved starts s ([] ++ ⟨past, .call (.inl m) next⟩ :: [])
                  (⟨m, s, t, outcome, s₁, Prog.runs_of_play single⟩ :: later) s' [] :=
                .call ⟨m, s, t, outcome, s₁, Prog.runs_of_play single⟩ (ih outcome rest)
              exact called
      | inr c =>
          have served : Interleaved starts s ([] ++ ⟨past, .call (.inr c) next⟩ :: []) steps s' [] :=
            .serve ⟨c, (outer w c).1⟩ (ih _ played)
          exact served

/-- Clients one after the other are an interleaving with a property that can be
evaluated. -/
theorem exists_interleaved (inner : Script S ω) (outer : Script T ω)
    {programs : List (Prog (C.calls.sum T) ρ)} (admitted : ∀ p ∈ programs, starts p) (s : σ) (w : ω)
    (P : List C.Step → σ → Bool)
    (checked : (playClients C inner outer programs s w).any (fun out => P out.1 out.2) = true) :
    ∃ steps s', Interleaved starts s [] steps s' ([] : List (Client C T ρ)) ∧
      P steps s' = true := by
  obtain ⟨⟨steps, s'⟩, played, holds⟩ := (Option.any_eq_true _ _).mp checked
  refine ⟨steps, s', ?_, holds⟩
  clear holds checked
  induction programs generalizing s w steps with
  | nil =>
      cases played
      exact .stop _ _
  | cons p programs ih =>
      obtain ⟨⟨first, s₁, w₁⟩, alone, rest⟩ := Option.bind_eq_some_iff.mp played
      obtain ⟨⟨later, s₂⟩, others, eq⟩ := Option.bind_eq_some_iff.mp rest
      cases eq
      refine .start (admitted p List.mem_cons_self) ?_
      exact (interleaved_of_playClient alone).append
        (ih (fun q mem => admitted q (List.mem_cons_of_mem _ mem)) _ _ _ others)

end Component

end Dingdongditch.Interaction
