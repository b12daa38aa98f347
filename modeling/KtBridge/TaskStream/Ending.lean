import KtBridge.TaskStream.Machine

/-! # A closed stream lets nobody wait

Whoever is parked waits in an open channel. In a closed one a call of `receive` never parks, has a
next step until it has ended, and comes closer to its end with each step it takes
(`State.rank`), whatever else is done to the stream. -/

namespace KtBridge.TaskStream

open Foundation Pump

/-- The call of `receive` that a step belongs to. -/
def Action.call? : Action → Option Receive
  | .call who | .ensureActive who | .poll who | .look who _ | .pass who _ | .receive who => some who
  | .unpark who | .dispatch who _ _ | .lookAgain who _ | .repass who _ | .drain who _ => some who
  | _ => none

/-- Whether a step is of a receiver, or of its coroutine. -/
def Action.receiving : Action → Bool
  | .send _ | .offer | .close _ | .closeChannel _ => false
  | _ => true

/-- How many steps a call has before it in a closed stream with no wakeup in it. -/
def Phase.rank : Phase → Nat
  | .idle => 7
  | .starting => 6
  | .polling => 5
  | .receiving => 4
  | .polled _ => 2
  | .passing _ => 1
  | .parked | .resumed .element => 9
  | .resumed _ => 4
  | .woken .element => 8
  | .woken _ => 3
  | .repassing .element => 7
  | .repassing _ => 2
  | .draining _ => 1
  | .returned _ | .ended _ | .cancelled => 0

/-- Whether a call is over. -/
def Phase.done : Phase → Bool
  | .returned _ | .ended _ | .cancelled => true
  | _ => false

theorem Wakeup.next_unparked (wakeup : Wakeup) :
    wakeup.next ≠ .parked ∧ wakeup.next.task = none := by
  cases wakeup <;> simp [Wakeup.next, Phase.task]

namespace State

/-- Whoever is parked waits in the channel, a closed channel has no waiters, and whoever has a task
took it from the queue. -/
structure Calm (state : State) : Prop where
  waiting : ∀ call, state.phase call = .parked → call ∈ state.waiters
  closed : state.closedWith.isSome = true → state.waiters = []
  took : ∀ call task, (state.phase call).task = some task → (call, task) ∈ state.taken

/-- Whether the stream is closed: it takes no task, and lets nobody wait. -/
structure Ended (state : State) : Prop where
  flag : state.closed = true
  channel : state.closedWith.isSome = true

/-- How many steps a call has before it: a wakeup that is left may send it round once more. -/
def rank (state : State) (call : Receive) : Nat :=
  (state.phase call).rank + 10 * state.token.toNat

theorem Calm.not_parked {state : State} (calm : state.Calm)
    (closed : state.closedWith.isSome = true) (call : Receive) : state.phase call ≠ .parked := by
  intro parked
  have waits := calm.waiting call parked
  rw [calm.closed closed] at waits
  exact List.not_mem_nil waits

theorem calm_start : start.Calm where
  waiting := fun _ parked => by cases parked
  closed := fun _ => rfl
  took := fun _ _ has => by cases has

section Calm

variable {state : State}

/-- What holds of every call after one has moved. -/
theorem forall_setPhase (Holds : Receive → Phase → Prop) {call : Receive} {phase : Phase}
    (here : Holds call phase) (others : ∀ other, Holds other (state.phase other)) :
    ∀ other, Holds other ((state.setPhase call phase).phase other) := by
  intro other
  by_cases same : other = call
  · subst same
    simpa [State.setPhase] using here
  · simpa [State.setPhase, Function.update_of_ne same] using others other

/-- A call that moves on, not to be parked. -/
theorem Calm.setPhase (calm : state.Calm) {call : Receive} {phase : Phase}
    (unparked : phase ≠ .parked)
    (took : ∀ task, phase.task = some task → (call, task) ∈ state.taken) :
    (state.setPhase call phase).Calm where
  waiting := forall_setPhase (fun other phase => phase = .parked → other ∈ state.waiters)
    (fun parked => absurd parked unparked) calm.waiting
  closed := calm.closed
  took := forall_setPhase
    (fun other phase => ∀ task, phase.task = some task → (other, task) ∈ state.taken)
    took calm.took

/-- A call that moves on with no task in its hands. -/
theorem Calm.drop (calm : state.Calm) {call : Receive} {phase : Phase}
    (unparked : phase ≠ .parked) (empty : phase.task = none) : (state.setPhase call phase).Calm :=
  calm.setPhase unparked fun task has => by
    rw [empty] at has
    cases has

theorem Calm.trySend (calm : state.Calm) : state.trySend.Calm := by
  unfold State.trySend
  split
  · exact calm
  · next waiter rest opened waits =>
      have moved : (state.setPhase waiter (.resumed .element)).Calm := calm.drop (by simp) rfl
      refine ⟨fun other parked => ?_, fun closed => ?_, moved.took⟩
      · have member := moved.waiting other parked
        change other ∈ state.waiters at member
        rw [waits] at member
        refine (List.mem_cons.mp member).resolve_left fun same => ?_
        simp [State.setPhase, same] at parked
      · change state.closedWith.isSome = true at closed
        rw [opened] at closed
        cases closed
  · exact ⟨calm.waiting, calm.closed, calm.took⟩

theorem trySend_taken (state : State) : state.trySend.taken = state.taken := by
  unfold State.trySend
  split <;> rfl

theorem Calm.closeChannel (calm : state.Calm) (cause : Option Throwable) :
    (state.closeChannel cause).Calm := by
  unfold State.closeChannel
  split
  · exact calm
  · refine ⟨fun other parked => ?_, fun _ => rfl, fun other task has => ?_⟩
    · simp only at parked
      split at parked
      · cases parked
      · next absent => exact absurd (calm.waiting other parked) absent
    · simp only at has
      split at has
      · cases has
      · exact calm.took other task has

theorem Calm.poll (calm : state.Calm) {call : Receive} {found : ByteArray → Phase} {empty : Phase}
    (unparked : ∀ task, found task ≠ .parked) (carries : ∀ task, (found task).task = some task)
    (unparked' : empty ≠ .parked) (dropped : empty.task = none) :
    (state.poll call found empty).Calm := by
  unfold State.poll
  split
  · next task rest _ =>
      refine ⟨?_, calm.closed, ?_⟩
      · exact forall_setPhase (fun other phase => phase = .parked → other ∈ state.waiters)
          (fun parked => absurd parked (unparked task)) calm.waiting
      · refine forall_setPhase (fun other phase => ∀ this, phase.task = some this →
          (other, this) ∈ state.taken ++ [(call, task)]) (fun this has => ?_)
          fun other this has => List.mem_append_left _ (calm.took other this has)
        rw [carries task] at has
        cases has
        exact List.mem_append_right _ (List.mem_singleton.mpr rfl)
  · exact calm.drop unparked' dropped

theorem Calm.unpark (calm : state.Calm) (call : Receive) :
    (effect state (.unpark call)).Calm := by
  have moved : (state.setPhase call (.resumed .cancelled)).Calm := calm.drop (by simp) rfl
  refine ⟨fun other parked => ?_, fun closed => ?_, moved.took⟩
  · refine (List.mem_erase_of_ne fun same => ?_).mpr (moved.waiting other parked)
    simp [effect, State.setPhase, same] at parked
  · change state.waiters.erase call = []
    rw [calm.closed closed]
    rfl

theorem Calm.receive (calm : state.Calm) (call : Receive) :
    (effect state (.receive call)).Calm := by
  simp only [effect]
  split
  · have moved : (state.setPhase call (.woken .element)).Calm := calm.drop (by simp) rfl
    exact ⟨moved.waiting, moved.closed, moved.took⟩
  · split
    · exact calm.drop (by simp) rfl
    · next opened =>
        refine ⟨?_, fun closed => ?_, ?_⟩
        · exact forall_setPhase
            (fun other phase => phase = .parked → other ∈ state.waiters ++ [call])
            (fun _ => List.mem_append_right _ (List.mem_singleton.mpr rfl))
            fun other parked => List.mem_append_left _ (calm.waiting other parked)
        · change state.closedWith.isSome = true at closed
          rw [opened] at closed
          cases closed
        · exact forall_setPhase
            (fun other phase => ∀ task, phase.task = some task → (other, task) ∈ state.taken)
            (fun task has => by cases has) calm.took

/-- What a receiver does keeps the stream calm. -/
theorem Calm.step (calm : state.Calm) {action : Action} (receiving : action.receiving = true)
    (ready : guard state action) : (effect state action).Calm := by
  cases action with
  | send task => cases receiving
  | offer => cases receiving
  | close cause => cases receiving
  | closeChannel cause => cases receiving
  | call call => exact calm.drop (by simp) rfl
  | cancel call => exact ⟨calm.waiting, calm.closed, calm.took⟩
  | ensureActive call =>
      refine calm.drop ?_ ?_
      · split <;> simp
      · split <;> rfl
  | poll call => exact calm.poll (by simp) (fun _ => rfl) (by simp) rfl
  | look call task =>
      have here : state.phase call = .polled task := ready
      refine calm.setPhase ?_ fun this has => calm.took call this ?_
      · split <;> simp
      · rw [here, ← has]
        split <;> rfl
  | pass call task =>
      have here : state.phase call = .passing task := ready
      refine calm.trySend.setPhase (by simp) fun this has => ?_
      rw [trySend_taken]
      exact calm.took call this (here ▸ has)
  | receive call => exact calm.receive call
  | unpark call => exact calm.unpark call
  | dispatch call wakeup lost => exact calm.drop (by simp) rfl
  | lookAgain call wakeup =>
      refine calm.drop ?_ ?_
      · split
        · exact wakeup.next_unparked.1
        · simp
      · split
        · exact wakeup.next_unparked.2
        · rfl
  | repass call wakeup =>
      exact calm.trySend.drop wakeup.next_unparked.1 wakeup.next_unparked.2
  | drain call cause => exact calm.poll (by simp) (fun _ => rfl) (by simp) rfl

end Calm

section Closed

variable {state : State}

theorem trySend_of_closed (closed : state.closedWith.isSome = true) : state.trySend = state := by
  obtain ⟨cause, same⟩ := Option.isSome_iff_exists.mp closed
  simp [State.trySend, same]

theorem closeChannel_of_closed (closed : state.closedWith.isSome = true)
    (cause : Option Throwable) : state.closeChannel cause = state := by
  obtain ⟨first, same⟩ := Option.isSome_iff_exists.mp closed
  simp [State.closeChannel, same]

theorem closeChannel_closes (state : State) (cause : Option Throwable) :
    (state.closeChannel cause).closedWith.isSome = true := by
  unfold State.closeChannel
  split
  · next first same =>
      rw [same]
      rfl
  · rfl

theorem poll_closedWith (state : State) (call : Receive) (found : ByteArray → Phase)
    (empty : Phase) : (state.poll call found empty).closedWith = state.closedWith := by
  unfold State.poll
  split <;> rfl

theorem trySend_closedWith (state : State) : state.trySend.closedWith = state.closedWith := by
  unfold State.trySend
  split <;> rfl

/-- A receiver does not close the channel, nor open it. -/
theorem closedWith_step {action : Action} (receiving : action.receiving = true) :
    (effect state action).closedWith = state.closedWith := by
  cases action with
  | send task => cases receiving
  | offer => cases receiving
  | close cause => cases receiving
  | closeChannel cause => cases receiving
  | poll call => exact poll_closedWith ..
  | drain call cause => exact poll_closedWith ..
  | pass call task => exact trySend_closedWith state
  | repass call wakeup => exact trySend_closedWith state
  | receive call =>
      simp only [effect]
      split
      · rfl
      · split <;> rfl
  | _ => rfl

theorem poll_closed (state : State) (call : Receive) (found : ByteArray → Phase)
    (empty : Phase) : (state.poll call found empty).closed = state.closed := by
  unfold State.poll
  split <;> rfl

theorem trySend_closed (state : State) : state.trySend.closed = state.closed := by
  unfold State.trySend
  split <;> rfl

theorem closeChannel_closed (state : State) (cause : Option Throwable) :
    (state.closeChannel cause).closed = state.closed := by
  unfold State.closeChannel
  split <;> rfl

/-- Nor does it touch the flag. -/
theorem closed_step {action : Action} (receiving : action.receiving = true) :
    (effect state action).closed = state.closed := by
  cases action with
  | send task => cases receiving
  | offer => cases receiving
  | close cause => cases receiving
  | closeChannel cause => cases receiving
  | poll call => exact poll_closed ..
  | drain call cause => exact poll_closed ..
  | pass call task => exact trySend_closed state
  | repass call wakeup => exact trySend_closed state
  | receive call =>
      simp only [effect]
      split
      · rfl
      · split <;> rfl
  | _ => rfl

/-- In a closed stream a call that is not over has a step of its own to take. -/
theorem enabled (calm : state.Calm) (closed : state.closedWith.isSome = true) (call : Receive)
    (running : (state.phase call).done = false) :
    ∃ action : Action, action.call? = some call ∧ action.receiving = true ∧ guard state action := by
  cases phase : state.phase call with
  | idle => exact ⟨.call call, rfl, rfl, phase⟩
  | starting => exact ⟨.ensureActive call, rfl, rfl, phase⟩
  | polling => exact ⟨.poll call, rfl, rfl, phase⟩
  | polled task => exact ⟨.look call task, rfl, rfl, phase⟩
  | passing task => exact ⟨.pass call task, rfl, rfl, phase⟩
  | receiving => exact ⟨.receive call, rfl, rfl, phase⟩
  | parked => exact absurd phase (calm.not_parked closed call)
  | resumed wakeup =>
      exact ⟨.dispatch call wakeup false, rfl, rfl, phase, fun lost => (by cases lost)⟩
  | woken wakeup => exact ⟨.lookAgain call wakeup, rfl, rfl, phase⟩
  | repassing wakeup => exact ⟨.repass call wakeup, rfl, rfl, phase⟩
  | draining cause => exact ⟨.drain call cause, rfl, rfl, phase⟩
  | returned task => simp [phase, Phase.done] at running
  | ended cause => simp [phase, Phase.done] at running
  | cancelled => simp [phase, Phase.done] at running

theorem rank_setPhase (state : State) (call : Receive) (phase : Phase) :
    (state.setPhase call phase).rank call = phase.rank + 10 * state.token.toNat := by
  simp [rank, State.setPhase]

theorem rank_setPhase_of_ne (state : State) {call other : Receive} (different : other ≠ call)
    (phase : Phase) : (state.setPhase call phase).rank other = state.rank other := by
  simp [rank, State.setPhase, Function.update_of_ne different]

/-- In a closed stream every step of a call brings it closer to its end. -/
theorem rank_own (closed : state.closedWith.isSome = true) (calm : state.Calm) {action : Action}
    {call : Receive} (own : action.call? = some call) (ready : guard state action) :
    (effect state action).rank call < state.rank call := by
  have lower : ∀ {before after : Phase}, state.phase call = before → after.rank < before.rank →
      (state.setPhase call after).rank call < state.rank call := by
    intro before after here less
    rw [rank_setPhase, rank, here]
    omega
  have polls : ∀ {before : Phase} (found : ByteArray → Phase) (empty : Phase),
      state.phase call = before → (∀ task, (found task).rank < before.rank) →
        empty.rank < before.rank → (state.poll call found empty).rank call < state.rank call := by
    intro before found empty here less less'
    unfold State.poll
    split
    · next task rest _ => exact lower here (less task)
    · exact lower here less'
  cases action with
  | send task => cases own
  | offer => cases own
  | close cause => cases own
  | closeChannel cause => cases own
  | cancel other => cases own
  | call other =>
      cases own
      exact lower ready (by decide)
  | ensureActive other =>
      cases own
      refine lower ready ?_
      split <;> decide
  | poll other =>
      cases own
      exact polls _ _ ready (fun _ => by simp [Phase.rank]) (by simp [Phase.rank])
  | look other task =>
      cases own
      refine lower ready ?_
      split <;> simp [Phase.rank]
  | pass other task =>
      cases own
      simp only [effect, trySend_of_closed closed]
      exact lower ready (by simp [Phase.rank])
  | receive other =>
      cases own
      simp only [effect]
      split
      · next token =>
          simp [rank, State.setPhase, Phase.rank, token, show state.phase call = _ from ready]
      · split
        · exact lower ready (by simp [Phase.rank])
        · next opened =>
            rw [opened] at closed
            cases closed
  | unpark other =>
      cases own
      exact absurd ready.1 (calm.not_parked closed call)
  | dispatch other wakeup lost =>
      cases own
      refine lower ready.1 ?_
      cases lost <;> cases wakeup <;> simp [Phase.rank]
  | lookAgain other wakeup =>
      cases own
      refine lower ready ?_
      split <;> cases wakeup <;> simp [Phase.rank, Wakeup.next]
  | repass other wakeup =>
      cases own
      simp only [effect, trySend_of_closed closed]
      refine lower ready ?_
      cases wakeup <;> simp [Phase.rank, Wakeup.next]
  | drain other cause =>
      cases own
      exact polls _ _ ready (fun _ => by simp [Phase.rank]) (by simp [Phase.rank])

/-- No step of another brings it further from its end. -/
theorem rank_other (closed : state.closedWith.isSome = true) {action : Action} {call : Receive}
    (other : action.call? ≠ some call) (receiving : action.receiving = true) :
    (effect state action).rank call ≤ state.rank call := by
  have stays : ∀ {this : Receive} (phase : Phase), some this ≠ some call →
      (state.setPhase this phase).rank call ≤ state.rank call := by
    intro this phase different
    have apart : call ≠ this := fun same => different (congrArg some same.symm)
    rw [rank_setPhase_of_ne state apart]
  have polls : ∀ {this : Receive} (found : ByteArray → Phase) (empty : Phase),
      some this ≠ some call → (state.poll this found empty).rank call ≤ state.rank call := by
    intro this found empty different
    unfold State.poll
    split
    · next task rest _ => exact stays (found task) different
    · exact stays empty different
  cases action with
  | send task => cases receiving
  | offer => cases receiving
  | close cause => cases receiving
  | closeChannel cause => cases receiving
  | cancel this => exact le_rfl
  | poll this => exact polls _ _ other
  | drain this cause => exact polls _ _ other
  | pass this task =>
      simp only [effect, trySend_of_closed closed]
      exact stays _ other
  | repass this wakeup =>
      simp only [effect, trySend_of_closed closed]
      exact stays _ other
  | receive this =>
      simp only [effect]
      split
      · have less := stays (.woken .element) other
        refine le_trans ?_ less
        simp [rank]
      · split
        · exact stays _ other
        · exact stays _ other
  | call this => exact stays _ other
  | ensureActive this => exact stays _ other
  | look this task => exact stays _ other
  | unpark this => exact stays _ other
  | dispatch this wakeup lost => exact stays _ other
  | lookAgain this wakeup => exact stays _ other

/-- No step of a receiver brings a call further from its end. -/
theorem rank_step (closed : state.closedWith.isSome = true) (calm : state.Calm) {action : Action}
    (receiving : action.receiving = true) (ready : guard state action) (call : Receive) :
    (effect state action).rank call ≤ state.rank call := by
  by_cases own : action.call? = some call
  · exact (rank_own closed calm own ready).le
  · exact rank_other closed own receiving

theorem rank_le (state : State) (call : Receive) : state.rank call ≤ 19 := by
  have phases : (state.phase call).rank ≤ 9 := by
    cases state.phase call with
    | resumed wakeup => cases wakeup <;> simp [Phase.rank]
    | woken wakeup => cases wakeup <;> simp [Phase.rank]
    | repassing wakeup => cases wakeup <;> simp [Phase.rank]
    | _ => simp [Phase.rank]
  have tokens : state.token.toNat ≤ 1 := Bool.toNat_le _
  simp only [rank]
  omega

end Closed

end State

end KtBridge.TaskStream
