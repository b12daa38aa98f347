import KtBridge.Poller.Parking

/-! # Whom a wake reaches

A wake is issued on one poller and counted in the queue, where a poll on any poller may
consume it. With two pollers parked, the wake of the first may let out the second, and
the first waits again (`wake_is_stolen`). A wake reaches its poller in every run in
which no poll takes one that another poller needs (`wakes_reach_their_pollers`).
-/

namespace KtBridge.Poller

open Foundation

/-- The wait of a poll ends by its deadline. -/
def Action.timesOut : Action → Bool
  | .unpark _ _ _ timedOut => timedOut
  | _ => false

/-- The poll gets to its return by its own steps, and not by its deadline. -/
def State.Returns (state : State) (poll : Poll) (call : Call) : Prop :=
  ∃ trace : List Action,
    (∀ action ∈ trace, action.poll = some poll ∧ action.timesOut = false) ∧
    machine.Runs state trace ∧
    ∃ outcome records, (machine.after state trace).phase poll = .returned call outcome records

/-- Once a poller is woken, its poll does not wait until it has left the wait loop, and
returns if it has the mutex or the mutex is free. -/
structure State.WakesDelivered (state : State) : Prop where
  awake : ∀ poll call, state.phase poll = .waiting call ∨ state.phase poll = .parked call false →
    call.poller ∉ state.woken
  returns : ∀ poll call, (state.phase poll).ongoing = some call → call.poller ∈ state.woken →
    (state.phase poll).holds ∨ state.holder = none → state.Returns poll call

/-- A poll takes a wake only where enough are left for the other pollers that were
woken and have not left the wait loop since. -/
def EnoughLeft (state : State) : Action → Prop
  | .check _ call =>
      state.queue.queue = [] → state.queue.closed = false → 0 < state.queue.wakes →
        (state.woken.erase call.poller).card < state.queue.wakes
  | _ => True

instance (state : State) (action : Action) : Decidable (EnoughLeft state action) :=
  decidable_of_iff
    ((match action with
      | .check _ call =>
          decide (state.queue.queue = [] → state.queue.closed = false → 0 < state.queue.wakes →
            (state.woken.erase call.poller).card < state.queue.wakes)
      | _ => true) = true)
    (by
      unfold EnoughLeft
      split
      · exact decide_eq_true_iff
      · exact iff_of_true rfl trivial)

instance (state : State) (action : Action) :
    Decidable ((machine.restrict EnoughLeft).guard state action) :=
  inferInstanceAs (Decidable (_ ∧ _))

/-- There is a pending wake for each poller that was woken. -/
def State.Supplied (state : State) : Prop := state.woken.card ≤ state.queue.wakes

variable {state : State} {poll : Poll} {call : Call}

theorem State.Supplied.step (supplied : state.Supplied) (action : Action)
    (enough : EnoughLeft state action) : (machine.effect state action).Supplied := by
  cases action with
  | push pending =>
      simp only [machine, effect]
      split
      · exact supplied
      · next opened =>
          have wakes : (state.queue.push pending).1.wakes = state.queue.wakes := by
            simp only [Queue.push, opened, Bool.false_eq_true, if_false]
          exact supplied.trans wakes.ge
  | close => exact supplied
  | wake poller =>
      exact (Finset.card_insert_le ..).trans (Nat.succ_le_succ supplied)
  | enter poll call outIsNull =>
      simp only [machine, effect]
      split <;> exact supplied
  | lock poll call => exact supplied
  | check poll call =>
      simp only [machine, effect]
      split
      · next next left =>
          by_cases taken : next.wakes < state.queue.wakes
          · obtain ⟨empty, opened, one⟩ := Queue.check_takes_wake left taken
            have fewer := enough empty opened (by omega)
            exact Nat.le_of_lt_succ (one.symm ▸ fewer)
          · have kept : state.queue.wakes ≤ next.wakes := Nat.le_of_not_lt taken
            exact (Finset.card_erase_le.trans supplied).trans kept
      · exact supplied
  | park poll call => exact supplied
  | unpark poll call notified timedOut => exact supplied
  | relock poll call timedOut =>
      simp only [machine, effect]
      split
      · exact Finset.card_erase_le.trans supplied
      · exact supplied
  | drain poll call => exact supplied
  | write poll call batch closed =>
      simp only [machine, effect]
      split
      · exact supplied
      · split <;> exact supplied
  | leave poll call outcome records => exact supplied

namespace State.Returns

/-- One step of the poll's own, and then the rest. -/
theorem cons (action : Action) (own : action.poll = some poll) (untimed : action.timesOut = false)
    (ready : machine.guard state action) (rest : (machine.effect state action).Returns poll call) :
    state.Returns poll call := by
  obtain ⟨trace, owns, runs, outcome, records, returned⟩ := rest
  refine ⟨action :: trace, ?_, ⟨ready, runs⟩, outcome, records, returned⟩
  intro other member
  rcases List.mem_cons.mp member with same | later
  · rw [same]
    exact ⟨own, untimed⟩
  · exact owns other later

theorem leaving {outcome : Outcome Nat} {records : List KtCompletion}
    (phase : state.phase poll = .leaving call outcome records) : state.Returns poll call := by
  refine ⟨[.leave poll call outcome records], ?_, ⟨phase, trivial⟩, outcome, records, ?_⟩
  · intro action member
    rw [List.mem_singleton.mp member]
    exact ⟨rfl, rfl⟩
  · exact Function.update_self ..

theorem writing {batch : List Pending} {closed : Bool}
    (phase : state.phase poll = .writing call batch closed) : state.Returns poll call := by
  apply cons (.write poll call batch closed) rfl rfl phase
  have wrote : ∃ outcome records, (machine.effect state (.write poll call batch closed)).phase poll =
      .leaving call outcome records := by
    simp only [machine, effect]
    split
    · exact ⟨_, _, Function.update_self ..⟩
    · split <;> exact ⟨_, _, Function.update_self ..⟩
  obtain ⟨outcome, records, moved⟩ := wrote
  exact leaving moved

theorem draining (phase : state.phase poll = .draining call) : state.Returns poll call := by
  apply cons (.drain poll call) rfl rfl phase
  exact writing (Function.update_self ..)

/-- With a wake pending, the test lets the poll out. -/
theorem checking (phase : state.phase poll = .checking call) (pending : 0 < state.queue.wakes) :
    state.Returns poll call := by
  apply cons (.check poll call) rfl rfl phase
  have left : ∃ next, state.queue.check call.timeoutMillis = some next := by
    cases checked : state.queue.check call.timeoutMillis with
    | some next => exact ⟨next, rfl⟩
    | none =>
        have idle := (Queue.idle_of_check checked).1
        exact absurd idle.quiet pending.ne'
  obtain ⟨next, left⟩ := left
  have moved : (machine.effect state (.check poll call)).phase poll = .draining call := by
    simp only [machine, effect, left]
    exact Function.update_self ..
  exact draining moved

theorem locking (phase : state.phase poll = .locking call) (free : state.holder = none)
    (pending : 0 < state.queue.wakes) : state.Returns poll call := by
  apply cons (.lock poll call) rfl rfl ⟨phase, free⟩
  exact checking (Function.update_self ..) pending

theorem relocking {timedOut : Bool} (phase : state.phase poll = .relocking call timedOut)
    (free : state.holder = none) (pending : 0 < state.queue.wakes) : state.Returns poll call := by
  apply cons (.relock poll call timedOut) rfl rfl ⟨phase, free⟩
  cases timedOut with
  | true => exact draining (Function.update_self ..)
  | false => exact checking (Function.update_self ..) pending

theorem parked {notified : Bool} (phase : state.phase poll = .parked call notified)
    (free : state.holder = none) (pending : 0 < state.queue.wakes) : state.Returns poll call := by
  apply cons (.unpark poll call notified false) rfl rfl ⟨phase, by simp⟩
  exact relocking (Function.update_self ..) free pending

end State.Returns

/-- With a wake pending for each woken poller, wakes are delivered. -/
theorem State.Supplied.delivers (supplied : state.Supplied) (watchful : state.Watchful) :
    state.WakesDelivered := by
  have pending : ∀ poller, poller ∈ state.woken → 0 < state.queue.wakes := by
    intro poller woken
    exact (Finset.card_pos.mpr ⟨poller, woken⟩).trans_le supplied
  have awake : ∀ poll call,
      state.phase poll = .waiting call ∨ state.phase poll = .parked call false →
      call.poller ∉ state.woken := by
    intro poll call waits woken
    have idle := watchful.idle poll (by rcases waits with waits | waits <;> rw [waits] <;> rfl)
    exact absurd idle.quiet (pending call.poller woken).ne'
  refine ⟨awake, ?_⟩
  intro poll call ongoing woken mutex
  have supply := pending call.poller woken
  cases phase : state.phase poll with
  | locking current =>
      rw [phase] at ongoing mutex
      obtain rfl := Option.some.inj ongoing
      exact .locking phase (mutex.resolve_left (by simp [Phase.holds])) supply
  | checking current =>
      rw [phase] at ongoing
      obtain rfl := Option.some.inj ongoing
      exact .checking phase supply
  | waiting current =>
      rw [phase] at ongoing
      obtain rfl := Option.some.inj ongoing
      exact absurd woken (awake poll current (Or.inl phase))
  | parked current notified =>
      rw [phase] at ongoing mutex
      obtain rfl := Option.some.inj ongoing
      exact .parked phase (mutex.resolve_left (by simp [Phase.holds])) supply
  | relocking current timedOut =>
      rw [phase] at ongoing mutex
      obtain rfl := Option.some.inj ongoing
      exact .relocking phase (mutex.resolve_left (by simp [Phase.holds])) supply
  | draining current =>
      rw [phase] at ongoing
      obtain rfl := Option.some.inj ongoing
      exact .draining phase
  | writing current batch closed =>
      rw [phase] at ongoing
      obtain rfl := Option.some.inj ongoing
      exact .writing phase
  | leaving current outcome records =>
      rw [phase] at ongoing
      obtain rfl := Option.some.inj ongoing
      exact .leaving phase
  | _ =>
      rw [phase] at ongoing
      cases ongoing

theorem supplied_invariant : (machine.restrict EnoughLeft).Invariant State.Supplied where
  start := Nat.zero_le _
  step := fun _ action _ supplied ready => supplied.step action ready.2

/-- In every run in which no poll takes a wake that other woken pollers need, a poll on a
woken poller does not wait, and returns by its own steps. -/
theorem wakes_reach_their_pollers (trace : List Action)
    (runs : (machine.restrict EnoughLeft).Runs start trace) :
    (machine.after start trace).WakesDelivered := by
  have reached : (machine.restrict EnoughLeft).Reachable (machine.after start trace) :=
    GuardedSystem.Reachable.start.run runs
  have supplied : (machine.after start trace).Supplied := supplied_invariant.reachable reached
  exact supplied.delivers (watchful_invariant.reachable reached.of_restrict)

/-- A poll on the first poller. -/
def firstCall : Call := { poller := 0, cap := 1, timeoutMillis := -1 }

/-- A poll on the second poller. -/
def secondCall : Call := { poller := 1, cap := 1, timeoutMillis := -1 }

/-- The polls of both pollers of one queue park, the second one first. -/
def bothParked : List Action :=
  [.enter 1 secondCall false, .lock 1 secondCall, .check 1 secondCall, .park 1 secondCall,
    .enter 0 firstCall false, .lock 0 firstCall, .check 0 firstCall, .park 0 firstCall]

/-- The second poll gets the mutex first, takes a wake and returns. -/
def secondReturns : List Action :=
  [.unpark 1 secondCall true false, .relock 1 secondCall false, .check 1 secondCall,
    .drain 1 secondCall, .write 1 secondCall [] false, .leave 1 secondCall (.ok 0) []]

/-- Both polls park, the first poller is woken, and the poll of the second consumes
the wake. -/
def stolenWake : List Action :=
  bothParked ++ [.wake 0] ++ secondReturns ++
    [.unpark 0 firstCall true false, .relock 0 firstCall false, .check 0 firstCall,
      .park 0 firstCall]

/-- The woken poller's poll is parked again, with no deadline and nobody to notify it. -/
theorem wake_is_stolen :
    machine.Runs start stolenWake ∧
      (machine.after start stolenWake).phase 0 = .parked firstCall false ∧
      ¬ (machine.after start stolenWake).WakesDelivered := by
  have parked : (machine.after start stolenWake).phase 0 = .parked firstCall false := rfl
  refine ⟨by decide, parked, ?_⟩
  intro delivered
  exact delivered.awake 0 _ (Or.inr parked) (by decide)

/-- Both pollers are woken, and the poll of the second takes a wake and returns: one
is left for the first, whose poll returns as well. -/
theorem wakes_reach_their_pollers_both :
    (machine.restrict EnoughLeft).Runs start (bothParked ++ [.wake 0, .wake 1] ++ secondReturns) ∧
      (machine.after start (bothParked ++ [.wake 0, .wake 1] ++ secondReturns)).phase 1 =
        .returned secondCall (.ok 0) [] ∧
      (machine.after start (bothParked ++ [.wake 0, .wake 1] ++ secondReturns)).phase 0 =
        .parked firstCall true ∧
      (machine.after start (bothParked ++ [.wake 0, .wake 1] ++ secondReturns)).Returns 0
        firstCall := by
  have runs : (machine.restrict EnoughLeft).Runs start
      (bothParked ++ [.wake 0, .wake 1] ++ secondReturns) := by decide
  refine ⟨runs, rfl, rfl, ?_⟩
  exact (wakes_reach_their_pollers _ runs).returns 0 firstCall rfl (by decide) (Or.inr rfl)

end KtBridge.Poller
