import KtBridge.Poller.Machine

/-! # No wakeup is lost

What a waiter tests and the signal that wakes it are published under one mutex. A poll
that found nothing still holds the mutex when it parks, so nothing came in between
(`State.Watchful`); and whatever comes later marks it. A wake lets exactly one poll
out, or stays pending (`State.Counted`).
-/

namespace KtBridge

/-- There is nothing in the queue that ends a poll's wait. -/
structure Queue.Idle (queue : Queue) : Prop where
  empty : queue.queue = []
  opened : queue.closed = false
  quiet : queue.wakes = 0

namespace Queue

variable {state next : Queue} {timeoutMillis : Int}

/-- The test goes on to wait only in an idle queue, and never with a zero timeout. -/
theorem idle_of_check (waits : state.check timeoutMillis = none) :
    state.Idle ∧ timeoutMillis ≠ 0 := by
  unfold check at waits
  split at waits
  · cases waits
  · next still =>
    split at waits
    · cases waits
    · next quiet =>
      split at waits
      · cases waits
      · next timed =>
        rw [not_or, not_not, Bool.not_eq_true] at still
        exact ⟨⟨still.1, still.2, Nat.eq_zero_of_not_pos quiet⟩, timed⟩

/-- The test leaves an idle queue idle. -/
theorem Idle.check (idle : state.Idle) (left : state.check timeoutMillis = some next) :
    next.Idle := by
  obtain ⟨queue, closed, wakes⟩ := check_keeps left
  exact ⟨queue.trans idle.empty, closed.trans idle.opened,
    Nat.le_zero.mp (wakes.trans idle.quiet.le)⟩

theorem Idle.drain (idle : state.Idle) (cap : Nat) : (state.drain cap).1.Idle where
  empty := by simp only [Queue.drain, idle.empty, List.drop_nil]
  opened := idle.opened
  quiet := idle.quiet

/-- A poll whose test took a wake found nothing else. -/
theorem check_takes_wake (left : state.check timeoutMillis = some next)
    (taken : next.wakes < state.wakes) :
    state.queue = [] ∧ state.closed = false ∧ next.wakes + 1 = state.wakes := by
  unfold check at left
  split at left
  · obtain rfl := Option.some.inj left
    exact absurd taken (lt_irrefl _)
  · next still =>
    rw [not_or, not_not, Bool.not_eq_true] at still
    split at left
    · next pending =>
      obtain rfl := Option.some.inj left
      exact ⟨still.1, still.2, Nat.sub_add_cancel pending⟩
    · split at left
      · obtain rfl := Option.some.inj left
        exact absurd taken (lt_irrefl _)
      · cases left

end Queue

namespace Poller

open Foundation

/-- A poll that waits, or is about to, and was not told to look again. -/
def Phase.unnotified : Phase → Bool
  | .waiting _ | .parked _ false => true
  | _ => false

/-- Who holds the mutex is the poll in the section it protects, and nobody waits
unnotified for what is there. -/
structure State.Watchful (state : State) : Prop where
  holding : ∀ poll, (state.phase poll).holds → state.holder = some poll
  idle : ∀ poll, (state.phase poll).unnotified → state.queue.Idle

theorem watchful_start : start.Watchful where
  holding := fun _ impossible => by cases impossible
  idle := fun _ impossible => by cases impossible

variable {state : State} {poll : Poll}

namespace State.Watchful

/-- One poll moves on, and no other lost the mutex. -/
theorem move (watchful : state.Watchful) (poll : Poll) (phase : Phase) (holder : Option Poll)
    (queue : Queue)
    (held : phase.holds → holder = some poll)
    (others : ∀ other, other ≠ poll → state.holder = some other → holder = some other)
    (unnotified : phase.unnotified → queue.Idle) (still : state.queue.Idle → queue.Idle) :
    State.Watchful { state.setPhase poll phase with holder := holder, queue := queue } where
  holding := by
    intro other
    simp only [setPhase, Function.update_apply]
    split
    · next same =>
        rw [same]
        exact held
    · next different =>
        intro holds
        exact others other different (watchful.holding other holds)
  idle := by
    intro other
    simp only [setPhase, Function.update_apply]
    split
    · exact unnotified
    · intro waits
      exact still (watchful.idle other waits)

/-- A poll moves on outside the mutex. -/
theorem pass (watchful : state.Watchful) (poll : Poll) (phase : Phase) (released : phase.holds = false)
    (moving : phase.unnotified = false) : (state.setPhase poll phase).Watchful := by
  have moved := watchful.move poll phase _ state.queue
    (fun holds => absurd holds (by simp [released])) (fun _ _ same => same)
    (fun waits => absurd waits (by simp [moving])) id
  exact ⟨moved.holding, moved.idle⟩

/-- Whoever takes the free mutex has it alone. -/
theorem acquire (watchful : state.Watchful) (poll : Poll) (phase : Phase) (free : state.holder = none)
    (moving : phase.unnotified = false) :
    State.Watchful { state.setPhase poll phase with holder := some poll } := by
  have moved := watchful.move poll phase _ state.queue
    (fun _ => rfl) (fun other _ same => by rw [free] at same; cases same)
    (fun waits => absurd waits (by simp [moving])) id
  exact ⟨moved.holding, moved.idle⟩

/-- With everybody notified, the queue may change while the mutex is free. -/
theorem notifyAll (watchful : state.Watchful) (free : state.holder = none) (queue : Queue) :
    State.Watchful { state.notifyAll with queue := queue } where
  holding := by
    intro poll holds
    apply watchful.holding poll
    simpa [State.notifyAll] using holds
  idle := by
    intro poll waits
    have section_ : (state.phase poll).holds := by
      simp only [State.notifyAll] at waits
      cases phase : state.phase poll <;> rw [phase] at waits <;>
        simp_all [Phase.notify, Phase.unnotified, Phase.holds]
    rw [watchful.holding poll section_] at free
    cases free

theorem step (watchful : state.Watchful) (action : Action) (ready : machine.guard state action) :
    (machine.effect state action).Watchful := by
  cases action with
  | push pending =>
      simp only [machine, effect]
      split
      · exact ⟨watchful.holding, watchful.idle⟩
      · exact watchful.notifyAll ready _
  | close => exact watchful.notifyAll ready _
  | wake poller =>
      have woken := watchful.notifyAll ready state.queue.wake
      exact ⟨woken.holding, woken.idle⟩
  | enter poll call outIsNull =>
      simp only [machine, effect]
      split
      · exact watchful.pass _ _ rfl rfl
      · have entered := watchful.pass poll (.locking call) rfl rfl
        exact ⟨entered.holding, entered.idle⟩
  | lock poll call => exact watchful.acquire _ _ ready.2 rfl
  | check poll call =>
      have holds : state.holder = some poll := by
        apply watchful.holding poll
        rw [show state.phase poll = .checking call from ready]
        rfl
      simp only [machine, effect]
      split
      · next next left =>
          have moved := watchful.move poll (.draining call) _ _ (fun _ => holds)
            (fun _ _ same => same) (fun waits => by cases waits) (fun idle => idle.check left)
          exact ⟨moved.holding, moved.idle⟩
      · next waits =>
          have moved := watchful.move poll (.waiting call) _ _ (fun _ => holds)
            (fun _ _ same => same) (fun _ => (Queue.idle_of_check waits).1) id
          exact ⟨moved.holding, moved.idle⟩
  | park poll call =>
      have waiting : state.phase poll = .waiting call := ready
      have holds : state.holder = some poll := by
        apply watchful.holding poll
        rw [waiting]
        rfl
      -- What the test found still stands: nobody else had the mutex since.
      have idle : state.queue.Idle := by
        apply watchful.idle poll
        rw [waiting]
        rfl
      have moved := watchful.move poll (.parked call false) none _
        (fun impossible => by cases impossible)
        (fun other different same => absurd (Option.some.inj (same.symm.trans holds)) different)
        (fun _ => idle) id
      exact ⟨moved.holding, moved.idle⟩
  | unpark poll call notified timedOut => exact watchful.pass _ _ rfl rfl
  | relock poll call timedOut =>
      simp only [machine, effect]
      split
      · have moved := watchful.acquire poll (.draining call) ready.2 rfl
        exact ⟨moved.holding, moved.idle⟩
      · exact watchful.acquire _ _ ready.2 rfl
  | drain poll call =>
      have holds : state.holder = some poll := by
        apply watchful.holding poll
        rw [show state.phase poll = .draining call from ready]
        rfl
      have moved := watchful.move poll
        (.writing call (state.queue.drain call.cap).2.1 (state.queue.drain call.cap).2.2) none _
        (fun impossible => by cases impossible)
        (fun other different same => absurd (Option.some.inj (same.symm.trans holds)) different)
        (fun impossible => by cases impossible) (fun idle => idle.drain call.cap)
      exact ⟨moved.holding, moved.idle⟩
  | write poll call batch closed =>
      simp only [machine, effect]
      split
      · exact watchful.pass _ _ rfl rfl
      · split
        · next next records _ =>
            have wrote := watchful.pass poll (.leaving call (.ok batch.length) records) rfl rfl
            exact ⟨wrote.holding, wrote.idle⟩
        · exact watchful.pass _ _ rfl rfl
  | leave poll call outcome records =>
      have left := watchful.pass poll (.returned call outcome records) rfl rfl
      exact ⟨left.holding, left.idle⟩

end State.Watchful

theorem watchful_invariant : machine.Invariant State.Watchful where
  start := watchful_start
  step := fun _ action _ watchful ready => watchful.step action ready

def Action.isWake : Action → Bool
  | .wake _ => true
  | _ => false

/-- The wakes of a trace. -/
def wakesDelivered (trace : List Action) : Nat := trace.countP Action.isWake

/-- Where a poll is after it consumed a wake, and how it ends: it takes nothing. -/
def Phase.byWake (queue : Queue) : Phase → Prop
  | .draining _ => queue.queue = [] ∧ queue.closed = false
  | .writing _ batch closed => batch = [] ∧ closed = false
  | .leaving _ outcome _ | .returned _ outcome _ => outcome = .ok 0
  | _ => False

/-- Every wake delivered is pending, or let one poll out. -/
structure State.Counted (state : State) (delivered : Nat) : Prop where
  total : state.consumed.length + state.queue.wakes = delivered
  distinct : state.consumed.Nodup
  ends : ∀ poll ∈ state.consumed, (state.phase poll).byWake state.queue

theorem counted_start : start.Counted 0 where
  total := rfl
  distinct := List.nodup_nil
  ends := fun _ impossible => by cases impossible

/-- Outside the mutex the queue no longer matters to a poll that consumed a wake. -/
theorem Phase.byWake_of_released {phase : Phase} {queue : Queue} (released : phase.holds = false)
    (ends : phase.byWake queue) (later : Queue) : phase.byWake later := by
  cases phase <;> first | exact ends | cases released

/-- A poll that consumed a wake waits no more. -/
theorem Phase.byWake_notify {phase : Phase} {queue : Queue} (ends : phase.byWake queue) :
    phase.notify.byWake queue := by
  cases phase <;> exact ends

namespace State.Counted

variable {delivered : Nat}

/-- A poll not past the wait loop consumed no wake. -/
theorem not_consumed (counted : state.Counted delivered)
    (inside : ¬ (state.phase poll).byWake state.queue) : poll ∉ state.consumed :=
  fun consumed => inside (counted.ends poll consumed)

/-- One poll moves on while it has the mutex, or leaves the completions alone. -/
theorem move (counted : state.Counted delivered) (watchful : state.Watchful) (poll : Poll)
    (phase : Phase) (queue : Queue) (wakes : queue.wakes = state.queue.wakes)
    (ends : poll ∈ state.consumed → phase.byWake queue)
    (alone : state.holder = some poll ∨ queue = state.queue) :
    State.Counted { state.setPhase poll phase with queue := queue } delivered where
  total := by
    rw [← counted.total, ← wakes]
    rfl
  distinct := counted.distinct
  ends := by
    intro other consumed
    simp only [setPhase, Function.update_apply]
    split
    · next same => exact ends (same ▸ consumed)
    · next different =>
        rcases alone with holds | same
        · apply Phase.byWake_of_released _ (counted.ends other consumed)
          by_contra held
          have both := watchful.holding other (by simpa using held)
          exact different (Option.some.inj (both.symm.trans holds))
        · rw [same]
          exact counted.ends other consumed

/-- A step of a poll outside the wait loop. -/
theorem pass (counted : state.Counted delivered) (watchful : state.Watchful) (poll : Poll)
    (phase : Phase)
    (ends : poll ∈ state.consumed → phase.byWake state.queue) :
    (state.setPhase poll phase).Counted delivered := by
  have moved := counted.move watchful _ _ state.queue rfl ends (Or.inr rfl)
  exact ⟨moved.total, moved.distinct, moved.ends⟩

/-- A step of a poll inside the wait loop or before it. -/
theorem stay (counted : state.Counted delivered) (watchful : state.Watchful) (poll : Poll)
    (phase : Phase)
    (inside : ¬ (state.phase poll).byWake state.queue) :
    (state.setPhase poll phase).Counted delivered :=
  counted.pass watchful _ _ fun consumed => absurd consumed (counted.not_consumed inside)

/-- With the mutex free, the queue changes under polls that no longer look at it. -/
theorem notifyAll (counted : state.Counted delivered) (watchful : state.Watchful) (queue : Queue)
    (more : Nat) (free : state.holder = none)
    (wakes : queue.wakes = state.queue.wakes + more) :
    State.Counted { state.notifyAll with queue := queue } (delivered + more) where
  total := by
    rw [← counted.total, Nat.add_assoc, ← wakes]
    rfl
  distinct := counted.distinct
  ends := by
    intro poll consumed
    apply Phase.byWake_of_released _ (Phase.byWake_notify (counted.ends poll consumed))
    rw [Phase.holds_notify]
    by_contra held
    rw [watchful.holding poll (by simpa using held)] at free
    cases free

/-- The test consumes a wake exactly when that is what lets the poll out. -/
theorem check (counted : state.Counted delivered) (watchful : state.Watchful) {call : Call}
    (checking : state.phase poll = .checking call) :
    (effect state (.check poll call)).Counted delivered := by
  have inside : ¬ (state.phase poll).byWake state.queue := by
    rw [checking]
    exact id
  have fresh := counted.not_consumed inside
  have holds : state.holder = some poll := by
    apply watchful.holding poll
    rw [checking]
    rfl
  simp only [effect]
  split
  · next next left =>
      obtain ⟨queue, closed, wakes⟩ := Queue.check_keeps left
      by_cases taken : next.wakes < state.queue.wakes
      · obtain ⟨empty, opened, one⟩ := Queue.check_takes_wake left taken
        have total : state.consumed.length + 1 + next.wakes = delivered := by
          rw [← counted.total, ← one]
          omega
        refine ⟨?_, ?_, ?_⟩
        · rw [if_pos taken, List.length_append]
          exact total
        · rw [if_pos taken]
          exact List.nodup_append_comm.mp (List.nodup_cons.mpr ⟨fresh, counted.distinct⟩)
        · intro other consumed
          rw [if_pos taken, List.mem_append, List.mem_singleton] at consumed
          simp only [setPhase, leaveLoop, Function.update_apply]
          split
          · exact ⟨queue.trans empty, closed.trans opened⟩
          · next different =>
              have before := counted.ends other (consumed.resolve_right different)
              apply Phase.byWake_of_released _ before
              by_contra held
              have both := watchful.holding other (by simpa using held)
              exact different (Option.some.inj (both.symm.trans holds))
      · have moved := counted.move watchful poll (.draining call) next
          (by omega) (fun consumed => absurd consumed fresh) (Or.inl holds)
        rw [if_neg taken]
        exact ⟨moved.total, moved.distinct, moved.ends⟩
  · exact counted.stay watchful _ _ inside

theorem step (counted : state.Counted delivered) (watchful : state.Watchful) (action : Action)
    (ready : machine.guard state action) :
    (machine.effect state action).Counted (delivered + if action.isWake then 1 else 0) := by
  cases action with
  | push pending =>
      simp only [machine, effect]
      split
      · exact ⟨counted.total, counted.distinct, counted.ends⟩
      · next opened =>
          apply counted.notifyAll watchful _ 0 ready
          simp only [Queue.push, opened, Bool.false_eq_true, if_false, Nat.add_zero]
  | close => exact counted.notifyAll watchful _ 0 ready rfl
  | wake poller =>
      have woken := counted.notifyAll watchful state.queue.wake 1 ready rfl
      exact ⟨woken.total, woken.distinct, woken.ends⟩
  | enter poll call outIsNull =>
      have fresh : ¬ (state.phase poll).byWake state.queue := by
        rw [show state.phase poll = .idle from ready]
        exact id
      simp only [machine, effect]
      split
      · exact counted.stay watchful _ _ fresh
      · have entered := counted.stay watchful _ (.locking call) fresh
        exact ⟨entered.total, entered.distinct, entered.ends⟩
  | lock poll call =>
      have locked := counted.stay watchful poll (.checking call) (by
        rw [ready.1]
        exact id)
      exact ⟨locked.total, locked.distinct, locked.ends⟩
  | check poll call => exact counted.check watchful ready
  | park poll call =>
      have parked := counted.stay watchful poll (.parked call false) (by
        rw [show state.phase poll = .waiting call from ready]
        exact id)
      exact ⟨parked.total, parked.distinct, parked.ends⟩
  | unpark poll call notified timedOut =>
      apply counted.stay watchful _ _
      rw [ready.1]
      exact id
  | relock poll call timedOut =>
      have inside : ¬ (state.phase poll).byWake state.queue := by
        rw [ready.1]
        exact id
      simp only [machine, effect]
      split
      · have relocked := counted.stay watchful _ (.draining call) inside
        exact ⟨relocked.total, relocked.distinct, relocked.ends⟩
      · have relocked := counted.stay watchful _ (.checking call) inside
        exact ⟨relocked.total, relocked.distinct, relocked.ends⟩
  | drain poll call =>
      have draining : state.phase poll = .draining call := ready
      have holds : state.holder = some poll := by
        apply watchful.holding poll
        rw [draining]
        rfl
      have moved := counted.move watchful poll
        (.writing call (state.queue.drain call.cap).2.1 (state.queue.drain call.cap).2.2)
        (state.queue.drain call.cap).1
        rfl (by
          intro consumed
          have ends := counted.ends poll consumed
          rw [draining] at ends
          simp only [Phase.byWake, Queue.drain, ends.1, ends.2, List.take_nil, and_self])
        (Or.inl holds)
      exact ⟨moved.total, moved.distinct, moved.ends⟩
  | write poll call batch closed =>
      have writing : state.phase poll = .writing call batch closed := ready
      have nothing : poll ∈ state.consumed → batch = [] ∧ closed = false := by
        intro consumed
        have ends := counted.ends poll consumed
        rw [writing] at ends
        exact ends
      simp only [machine, effect]
      split
      · apply counted.pass watchful _ _
        intro consumed
        simp only [Phase.byWake, emptyPoll, (nothing consumed).2, Bool.false_eq_true, if_false]
      · next full =>
          split
          · next next records _ =>
              have wrote := counted.pass watchful _ (.leaving call (.ok batch.length) records)
                fun consumed => absurd (nothing consumed).1 full
              exact ⟨wrote.total, wrote.distinct, wrote.ends⟩
          · exact counted.pass watchful _ _ fun consumed => absurd (nothing consumed).1 full
  | leave poll call outcome records =>
      have leaving : state.phase poll = .leaving call outcome records := ready
      have left := counted.pass watchful poll (.returned call outcome records) (by
        intro consumed
        have ends := counted.ends poll consumed
        rw [leaving] at ends
        exact ends)
      exact ⟨left.total, left.distinct, left.ends⟩

end State.Counted

/-- Over a run the wakes delivered add up. -/
theorem State.Counted.run {delivered : Nat} (counted : state.Counted delivered)
    (reached : machine.Reachable state) {trace : List Action} (runs : machine.Runs state trace) :
    (machine.after state trace).Counted (delivered + wakesDelivered trace) := by
  induction trace generalizing state delivered with
  | nil => exact counted
  | cons action rest ih =>
      have watchful := watchful_invariant.reachable reached
      have next := ih (counted.step watchful action runs.1) (reached.step action runs.1) runs.2
      rw [wakesDelivered, List.countP_cons, Nat.add_comm (rest.countP _), ← Nat.add_assoc]
      exact next

/-- What is true of a queue's wakeups after a trace. -/
structure WakeupsKept (trace : List Action) (state : State) : Prop where
  /-- Nobody stays parked while there is something to return for. -/
  unparked : ¬ ∃ poll call, state.phase poll = .parked call false ∧
    (state.queue.queue ≠ [] ∨ state.queue.closed ∨ 0 < state.queue.wakes)
  counted : state.consumed.length + state.queue.wakes = wakesDelivered trace
  once : state.consumed.Nodup
  /-- Those let out are past the wait loop, and take nothing. -/
  ends : ∀ poll ∈ state.consumed, (state.phase poll).byWake state.queue

/-- In every run, no poll is parked unnotified while the queue has a completion, is
closed, or has a pending wake; and the polls let out by a wake with the pending wakes
are as many as the wakes delivered. -/
theorem no_wakeup_is_lost (trace : List Action) (runs : machine.Runs start trace) :
    WakeupsKept trace (machine.after start trace) := by
  have reached := GuardedSystem.Reachable.start.run runs
  have watchful : (machine.after start trace).Watchful := watchful_invariant.reachable reached
  have counted := counted_start.run GuardedSystem.Reachable.start runs
  rw [Nat.zero_add] at counted
  refine ⟨?_, counted.total, counted.distinct, counted.ends⟩
  intro ⟨poll, call, parked, something⟩
  have idle := watchful.idle poll (by
    rw [parked]
    rfl)
  rcases something with full | closed | pending
  · exact full idle.empty
  · rw [idle.opened] at closed
    cases closed
  · rw [idle.quiet] at pending
    exact absurd pending (lt_irrefl 0)

/-- A poll parks, is woken and returns; the second wake stays pending. -/
theorem no_wakeup_is_lost_woken :
    let call : Call := { poller := 0, cap := 1, timeoutMillis := -1 }
    let trace : List Action :=
      [.enter 0 call false, .lock 0 call, .check 0 call, .park 0 call, .wake 0, .wake 0,
        .unpark 0 call true false, .relock 0 call false, .check 0 call, .drain 0 call,
        .write 0 call [] false, .leave 0 call (.ok 0) []]
    machine.Runs start trace ∧ WakeupsKept trace (machine.after start trace) ∧
      (machine.after start trace).consumed = [0] ∧ (machine.after start trace).queue.wakes = 1 := by
  intro call trace
  have runs : machine.Runs start trace := by decide
  exact ⟨runs, no_wakeup_is_lost trace runs, rfl, rfl⟩

end Poller

end KtBridge
