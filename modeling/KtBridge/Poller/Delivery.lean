import KtBridge.Poller.Parking

/-! # Completions are delivered in order

The drain steps cut the completions pushed before the close into batches, in order.
A poll drains once, writes what it drained as it is, and reports a shutdown only of a
closed queue that it found empty. Since no other poll of the same poller writes while
one is ongoing, its records still read back when it returns.
-/

namespace KtBridge.Poller

open Foundation

/-- The completions pushed before the close, in order. -/
def pushedBeforeClose : List Action → List Pending
  | [] => []
  | .close :: _ => []
  | .push pending :: rest => pending :: pushedBeforeClose rest
  | _ :: rest => pushedBeforeClose rest

/-- The completion of a push. -/
def Action.pushed : Action → Option Pending
  | .push pending => some pending
  | _ => none

/-- The completions pushed after the close, in order. -/
def pushedAfterClose : List Action → List Pending
  | [] => []
  | .close :: rest => rest.filterMap Action.pushed
  | _ :: rest => pushedAfterClose rest

/-- How a poll ends that drained so. -/
def Drain.ending (drain : Drain) : Outcome Nat :=
  if drain.batch = [] then emptyPoll drain.found.closed else .ok drain.batch.length

namespace Phase

/-- Past the drain step. -/
def left : Phase → Bool
  | writing _ _ _ | leaving _ _ _ | returned _ _ _ => true
  | _ => false

/-- A poll is where one gets to that drained so, with what it wrote. -/
def Follows (drain : Drain) (written : List Record) : Phase → Prop
  | writing call batch closed =>
      call = drain.call ∧ batch = drain.batch ∧ closed = drain.found.closed ∧ written = []
  | leaving call outcome records | returned call outcome records =>
      call = drain.call ∧ outcome = drain.ending ∧ records.length = drain.batch.length ∧
        written = drain.batch.map Pending.record
  | _ => False

@[simp] theorem left_notify (phase : Phase) : phase.notify.left = phase.left := by
  cases phase <;> rfl

theorem Follows.notify {phase : Phase} {drain : Drain} {written : List Record}
    (follows : phase.Follows drain written) : phase.notify.Follows drain written := by
  cases phase <;> exact follows

theorem Follows.left {phase : Phase} {drain : Drain} {written : List Record}
    (follows : phase.Follows drain written) : phase.left := by
  cases phase <;> first | rfl | exact absurd follows id

end Phase

/-! ## The order of the drains -/

/-- What was drained, in the order of the drain steps, and what is still queued. -/
def State.sequence (state : State) : List Pending :=
  state.drains.flatMap Drain.batch ++ state.queue.queue

variable {state : State} {poll : Poll}

theorem sequence_step (state : State) (action : Action) :
    (machine.effect state action).sequence =
      state.sequence ++ if state.queue.closed then [] else action.pushed.toList := by
  cases action with
  | push pending =>
      simp only [machine, effect]
      split
      · simp [State.sequence]
      · next opened => simp [State.sequence, Queue.push, opened, State.notifyAll, Action.pushed]
  | check poll call =>
      simp only [machine, effect]
      split
      · next next left =>
          have same := (Queue.check_keeps left).1
          simp [State.sequence, State.setPhase, State.leaveLoop, same, Action.pushed]
      · simp [State.sequence, State.setPhase, Action.pushed]
  | drain poll call =>
      simp only [machine, effect, State.sequence, Queue.drain, State.setPhase, List.flatMap_append,
        List.flatMap_singleton, List.append_assoc, List.take_append_drop]
      simp [Action.pushed]
  | enter poll call outIsNull =>
      simp only [machine, effect]
      split <;> simp [State.sequence, State.setPhase, Action.pushed]
  | relock poll call timedOut =>
      simp only [machine, effect]
      split <;> simp [State.sequence, State.setPhase, State.leaveLoop, Action.pushed]
  | write poll call batch closed =>
      simp only [machine, effect]
      split
      · simp [State.sequence, State.setPhase, Action.pushed]
      · split <;> simp [State.sequence, State.setPhase, Action.pushed]
  | _ =>
      simp [machine, effect, State.sequence, State.setPhase, State.notifyAll, Queue.close,
        Queue.wake, Action.pushed]

/-- Only a close closes the queue, and a push into a closed queue is given back. -/
theorem dropped_step (state : State) (action : Action) :
    (machine.effect state action).queue.closed = (state.queue.closed || action = .close) ∧
      (machine.effect state action).dropped =
        state.dropped ++ if state.queue.closed then action.pushed.toList else [] := by
  cases action with
  | push pending =>
      simp only [machine, effect]
      split
      · next closed => simp [Queue.push, closed, Action.pushed]
      · next opened => simp [Queue.push, opened, State.notifyAll]
  | check poll call =>
      simp only [machine, effect]
      split
      · next next left =>
          have same := (Queue.check_keeps left).2.1
          simp [State.setPhase, State.leaveLoop, same, Action.pushed]
      · simp [State.setPhase, Action.pushed]
  | enter poll call outIsNull =>
      simp only [machine, effect]
      split <;> simp [State.setPhase, Action.pushed]
  | relock poll call timedOut =>
      simp only [machine, effect]
      split <;> simp [State.setPhase, State.leaveLoop, Action.pushed]
  | write poll call batch closed =>
      simp only [machine, effect]
      split
      · simp [State.setPhase, Action.pushed]
      · split <;> simp [State.setPhase, Action.pushed]
  | _ =>
      simp [machine, effect, State.setPhase, State.notifyAll, Queue.close, Queue.wake, Queue.drain,
        Action.pushed]

/-- A closed queue gives back every push. -/
theorem closed_run (closed : state.queue.closed) (trace : List Action) :
    (machine.after state trace).sequence = state.sequence ∧
      (machine.after state trace).dropped = state.dropped ++ trace.filterMap Action.pushed := by
  induction trace generalizing state with
  | nil => exact ⟨rfl, (List.append_nil _).symm⟩
  | cons action rest ih =>
      obtain ⟨stays, dropped⟩ := dropped_step state action
      rw [closed, Bool.true_or] at stays
      obtain ⟨sequence, later⟩ := ih stays
      constructor
      · rw [GuardedSystem.after_cons, sequence, sequence_step, closed, if_pos rfl, List.append_nil]
      · rw [GuardedSystem.after_cons, later, dropped, closed, if_pos rfl, List.append_assoc]
        cases pushed : action.pushed <;> simp [pushed]

/-- An open queue takes the pushes in until it is closed. -/
theorem open_run (state : State) (opened : state.queue.closed = false) (trace : List Action) :
    (machine.after state trace).sequence = state.sequence ++ pushedBeforeClose trace ∧
      (machine.after state trace).dropped = state.dropped ++ pushedAfterClose trace := by
  induction trace generalizing state with
  | nil => exact ⟨(List.append_nil _).symm, (List.append_nil _).symm⟩
  | cons action rest ih =>
      obtain ⟨stays, dropped⟩ := dropped_step state action
      have sequence := sequence_step state action
      rw [opened, Bool.false_or] at stays
      simp only [opened, Bool.false_eq_true, if_false, List.append_nil] at dropped sequence
      by_cases closes : action = .close
      · obtain ⟨same, later⟩ := closed_run (stays.trans (decide_eq_true closes)) rest
        subst closes
        rw [GuardedSystem.after_cons, same, later, sequence, dropped]
        exact ⟨rfl, rfl⟩
      · obtain ⟨same, later⟩ := ih _ (stays.trans (decide_eq_false closes))
        rw [GuardedSystem.after_cons, same, later, sequence, dropped, List.append_assoc]
        cases action <;> first | exact ⟨rfl, rfl⟩ | exact absurd rfl closes

/-! ## What a poll drains and writes -/

/-- Each drain step is one poll's, and the poll goes on with what it drained. -/
structure State.Accounted (state : State) : Prop where
  room : ∀ poll call, (state.phase poll).ongoing = some call → 0 < call.cap
  distinct : (state.drains.map Drain.poll).Nodup
  drained : ∀ poll, (state.phase poll).left → poll ∈ state.drains.map Drain.poll
  follows : ∀ drain ∈ state.drains, (state.phase drain.poll).Follows drain (state.written drain.poll)
  unwritten : ∀ poll, (state.phase poll).left = false → state.written poll = []
  taken : ∀ drain ∈ state.drains, 0 < drain.call.cap ∧
    drain.batch = drain.found.queue.take (min drain.call.cap drain.found.queue.length)

theorem accounted_start : start.Accounted where
  room := fun _ _ impossible => by cases impossible
  distinct := List.nodup_nil
  drained := fun _ impossible => by cases impossible
  follows := fun _ impossible => by cases impossible
  unwritten := fun _ _ => rfl
  taken := fun _ impossible => by cases impossible

namespace State.Accounted

variable {call : Call}

/-- A poll not past its drain step has none. -/
theorem undrained (accounted : state.Accounted) (inside : (state.phase poll).left = false) :
    poll ∉ state.drains.map Drain.poll := by
  intro member
  obtain ⟨drain, drained, same⟩ := List.mem_map.mp member
  have left := (accounted.follows drain drained).left
  rw [same, inside] at left
  cases left

/-- A poll moves on before its drain step. -/
theorem move (accounted : state.Accounted) (poll : Poll) (phase : Phase)
    (inside : (state.phase poll).left = false)
    (still : phase.left = false) (room : ∀ call, phase.ongoing = some call → 0 < call.cap) :
    (state.setPhase poll phase).Accounted where
  room := by
    intro other current
    simp only [setPhase, Function.update_apply]
    split
    · exact room current
    · exact accounted.room other current
  distinct := accounted.distinct
  drained := by
    intro other
    simp only [setPhase, Function.update_apply]
    split
    · intro left
      rw [still] at left
      cases left
    · exact accounted.drained other
  follows := by
    intro drain member
    have different : drain.poll ≠ poll := fun same =>
      accounted.undrained inside (same ▸ List.mem_map_of_mem member)
    simp only [setPhase, Function.update_of_ne different]
    exact accounted.follows drain member
  unwritten := by
    intro other
    simp only [setPhase, Function.update_apply]
    split
    · next same =>
        intro _
        rw [same]
        exact accounted.unwritten poll inside
    · exact accounted.unwritten other
  taken := accounted.taken

/-- A step of an ongoing poll before its drain step. -/
theorem stay (accounted : state.Accounted) (poll : Poll) (phase : Phase) (call : Call)
    (inside : (state.phase poll).left = false)
    (still : phase.left = false) (before : (state.phase poll).ongoing = some call)
    (after : phase.ongoing = some call) : (state.setPhase poll phase).Accounted := by
  apply accounted.move _ _ inside still
  intro current same
  obtain rfl := Option.some.inj (after.symm.trans same)
  exact accounted.room poll call before

/-- The notified polls are where they were. -/
theorem notifyAll (accounted : state.Accounted) : state.notifyAll.Accounted where
  room := by
    intro poll call ongoing
    exact accounted.room poll call (by simpa [State.notifyAll] using ongoing)
  distinct := accounted.distinct
  drained := by
    intro poll left
    exact accounted.drained poll (by simpa [State.notifyAll] using left)
  follows := fun drain member => (accounted.follows drain member).notify
  unwritten := by
    intro poll inside
    exact accounted.unwritten poll (by simpa [State.notifyAll] using inside)
  taken := accounted.taken

/-- The drain step. -/
theorem drain (accounted : state.Accounted) (draining : state.phase poll = .draining call) :
    (effect state (.drain poll call)).Accounted := by
  have inside : (state.phase poll).left = false := by rw [draining]; rfl
  have fresh := accounted.undrained inside
  have room := accounted.room poll call (by rw [draining]; rfl)
  refine ⟨?_, ?_, ?_, ?_, ?_, ?_⟩
  · intro other current
    simp only [effect, setPhase, Function.update_apply]
    split
    · intro ongoing
      obtain rfl := Option.some.inj ongoing
      exact room
    · exact accounted.room other current
  · simp only [effect, setPhase, List.map_append, List.map_cons, List.map_nil]
    exact List.nodup_append_comm.mp (List.nodup_cons.mpr ⟨fresh, accounted.distinct⟩)
  · intro other
    simp only [effect, setPhase, Function.update_apply, List.map_append, List.map_cons,
      List.map_nil, List.mem_append, List.mem_singleton]
    split
    · next same => exact fun _ => Or.inr same
    · exact fun left => Or.inl (accounted.drained other left)
  · intro drain member
    simp only [effect, List.mem_append, List.mem_singleton] at member
    simp only [effect, setPhase, Function.update_apply]
    rcases member with member | rfl
    · have different : drain.poll ≠ poll := fun same => fresh (same ▸ List.mem_map_of_mem member)
      rw [if_neg different]
      exact accounted.follows drain member
    · rw [if_pos rfl]
      exact ⟨rfl, rfl, rfl, accounted.unwritten poll inside⟩
  · intro other
    simp only [effect, setPhase, Function.update_apply]
    split
    · intro impossible
      cases impossible
    · exact accounted.unwritten other
  · intro drain member
    simp only [effect, List.mem_append, List.mem_singleton] at member
    rcases member with member | rfl
    · exact accounted.taken drain member
    · exact ⟨room, rfl⟩

/-- A poll past its drain step moves on, and may have written. -/
theorem advance (accounted : state.Accounted) (poll : Poll) (phase : Phase) (records : List Record)
    (past : (state.phase poll).left) (still : phase.left)
    (room : ∀ call, phase.ongoing = some call → 0 < call.cap)
    (follows : ∀ drain ∈ state.drains, drain.poll = poll → phase.Follows drain records) :
    State.Accounted
      { state.setPhase poll phase with written := Function.update state.written poll records } where
  room := by
    intro other current
    simp only [setPhase, Function.update_apply]
    split
    · exact room current
    · exact accounted.room other current
  distinct := accounted.distinct
  drained := by
    intro other
    simp only [setPhase, Function.update_apply]
    split
    · next same => exact fun _ => same ▸ accounted.drained poll past
    · exact accounted.drained other
  follows := by
    intro drain member
    simp only [setPhase, Function.update_apply]
    split
    · next same => exact follows drain member same
    · exact accounted.follows drain member
  unwritten := by
    intro other
    simp only [setPhase, Function.update_apply]
    split
    · intro inside
      rw [still] at inside
      cases inside
    · exact accounted.unwritten other
  taken := accounted.taken

/-- The write step ends as the drain says, with the drained completions unchanged. -/
theorem write (accounted : state.Accounted) {batch : List Pending} {closed : Bool}
    (writing : state.phase poll = .writing call batch closed) :
    (effect state (.write poll call batch closed)).Accounted := by
  have past : (state.phase poll).left := by rw [writing]; rfl
  have room : ∀ current, some call = some current → 0 < current.cap := by
    intro current same
    obtain rfl := Option.some.inj same
    exact accounted.room poll call (by rw [writing]; rfl)
  have was : ∀ drain ∈ state.drains, drain.poll = poll →
      call = drain.call ∧ batch = drain.batch ∧ closed = drain.found.closed ∧
        state.written poll = [] := by
    intro drain member same
    have follows := accounted.follows drain member
    rw [same, writing] at follows
    exact follows
  simp only [effect]
  split
  · next empty =>
      have moved := accounted.advance poll (.leaving call (emptyPoll closed) []) [] past rfl room (by
          intro drain member same
          obtain ⟨calls, batches, flag, -⟩ := was drain member same
          have none : drain.batch = [] := batches.symm.trans empty
          refine ⟨calls, ?_, ?_, ?_⟩
          · rw [Drain.ending, if_pos none, flag]
          · rw [none]
            rfl
          · rw [none]
            rfl)
      have unwritten : Function.update state.written poll [] = state.written := by
        obtain ⟨drain, member, same⟩ := List.mem_map.mp (accounted.drained poll past)
        rw [← (was drain member same).2.2.2]
        exact Function.update_eq_self ..
      rw [unwritten] at moved
      exact moved
  · next full =>
      obtain ⟨next, records, filled, reads⟩ := (state.buf call.poller).fill_reads_back batch
      rw [filled]
      have moved := accounted.advance poll (.leaving call (.ok batch.length) records)
        (records.map (KtCompletion.read next)) past rfl room (by
          intro drain member same
          obtain ⟨calls, batches, -, -⟩ := was drain member same
          have length := congrArg List.length reads
          rw [List.length_map, List.length_map, batches] at length
          refine ⟨calls, ?_, length, reads.trans (by rw [batches])⟩
          rw [Drain.ending, if_neg (batches ▸ full), batches])
      exact ⟨moved.room, moved.distinct, moved.drained, moved.follows, moved.unwritten, moved.taken⟩

theorem leave (accounted : state.Accounted) {outcome : Outcome Nat} {records : List KtCompletion}
    (leaving : state.phase poll = .leaving call outcome records) :
    (effect state (.leave poll call outcome records)).Accounted := by
  have past : (state.phase poll).left := by rw [leaving]; rfl
  have moved := accounted.advance poll (.returned call outcome records) (state.written poll) past rfl
    (fun _ impossible => by cases impossible) (by
      intro drain member same
      have follows := accounted.follows drain member
      rw [same, leaving] at follows
      exact follows)
  rw [Function.update_eq_self] at moved
  exact ⟨moved.room, moved.distinct, moved.drained, moved.follows, moved.unwritten, moved.taken⟩

theorem step (accounted : state.Accounted) (action : Action) (ready : machine.guard state action) :
    (machine.effect state action).Accounted := by
  cases action with
  | push pending =>
      simp only [machine, effect]
      split
      · exact ⟨accounted.room, accounted.distinct, accounted.drained, accounted.follows,
          accounted.unwritten, accounted.taken⟩
      · have moved := accounted.notifyAll
        exact ⟨moved.room, moved.distinct, moved.drained, moved.follows, moved.unwritten, moved.taken⟩
  | close =>
      have moved := accounted.notifyAll
      exact ⟨moved.room, moved.distinct, moved.drained, moved.follows, moved.unwritten, moved.taken⟩
  | wake poller =>
      have moved := accounted.notifyAll
      exact ⟨moved.room, moved.distinct, moved.drained, moved.follows, moved.unwritten, moved.taken⟩
  | enter poll call outIsNull =>
      have inside : (state.phase poll).left = false := by
        rw [show state.phase poll = .idle from ready]
        rfl
      simp only [machine, effect]
      split
      · exact accounted.move _ _ inside rfl fun _ impossible => by cases impossible
      · next entered =>
          have moved := accounted.move _ (.locking call) inside rfl (by
            intro current same
            obtain rfl := Option.some.inj same
            exact (cap_of_pollEntry entered).1)
          exact ⟨moved.room, moved.distinct, moved.drained, moved.follows, moved.unwritten, moved.taken⟩
  | lock poll call =>
      have moved := accounted.stay poll (.checking call) call
        (by rw [ready.1]; rfl) rfl (by rw [ready.1]; rfl) rfl
      exact ⟨moved.room, moved.distinct, moved.drained, moved.follows, moved.unwritten, moved.taken⟩
  | check poll call =>
      have checking : state.phase poll = .checking call := ready
      have stay : ∀ phase : Phase, phase.left = false → phase.ongoing = some call →
          (state.setPhase poll phase).Accounted := by
        intro phase still ongoing
        exact accounted.stay _ _ _ (by rw [checking]; rfl) still (by rw [checking]; rfl) ongoing
      simp only [machine, effect]
      split
      · have moved := stay (.draining call) rfl rfl
        exact ⟨moved.room, moved.distinct, moved.drained, moved.follows, moved.unwritten, moved.taken⟩
      · exact stay _ rfl rfl
  | park poll call =>
      have waiting : state.phase poll = .waiting call := ready
      have moved := accounted.stay poll (.parked call false) call
        (by rw [waiting]; rfl) rfl (by rw [waiting]; rfl) rfl
      exact ⟨moved.room, moved.distinct, moved.drained, moved.follows, moved.unwritten, moved.taken⟩
  | unpark poll call notified timedOut =>
      exact accounted.stay _ _ call (by rw [ready.1]; rfl) rfl (by rw [ready.1]; rfl) rfl
  | relock poll call timedOut =>
      have stay : ∀ phase : Phase, phase.left = false → phase.ongoing = some call →
          (state.setPhase poll phase).Accounted := by
        intro phase still ongoing
        exact accounted.stay _ _ _ (by rw [ready.1]; rfl) still (by rw [ready.1]; rfl) ongoing
      simp only [machine, effect]
      split
      · have moved := stay (.draining call) rfl rfl
        exact ⟨moved.room, moved.distinct, moved.drained, moved.follows, moved.unwritten, moved.taken⟩
      · have moved := stay (.checking call) rfl rfl
        exact ⟨moved.room, moved.distinct, moved.drained, moved.follows, moved.unwritten, moved.taken⟩
  | drain poll call => exact accounted.drain ready
  | write poll call batch closed => exact accounted.write ready
  | leave poll call outcome records => exact accounted.leave ready

end State.Accounted

theorem accounted_invariant : machine.Invariant State.Accounted where
  start := accounted_start
  step := fun _ action _ accounted ready => accounted.step action ready

/-! ## Who writes a slab -/

/-- The records a poll has for its caller. -/
def Phase.result : Phase → Option (Call × List KtCompletion)
  | leaving call _ records | returned call _ records => some (call, records)
  | _ => none

@[simp] theorem Phase.result_notify (phase : Phase) : phase.notify.result = phase.result := by
  cases phase <;> rfl

/-- A poller is polled by one call at a time, whose records stay as it wrote them. -/
structure State.Exclusive (state : State) : Prop where
  entered : ∀ poll call, (state.phase poll).ongoing = some call → state.inPoll call.poller
  alone : ∀ first second one other, (state.phase first).ongoing = some one →
    (state.phase second).ongoing = some other → one.poller = other.poller → first = second
  own : ∀ poll call records, (state.phase poll).ongoing = some call →
    (state.phase poll).result = some (call, records) → records ≠ [] →
    state.writer call.poller = some poll
  readable : ∀ poll call records, (state.phase poll).result = some (call, records) →
    state.writer call.poller = some poll →
    records.map (KtCompletion.read (state.buf call.poller)) = state.written poll

theorem exclusive_start : start.Exclusive where
  entered := fun _ _ impossible => by cases impossible
  alone := fun _ _ _ _ impossible => by cases impossible
  own := fun _ _ _ impossible => by cases impossible
  readable := fun _ _ _ impossible => by cases impossible

namespace State.Exclusive

variable {call : Call}

/-- A call moves on, or returns at once, and has written no record. -/
theorem move (exclusive : state.Exclusive) {phase : Phase}
    (same : ∀ call, phase.ongoing = some call → (state.phase poll).ongoing = some call)
    (quiet : ∀ call records, phase.result = some (call, records) →
      records = [] ∧ state.written poll = []) :
    (state.setPhase poll phase).Exclusive := by
  have before : ∀ other call, ((state.setPhase poll phase).phase other).ongoing = some call →
      (state.phase other).ongoing = some call := by
    intro other call
    simp only [setPhase, Function.update_apply]
    split
    · next eq =>
        rw [eq]
        exact same call
    · exact id
  refine ⟨?_, ?_, ?_, ?_⟩
  · intro other call ongoing
    exact exclusive.entered other call (before other call ongoing)
  · intro first second one other ongoing also
    exact exclusive.alone first second one other (before first one ongoing)
      (before second other also)
  · intro other call records ongoing
    have was := before other call ongoing
    simp only [setPhase, Function.update_apply]
    split
    · intro has full
      exact absurd (quiet call records has).1 full
    · exact exclusive.own other call records was
  · intro other call records
    simp only [setPhase, Function.update_apply]
    split
    · next eq =>
        intro has _
        rw [eq, (quiet call records has).1, (quiet call records has).2]
        rfl
    · exact exclusive.readable other call records

/-- A call that has no result yet moves on without one. -/
theorem stay (exclusive : state.Exclusive) (poll : Poll) (phase : Phase)
    (same : ∀ call, phase.ongoing = some call → (state.phase poll).ongoing = some call)
    (quiet : phase.result = none) : (state.setPhase poll phase).Exclusive := by
  apply exclusive.move same
  intro call records has
  rw [quiet] at has
  cases has

theorem notifyAll (exclusive : state.Exclusive) : state.notifyAll.Exclusive where
  entered := by
    intro poll call ongoing
    exact exclusive.entered poll call (by simpa [State.notifyAll] using ongoing)
  alone := by
    intro first second one other ongoing also
    exact exclusive.alone first second one other (by simpa [State.notifyAll] using ongoing)
      (by simpa [State.notifyAll] using also)
  own := by
    intro poll call records ongoing has
    exact exclusive.own poll call records (by simpa [State.notifyAll] using ongoing)
      (by simpa [State.notifyAll] using has)
  readable := by
    intro poll call records has
    exact exclusive.readable poll call records (by simpa [State.notifyAll] using has)

/-- A call enters a poller nobody polls. -/
theorem enter (exclusive : state.Exclusive) (free : state.inPoll call.poller = false) :
    State.Exclusive
      { state.setPhase poll (.locking call) with
        inPoll := Function.update state.inPoll call.poller true } := by
  have others : ∀ other current, (state.phase other).ongoing = some current →
      current.poller ≠ call.poller := by
    intro other current ongoing same
    have busy := exclusive.entered other current ongoing
    rw [same, free] at busy
    cases busy
  refine ⟨?_, ?_, ?_, ?_⟩
  · intro other current
    simp only [setPhase, Function.update_apply]
    split
    · intro ongoing
      obtain rfl := Option.some.inj ongoing
      rw [if_pos rfl]
    · intro ongoing
      rw [if_neg (others other current ongoing)]
      exact exclusive.entered other current ongoing
  · intro first second one other
    simp only [setPhase, Function.update_apply]
    split
    · next eq =>
        split
        · next also => exact fun _ _ _ => eq.trans also.symm
        · intro ongoing busy same
          obtain rfl := Option.some.inj ongoing
          exact absurd same.symm (others second other busy)
    · split
      · intro busy ongoing same
        obtain rfl := Option.some.inj ongoing
        exact absurd same (others first one busy)
      · exact exclusive.alone first second one other
  · intro other current records
    simp only [setPhase, Function.update_apply]
    split
    · intro _ impossible
      cases impossible
    · exact exclusive.own other current records
  · intro other current records
    simp only [setPhase, Function.update_apply]
    split
    · intro impossible
      cases impossible
    · exact exclusive.readable other current records

/-- The batch is written into a slab that no other ongoing poll has records in. -/
theorem write (exclusive : state.Exclusive) {batch : List Pending} {closed : Bool}
    (writing : state.phase poll = .writing call batch closed) {next : BatchBuf}
    (outcome : Outcome Nat) (records : List KtCompletion) :
    State.Exclusive
      { state.setPhase poll (.leaving call outcome records) with
        buf := Function.update state.buf call.poller next
        written := Function.update state.written poll (records.map (KtCompletion.read next))
        writer := Function.update state.writer call.poller (some poll) } := by
  have busy : (state.phase poll).ongoing = some call := by rw [writing]; rfl
  refine ⟨?_, ?_, ?_, ?_⟩
  · intro other current
    simp only [setPhase, Function.update_apply]
    split
    · intro ongoing
      obtain rfl := Option.some.inj ongoing
      exact exclusive.entered poll call busy
    · exact exclusive.entered other current
  · have before : ∀ first one,
        (Function.update state.phase poll (.leaving call outcome records) first).ongoing = some one →
        (state.phase first).ongoing = some one := by
      intro first one
      rw [Function.update_apply]
      split
      · next eq =>
          rw [eq, busy]
          exact id
      · exact id
    intro first second one other ongoing also
    exact exclusive.alone first second one other (before first one ongoing)
      (before second other also)
  · intro other current some_
    simp only [setPhase, Function.update_apply]
    split
    · next eq =>
        intro ongoing _ _
        obtain rfl := Option.some.inj ongoing
        rw [if_pos rfl, eq]
    · next different =>
        intro ongoing has full
        have apart : current.poller ≠ call.poller := fun same =>
          different (exclusive.alone other poll current call ongoing busy same)
        rw [if_neg apart]
        exact exclusive.own other current some_ ongoing has full
  · intro other current some_
    simp only [setPhase, Function.update_apply]
    split
    · intro has _
      obtain ⟨rfl, rfl⟩ := Prod.mk.inj (Option.some.inj has)
      rw [if_pos rfl]
    · next different =>
        intro has
        split
        · intro same
          exact absurd (Option.some.inj same).symm different
        · exact exclusive.readable other current some_ has

/-- The call returns, and leaves its poller to the next one. -/
theorem leave (exclusive : state.Exclusive) {outcome : Outcome Nat} {records : List KtCompletion}
    (leaving : state.phase poll = .leaving call outcome records) :
    (effect state (.leave poll call outcome records)).Exclusive := by
  have busy : (state.phase poll).ongoing = some call := by rw [leaving]; rfl
  -- The poll is not ongoing any more, and no other is on its poller.
  have before : ∀ other current,
      ((effect state (.leave poll call outcome records)).phase other).ongoing = some current →
      (state.phase other).ongoing = some current ∧ current.poller ≠ call.poller := by
    intro other current
    simp only [effect, setPhase, Function.update_apply]
    split
    · intro impossible
      cases impossible
    · next different =>
        intro ongoing
        exact ⟨ongoing, fun same =>
          different (exclusive.alone other poll current call ongoing busy same)⟩
  have result : ∀ other current some_,
      ((effect state (.leave poll call outcome records)).phase other).result = some (current, some_) →
      (state.phase other).result = some (current, some_) := by
    intro other current some_
    simp only [effect, setPhase, Function.update_apply]
    split
    · next eq =>
        rw [eq, leaving]
        exact id
    · exact id
  refine ⟨?_, ?_, ?_, ?_⟩
  · intro other current ongoing
    obtain ⟨was, apart⟩ := before other current ongoing
    simp only [effect, Function.update_of_ne apart]
    exact exclusive.entered other current was
  · intro first second one other ongoing also
    exact exclusive.alone first second one other (before first one ongoing).1
      (before second other also).1
  · intro other current some_ ongoing has
    exact exclusive.own other current some_ (before other current ongoing).1
      (result other current some_ has)
  · intro other current some_ has
    exact exclusive.readable other current some_ (result other current some_ has)

theorem step (exclusive : state.Exclusive) (accounted : state.Accounted) (action : Action)
    (ready : machine.guard state action) : (machine.effect state action).Exclusive := by
  cases action with
  | push pending =>
      simp only [machine, effect]
      split
      · exact ⟨exclusive.entered, exclusive.alone, exclusive.own, exclusive.readable⟩
      · have moved := exclusive.notifyAll
        exact ⟨moved.entered, moved.alone, moved.own, moved.readable⟩
  | close =>
      have moved := exclusive.notifyAll
      exact ⟨moved.entered, moved.alone, moved.own, moved.readable⟩
  | wake poller =>
      have moved := exclusive.notifyAll
      exact ⟨moved.entered, moved.alone, moved.own, moved.readable⟩
  | enter poll call outIsNull =>
      simp only [machine, effect]
      split
      · exact exclusive.stay _ _ (fun _ impossible => by cases impossible) rfl
      · next entered => exact exclusive.enter (cap_of_pollEntry entered).2
  | lock poll call =>
      have moved := exclusive.stay poll (.checking call)
        (by rw [ready.1]; exact fun _ => id) rfl
      exact ⟨moved.entered, moved.alone, moved.own, moved.readable⟩
  | check poll call =>
      have checking : state.phase poll = .checking call := ready
      simp only [machine, effect]
      split
      · have moved := exclusive.stay poll (.draining call)
          (by rw [checking]; exact fun _ => id) rfl
        exact ⟨moved.entered, moved.alone, moved.own, moved.readable⟩
      · exact exclusive.stay _ _ (by rw [checking]; exact fun _ => id) rfl
  | park poll call =>
      have waiting : state.phase poll = .waiting call := ready
      have moved := exclusive.stay poll (.parked call false)
        (by rw [waiting]; exact fun _ => id) rfl
      exact ⟨moved.entered, moved.alone, moved.own, moved.readable⟩
  | unpark poll call notified timedOut =>
      exact exclusive.stay _ _ (by rw [ready.1]; exact fun _ => id) rfl
  | relock poll call timedOut =>
      simp only [machine, effect]
      split
      · have moved := exclusive.stay poll (.draining call)
          (by rw [ready.1]; exact fun _ => id) rfl
        exact ⟨moved.entered, moved.alone, moved.own, moved.readable⟩
      · have moved := exclusive.stay poll (.checking call)
          (by rw [ready.1]; exact fun _ => id) rfl
        exact ⟨moved.entered, moved.alone, moved.own, moved.readable⟩
  | drain poll call =>
      have draining : state.phase poll = .draining call := ready
      have moved := exclusive.stay poll
        (.writing call (state.queue.drain call.cap).2.1 (state.queue.drain call.cap).2.2)
        (by rw [draining]; exact fun _ => id) rfl
      exact ⟨moved.entered, moved.alone, moved.own, moved.readable⟩
  | write poll call batch closed =>
      have writing : state.phase poll = .writing call batch closed := ready
      simp only [machine, effect]
      split
      · apply exclusive.move (by rw [writing]; exact fun _ => id)
        intro current records has
        obtain ⟨-, rfl⟩ := Prod.mk.inj (Option.some.inj has)
        obtain ⟨drain, member, same⟩ := List.mem_map.mp
          (accounted.drained poll (by rw [writing]; rfl))
        have follows := accounted.follows drain member
        rw [same, writing] at follows
        exact ⟨rfl, follows.2.2.2⟩
      · obtain ⟨next, records, filled, -⟩ := (state.buf call.poller).fill_reads_back batch
        rw [filled]
        exact exclusive.write writing (.ok batch.length) records
  | leave poll call outcome records => exact exclusive.leave ready

end State.Exclusive

theorem exclusive_invariant : machine.Invariant State.Exclusive where
  start := exclusive_start
  step := fun _ action reached exclusive ready =>
    exclusive.step (accounted_invariant.reachable reached) action ready

/-! ## Over every run -/

/-- A poll ends as its drain says: with a shutdown only of a closed queue found empty. -/
theorem ending_shutdown {drain : Drain} (room : 0 < drain.call.cap)
    (batch : drain.batch = drain.found.queue.take (min drain.call.cap drain.found.queue.length)) :
    drain.ending = .error .shutdown ↔ drain.found.closed ∧ drain.found.queue = [] := by
  have none : drain.batch = [] ↔ drain.found.queue = [] := by
    rw [batch, List.take_eq_nil_iff]
    constructor
    · rintro (zero | empty)
      · apply List.eq_nil_of_length_eq_zero
        omega
      · exact empty
    · exact Or.inr
  unfold Drain.ending
  split
  · next empty =>
      cases closed : drain.found.closed <;> simp [emptyPoll, none.mp empty]
  · next full =>
      constructor
      · intro impossible
        cases impossible
      · intro finished
        exact absurd (none.mpr finished.2) full

/-- A rejected poll stays rejected. -/
theorem rejected_run {outcome : Outcome Nat} (rejected : state.phase poll = .rejected outcome)
    {trace : List Action} (runs : machine.Runs state trace) :
    (machine.after state trace).phase poll = .rejected outcome := by
  induction trace generalizing state with
  | nil => exact rejected
  | cons action rest ih =>
      apply ih _ runs.2
      have other : action.poll ≠ some poll := by
        intro own
        have ready : guard state action := runs.1
        cases action with
        | push | close | wake => cases own
        | _ =>
            obtain rfl := Option.some.inj own
            simp only [guard, rejected] at ready
            simp at ready
      rcases phase_of_other state other with same | same
      · exact same.trans rejected
      · exact same.trans (by rw [rejected]; rfl)

/-- A poll's records read back as what it wrote, until another poll writes there. -/
theorem reads_back (accounted : state.Accounted) (exclusive : state.Exclusive) {call : Call}
    {outcome : Outcome Nat} {records : List KtCompletion}
    (ends : state.phase poll = .leaving call outcome records ∨
      state.phase poll = .returned call outcome records ∧ state.writer call.poller = some poll) :
    records.map (KtCompletion.read (state.buf call.poller)) = state.written poll := by
  rcases ends with leaving | ⟨returned, wrote⟩
  · by_cases empty : records = []
    · obtain ⟨drain, member, same⟩ := List.mem_map.mp
        (accounted.drained poll (by rw [leaving]; rfl))
      have follows := accounted.follows drain member
      rw [same, leaving] at follows
      have none : drain.batch = [] := by
        apply List.eq_nil_of_length_eq_zero
        rw [← follows.2.2.1, empty, List.length_nil]
      rw [empty, follows.2.2.2, none]
      rfl
    · have own := exclusive.own poll call records (by rw [leaving]; rfl) (by rw [leaving]; rfl) empty
      exact exclusive.readable poll call records (by rw [leaving]; rfl) own
  · exact exclusive.readable poll call records (by rw [returned]; rfl) wrote

/-- The records written out, in the order of the drain steps. -/
def State.writtenOut (state : State) : List Record :=
  state.drains.flatMap fun drain => state.written drain.poll

/-- What is true of a queue's completions after a trace. -/
structure Delivered (trace : List Action) (state : State) : Prop where
  /-- The drain steps cut what was pushed before the close, and leave the rest queued. -/
  ordered : state.drains.flatMap Drain.batch ++ state.queue.queue = pushedBeforeClose trace
  dropped : state.dropped = pushedAfterClose trace
  /-- Each batch is one poll's, and as large as its room allows. -/
  once : (state.drains.map Drain.poll).Nodup
  taken : ∀ drain ∈ state.drains,
    drain.batch = drain.found.queue.take (min drain.call.cap drain.found.queue.length)
  /-- A poll is about to write its batch, or wrote it record by record and unchanged. -/
  unchanged : ∀ drain ∈ state.drains,
    (state.phase drain.poll).Follows drain (state.written drain.poll)
  /-- With no poll about to write, what is written out is a prefix. -/
  written : (∀ poll call batch closed, state.phase poll ≠ .writing call batch closed) →
    state.writtenOut <+: (pushedBeforeClose trace).map Pending.record
  /-- The caller finds in the slab what was written. -/
  readable : ∀ poll call outcome records, state.phase poll = .leaving call outcome records ∨
      state.phase poll = .returned call outcome records ∧ state.writer call.poller = some poll →
    records.map (KtCompletion.read (state.buf call.poller)) = state.written poll
  shutdown : ∀ poll call outcome records, state.phase poll = .leaving call outcome records ∨
      state.phase poll = .returned call outcome records →
    ∃ drain ∈ state.drains, drain.poll = poll ∧
      (outcome = .error .shutdown ↔ drain.found.closed ∧ drain.found.queue = [])
  /-- A poll that an entry check returns takes nothing. -/
  rejected : ∀ before later poll call outIsNull outcome,
    trace = before ++ .enter poll call outIsNull :: later →
    pollEntry call.cap outIsNull ((machine.after start before).inPoll call.poller) = some outcome →
    state.phase poll = .rejected outcome ∧ poll ∉ state.drains.map Drain.poll ∧
      poll ∉ state.consumed

/-- In every run the completions pushed before the close are handed over in order, each
by one poll and as it was pushed. -/
theorem completions_are_delivered_in_order (trace : List Action)
    (runs : machine.Runs start trace) : Delivered trace (machine.after start trace) := by
  have reached := GuardedSystem.Reachable.start.run runs
  have accounted : (machine.after start trace).Accounted := accounted_invariant.reachable reached
  have exclusive : (machine.after start trace).Exclusive := exclusive_invariant.reachable reached
  have counted := counted_start.run GuardedSystem.Reachable.start runs
  obtain ⟨sequence, dropped⟩ := open_run start rfl trace
  have ordered : (machine.after start trace).sequence = pushedBeforeClose trace := sequence
  refine ⟨ordered, dropped, accounted.distinct, fun drain member => (accounted.taken drain member).2,
    accounted.follows, ?_, ?_, ?_, ?_⟩
  · intro settled
    have wrote : (machine.after start trace).writtenOut =
        ((machine.after start trace).drains.flatMap Drain.batch).map Pending.record := by
      rw [State.writtenOut, List.map_flatMap]
      apply List.flatMap_congr
      intro drain member
      have follows := accounted.follows drain member
      cases phase : (machine.after start trace).phase drain.poll with
      | writing call batch closed => exact absurd phase (settled drain.poll call batch closed)
      | leaving call outcome records =>
          rw [phase] at follows
          exact follows.2.2.2
      | returned call outcome records =>
          rw [phase] at follows
          exact follows.2.2.2
      | _ =>
          rw [phase] at follows
          exact absurd follows id
    rw [wrote, ← ordered, State.sequence, List.map_append]
    exact List.prefix_append ..
  · exact fun poll call outcome records => reads_back accounted exclusive
  · intro poll call outcome records ends
    obtain ⟨drain, member, same⟩ := List.mem_map.mp
      (accounted.drained poll (by rcases ends with ends | ends <;> rw [ends] <;> rfl))
    obtain ⟨room, batch⟩ := accounted.taken drain member
    have follows := accounted.follows drain member
    refine ⟨drain, member, same, ?_⟩
    rw [← ending_shutdown room batch]
    rcases ends with ends | ends
    · rw [same, ends] at follows
      rw [follows.2.1]
    · rw [same, ends] at follows
      rw [follows.2.1]
  · intro before later poll call outIsNull outcome split returns
    have stays : (machine.after start trace).phase poll = .rejected outcome := by
      rw [split, GuardedSystem.after_append, GuardedSystem.after_cons]
      rw [split] at runs
      have suffix := ((machine.runs_append ..).mp runs).2.2
      have entered : (effect (machine.after start before) (.enter poll call outIsNull)).phase poll =
          .rejected outcome := by
        simp only [effect, returns]
        exact Function.update_self ..
      exact rejected_run entered suffix
    refine ⟨stays, accounted.undrained (by rw [stays]; rfl), ?_⟩
    apply counted.not_consumed
    rw [stays]
    exact id

/-- Two completions, a rejected poll, the close, a push too late, and a poll that finds
the queue closed and empty. -/
def twoBatches : List Action :=
  let first : Call := { poller := 0, cap := 1, timeoutMillis := -1 }
  let second : Call := { poller := 1, cap := 8, timeoutMillis := 0 }
  let record (reqId : UInt64) : KtCompletion :=
    { reqId := reqId, kind := 0, status := 0, payload := none, payloadLen := 0, aux0 := 0, aux1 := 0 }
  [.push (Pending.ack 1), .push (Pending.ack 2),
    .enter 0 first false, .lock 0 first, .check 0 first, .drain 0 first,
    .enter 1 first false,
    .write 0 first [Pending.ack 1] false, .leave 0 first (.ok 1) [record 1],
    .close, .push (Pending.ack 3),
    .enter 2 second false, .lock 2 second, .check 2 second, .drain 2 second,
    .write 2 second [Pending.ack 2] true, .leave 2 second (.ok 1) [record 2],
    .enter 3 second false, .lock 3 second, .check 3 second, .drain 3 second,
    .write 3 second [] true, .leave 3 second (.error .shutdown) []]

theorem completions_are_delivered_in_order_closed :
    machine.Runs start twoBatches ∧ Delivered twoBatches (machine.after start twoBatches) ∧
      pushedBeforeClose twoBatches = [Pending.ack 1, Pending.ack 2] ∧
      (machine.after start twoBatches).dropped = [Pending.ack 3] := by
  have runs : machine.Runs start twoBatches := by decide +kernel
  exact ⟨runs, completions_are_delivered_in_order twoBatches runs, rfl, by decide +kernel⟩

end KtBridge.Poller
