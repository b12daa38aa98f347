import KtBridge.Delivery.Service

/-! # Every task of Core's is received, in order, and the end comes after the last

What a poll loop got of Core is what its stream was sent, then what is on its way to it. So the
callers of a worker that stays open receive Core's tasks in Core's order, each once; and they are told
the end only after the last task, with the failure that Core's polls failed with. -/

namespace KtBridge

namespace Request

/-- Nothing has begun to shut off what is pushed. -/
structure State.Undrained (state : State) : Prop where
  taking : state.queue.closed = false
  unlocked : state.lock ≠ some .drain

/-- Only the drain of a runtime begins it. -/
theorem State.Undrained.step {reqId : Call → UInt64} {state : State} {action : Action}
    (undrained : state.Undrained) (ready : guard reqId state action) (quiet : action ≠ .drainStart) :
    (effect reqId state action).Undrained := by
  have pushed : ∀ origin pending, (state.push origin pending).queue.closed = false := by
    intro origin pending
    simp [State.push, Queue.push, undrained.taking]
  have same : ∀ {next : State}, next.queue.closed = state.queue.closed → next.lock = state.lock →
      next.Undrained :=
    fun queue lock => ⟨queue.trans undrained.taking, lock ▸ undrained.unlocked⟩
  cases action with
  | register call =>
      simp only [effect]
      split <;> exact same rfl rfl
  | retire call result =>
      simp only [effect]
      split
      · exact ⟨undrained.taking, by simp⟩
      · exact same rfl rfl
  | answer call result => exact ⟨pushed (some call) result, by simp [effect]⟩
  | cancel id =>
      simp only [effect]
      split <;> exact same rfl rfl
  | drainStart => exact absurd rfl quiet
  | drainAnswer id call => exact absurd ready.1 undrained.unlocked
  | drainFinish => exact absurd ready.1 undrained.unlocked
  | event pending => exact ⟨pushed none pending, undrained.unlocked⟩
  | pass poller cap timeoutMillis timedOut next batch closed =>
      exact same (Queue.pass_takes_prefix ready.2).2.2 rfl
  | _ => exact same rfl rfl

end Request

namespace Delivery

open Foundation
open Pump (Completion Call Throwable)
open KtBridge.Runtime (KtTaskKind Worker Phase)
open KtBridge.Worker (TaskKind)

section Runs

variable {decode : ByteArray → String} {worker : Worker} {state : State}

/-- What is pushed is not shut off before the runtime is closed. -/
def State.Taking (state : State) : Prop :=
  state.runtime.closed = false → state.exchange.native.Undrained

theorem taking_invariant (decode : ByteArray → String) : (system decode).Invariant State.Taking where
  start := fun _ => ⟨rfl, by simp [system, start, Exchange.start, Request.start]⟩
  step := by
    intro state action _ taking ready
    cases action with
    | exchange action =>
        intro opened
        have undrained := taking opened
        cases action with
        | pump action =>
            have same : (Exchange.effect state.exchange (.pump action)).native =
                state.exchange.native := Exchange.State.handle_native ..
            simp only [system, effect, same]
            exact undrained
        | native action =>
            refine undrained.step ready.1.1 ?_
            rintro rfl
            have closed : state.runtime.closed = true := ready.2
            rw [show state.runtime.closed = false from opened] at closed
            cases closed
        | runHandler call => exact undrained.step ready.1.2 (by simp)
    | runtime action =>
        intro opened
        refine taking ?_
        by_contra closed
        rw [Bool.not_eq_false] at closed
        have stays := (Runtime.State.closed_step decode action closed).1
        rw [show (Runtime.effect decode state.runtime action).closed = false from opened] at stays
        cases stays
    | loop other kind step =>
        intro opened
        cases pushes : Loop.pushes other kind step with
        | none =>
            simp only [system, effect, pushes]
            exact taking opened
        | some pending =>
            simp only [system, effect, pushes]
            have event : Request.guard Pump.requestId state.exchange.native (.event pending) :=
              (pushes_event pushes).1
            exact (taking opened).step event (by simp)
    | start call other => exact taking
    | deliver call completion rest =>
        intro opened
        have same : (Exchange.effect state.exchange (.pump (.dispatch completion rest))).native =
            state.exchange.native := Exchange.State.handle_native ..
        simp only [system, effect, same]
        exact taking opened

/-- The pump thread calls `onPushed` in `deliver` only. -/
theorem pushed_exchange {exchange : Exchange.State} {action : Exchange.Action}
    (allowed : ExchangeAllows state action) :
    (Exchange.effect exchange action).pump.pushed = exchange.pump.pushed := by
  cases action with
  | native action => rfl
  | runHandler call => rfl
  | pump action =>
      change (Pump.effect exchange.pump action).pushed = exchange.pump.pushed
      cases action with
      | dispatch completion rest =>
          have answer : completion.reqId ≠ 0 := allowed.1
          simp only [Pump.effect, if_neg answer]
          split <;> rfl
      | refuse call => exact exchange.pump.resume_pushed ..
      | raise call thrown => exact exchange.pump.resume_pushed ..
      | resume call completion rest => exact exchange.pump.resume_pushed ..
      | failResume call id rest => exact exchange.pump.resume_pushed ..
      | withdraw call =>
          simp only [Pump.effect]
          split <;> rfl
      | failNext id rest =>
          simp only [Pump.effect]
          split <;> rfl
      | _ => rfl

/-- The streams of a worker that stays open serve it. -/
theorem serving_invariant (decode : ByteArray → String) (worker : Worker) :
    (keeping decode worker).Invariant fun state =>
      ∀ kind, ∃ before, state.Serving decode worker kind before where
  start := fun kind => ⟨[], rfl, rfl, by simp [flags, State.here, keeping, system, start,
    GuardedSystem.restrict, Runtime.start, TaskStream.start], rfl, rfl,
    fun _ impossible => (by cases impossible), GuardedSystem.Reachable.start⟩
  step := by
    intro state action reached served ready
    have undisturbed := (undisturbed_invariant decode worker).reachable reached
    have all := reached.of_restrict
    have pumped := (pumped_invariant decode).reachable all
    obtain ⟨ready, open_⟩ := ready
    intro kind
    obtain ⟨before, serving⟩ := served kind
    cases action with
    | exchange action => exact ⟨before, serving.same (pushed_exchange ready.2) rfl rfl rfl⟩
    | loop other this step =>
        refine ⟨before, serving.same ?_ rfl rfl rfl⟩
        simp only [keeping, GuardedSystem.restrict, system, effect]
        split <;> rfl
    | start call other => exact ⟨before, serving.same rfl rfl rfl rfl⟩
    | deliver call completion rest => exact ⟨before, serving.deliver ready⟩
    | runtime action =>
        have quiet : ∀ {call}, action.turn = some call →
            delivers (state.runtime.phase call) = false →
              ∃ before, (effect decode state (.runtime action)).Serving decode worker kind before := by
          intro call turn elsewhere
          obtain ⟨stream, failures⟩ := streams_of_elsewhere decode undisturbed ready turn
            elsewhere
          refine ⟨before, serving.same rfl (here_of_elsewhere pumped ready fun other same => ?_)
            (congrFun stream kind) (congrFun failures kind)⟩
          rw [turn] at same
          cases same
          exact elsewhere
        cases action with
        | receive owner this action => exact ⟨before, serving.receive ready⟩
        | onPushed call completion => exact ⟨before, serving.onPushed all pumped undisturbed ready⟩
        | onEvent call completion => exact serving.onEvent all pumped ready
        | add call owner this task => exact serving.add all pumped ready
        | offer call owner this => exact ⟨before, serving.offer pumped ready⟩
        | handleEnd call owner this cause => exact ⟨before, serving.handleEnd pumped ready⟩
        | handleChannel call owner this cause => exact serving.handleChannel all pumped ready
        | push call completion => exact ready.2.elim
        | _ =>
            refine quiet rfl ?_
            first
              | rw [show state.runtime.phase _ = _ from ready.1]
                rfl
              | rw [show state.runtime.phase _ = _ from ready.1.1]
                rfl

end Runs

/-- How `TemporalWorker.receive` ends: with a task for its parser, with null, or by throwing. -/
inductive Received where
  | task (bytes : ByteArray)
  | null
  | thrown (cause : Throwable)
  | cancelled
  deriving DecidableEq

/-- What a call of it makes of `TaskStream.receive`: the plain end of the stream is null. -/
def received : TaskStream.Phase → Option Received
  | .returned task => some (.task task)
  | .ended none => some .null
  | .ended (some cause) => some (.thrown cause)
  | .cancelled => some .cancelled
  | _ => none

theorem received_task {phase : TaskStream.Phase} {bytes : ByteArray} :
    received phase = some (.task bytes) ↔ phase = .returned bytes := by
  cases phase with
  | ended cause => cases cause <;> simp [received]
  | _ => simp [received]

theorem received_null {phase : TaskStream.Phase} : received phase = some .null ↔ phase = .ended none := by
  cases phase with
  | ended cause => cases cause <;> simp [received]
  | _ => simp [received]

theorem received_thrown {phase : TaskStream.Phase} {cause : Throwable} :
    received phase = some (.thrown cause) ↔ phase = .ended (some cause) := by
  cases phase with
  | ended cause => cases cause <;> simp [received]
  | _ => simp [received]

/-- What the callers of a worker get of what Core's polls of one stream returned. -/
structure State.Served (decode : ByteArray → String) (state : State) (worker : Worker)
    (kind : TaskKind) : Prop where
  /-- Every task polled was taken, or is queued, or is on its way, in this order. -/
  complete : (state.loops worker kind).polled =
    (state.runtime.stream worker kind.stream).taken.map Prod.snd ++
      (state.runtime.stream worker kind.stream).tasks ++
        Event.tasks (current worker kind.stream state.here ++
          story worker kind.stream state.exchange.inFlight)
  once : ((state.runtime.stream worker kind.stream).taken.map Prod.fst).Nodup
  task : ∀ call bytes,
    received ((state.runtime.stream worker kind.stream).phase call) = some (.task bytes) →
      (call, bytes) ∈ (state.runtime.stream worker kind.stream).taken
  /-- Null comes after the last task of a stream that did not fail. -/
  null : ∀ call, received ((state.runtime.stream worker kind.stream).phase call) = some .null →
    (state.loops worker kind).phase.ended = true ∧
      (state.runtime.stream worker kind.stream).taken.map Prod.snd =
        (state.loops worker kind).polled ∧
      (state.loops worker kind).failure = none
  /-- So does the failure of one that did. -/
  thrown : ∀ call cause,
    received ((state.runtime.stream worker kind.stream).phase call) = some (.thrown cause) →
      (state.loops worker kind).phase.ended = true ∧
        (state.runtime.stream worker kind.stream).taken.map Prod.snd =
          (state.loops worker kind).polled ∧
        ∃ status message, (state.loops worker kind).failure = some (status, message) ∧
          cause = .core ⟨"worker poll stream failed: " ++ decode message, status⟩
  /-- A loop that has ended pushed one end, after everything else. -/
  final : (state.loops worker kind).phase.ended = true →
    ∃ before, (state.loops worker kind).events = before ++ [.ended] ∧ Event.ended ∉ before
  /-- Nobody is left parked on a queued task. -/
  noticed : (state.runtime.stream worker kind.stream).tasks ≠ [] →
    (state.runtime.stream worker kind.stream).closedWith = none →
      (state.runtime.stream worker kind.stream).token = true ∨
        state.here = .offering worker kind.stream ∨
          ∃ call, ((state.runtime.stream worker kind.stream).phase call).pending = true

section Served

variable {decode : ByteArray → String} {worker : Worker} {state : State} {kind : TaskKind}
  {before : List Event}

theorem offering_of_sender {stream : KtTaskKind} {phase : Phase}
    (offering : sender worker stream phase = .offering) : phase = .offering worker stream := by
  cases phase with
  | offering other this =>
      simp only [sender] at offering
      split at offering
      · next same => rw [same.1, same.2]
      · cases offering
  | handlingChannel other this cause =>
      simp only [sender] at offering
      split at offering <;> cases offering
  | _ => cases offering

/-- What follows the end is nothing. -/
theorem Event.Closed.rest {before after : List Event} (closed : Event.Closed (before ++ after))
    (ended : .ended ∈ before) : after = [] := by
  cases after with
  | nil => rfl
  | cons event after => exact absurd ended closed.before

/-- The end that came is the last. -/
theorem Event.Closed.last {events : List Event} (closed : Event.Closed events)
    (ended : .ended ∈ events) : ∃ before, events = before ++ [.ended] ∧ .ended ∉ before := by
  obtain ⟨before, after, rfl⟩ := List.append_of_mem ended
  have nothing : after = [] := by
    rw [← List.singleton_append, ← List.append_assoc] at closed
    exact closed.rest (List.mem_append_right _ (List.mem_singleton.mpr rfl))
  subst nothing
  exact ⟨before, rfl, closed.before⟩

/-- A loop that told the end has reported what failed. -/
theorem reported_of_ended {phase : LoopPhase} (ended : phase.ended = true) :
    phase.reported = true := by
  cases phase <;> first | rfl | cases ended

/-- Who was told the end has seen everything. -/
theorem State.Serving.all (serving : state.Serving decode worker kind.stream before)
    (reached : (system decode).Reachable state) {call : TaskStream.Receive}
    {cause : Option Throwable}
    (ended : (state.runtime.stream worker kind.stream).phase call = .ended cause) :
    (state.loops worker kind).phase.ended = true ∧
      (state.runtime.stream worker kind.stream).taken.map Prod.snd =
        (state.loops worker kind).polled ∧
      cause = (state.loops worker kind).failure.map fun failure =>
        .core ⟨"worker poll stream failed: " ++ decode failure.2, failure.1⟩ := by
  have sound := TaskStream.sound_invariant.reachable serving.machine
  have loop := loops_sound reached worker kind
  obtain ⟨lost, split, _⟩ := events_split reached worker kind
  have closed : (state.runtime.stream worker kind.stream).closedWith = some cause :=
    sound.told call cause (by
      rw [show (state.view worker kind.stream).phase call = _ from ended]
      rfl)
  have told : Event.ended ∈ before := by
    by_contra running
    rw [serving.closedWith, if_neg running] at closed
    cases closed
  rw [serving.closedWith, if_pos told, Option.some.injEq] at closed
  rw [serving.told, List.append_assoc, List.append_assoc] at split
  have whole := loop.closed
  rw [split] at whole
  rw [whole.rest told, List.append_nil] at split
  have over_ : (state.loops worker kind).phase.ended = true := by
    rw [← loop.ended, split]
    exact told
  refine ⟨over_, ?_, ?_⟩
  · have ordered := sound.ordered
    have empty : (state.view worker kind.stream).tasks = [] := sound.ended call cause ended
    rw [empty, List.append_nil] at ordered
    refine ordered.trans (serving.sent.trans ?_)
    rw [← split, loop.tasks]
  · rw [← closed, failureOf, ← split, loop.failure (reported_of_ended over_)]

/-- No task is lost on the way. -/
theorem State.Serving.complete (serving : state.Serving decode worker kind.stream before)
    (reached : (keeping decode worker).Reachable state) :
    (state.loops worker kind).polled =
      (state.runtime.stream worker kind.stream).taken.map Prod.snd ++
        (state.runtime.stream worker kind.stream).tasks ++
          Event.tasks (current worker kind.stream state.here ++
            story worker kind.stream state.exchange.inFlight) := by
  have all := reached.of_restrict
  have undisturbed := (undisturbed_invariant decode worker).reachable reached
  have taking := (taking_invariant decode).reachable all undisturbed.opened
  have sound := TaskStream.sound_invariant.reachable serving.machine
  obtain ⟨lost, split, whole⟩ := events_split all worker kind
  rw [whole taking.taking, List.append_nil, serving.told, List.append_assoc] at split
  have ordered : (state.runtime.stream worker kind.stream).taken.map Prod.snd ++
      (state.runtime.stream worker kind.stream).tasks =
        (state.runtime.stream worker kind.stream).sent := sound.ordered
  rw [ordered, serving.sent, ← (loops_sound all worker kind).tasks, split, Event.tasks_append]

/-- Who returned a task took it. -/
theorem State.Serving.mem_taken (serving : state.Serving decode worker kind.stream before)
    {call : TaskStream.Receive} {bytes : ByteArray}
    (result : received ((state.runtime.stream worker kind.stream).phase call) =
      some (.task bytes)) : (call, bytes) ∈ (state.runtime.stream worker kind.stream).taken := by
  refine (TaskStream.sound_invariant.reachable serving.machine).mem_taken.mpr ?_
  rw [show (state.view worker kind.stream).phase call = _ from received_task.mp result]
  rfl

/-- While a worker and its runtime stay open, its callers receive exactly what Core's polls returned,
in order, each task once, and then how the polls ended. -/
theorem polled_tasks_are_served (reached : (keeping decode worker).Reachable state)
    (kind : TaskKind) : state.Served decode worker kind := by
  have all := reached.of_restrict
  obtain ⟨before, serving⟩ := (serving_invariant decode worker).reachable reached kind.stream
  have loop := loops_sound all worker kind
  have sound := TaskStream.sound_invariant.reachable serving.machine
  refine ⟨serving.complete reached, sound.nodup_takers, fun call bytes => serving.mem_taken, ?_, ?_,
    fun ends => loop.closed.last (loop.ended.mpr ends), ?_⟩
  · intro call result
    obtain ⟨over_, taken, cause⟩ := serving.all all (received_null.mp result)
    exact ⟨over_, taken, by simpa using cause.symm⟩
  · intro call cause result
    obtain ⟨over_, taken, known⟩ := serving.all all (received_thrown.mp result)
    obtain ⟨failure, failed, same⟩ := Option.map_eq_some_iff.mp known.symm
    exact ⟨over_, taken, failure.1, failure.2, failed, same.symm⟩
  · intro full opened
    rcases sound.offered full opened with token | offering | pending
    · exact .inl token
    · exact .inr (.inl (offering_of_sender offering))
    · exact .inr (.inr pending)

/-- What the loop pushes below. -/
def lastTask : Pending := taskPending 7 .activity ⟨#[1]⟩

def lastFailure : Pending := failurePending 7 .activity ktErrFailed "lost"

def lastEnd : Pending := endPending 7 .activity

/-- A worker is started; its loop gets a task, then an error, then Core's shutdown. -/
def polling : List Action :=
  [.runtime (.create 0), .runtime (.ensureOpen 0), .runtime (.workerNew 0 (some 7)),
    .runtime (.validate 0 7 true), .runtime (.onWorkerEvents 0 7), .start 0 7,
    .loop 7 .activity (.poll (.task ⟨#[1]⟩)), .loop 7 .activity (.poll (.error "lost")),
    .loop 7 .activity (.report "lost"), .loop 7 .activity .wake,
    .loop 7 .activity (.poll .shutDown)]

/-- The pump thread polls what was pushed. -/
def pumping : List Action :=
  [.exchange (.pump .readTimeout), .exchange (.native (.poll 0 64 250)),
    .exchange (.native
      (.pass 0 64 250 false Queue.new [lastTask, lastFailure, lastEnd] false)),
    .exchange (.native (.write 0 lastTask [lastFailure, lastEnd])),
    .exchange (.native (.write 0 lastFailure [lastEnd])),
    .exchange (.native (.write 0 lastEnd [])), .exchange (.native (.finishPoll 0)),
    .exchange (.pump (.poll 250 ktOk [lastTask.record, lastFailure.record, lastEnd.record])),
    .exchange (.pump (.readSize [lastTask.record, lastFailure.record, lastEnd.record]))]

/-- The text of the error. -/
def lostText (bytes : ByteArray) : String := if bytes = "lost".toByteArray then "lost" else ""

def lostCause : Throwable := .core ⟨"worker poll stream failed: lost", ktErrFailed⟩

/-- It tells the stream, and two callers receive. -/
def telling : List Action :=
  [.deliver 10 lastTask.record [lastFailure.record, lastEnd.record],
    .runtime (.onPushed 10 lastTask.record), .runtime (.onEvent 10 lastTask.record),
    .runtime (.add 10 7 .activity ⟨#[1]⟩), .runtime (.offer 10 7 .activity),
    .deliver 11 lastFailure.record [lastEnd.record], .runtime (.onPushed 11 lastFailure.record),
    .runtime (.onEvent 11 lastFailure.record),
    .deliver 12 lastEnd.record [], .runtime (.onPushed 12 lastEnd.record),
    .runtime (.onEvent 12 lastEnd.record), .runtime (.handleEnd 12 7 .activity (some lostCause)),
    .runtime (.handleChannel 12 7 .activity (some lostCause)),
    .runtime (.receive 7 .activity (.call 0)), .runtime (.receive 7 .activity (.ensureActive 0)),
    .runtime (.receive 7 .activity (.poll 0)), .runtime (.receive 7 .activity (.look 0 ⟨#[1]⟩)),
    .runtime (.receive 7 .activity (.call 1)), .runtime (.receive 7 .activity (.ensureActive 1)),
    .runtime (.receive 7 .activity (.poll 1)), .runtime (.receive 7 .activity (.receive 1)),
    .runtime (.receive 7 .activity (.lookAgain 1 .element)),
    .runtime (.receive 7 .activity (.ensureActive 1)), .runtime (.receive 7 .activity (.poll 1)),
    .runtime (.receive 7 .activity (.receive 1)),
    .runtime (.receive 7 .activity (.lookAgain 1 (.closed (some lostCause)))),
    .runtime (.receive 7 .activity (.drain 1 (some lostCause)))]

theorem polled_tasks_are_served_failing :
    (((keeping lostText 7).after start (polling ++ pumping ++ telling)).runtime.stream 7
        .activity).taken.map Prod.snd = [⟨#[1]⟩] ∧
      received ((((keeping lostText 7).after start
        (polling ++ pumping ++ telling)).runtime.stream 7 .activity).phase 1) =
          some (.thrown lostCause) := by
  have runs : (keeping lostText 7).Runs start (polling ++ pumping ++ telling) := by decide +kernel
  have served := polled_tasks_are_served (GuardedSystem.Reachable.start.run runs) .activity
  have result : received ((((keeping lostText 7).after start
      (polling ++ pumping ++ telling)).runtime.stream 7 .activity).phase 1) =
        some (.thrown lostCause) := by
    decide +kernel
  refine ⟨(served.thrown 1 lostCause result).2.1.trans ?_, result⟩
  decide +kernel

/-! ## What a stream carries -/

/-- How a receiver is told the end: with the failure reported last, if there was one. -/
def endOf (decode : ByteArray → String) : Option (Int × ByteArray) → Received
  | none => .null
  | some (status, message) =>
      .thrown (.core ⟨"worker poll stream failed: " ++ decode message, status⟩)

theorem received_end {cause : Option Throwable} {failure : Option (Int × ByteArray)}
    (same : cause = failure.map fun failure =>
      .core ⟨"worker poll stream failed: " ++ decode failure.2, failure.1⟩) :
    received (.ended cause) = some (endOf decode failure) := by
  subst same
  cases failure <;> rfl

/-- A stream carries the tasks that Core's polls returned and then how they ended, and nothing of
another stream. -/
structure State.Carries (decode : ByteArray → String) (state : State) (worker : Worker)
    (kind : TaskKind) : Prop where
  /-- The payloads taken are the first ones polled; the rest is queued or on its way. -/
  exact : (state.loops worker kind).polled =
    (state.runtime.stream worker kind.stream).taken.map Prod.snd ++
      (state.runtime.stream worker kind.stream).tasks ++
        Event.tasks (current worker kind.stream state.here ++
          story worker kind.stream state.exchange.inFlight)
  once : ((state.runtime.stream worker kind.stream).taken.map Prod.fst).Nodup
  /-- A call took the task that it returns, or is about to. -/
  owned : ∀ call bytes, (call, bytes) ∈ (state.runtime.stream worker kind.stream).taken ↔
    ((state.runtime.stream worker kind.stream).phase call).task = some bytes
  /-- Who sees the end sees it after all tasks, and with the failure reported last. -/
  ended : ∀ call cause,
    (state.runtime.stream worker kind.stream).phase call = .ended cause →
      (state.loops worker kind).phase.ended = true ∧
        (state.runtime.stream worker kind.stream).taken.map Prod.snd =
          (state.loops worker kind).polled ∧
        received (.ended cause) =
          some (endOf decode (Event.failure (state.loops worker kind).events))
  /-- That end is null if and only if no poll failed and nothing panicked. -/
  normal : (state.loops worker kind).phase.ended = true →
    (endOf decode (Event.failure (state.loops worker kind).events) = .null ↔
      (state.loops worker kind).errors = [] ∧ (state.loops worker kind).panicked = none)
  /-- The loop pushes one end, when it ends and after everything else. -/
  final : (.ended ∈ (state.loops worker kind).events ↔
      (state.loops worker kind).phase.ended = true) ∧
    ((state.loops worker kind).phase.ended = true →
      ∃ before, (state.loops worker kind).events = before ++ [.ended] ∧ .ended ∉ before)

/-- Nothing failed where there is no failure to end with. -/
theorem endOf_failure (loop : Loop) :
    endOf decode loop.failure = .null ↔ loop.errors = [] ∧ loop.panicked = none := by
  unfold Loop.failure
  cases loop.panicked <;> cases loop.errors <;> simp [endOf]

/-- While a worker and its runtime stay open, each of its streams carries what Core's polls of it
returned, whatever the other streams and workers do. -/
theorem streams_carry_their_polls (reached : (keeping decode worker).Reachable state)
    (kind : TaskKind) : state.Carries decode worker kind := by
  have all := reached.of_restrict
  obtain ⟨before, serving⟩ := (serving_invariant decode worker).reachable reached kind.stream
  have loop := loops_sound all worker kind
  have sound := TaskStream.sound_invariant.reachable serving.machine
  refine ⟨serving.complete reached, sound.nodup_takers, fun _ _ => sound.mem_taken, ?_, ?_,
    loop.ended, fun ends => loop.closed.last (loop.ended.mpr ends)⟩
  · intro call cause ended
    obtain ⟨over_, taken, known⟩ := serving.all all ended
    refine ⟨over_, taken, ?_⟩
    rw [loop.failure (reported_of_ended over_)]
    exact received_end known
  · intro ended
    rw [loop.failure (reported_of_ended ended)]
    exact endOf_failure _

/-- Core's polls return two tasks and its shutdown. -/
def pollingTwo : List Action :=
  [.runtime (.create 0), .runtime (.ensureOpen 0), .runtime (.workerNew 0 (some 7)),
    .runtime (.validate 0 7 true), .runtime (.onWorkerEvents 0 7), .start 0 7,
    .loop 7 .nexus (.poll (.task ⟨#[1]⟩)), .loop 7 .nexus (.poll (.task ⟨#[2]⟩)),
    .loop 7 .nexus (.poll .shutDown)]

def nexusTask (bytes : ByteArray) : Pending := taskPending 7 .nexus bytes

def nexusEnd : Pending := endPending 7 .nexus

/-- The pump thread polls all of it in one batch. -/
def pumpingTwo : List Action :=
  [.exchange (.pump .readTimeout), .exchange (.native (.poll 0 64 250)),
    .exchange (.native (.pass 0 64 250 false Queue.new
      [nexusTask ⟨#[1]⟩, nexusTask ⟨#[2]⟩, nexusEnd] false)),
    .exchange (.native (.write 0 (nexusTask ⟨#[1]⟩) [nexusTask ⟨#[2]⟩, nexusEnd])),
    .exchange (.native (.write 0 (nexusTask ⟨#[2]⟩) [nexusEnd])),
    .exchange (.native (.write 0 nexusEnd [])), .exchange (.native (.finishPoll 0)),
    .exchange (.pump (.poll 250 ktOk
      [(nexusTask ⟨#[1]⟩).record, (nexusTask ⟨#[2]⟩).record, nexusEnd.record])),
    .exchange (.pump (.readSize
      [(nexusTask ⟨#[1]⟩).record, (nexusTask ⟨#[2]⟩).record, nexusEnd.record]))]

/-- It tells the stream, and three callers receive. -/
def tellingTwo : List Action :=
  [.deliver 10 (nexusTask ⟨#[1]⟩).record [(nexusTask ⟨#[2]⟩).record, nexusEnd.record],
    .runtime (.onPushed 10 (nexusTask ⟨#[1]⟩).record),
    .runtime (.onEvent 10 (nexusTask ⟨#[1]⟩).record), .runtime (.add 10 7 .nexus ⟨#[1]⟩),
    .runtime (.offer 10 7 .nexus),
    .deliver 11 (nexusTask ⟨#[2]⟩).record [nexusEnd.record],
    .runtime (.onPushed 11 (nexusTask ⟨#[2]⟩).record),
    .runtime (.onEvent 11 (nexusTask ⟨#[2]⟩).record), .runtime (.add 11 7 .nexus ⟨#[2]⟩),
    .runtime (.receive 7 .nexus (.call 0)), .runtime (.receive 7 .nexus (.ensureActive 0)),
    .runtime (.receive 7 .nexus (.poll 0)), .runtime (.receive 7 .nexus (.look 0 ⟨#[1]⟩)),
    .runtime (.receive 7 .nexus (.pass 0 ⟨#[1]⟩)), .runtime (.offer 11 7 .nexus),
    .deliver 12 nexusEnd.record [], .runtime (.onPushed 12 nexusEnd.record),
    .runtime (.onEvent 12 nexusEnd.record), .runtime (.handleEnd 12 7 .nexus none),
    .runtime (.handleChannel 12 7 .nexus none),
    .runtime (.receive 7 .nexus (.call 1)), .runtime (.receive 7 .nexus (.ensureActive 1)),
    .runtime (.receive 7 .nexus (.poll 1)), .runtime (.receive 7 .nexus (.look 1 ⟨#[2]⟩)),
    .runtime (.receive 7 .nexus (.call 2)), .runtime (.receive 7 .nexus (.ensureActive 2)),
    .runtime (.receive 7 .nexus (.poll 2)), .runtime (.receive 7 .nexus (.receive 2)),
    .runtime (.receive 7 .nexus (.lookAgain 2 .element)),
    .runtime (.receive 7 .nexus (.ensureActive 2)), .runtime (.receive 7 .nexus (.poll 2)),
    .runtime (.receive 7 .nexus (.receive 2)),
    .runtime (.receive 7 .nexus (.lookAgain 2 (.closed none))),
    .runtime (.receive 7 .nexus (.drain 2 none))]

/-- Two callers took the two tasks, and the third is told the plain end. -/
theorem streams_carry_their_polls_two :
    (((keeping lostText 7).after start (pollingTwo ++ pumpingTwo ++ tellingTwo)).runtime.stream 7
        .nexus).taken.map Prod.snd = [⟨#[1]⟩, ⟨#[2]⟩] ∧
      (((keeping lostText 7).after start (pollingTwo ++ pumpingTwo ++ tellingTwo)).runtime.stream 7
        .nexus).phase 2 = .ended none := by
  have runs : (keeping lostText 7).Runs start (pollingTwo ++ pumpingTwo ++ tellingTwo) := by
    decide +kernel
  have carries := streams_carry_their_polls (GuardedSystem.Reachable.start.run runs) .nexus
  have result : (((keeping lostText 7).after start
      (pollingTwo ++ pumpingTwo ++ tellingTwo)).runtime.stream 7 .nexus).phase 2 =
        .ended none := by
    decide +kernel
  refine ⟨(carries.ended 2 none result).2.1.trans ?_, result⟩
  decide +kernel

end Served

end Delivery

end KtBridge
