import KtBridge.Delivery.Machine
import KtBridge.Exchange.Sequence

/-! # Every event reaches its stream's handler in order

What a loop pushes tells its own stream something, and no other. So the story that a stream is told
by the events pushed is what its loop told, and the pump thread has told the first part of it. -/

namespace KtBridge.Delivery

open Foundation
open Pump (Completion Call)
open KtBridge.Runtime (KtTaskKind Worker)
open KtBridge.Worker (TaskKind)

section Told

variable {worker other : Worker} {kind : TaskKind} {stream : KtTaskKind}

/-- What answers a request tells no stream anything. -/
theorem told_of_answer {completion : Completion} (answer : completion.reqId ≠ 0) :
    told worker stream completion = none :=
  if_neg fun named => answer named.1

theorem told_task (bytes : ByteArray) :
    told other stream (taskPending worker kind bytes).record =
      if other = worker ∧ stream = kind.stream then some (.task bytes) else none := by
  have kinds : KtTaskKind.ofKind (taskPending worker kind bytes).record.kind = some kind.stream :=
    kind.ofKind_completionKind
  simp only [told, kinds]
  change (if (0 : UInt64) = 0 ∧ worker = other then
    if kind.stream = stream then some (Event.task bytes) else none else none) = _
  simp only [true_and, eq_comm (a := worker), eq_comm (a := kind.stream)]
  split_ifs <;> simp_all

theorem told_end : told other stream (endPending worker kind).record =
    if other = worker ∧ stream = kind.stream then some .ended else none := by
  have aux : KtTaskKind.fromAux (endPending worker kind).record.aux1 = some kind.stream :=
    kind.fromAux_discriminant
  have kinds : KtTaskKind.ofKind (endPending worker kind).record.kind = none := rfl
  simp only [told, kinds, aux, Option.some.injEq]
  change (if (0 : UInt64) = 0 ∧ worker = other then
    if kind.stream = stream then some Event.ended else none else none) = _
  simp only [true_and, eq_comm (a := worker), eq_comm (a := kind.stream)]
  split_ifs <;> simp_all

theorem told_failure (status : Int) (message : String) :
    told other stream (failurePending worker kind status message).record =
      if other = worker ∧ stream = kind.stream then some (.failed status message.toByteArray)
      else none := by
  have aux : KtTaskKind.fromAux (failurePending worker kind status message).record.aux1 =
      some kind.stream := kind.fromAux_discriminant
  have kinds : KtTaskKind.ofKind (failurePending worker kind status message).record.kind = none := rfl
  simp only [told, kinds, aux, Option.some.injEq]
  change (if (0 : UInt64) = 0 ∧ worker = other then
    if kind.stream = stream then some (Event.failed status message.toByteArray) else none
      else none) = _
  simp only [true_and, eq_comm (a := worker), eq_comm (a := kind.stream)]
  split_ifs <;> simp_all

/-- What a loop pushes tells its own stream what the loop tells, and no other. -/
theorem told_of_pushes {step : LoopStep} {pending : Pending}
    (pushed : Loop.pushes worker kind step = some pending) :
    told other stream pending.record =
      if other = worker ∧ stream = kind.stream then Loop.tells step else none := by
  cases step with
  | poll outcome =>
      cases outcome with
      | task bytes =>
          cases pushed
          exact told_task bytes
      | shutDown =>
          cases pushed
          exact told_end
      | error message => cases pushed
  | report message =>
      cases pushed
      exact told_failure ktErrFailed message
  | reportPanic message =>
      cases pushed
      exact told_failure ktErrPanic (panicText message)
  | pushEnd =>
      cases pushed
      exact told_end
  | _ => cases pushed

/-- A step that pushes nothing tells nothing. -/
theorem tells_of_pushes {step : LoopStep} (silent : Loop.pushes worker kind step = none) :
    Loop.tells step = none := by
  cases step with
  | poll outcome =>
      cases outcome with
      | error message => rfl
      | _ => cases silent
  | report message => cases silent
  | reportPanic message => cases silent
  | pushEnd => cases silent
  | _ => rfl

end Told

@[simp] theorem story_append (worker : Worker) (kind : KtTaskKind) (first second : List Completion) :
    story worker kind (first ++ second) = story worker kind first ++ story worker kind second :=
  List.filterMap_append

/-- A story is told by events only. -/
theorem story_events (worker : Worker) (kind : KtTaskKind) (completions : List Completion) :
    story worker kind (Exchange.events completions) = story worker kind completions := by
  induction completions with
  | nil => rfl
  | cons completion rest ih =>
      by_cases event : completion.reqId = 0
      · rw [Exchange.events_cons_of_zero event, story, List.filterMap_cons, story,
          List.filterMap_cons, ← story, ← story, ih]
      · rw [Exchange.events_cons_of_ne event, ih, story, story, List.filterMap_cons,
          told_of_answer event]

/-- The completions pushed, as the pump thread reads them. -/
def pushed (exchange : Exchange.State) : List Completion :=
  exchange.native.pushed.map fun entry => entry.2.record

/-- The events pushed tell each stream the first part of what its loop told, and all of it while the
queue is open. -/
def State.Sourced (state : State) : Prop :=
  ∀ worker kind, ∃ lost, (state.loops worker kind).events =
    story worker kind.stream (pushed state.exchange) ++ lost ∧
      (state.exchange.native.queue.closed = false → lost = [])

section Exchange

variable {exchange : Exchange.State} {action : Exchange.Action}

/-- A closed queue stays closed. -/
theorem open_of_step (ready : Exchange.guard exchange action)
    (opened : (Exchange.effect exchange action).native.queue.closed = false) :
    exchange.native.queue.closed = false := by
  by_contra closed
  rw [Bool.not_eq_false] at closed
  have stays : ∀ {action : Request.Action},
      Request.guard Pump.requestId exchange.native action →
        (Request.effect Pump.requestId exchange.native action).queue.closed = true :=
    fun ready => (Request.closed_step closed _ ready).1
  cases action with
  | pump action =>
      have same : (Exchange.effect exchange (.pump action)).native = exchange.native :=
        Exchange.State.handle_native ..
      rw [same, closed] at opened
      cases opened
  | native action =>
      rw [show (Exchange.effect exchange (.native action)).native.queue.closed = true from
        stays ready.1] at opened
      cases opened
  | runHandler call =>
      rw [show (Exchange.effect exchange (.runHandler call)).native.queue.closed = true from
        stays ready.2] at opened
      cases opened

/-- No step but a push of an event adds to a story. -/
theorem story_exchange (reached : Exchange.machine.Reachable exchange)
    (ready : Exchange.guard exchange action)
    (quiet : ∀ pending, action ≠ .native (.event pending)) (worker : Worker) (kind : KtTaskKind) :
    story worker kind (pushed (Exchange.effect exchange action)) =
      story worker kind (pushed exchange) := by
  have next := reached.step action ready
  have answered : ∀ {entry}, (Exchange.effect exchange action).native.pushed =
      exchange.native.pushed ++ [entry] → entry.1 ≠ none →
        story worker kind (pushed (Exchange.effect exchange action)) =
          story worker kind (pushed exchange) := by
    intro entry grown asked
    obtain ⟨origin, pending⟩ := entry
    obtain ⟨call, rfl⟩ := Option.ne_none_iff_exists'.mp asked
    have member : (some call, pending) ∈ (Exchange.effect exchange action).native.pushed := by
      rw [grown]
      exact List.mem_append_right _ (List.mem_singleton.mpr rfl)
    have silent : told worker kind pending.record = none :=
      told_of_answer (Exchange.answer_of_pushed next member)
    simp [pushed, grown, story, silent]
  cases action with
  | pump action =>
      have same : (Exchange.effect exchange (.pump action)).native = exchange.native :=
        Exchange.State.handle_native ..
      rw [pushed, same, pushed]
  | native action =>
      obtain same | ⟨entry, grown, own⟩ :=
        @Request.pushed_step Pump.requestId exchange.native action
      · exact congrArg (fun pushed => story worker kind (pushed.map fun entry => entry.2.record)) same
      · exact answered grown fun event => quiet _ (congrArg _ (own event))
  | runHandler call =>
      obtain same | ⟨entry, grown, own⟩ := @Request.pushed_step Pump.requestId exchange.native
        (.cancel (Pump.requestId call))
      · exact congrArg (fun pushed => story worker kind (pushed.map fun entry => entry.2.record)) same
      · refine answered grown fun event => ?_
        cases own event

/-- An event is pushed into an open queue, and dropped by a closed one. -/
theorem pushed_event (pending : Pending) :
    pushed (Exchange.effect exchange (.native (.event pending))) =
      pushed exchange ++ (if exchange.native.queue.closed then [] else [pending.record]) := by
  by_cases closed : exchange.native.queue.closed <;>
    simp [pushed, Exchange.effect, Request.effect, Request.State.push, closed]

end Exchange

section Source

variable {decode : ByteArray → String} {state next : State}

/-- A step that tells nothing and pushes nothing that tells. -/
theorem State.Sourced.same (sourced : state.Sourced)
    (loops : ∀ worker kind, (next.loops worker kind).events = (state.loops worker kind).events)
    (stories : ∀ worker kind, story worker kind (pushed next.exchange) =
      story worker kind (pushed state.exchange))
    (opened : next.exchange.native.queue.closed = false →
      state.exchange.native.queue.closed = false) : next.Sourced := by
  intro worker kind
  obtain ⟨lost, split, whole⟩ := sourced worker kind
  exact ⟨lost, by rw [loops, stories, split], fun open_ => whole (opened open_)⟩

/-- A loop tells its stream something, and pushes it. -/
theorem State.Sourced.loop (sourced : state.Sourced) (decode : ByteArray → String) (worker : Worker)
    (kind : TaskKind) (step : LoopStep) : (effect decode state (.loop worker kind step)).Sourced := by
  intro other this
  obtain ⟨lost, split, whole⟩ := sourced other this
  -- What the loop of another stream told is what it told before.
  have told_ : ((effect decode state (.loop worker kind step)).loops other this).events =
      (state.loops other this).events ++
        if other = worker ∧ this.stream = kind.stream then (Loop.tells step).toList else [] := by
    by_cases same : other = worker
    · subst same
      by_cases own : this = kind
      · subst own
        simp [effect, Loop.effect]
      · have different : this.stream ≠ kind.stream := fun same => own (TaskKind.stream_injective same)
        simp [effect, Function.update_of_ne own, different]
    · simp [effect, same]
  cases pushes : Loop.pushes worker kind step with
  | none =>
      have same : (effect decode state (.loop worker kind step)).exchange = state.exchange := by
        simp [effect, pushes]
      rw [told_, same, tells_of_pushes pushes, Option.toList_none, ite_self, List.append_nil]
      exact ⟨lost, split, whole⟩
  | some pending =>
      have same : (effect decode state (.loop worker kind step)).exchange =
          Exchange.effect state.exchange (.native (.event pending)) := by
        simp [effect, pushes]
      have tells : story other this.stream [pending.record] =
          if other = worker ∧ this.stream = kind.stream then (Loop.tells step).toList else [] := by
        rw [story, List.filterMap_cons, told_of_pushes pushes]
        by_cases own : other = worker ∧ this.stream = kind.stream
        · simp only [own, and_self, if_true]
          cases Loop.tells step <;> rfl
        · simp only [own, if_false]
          rfl
      have flag : (Exchange.effect state.exchange (.native (.event pending))).native.queue.closed =
          state.exchange.native.queue.closed := by
        simp only [Exchange.effect, Request.effect, Request.State.push, Queue.push]
        split <;> rfl
      rw [told_, same, pushed_event, split, ← tells, flag]
      by_cases closed : state.exchange.native.queue.closed
      · refine ⟨lost ++ story other this.stream [pending.record], ?_, ?_⟩
        · simp [closed]
        · rw [closed]
          exact fun impossible => by cases impossible
      · rw [Bool.not_eq_true] at closed
        exact ⟨[], by simp [closed, whole closed], fun _ => rfl⟩

theorem sourced_invariant : (system decode).Invariant State.Sourced where
  start := fun _ _ => ⟨[], rfl, fun _ => rfl⟩
  step := by
    intro state action reached sourced ready
    have exchange := exchange_projects.reachable reached
    cases action with
    | exchange action =>
        refine sourced.same (fun _ _ => rfl) (story_exchange exchange ready.1 ?_)
          (open_of_step ready.1)
        rintro pending rfl
        exact ready.2
    | runtime action => exact sourced.same (fun _ _ => rfl) (fun _ _ => rfl) id
    | loop worker kind step => exact sourced.loop decode worker kind step
    | start call worker =>
        refine sourced.same (fun other kind => ?_) (fun _ _ => rfl) id
        by_cases same : other = worker
        · subst same
          simp [system, effect, Loop.spawn]
        · simp [system, effect, Function.update_of_ne same]
    | deliver call completion rest =>
        refine sourced.same (fun _ _ => rfl) (story_exchange exchange ready.1 ?_)
          (open_of_step ready.1)
        intro pending impossible
        cases impossible

/-- What the pump thread told a stream, what is on its way to it, and what a closed queue dropped,
is what its loop told. -/
theorem events_split (reached : (system decode).Reachable state) (worker : Worker) (kind : TaskKind) :
    ∃ lost, (state.loops worker kind).events =
      story worker kind.stream state.exchange.pump.pushed ++
        story worker kind.stream state.exchange.inFlight ++ lost ∧
      (state.exchange.native.queue.closed = false → lost = []) := by
  obtain ⟨lost, split, whole⟩ := sourced_invariant.reachable reached worker kind
  refine ⟨lost, ?_, whole⟩
  have order := Exchange.pushed_sequence (exchange_projects.reachable reached)
  rw [split, ← story_events, pushed, order, story_append, story_events]

end Source

end KtBridge.Delivery
