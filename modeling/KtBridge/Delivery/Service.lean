import KtBridge.Delivery.Serving

/-! # What the callers of a worker that stays open receive

The pump thread tells a stream one event after the other, as `onEvent` does, and each is told to the
stream's own machine. So what holds of any task stream holds of it, with the tasks that Core's poll
returned as the tasks sent. -/

namespace KtBridge.Delivery

open Foundation
open Pump (Completion Call Throwable)
open KtBridge.Runtime (KtTaskKind Worker Phase)
open KtBridge.Worker (TaskKind)

section Told

variable {decode : ByteArray → String} {worker : Worker} {kind : KtTaskKind} {completion : Completion}
  {runtime : Runtime.State} {call : Call}

/-- Every stream of the JVM is one of Core's. -/
theorem exists_stream (kind : KtTaskKind) : ∃ polled : TaskKind, polled.stream = kind := by
  cases kind with
  | workflowActivation => exact ⟨.workflowActivation, rfl⟩
  | activity => exact ⟨.activity, rfl⟩
  | nexus => exact ⟨.nexus, rfl⟩

/-- What tells a stream something names its worker, and is no log record. -/
theorem named_of_told {event : Event} (tells : told worker kind completion = some event) :
    completion.aux0 = worker ∧ Runtime.logs completion = false := by
  simp only [told] at tells
  split at tells
  · next named =>
      refine ⟨named.2, decide_eq_false ?_⟩
      intro logged
      rcases logged with log | log <;>
        simp [log, KtTaskKind.ofKind, KtKind.discriminant] at tells
  · cases tells

/-- A task goes to a stream that is not closed. -/
theorem onEvent_task (decode : ByteArray → String) (runtime : Runtime.State) (call : Call)
    {bytes : ByteArray} (tells : told worker kind completion = some (.task bytes)) :
    Runtime.onEvent decode runtime call completion =
      if (runtime.stream worker kind).closed then runtime.setPhase call .returned
      else runtime.setPhase call (.sending worker kind bytes) := by
  obtain ⟨rfl, _⟩ := named_of_told tells
  simp only [told] at tells
  unfold Runtime.onEvent
  split at tells
  · cases kinds : KtTaskKind.ofKind completion.kind with
    | some stream =>
        simp only [kinds] at tells ⊢
        split at tells
        · next same =>
            cases tells
            subst same
            rfl
        · cases tells
    | none =>
        simp only [kinds] at tells
        split at tells
        · split at tells
          · cases tells
          · split at tells <;> cases tells
        · cases tells
  · cases tells

/-- The end goes to the stream with the failure it was told of. -/
theorem onEvent_ended (tells : told worker kind completion = some .ended) :
    Runtime.onEvent decode runtime call completion =
      runtime.setPhase call (.handlingEnd worker kind (runtime.streamFailures worker kind)) := by
  obtain ⟨rfl, _⟩ := named_of_told tells
  simp only [told] at tells
  unfold Runtime.onEvent
  split at tells
  · cases kinds : KtTaskKind.ofKind completion.kind with
    | some stream =>
        simp only [kinds] at tells
        split at tells <;> cases tells
    | none =>
        simp only [kinds] at tells ⊢
        split at tells
        · next aux =>
            simp only [aux]
            split at tells
            · next ends => rw [if_pos ends]
            · split at tells <;> cases tells
        · cases tells
  · cases tells

/-- A failure is kept for the end of the stream. -/
theorem onEvent_failed (decode : ByteArray → String) (runtime : Runtime.State) (call : Call)
    {status : Int} {message : ByteArray}
    (tells : told worker kind completion = some (.failed status message)) :
    Runtime.onEvent decode runtime call completion =
      { runtime.setPhase call .returned with
        streamFailures := Function.update runtime.streamFailures worker
          (Function.update (runtime.streamFailures worker) kind
            (some (.core ⟨"worker poll stream failed: " ++ decode message, status⟩))) } := by
  obtain ⟨rfl, _⟩ := named_of_told tells
  simp only [told] at tells
  unfold Runtime.onEvent
  split at tells
  · cases kinds : KtTaskKind.ofKind completion.kind with
    | some stream =>
        simp only [kinds] at tells
        split at tells <;> cases tells
    | none =>
        simp only [kinds] at tells ⊢
        split at tells
        · next aux =>
            simp only [aux]
            split at tells
            · cases tells
            · next goes =>
                split at tells
                · next fails =>
                    cases tells
                    rw [if_neg goes, if_pos fails]
                    rfl
                · cases tells
        · cases tells
  · cases tells

/-- What tells a stream nothing is nothing to it. -/
theorem onEvent_untold (decode : ByteArray → String) (runtime : Runtime.State) (call : Call)
    (event : completion.reqId = 0) (silent : told worker kind completion = none) :
    ∃ after, (Runtime.onEvent decode runtime call completion).phase =
        Function.update runtime.phase call after ∧
      current worker kind after = [] ∧ sender worker kind after = .idle ∧
      flags worker kind after = false ∧ ending worker kind after = none ∧ unread after = none ∧
      (Runtime.onEvent decode runtime call completion).stream = runtime.stream ∧
      (Runtime.onEvent decode runtime call completion).streamFailures worker kind =
        runtime.streamFailures worker kind := by
  simp only [told, event, true_and] at silent
  unfold Runtime.onEvent
  split
  · next stream kinds =>
      simp only [kinds] at silent
      split
      · exact ⟨_, rfl, rfl, rfl, rfl, rfl, rfl, rfl, rfl⟩
      · refine ⟨_, rfl, ?_, rfl, rfl, rfl, rfl, rfl, rfl⟩
        simp only [current]
        split_ifs at silent ⊢ <;> simp_all
  · next kinds =>
      simp only [kinds] at silent
      split
      · exact ⟨_, rfl, rfl, rfl, rfl, rfl, rfl, rfl, rfl⟩
      · next stream aux =>
          simp only [aux, Option.some.injEq] at silent
          split
          · next ends =>
              have other : ¬(completion.aux0 = worker ∧ stream = kind) := by
                intro same
                simp [same.1, same.2, ends] at silent
              refine ⟨_, rfl, ?_, rfl, rfl, ?_, rfl, rfl, rfl⟩
              · simp [current, other]
              · simp [ending, other]
          · next goes =>
              split
              · next fails =>
                  have other : ¬(completion.aux0 = worker ∧ stream = kind) := by
                    intro same
                    rw [if_pos same.1, if_pos same.2, if_neg goes, if_pos fails] at silent
                    cases silent
                  refine ⟨_, rfl, rfl, rfl, rfl, rfl, rfl, rfl, ?_⟩
                  by_cases same : worker = completion.aux0
                  · subst same
                    have different : kind ≠ stream := fun this => other ⟨rfl, this.symm⟩
                    simp [Function.update_of_ne different]
                  · simp [Function.update_of_ne same]
              · exact ⟨_, rfl, rfl, rfl, rfl, rfl, rfl, rfl, rfl⟩

end Told

section Serving

variable {decode : ByteArray → String} {worker : Worker} {kind : KtTaskKind} {state next : State}
  {before : List Event}

/-- A worker whose stream was told something is registered. -/
theorem registered_of_story (reached : (system decode).Reachable state)
    (undisturbed : state.Undisturbed worker) {event : Event}
    (told : event ∈ story worker kind state.exchange.pump.pushed) :
    worker ∈ state.runtime.handlers := by
  obtain ⟨polled, rfl⟩ := exists_stream kind
  obtain ⟨lost, split, _⟩ := events_split reached worker polled
  refine undisturbed.started polled fun absent => ?_
  have empty := ((loops_sound reached worker polled).idle absent).1
  rw [empty] at split
  obtain ⟨nothing, _⟩ := List.append_eq_nil_iff.mp (List.append_eq_nil_iff.mp split.symm).1
  rw [nothing] at told
  cases told

/-- A stream that is being told something was not told its end. -/
theorem running_of_story (reached : (system decode).Reachable state) {event : Event}
    (told : story worker kind state.exchange.pump.pushed = before ++ [event]) :
    .ended ∉ before := by
  obtain ⟨polled, rfl⟩ := exists_stream kind
  obtain ⟨lost, split, _⟩ := events_split reached worker polled
  have closed := (loops_sound reached worker polled).closed
  rw [split, told, List.append_assoc, List.append_assoc] at closed
  exact closed.before

namespace State.Serving

/-- What leaves the stream and the pump thread alone. -/
theorem same (serving : state.Serving decode worker kind before)
    (pushed : next.exchange.pump.pushed = state.exchange.pump.pushed) (here : next.here = state.here)
    (stream : next.runtime.stream worker kind = state.runtime.stream worker kind)
    (failures : next.runtime.streamFailures worker kind = state.runtime.streamFailures worker kind) :
    next.Serving decode worker kind before where
  told := by rw [pushed, here, serving.told]
  sent := by rw [stream, serving.sent]
  flagged := by rw [stream, here, serving.flagged]
  closedWith := by rw [stream, serving.closedWith]
  failures := by rw [failures, serving.failures]
  cause := by
    rw [here]
    exact serving.cause
  machine := by
    rw [State.view, stream, here]
    exact serving.machine

/-- The pump thread goes on to tell the stream the same, and changes nothing of it. -/
theorem goOn (serving : state.Serving decode worker kind before) {phase after : Phase}
    (here : state.here = phase) (moved : next.here = after)
    (pushed : next.exchange.pump.pushed = state.exchange.pump.pushed)
    (tells : current worker kind after = current worker kind phase)
    (sends : sender worker kind after = sender worker kind phase)
    (flagged : flags worker kind after = flags worker kind phase)
    (ends : ∀ cause, ending worker kind after = some cause → cause = failureOf decode before)
    (stream : next.runtime.stream worker kind = state.runtime.stream worker kind)
    (failures : next.runtime.streamFailures worker kind = state.runtime.streamFailures worker kind) :
    next.Serving decode worker kind before where
  told := by rw [pushed, moved, tells, ← here, serving.told]
  sent := by rw [stream, serving.sent]
  flagged := by rw [stream, moved, flagged, ← here, serving.flagged]
  closedWith := by rw [stream, serving.closedWith]
  failures := by rw [failures, serving.failures]
  cause := by
    rw [moved]
    exact ends
  machine := by
    rw [State.view, stream, moved, sends, ← here]
    exact serving.machine

/-- A receiver takes a step of its own. -/
theorem receive (serving : state.Serving decode worker kind before) {owner : Worker}
    {this : KtTaskKind} {action : TaskStream.Action}
    (ready : guard state (.runtime (.receive owner this action))) :
    (effect decode state (.runtime (.receive owner this action))).Serving decode worker kind
      before := by
  obtain ⟨⟨receiving, allowed⟩, _⟩ := ready
  by_cases own : worker = owner ∧ kind = this
  · obtain ⟨rfl, rfl⟩ := own
    have stream : (effect decode state (.runtime (.receive worker kind action))).runtime.stream worker
        kind = TaskStream.effect (state.runtime.stream worker kind) action :=
      Runtime.State.setStream_self
    refine ⟨serving.told, ?_, ?_, ?_, serving.failures, serving.cause, ?_⟩
    · rw [stream, TaskStream.sent_receiving receiving, serving.sent]
    · rw [stream, TaskStream.State.closed_step receiving]
      exact serving.flagged
    · rw [stream, TaskStream.State.closedWith_step receiving, serving.closedWith]
    · have step := serving.machine.step action
        ((TaskStream.guard_withSender receiving).mpr allowed)
      have moved : TaskStream.machine.effect (state.view worker kind) action =
          (effect decode state (.runtime (.receive worker kind action))).view worker kind := by
        refine (TaskStream.effect_withSender receiving).trans ?_
        rw [State.view, stream]
        rfl
      rwa [moved] at step
  · exact serving.same rfl rfl (Runtime.State.setStream_of_ne own) rfl

/-- The pump thread begins to tell the stream the next event, if it is told by it. -/
theorem deliver (serving : state.Serving decode worker kind before) {call : Call}
    {completion : Completion} {rest : List Completion}
    (ready : guard state (.deliver call completion rest)) :
    (effect decode state (.deliver call completion rest)).Serving decode worker kind before := by
  obtain ⟨_, idle, _, event⟩ := ready
  have here := busy_eq_false.mp idle
  have after : (effect decode state (.deliver call completion rest)).here = .pushed completion :=
    Function.update_self ..
  have pushed : (effect decode state (.deliver call completion rest)).exchange.pump.pushed =
      state.exchange.pump.pushed ++ [completion] := by
    simp [effect, Exchange.effect, Pump.effect, event]
  refine ⟨?_, serving.sent, ?_, serving.closedWith, serving.failures, ?_, ?_⟩
  · have told := serving.told
    rw [here] at told
    rw [pushed, after, story_append, told]
    simp only [current, story, List.filterMap_cons, List.filterMap_nil, List.append_nil]
    cases Delivery.told worker kind completion <;> rfl
  · rw [after]
    exact serving.flagged.trans (by rw [here]; rfl)
  · rw [after]
    intro cause impossible
    cases impossible
  · have machine := serving.machine
    rw [State.view, here] at machine
    rw [State.view, after]
    exact machine

/-- `onPushed` passes on what tells the stream something. -/
theorem onPushed (serving : state.Serving decode worker kind before)
    (reached : (system decode).Reachable state) (pumped : state.Pumped)
    (undisturbed : state.Undisturbed worker) {call : Call} {completion : Completion}
    (ready : guard state (.runtime (.onPushed call completion))) :
    (effect decode state (.runtime (.onPushed call completion))).Serving decode worker kind
      before := by
  have phase : state.runtime.phase call = .pushed completion := ready.1
  have inside : delivers (state.runtime.phase call) = true := by
    rw [phase]
    rfl
  have here := (here_of_delivers pumped inside).trans phase
  by_cases taken : ¬Runtime.logs completion ∧ completion.aux0 ∈ state.runtime.handlers
  · have kept : Runtime.effect decode state.runtime (.onPushed call completion) =
        state.runtime.setPhase call (.handling completion) := if_pos taken
    have after := here_after pumped inside (congrArg Runtime.State.phase kept)
    refine serving.goOn here after rfl rfl rfl rfl (fun _ impossible => by cases impossible) ?_ ?_
    all_goals simp only [effect, kept]; rfl
  · have kept : Runtime.effect decode state.runtime (.onPushed call completion) =
        state.runtime.setPhase call .returned := if_neg taken
    have after := here_after pumped inside (congrArg Runtime.State.phase kept)
    -- What would tell the stream something would be passed on.
    have silent : Delivery.told worker kind completion = none := by
      by_contra tells
      obtain ⟨event, tells⟩ := Option.ne_none_iff_exists'.mp tells
      obtain ⟨names, quiet⟩ := named_of_told tells
      have told := serving.told
      simp only [here, current, tells, Option.toList_some] at told
      have member : event ∈ story worker kind state.exchange.pump.pushed := by
        rw [told]
        exact List.mem_append_right _ List.mem_cons_self
      have registered := registered_of_story reached undisturbed member
      exact taken ⟨by simp [quiet], names ▸ registered⟩
    refine serving.goOn here after rfl ?_ rfl rfl (fun _ impossible => by cases impossible) ?_ ?_
    · simp [current, silent]
    all_goals simp only [effect, kept]; rfl

/-- `onEvent` takes up what tells the stream something. -/
theorem onEvent (serving : state.Serving decode worker kind before)
    (reached : (system decode).Reachable state) (pumped : state.Pumped) {call : Call}
    {completion : Completion} (ready : guard state (.runtime (.onEvent call completion))) :
    ∃ before, (effect decode state (.runtime (.onEvent call completion))).Serving decode worker kind
      before := by
  have phase : state.runtime.phase call = .handling completion := ready.1
  have inside : delivers (state.runtime.phase call) = true := by
    rw [phase]
    rfl
  have here := (here_of_delivers pumped inside).trans phase
  have event : completion.reqId = 0 := pumped.event call completion (by rw [phase]; rfl)
  have told := serving.told
  rw [here] at told
  cases tells : Delivery.told worker kind completion with
  | none =>
      obtain ⟨after, moved, nothing, idle, unflagged, endless, _, stream, failures⟩ :=
        onEvent_untold decode state.runtime call event tells
      refine ⟨before, serving.goOn here (here_after pumped inside moved) rfl ?_ idle unflagged
        (fun _ impossible => ?_) (congrFun (congrFun stream worker) kind) failures⟩
      · rw [nothing]
        simp [current, tells]
      · rw [endless] at impossible
        cases impossible
  | some event =>
      simp only [current, tells, Option.toList_some] at told
      have running := running_of_story reached told
      cases event with
      | task bytes =>
          have opened : (state.runtime.stream worker kind).closed = false := by
            rw [← Bool.not_eq_true, serving.flagged, here]
            simp [running, flags]
          have kept : Runtime.effect decode state.runtime (.onEvent call completion) =
              state.runtime.setPhase call (.sending worker kind bytes) :=
            (onEvent_task decode state.runtime call tells).trans (if_neg (by simp [opened]))
          have after := here_after pumped inside (congrArg Runtime.State.phase kept)
          refine ⟨before, serving.goOn here after rfl ?_ rfl rfl
            (fun _ impossible => by cases impossible) ?_ ?_⟩
          · simp [current, tells]
          all_goals simp only [effect, kept]; rfl
      | ended =>
          have kept : Runtime.effect decode state.runtime (.onEvent call completion) =
              state.runtime.setPhase call
                (.handlingEnd worker kind (state.runtime.streamFailures worker kind)) :=
            onEvent_ended tells
          have after := here_after pumped inside (congrArg Runtime.State.phase kept)
          refine ⟨before, serving.goOn here after rfl ?_ rfl rfl (fun cause known => ?_) ?_ ?_⟩
          · simp [current, tells]
          · simp only [ending, and_self, if_true, Option.some.injEq] at known
            exact known.symm.trans serving.failures
          all_goals simp only [effect, kept]; rfl
      | failed status message =>
          have kept := onEvent_failed decode state.runtime call tells
          have after : (effect decode state (.runtime (.onEvent call completion))).here = .returned :=
            here_after pumped inside (congrArg Runtime.State.phase kept :)
          have stream : (effect decode state (.runtime (.onEvent call completion))).runtime.stream =
              state.runtime.stream := (congrArg Runtime.State.stream kept :)
          have same : (.ended ∈ before ++ [Event.failed status message]) ↔ .ended ∈ before := by simp
          refine ⟨before ++ [.failed status message], ?_, ?_, ?_, ?_, ?_, ?_, ?_⟩
          · rw [after]
            exact told.trans (List.append_nil _).symm
          · rw [stream, serving.sent, Event.tasks_append]
            exact (List.append_nil _).symm
          · rw [stream, after, same, serving.flagged, here]
            exact Iff.rfl
          · rw [stream, serving.closedWith, if_neg running, if_neg (same.not.mpr running)]
          · have kept' := congrArg Runtime.State.streamFailures kept
            rw [show (effect decode state (.runtime (.onEvent call completion))).runtime.streamFailures =
              _ from kept']
            simp [failureOf, Event.failure, Event.failure?, List.filterMap_append]
          · rw [after]
            intro cause impossible
            cases impossible
          · have machine := serving.machine
            rw [State.view, here] at machine
            rw [State.view, stream, after]
            exact machine

/-- A task is added to the queue of its stream. -/
theorem add (serving : state.Serving decode worker kind before)
    (reached : (system decode).Reachable state) (pumped : state.Pumped) {call : Call}
    {owner : Worker} {this : KtTaskKind} {task : ByteArray}
    (ready : guard state (.runtime (.add call owner this task))) :
    ∃ before, (effect decode state (.runtime (.add call owner this task))).Serving decode worker kind
      before := by
  have phase : state.runtime.phase call = .sending owner this task := ready.1
  have inside : delivers (state.runtime.phase call) = true := by
    rw [phase]
    rfl
  have here := (here_of_delivers pumped inside).trans phase
  have after : (effect decode state (.runtime (.add call owner this task))).here =
      .offering owner this := here_after pumped inside rfl
  by_cases own : worker = owner ∧ kind = this
  · obtain ⟨rfl, rfl⟩ := own
    have told := serving.told
    simp only [here, current, and_self, if_true] at told
    have running := running_of_story reached told
    have opened : (state.runtime.stream worker kind).closed = false := by
      rw [← Bool.not_eq_true, serving.flagged, here]
      simp [running, flags]
    have stream : (effect decode state (.runtime (.add call worker kind task))).runtime.stream worker
        kind = { state.runtime.stream worker kind with
          tasks := (state.runtime.stream worker kind).tasks ++ [task]
          sent := (state.runtime.stream worker kind).sent ++ [task] } :=
      Runtime.State.setStream_self
    have same : (.ended ∈ before ++ [Event.task task]) ↔ .ended ∈ before := by simp
    refine ⟨before ++ [.task task], ?_, ?_, ?_, ?_, ?_, ?_, ?_⟩
    · rw [after]
      exact told.trans (List.append_nil _).symm
    · rw [stream, Event.tasks_append, ← serving.sent]
      rfl
    · rw [stream, after, same]
      exact serving.flagged.trans (by rw [here]; rfl)
    · rw [stream, if_neg (same.not.mpr running)]
      exact serving.closedWith.trans (if_neg running)
    · refine serving.failures.trans ?_
      simp [failureOf, Event.failure, Event.failure?, List.filterMap_append]
    · rw [after]
      intro cause impossible
      cases impossible
    · have idle : (state.view worker kind).sender = .idle := by
        rw [State.view, here]
        rfl
      have step := serving.machine.step (.send task) idle
      have moved : TaskStream.machine.effect (state.view worker kind) (.send task) =
          (effect decode state (.runtime (.add call worker kind task))).view worker kind := by
        rw [State.view, State.view, stream, after, here]
        simp [TaskStream.machine, TaskStream.effect, TaskStream.State.withSender, opened, sender]
      rwa [moved] at step
  · have other : ¬(owner = worker ∧ this = kind) := fun same => own ⟨same.1.symm, same.2.symm⟩
    refine ⟨before, serving.goOn here after rfl ?_ ?_ rfl (fun _ impossible => by cases impossible)
      (Runtime.State.setStream_of_ne own) rfl⟩
    · simp [current, other]
    · simp [sender, other]

/-- A wakeup is offered for it. -/
theorem offer (serving : state.Serving decode worker kind before)
    (pumped : state.Pumped) {call : Call} {owner : Worker} {this : KtTaskKind}
    (ready : guard state (.runtime (.offer call owner this))) :
    (effect decode state (.runtime (.offer call owner this))).Serving decode worker kind before := by
  have phase : state.runtime.phase call = .offering owner this := ready.1
  have inside : delivers (state.runtime.phase call) = true := by
    rw [phase]
    rfl
  have here := (here_of_delivers pumped inside).trans phase
  have after : (effect decode state (.runtime (.offer call owner this))).here = .returned :=
    here_after pumped inside rfl
  by_cases own : worker = owner ∧ kind = this
  · obtain ⟨rfl, rfl⟩ := own
    have stream : (effect decode state (.runtime (.offer call worker kind))).runtime.stream worker
        kind = (state.runtime.stream worker kind).trySend := Runtime.State.setStream_self
    refine ⟨?_, ?_, ?_, ?_, serving.failures, ?_, ?_⟩
    · rw [after]
      exact serving.told.trans (by rw [here]; rfl)
    · rw [stream]
      exact (TaskStream.trySend_sent _).trans serving.sent
    · rw [stream, TaskStream.State.trySend_closed, after, serving.flagged, here]
      exact Iff.rfl
    · rw [stream, TaskStream.State.trySend_closedWith, serving.closedWith]
    · rw [after]
      intro cause impossible
      cases impossible
    · have offering : (state.view worker kind).sender = .offering := by
        rw [State.view, here]
        simp [sender, TaskStream.State.withSender]
      have step := serving.machine.step .offer offering
      have moved : TaskStream.machine.effect (state.view worker kind) .offer =
          (effect decode state (.runtime (.offer call worker kind))).view worker kind := by
        rw [State.view, State.view, stream, after]
        change { ((state.runtime.stream worker kind).withSender _).trySend with sender := .idle } = _
        rw [TaskStream.trySend_withSender]
        rfl
      rwa [moved] at step
  · have other : ¬(owner = worker ∧ this = kind) := fun same => own ⟨same.1.symm, same.2.symm⟩
    refine serving.goOn here after rfl rfl ?_ rfl (fun _ impossible => by cases impossible)
      (Runtime.State.setStream_of_ne own) rfl
    simp [sender, other]

/-- The flag of a stream that ends is set. -/
theorem handleEnd (serving : state.Serving decode worker kind before)
    (pumped : state.Pumped) {call : Call} {owner : Worker} {this : KtTaskKind}
    {cause : Option Throwable} (ready : guard state (.runtime (.handleEnd call owner this cause))) :
    (effect decode state (.runtime (.handleEnd call owner this cause))).Serving decode worker kind
      before := by
  have phase : state.runtime.phase call = .handlingEnd owner this cause := ready.1
  have inside : delivers (state.runtime.phase call) = true := by
    rw [phase]
    rfl
  have here := (here_of_delivers pumped inside).trans phase
  have after : (effect decode state (.runtime (.handleEnd call owner this cause))).here =
      .handlingChannel owner this cause := here_after pumped inside rfl
  have causes := serving.cause
  rw [here] at causes
  by_cases own : worker = owner ∧ kind = this
  · obtain ⟨rfl, rfl⟩ := own
    have stream : (effect decode state (.runtime (.handleEnd call worker kind cause))).runtime.stream
        worker kind = { state.runtime.stream worker kind with closed := true } :=
      Runtime.State.setStream_self
    refine ⟨?_, ?_, ?_, ?_, serving.failures, ?_, ?_⟩
    · rw [after]
      exact serving.told.trans (by rw [here]; rfl)
    · rw [stream]
      exact serving.sent
    · rw [stream, after]
      simp [flags]
    · rw [stream]
      exact serving.closedWith
    · rw [after]
      exact causes
    · have idle : (state.view worker kind).sender = .idle := by
        rw [State.view, here]
        rfl
      have step := serving.machine.step (.close cause) idle
      have moved : TaskStream.machine.effect (state.view worker kind) (.close cause) =
          (effect decode state (.runtime (.handleEnd call worker kind cause))).view worker kind := by
        rw [State.view, State.view, stream, after]
        simp [TaskStream.machine, TaskStream.effect, TaskStream.State.withSender, sender]
      rwa [moved] at step
  · have other : ¬(owner = worker ∧ this = kind) := fun same => own ⟨same.1.symm, same.2.symm⟩
    refine serving.goOn here after rfl rfl ?_ ?_ causes (Runtime.State.setStream_of_ne own) rfl
    · simp [sender, other]
    · simp [flags, other]

/-- And its channel is closed, with the failure that it was told of. -/
theorem handleChannel (serving : state.Serving decode worker kind before)
    (reached : (system decode).Reachable state) (pumped : state.Pumped) {call : Call}
    {owner : Worker} {this : KtTaskKind} {cause : Option Throwable}
    (ready : guard state (.runtime (.handleChannel call owner this cause))) :
    ∃ before, (effect decode state (.runtime (.handleChannel call owner this cause))).Serving decode
      worker kind before := by
  have phase : state.runtime.phase call = .handlingChannel owner this cause := ready.1
  have inside : delivers (state.runtime.phase call) = true := by
    rw [phase]
    rfl
  have here := (here_of_delivers pumped inside).trans phase
  have after : (effect decode state (.runtime (.handleChannel call owner this cause))).here =
      .returned := here_after pumped inside rfl
  by_cases own : worker = owner ∧ kind = this
  · obtain ⟨rfl, rfl⟩ := own
    have told := serving.told
    simp only [here, current, and_self, if_true] at told
    have running := running_of_story reached told
    have cause_ : cause = failureOf decode before := serving.cause cause (by simp [here, ending])
    have last : failureOf decode (before ++ [.ended]) = failureOf decode before := by
      simp [failureOf, Event.failure, Event.failure?, List.filterMap_append]
    have opened : (state.runtime.stream worker kind).closedWith = none :=
      serving.closedWith.trans (if_neg running)
    have stream : (effect decode state
        (.runtime (.handleChannel call worker kind cause))).runtime.stream worker kind =
          (state.runtime.stream worker kind).closeChannel cause := Runtime.State.setStream_self
    refine ⟨before ++ [.ended], ?_, ?_, ?_, ?_, ?_, ?_, ?_⟩
    · rw [after]
      exact told.trans (List.append_nil _).symm
    · rw [stream, Event.tasks_append]
      refine (TaskStream.closeChannel_sent ..).trans (serving.sent.trans ?_)
      exact (List.append_nil _).symm
    · rw [stream, TaskStream.State.closeChannel_closed, serving.flagged, here, after]
      simp [flags]
    · rw [stream, last, cause_, TaskStream.State.closeChannel, opened]
      simp
    · exact serving.failures.trans last.symm
    · rw [after]
      intro cause impossible
      cases impossible
    · have closing : (state.view worker kind).sender = .closing cause := by
        rw [State.view, here]
        simp [sender, TaskStream.State.withSender]
      have step := serving.machine.step (.closeChannel cause) closing
      have moved : TaskStream.machine.effect (state.view worker kind) (.closeChannel cause) =
          (effect decode state (.runtime (.handleChannel call worker kind cause))).view worker
            kind := by
        rw [State.view, State.view, stream, after]
        change { ((state.runtime.stream worker kind).withSender _).closeChannel cause with
          sender := .idle } = _
        rw [TaskStream.closeChannel_withSender]
        rfl
      rwa [moved] at step
  · have other : ¬(owner = worker ∧ this = kind) := fun same => own ⟨same.1.symm, same.2.symm⟩
    refine ⟨before, serving.goOn here after rfl ?_ ?_ ?_ (fun _ impossible => by cases impossible)
      (Runtime.State.setStream_of_ne own) rfl⟩
    · simp [current, other]
    · simp [sender, other]
    · simp [flags, other]

end State.Serving

end Serving

end KtBridge.Delivery
