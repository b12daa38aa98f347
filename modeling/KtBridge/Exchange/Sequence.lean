import KtBridge.Exchange.Sides

/-! # Events keep their order

The pump thread is the only poller, and passes on what it was handed in order. So the events it gave
to `onPushed`, and then those that are on their way, are the events that were pushed. -/

namespace KtBridge.Request

open Foundation

/-- A step pushes one completion into the open queue, or none. -/
theorem pushed_step {reqId : Call → UInt64} {state : State} (action : Action) :
    (effect reqId state action).pushed = state.pushed ∨
      ∃ entry, (effect reqId state action).pushed = state.pushed ++ [entry] ∧
        (entry.1 = none → action = .event entry.2) := by
  have push : ∀ origin pending, (origin = none → action = .event pending) →
      (state.push origin pending).pushed = state.pushed ∨
        ∃ entry, (state.push origin pending).pushed = state.pushed ++ [entry] ∧
          (entry.1 = none → action = .event entry.2) := by
    intro origin pending own
    by_cases closed : state.queue.closed
    · left
      simp [State.push, closed]
    · right
      exact ⟨(origin, pending), by simp [State.push, closed], own⟩
  cases action with
  | register call =>
      left
      simp only [effect]
      cases state.register (reqId call) <;> rfl
  | retire call result =>
      left
      simp only [effect]
      split <;> rfl
  | cancel id =>
      left
      simp only [effect]
      cases state.pending.lookup id <;> rfl
  | answer call result => exact push (some call) result (fun impossible => by cases impossible)
  | drainAnswer id call =>
      exact push (some call) (shutdownCompletion id) (fun impossible => by cases impossible)
  | event pending => exact push none pending (fun _ => rfl)
  | _ => exact .inl rfl

end KtBridge.Request

namespace KtBridge.Exchange

open Foundation
open Pump (Completion requestId)

/-- The completions that answer no request. -/
def events (completions : List Completion) : List Completion :=
  completions.filter fun completion => completion.reqId = 0

@[simp] theorem events_append (first second : List Completion) :
    events (first ++ second) = events first ++ events second :=
  List.filter_append ..

theorem events_cons_of_zero {completion : Completion} (event : completion.reqId = 0)
    (rest : List Completion) : events (completion :: rest) = completion :: events rest :=
  List.filter_cons_of_pos (decide_eq_true event)

theorem events_cons_of_ne {completion : Completion} (answer : completion.reqId ≠ 0)
    (rest : List Completion) : events (completion :: rest) = events rest :=
  List.filter_cons_of_neg (by simpa using answer)

namespace State

/-- What was pushed for the pump thread and not yet dispatched: in its hands, written by a poll that
has not returned, in a poll's batch, or queued. -/
def inFlight (state : State) : List Completion :=
  hands state.pump.pump ++ state.unread ++
    ((state.native.poller pumpPoller).batch ++ state.native.queue.queue).map Pending.record

/-- The pump thread gave `onPushed` the events it was handed, but for those in its hands. -/
def Passing (state : State) : Prop :=
  state.pump.pushed ++ events (hands state.pump.pump) = events state.handed

/-- Nobody else polls. -/
structure Alone (state : State) : Prop where
  poller : ∀ poller, poller ≠ pumpPoller → state.native.poller poller = .idle
  taken : ∀ entry ∈ state.native.taken, entry.1 = pumpPoller

end State

section Passing

variable {state : State}

/-- A step that hands nothing over, gives nothing away and leaves the pump thread's hands. -/
theorem State.Passing.same {next : State} (passing : state.Passing)
    (pushed : next.pump.pushed = state.pump.pushed)
    (held : hands next.pump.pump = hands state.pump.pump) (handed : next.handed = state.handed) :
    next.Passing := by
  rw [State.Passing, pushed, held, handed]
  exact passing

/-- What the pump thread takes out of its hands goes to `onPushed` if it is an event. -/
theorem State.Passing.pump (passing : state.Passing) (reached : machine.Reachable state)
    {action : Pump.Action} (ready : Pump.guard state.pump action)
    (allowed : PumpAllows state action) : (effect state (.pump action)).Passing := by
  have nothing : state.handed ++ [] = state.handed := List.append_nil _
  have emptied : hands state.pump.pump = [] → state.pump.pushed = events state.handed := by
    intro empty
    rw [State.Passing, empty] at passing
    simpa [events] using passing
  cases action with
  | withdraw call =>
      refine passing.same ?_ ?_ nothing <;> (simp only [effect, Pump.effect]; split <;> rfl)
  | refuse call =>
      exact passing.same (state.pump.resume_pushed ..) (congrArg hands (state.pump.resume_pump ..))
        nothing
  | raise call thrown =>
      exact passing.same (state.pump.resume_pushed ..) (congrArg hands (state.pump.resume_pump ..))
        nothing
  | readTimeout =>
      have here : state.pump.pump = .looping := ready
      exact passing.same rfl (by rw [here]; rfl) nothing
  | poll timeoutMillis rc batch =>
      have here : state.pump.pump = .polling timeoutMillis := ready.1
      have before := emptied (by rw [here]; rfl)
      have kept : hands (if rc ≠ ktOk then .exiting else .polled batch) = batch := by
        split
        · next failed => exact (allowed.2.2 failed).symm
        · rfl
      change state.pump.pushed ++
        events (hands (if rc ≠ ktOk then .exiting else .polled batch)) = events (state.handed ++ batch)
      rw [kept, before, events_append]
  | readSize batch =>
      have here : state.pump.pump = .polled batch := ready
      refine passing.same rfl ?_ nothing
      simp only [effect, Pump.effect, here]
      split
      · next empty =>
          rw [empty.2]
          rfl
      · rfl
  | repeatLoop =>
      have here : state.pump.pump = .dispatching [] := ready
      exact passing.same rfl (by rw [here]; rfl) nothing
  | throw =>
      have empty : hands state.pump.pump = [] := allowed
      exact passing.same rfl (by rw [empty]; rfl) nothing
  | dispatch completion rest =>
      have here : state.pump.pump = .dispatching (completion :: rest) := ready
      have before : state.pump.pushed ++ events (completion :: rest) = events state.handed := by
        rw [State.Passing, here] at passing
        exact passing
      change (Pump.effect state.pump _).pushed ++ events (hands (Pump.effect state.pump _).pump) =
        events (state.handed ++ [])
      rw [nothing, ← before]
      by_cases event : completion.reqId = 0
      · simp [Pump.effect, event, hands, events_cons_of_zero]
      · rw [events_cons_of_ne event]
        cases found : state.pump.pending.lookup completion.reqId <;>
          simp [Pump.effect, event, found, hands, events_cons_of_ne]
  | resume call completion rest =>
      have here : state.pump.pump = .taken call completion rest := ready
      have held : state.pump.pump.held = some call := by
        rw [here]
        rfl
      have apart := (met reached).apart
      obtain ⟨issued, named⟩ := apart.taken call completion rest here
      have resumable := apart.resumable call (.inr issued) (.inr (.inr held))
      have answer : completion.reqId ≠ 0 := by
        rw [← named]
        exact requestId_ne_zero (Nat.lt_of_le_of_lt (apart.apart call held).1 apart.few)
      have before : state.pump.pushed ++ events rest = events state.handed := by
        rw [State.Passing, here, hands, events_cons_of_ne answer] at passing
        exact passing
      change (state.pump.resume call _).pushed ++
        events (hands (if (state.pump.continuation call).resumable then .dispatching rest
          else .exiting)) = events (state.handed ++ [])
      rw [if_pos resumable, Pump.State.resume_pushed, nothing, ← before]
      rfl
  | setDead =>
      have here : state.pump.pump = .exiting := ready
      exact passing.same rfl (by rw [here]; rfl) nothing
  | countKeys size =>
      have here : state.pump.pump = .dying := ready
      exact passing.same rfl (by rw [here]; rfl) nothing
  | listKeys size seen stragglers =>
      have here : state.pump.pump = .listing size seen := ready.1
      exact passing.same rfl (by rw [here]; rfl) nothing
  | findNone size seen =>
      have here : state.pump.pump = .listing size seen := ready.1
      exact passing.same rfl (by rw [here]; rfl) nothing
  | failNext id rest =>
      have here : state.pump.pump = .failing (id :: rest) := ready
      refine passing.same ?_ ?_ nothing
      · simp only [effect, Pump.effect]
        split <;> rfl
      · simp only [effect, Pump.effect, here]
        split <;> rfl
  | failActive call id rest =>
      have here : state.pump.pump = .withdrew call id rest := ready
      refine passing.same rfl ?_ nothing
      simp only [effect, Pump.effect, here]
      split <;> rfl
  | failResume call id rest =>
      have here : state.pump.pump = .raising call id rest := ready
      refine passing.same (state.pump.resume_pushed ..) ?_ nothing
      simp only [effect, Pump.effect, here]
      split <;> rfl
  | failDone =>
      have here : state.pump.pump = .failing [] := ready
      exact passing.same rfl (by rw [here]; rfl) nothing
  | pollerFree =>
      have here : state.pump.pump = .freeing := ready
      exact passing.same rfl (by rw [here]; rfl) nothing
  | _ => exact passing.same rfl rfl nothing

end Passing

theorem passing_invariant : machine.Invariant State.Passing where
  start := rfl
  step := by
    intro state action reached passing ready
    cases action with
    | pump action => exact passing.pump reached ready.1 ready.2
    | native action => exact passing.same rfl rfl rfl
    | runHandler call => exact passing.same rfl rfl rfl

/-- Only the pump thread polls. -/
theorem alone_invariant : machine.Invariant State.Alone where
  start := ⟨fun _ _ => rfl, fun _ there => absurd there List.not_mem_nil⟩
  step := by
    intro state action _ alone ready
    have same : ∀ {next : State}, next.native.poller = state.native.poller →
        next.native.taken = state.native.taken → next.Alone := by
      intro next poller taken
      refine ⟨?_, ?_⟩
      · rw [poller]
        exact alone.poller
      · rw [taken]
        exact alone.taken
    have others : ∀ {next : State} {poller : Nat} (phase : Request.PollerPhase),
        (state.native.poller poller ≠ .idle ∨ poller = pumpPoller) →
          next.native.poller = Function.update state.native.poller poller phase →
            (∀ entry ∈ next.native.taken, entry ∈ state.native.taken ∨ entry.1 = poller) →
              next.Alone := by
      intro next poller phase mine moved taken
      have own : poller = pumpPoller := by
        by_contra other
        exact (mine.resolve_right other) (alone.poller poller other)
      refine ⟨fun other different => ?_, fun entry there => ?_⟩
      · rw [moved, Function.update_of_ne (own ▸ different)]
        exact alone.poller other different
      · rcases taken entry there with before | now
        · exact alone.taken entry before
        · exact now.trans own
    cases action with
    | pump action => exact same (by simp [machine, effect]) (by simp [machine, effect])
    | runHandler call =>
        refine same ?_ ?_ <;>
          (simp only [machine, effect, Request.effect]
           split <;> rfl)
    | native action =>
        cases action with
        | register call =>
            refine same ?_ ?_ <;>
              (simp only [machine, effect, Request.effect]
               split <;> rfl)
        | retire call result =>
            refine same ?_ ?_ <;>
              (simp only [machine, effect, Request.effect]
               split <;> rfl)
        | cancel id => exact ready.2.elim
        | poll poller cap timeoutMillis =>
            exact others _ (.inr ready.2.1) rfl fun entry there => .inl there
        | pass poller cap timeoutMillis timedOut next batch closed =>
            refine others _ (.inl ?_) rfl fun entry there => ?_
            · rw [ready.1.1]
              simp
            · rcases List.mem_append.mp there with before | now
              · exact .inl before
              · obtain ⟨pending, _, rfl⟩ := List.mem_map.mp now
                exact .inr rfl
        | write poller pending rest =>
            refine others _ (.inl ?_) rfl fun entry there => .inl there
            rw [show state.native.poller poller = _ from ready.1]
            simp
        | finishPoll poller =>
            refine others _ (.inl ?_) rfl fun entry there => .inl there
            rw [show state.native.poller poller = _ from ready.1]
            simp
        | _ => exact same rfl rfl

/-- The events that were pushed went to `onPushed` in order, and the rest is on its way in order. -/
theorem pushed_sequence {state : State} (reached : machine.Reachable state) :
    events (state.native.pushed.map fun entry => entry.2.record) =
      state.pump.pushed ++ events state.inFlight := by
  have ordered := (Request.ordered_invariant requestId).reachable (native_projects.reachable reached)
  have alone := alone_invariant.reachable reached
  have passing : state.pump.pushed ++ events (hands state.pump.pump) = events state.handed :=
    passing_invariant.reachable reached
  obtain ⟨rest, received⟩ := (met reached).handed
  have unread : state.unread = rest := by rw [State.unread, ← received, List.drop_left]
  have all : (state.native.taken.filter fun entry => entry.1 = pumpPoller) = state.native.taken :=
    List.filter_eq_self.mpr fun entry there => decide_eq_true (alone.taken entry there)
  have delivered := ordered.delivered pumpPoller
  rw [all] at delivered
  calc events (state.native.pushed.map fun entry => entry.2.record)
      = events ((state.native.pushed.map Prod.snd).map Pending.record) := by
        rw [List.map_map]
        rfl
    _ = events ((state.native.taken.map fun entry => entry.2.record) ++
          state.native.queue.queue.map Pending.record) := by
        rw [ordered.queued, List.map_append, List.map_map]
        rfl
    _ = events (state.handed ++ state.unread ++
          ((state.native.poller pumpPoller).batch ++ state.native.queue.queue).map Pending.record) := by
        rw [delivered, unread, received, List.map_append, List.append_assoc]
    _ = state.pump.pushed ++ events state.inFlight := by
        rw [State.inFlight]
        simp only [events_append, ← passing, List.append_assoc]

/-- An answer is pushed under the id of its call. -/
theorem answer_of_pushed {state : State} (reached : machine.Reachable state) {call : Call}
    {pending : Pending} (pushed : (some call, pending) ∈ state.native.pushed) :
    pending.reqId ≠ 0 := by
  have native := native_projects.reachable reached
  have met := met reached
  have terminal := ((Request.spoken_invariant requestId).reachable native).pushed call pending pushed
  have inside := met.entered_of_issued (Request.accepted_of_pushed native pushed)
  rw [terminal.reqId_eq]
  exact requestId_ne_zero (Nat.lt_of_le_of_lt inside met.apart.few)

end KtBridge.Exchange
