import KtBridge.Request.Machine
import KtBridge.Request.Protocol

/-! # Every accepted request is answered once

The request machine projects onto the answering protocol (`projects`), which
gives the counts; what the answers tell, and in which order a poller gets them, are
invariants of the machine itself. Together they give
`one_terminal_completion`.
-/

namespace KtBridge.Request

open Foundation

variable {reqId : Call → UInt64}

/-- Where a phase stands in the answering protocol. -/
def Phase.stage : Phase → Protocol.Stage
  | idle | reserved | refused _ | released _ | rejected _ => .outside
  | admitted | tracked | ready | running | settled _ | abandoned | lost => .waiting
  | retired _ => .retiring
  | leaving | finished => .done

def Party.holder : Party → Protocol.Holder
  | task call => .call call
  | drain => .drain

namespace State

/-- The completions pushed for a call. -/
def answers (state : State) (call : Call) : List Pending :=
  (state.pushed.filter fun entry => entry.1 = some call).map Prod.snd

/-- What the answering protocol sees of the machine. -/
def view (state : State) : Protocol.State Pending where
  stage := Phase.stage ∘ state.phase
  pending := state.pending
  closed := state.closed
  lock := state.lock.map Party.holder
  isSealed := state.queue.closed
  answers := state.answers

theorem view_setPhase (state : State) (call : Call) (phase : Phase) :
    (state.setPhase call phase).view = state.view.setStage call phase.stage := by
  simp only [view, setPhase, Protocol.State.setStage, Function.comp_update]
  rfl

/-- A step within one stage is not seen. -/
theorem view_setPhase_same (state : State) (call : Call) (phase : Phase)
    (same : phase.stage = (state.phase call).stage) : (state.setPhase call phase).view = state.view := by
  rw [view_setPhase, same]
  simp only [Protocol.State.setStage]
  exact congrArg (fun stage => { state.view with stage := stage }) (Function.update_eq_self _ _)

theorem view_push_event (state : State) (pending : Pending) :
    (state.push none pending).view = state.view := by
  have answers : (state.push none pending).answers = state.answers := by
    funext call
    by_cases closed : state.queue.closed <;> simp [answers, push, closed]
  have isSealed : (state.push none pending).queue.closed = state.queue.closed := by
    by_cases closed : state.queue.closed <;> simp [push, Queue.push, closed]
  simp only [view, answers, isSealed]
  rfl

theorem view_push_answer (state : State) (call : Call) (pending : Pending) :
    (state.push (some call) pending).view = state.view.push call pending := by
  have isSealed : (state.push (some call) pending).queue.closed = state.queue.closed := by
    by_cases closed : state.queue.closed <;> simp [push, Queue.push, closed]
  have answers : (state.push (some call) pending).answers =
      if state.queue.closed then state.answers
      else Function.update state.answers call (state.answers call ++ [pending]) := by
    funext other
    by_cases closed : state.queue.closed
    · simp [answers, push, closed]
    · by_cases same : other = call
      · subst same
        simp [answers, push, closed]
      · simp [answers, push, closed, same, Ne.symm same]
  simp only [view, answers, isSealed, Protocol.State.push]
  rfl

end State

/-- Every step of the machine is a step of the protocol or is not seen by it. -/
theorem projects (reqId : Call → UInt64) :
    (machine reqId).Projects (Protocol.protocol reqId) State.view where
  start := rfl
  step := by
    intro state action ready
    have within : ∀ call phase, phase.stage = (state.phase call).stage →
        (state.setPhase call phase).view = state.view := state.view_setPhase_same
    cases action with
    | reserve call => exact Or.inl (within call _ (by rw [show state.phase call = _ from ready]; rfl))
    | register call =>
        obtain ⟨reserved, unlocked⟩ := ready
        simp only [machine, effect, State.register]
        by_cases closed : state.closed
        · simp only [closed, ↓reduceIte]
          exact Or.inl (within call _ (by rw [reserved]; rfl))
        · by_cases taken : reqId call ∈ state.pending
          · simp only [closed, taken, Bool.false_eq_true, ↓reduceIte]
            exact Or.inl (within call _ (by rw [reserved]; rfl))
          · simp only [closed, taken, Bool.false_eq_true, ↓reduceIte]
            refine Or.inr ⟨.register call, ⟨?_, ?_, Bool.eq_false_of_not_eq_true closed, taken⟩, ?_⟩
            · simp only [State.view, Function.comp_apply, reserved, Phase.stage]
            · simp only [State.view, unlocked, Option.map_none]
            · have moved := state.view_setPhase call .admitted
              simp only [Protocol.protocol, Protocol.effect]
              exact congrArg (fun view : Protocol.State Pending =>
                { view with pending := state.pending.insert (reqId call) call }) moved
    | dropOperation call error =>
        exact Or.inl (within call _ (by rw [show state.phase call = _ from ready]; rfl))
    | reject call error =>
        exact Or.inl (within call _ (by rw [show state.phase call = _ from ready]; rfl))
    | track call => exact Or.inl (within call _ (by rw [show state.phase call = _ from ready]; rfl))
    | unreserve call =>
        exact Or.inl (within call _ (by rw [show state.phase call = _ from ready]; rfl))
    | spawn call => exact Or.inl (within call _ (by rw [show state.phase call = _ from ready]; rfl))
    | observeCancel call => exact Or.inl (within call _ (by rw [ready.1]; rfl))
    | complete call result => exact Or.inl (within call _ (by rw [ready.1]; rfl))
    | panic call message =>
        exact Or.inl (within call _ (by rw [show state.phase call = _ from ready]; rfl))
    | abandon call => exact Or.inl (within call _ (by rw [show state.phase call = _ from ready]; rfl))
    | lose call => exact Or.inl (within call _ (by rw [show state.phase call = _ from ready]; rfl))
    | retire call result =>
        obtain ⟨settled, unlocked⟩ := ready
        have waits : state.view.stage call = .waiting := by
          simp only [State.view, Function.comp_apply, settled, Phase.stage]
        have free : state.view.lock = none := by simp only [State.view, unlocked, Option.map_none]
        simp only [machine, effect]
        by_cases present : reqId call ∈ state.pending
        · simp only [present, ↓reduceIte]
          refine Or.inr ⟨.retire call, ⟨waits, free, present⟩, ?_⟩
          have moved := state.view_setPhase call (.retired result)
          exact congrArg (fun view : Protocol.State Pending =>
            { view with
              pending := state.pending.erase (reqId call)
              lock := some (.call call) }) moved
        · simp only [present, ↓reduceIte]
          exact Or.inr ⟨.forfeit call, ⟨waits, free, present⟩, state.view_setPhase call .leaving⟩
    | answer call result =>
        obtain ⟨retired, locked⟩ := ready
        refine Or.inr ⟨.answer call result, ⟨?_, ?_⟩, ?_⟩
        · simp only [State.view, Function.comp_apply, retired, Phase.stage]
        · simp only [State.view, locked, Option.map_some, Party.holder]
        · have moved := (state.push (some call) result).view_setPhase call .leaving
          rw [state.view_push_answer] at moved
          exact congrArg (fun view : Protocol.State Pending => { view with lock := none }) moved
    | leave call => exact Or.inl (within call _ (by rw [show state.phase call = _ from ready]; rfl))
    | cancel id =>
        simp only [machine, effect]
        cases state.pending.lookup id <;> exact Or.inl rfl
    | drainStart =>
        refine Or.inr ⟨.close, ?_, rfl⟩
        exact congrArg (Option.map Party.holder) ready
    | drainAnswer id call =>
        obtain ⟨locked, found⟩ := ready
        refine Or.inr ⟨.drain id call (shutdownCompletion id), ⟨?_, found⟩, ?_⟩
        · simp only [State.view, locked, Option.map_some, Party.holder]
        · exact congrArg (fun view : Protocol.State Pending =>
            { view with pending := state.pending.erase id })
            (state.view_push_answer call (shutdownCompletion id))
    | drainFinish =>
        obtain ⟨locked, empty⟩ := ready
        refine Or.inr ⟨.sealQueue, ⟨?_, empty⟩, rfl⟩
        simp only [State.view, locked, Option.map_some, Party.holder]
    | event pending => exact Or.inl (state.view_push_event pending)
    | pass poller cap timeoutMillis timedOut next batch closed =>
        have same := (Queue.pass_takes_prefix ready.2).2.2
        refine Or.inl ?_
        simp only [machine, effect, State.view, same]
        rfl
    | _ => exact Or.inl rfl

/-- The pending table, the locks and the answers of a reachable state. -/
theorem fair {state : State} (reached : (machine reqId).Reachable state) :
    state.view.Fair reqId :=
  (Protocol.fair_invariant reqId).reachable ((projects reqId).reachable reached)

/-- What may be answered for a call: that the runtime shut down, that it was
cancelled, that its operation panicked, or what its operation returned. -/
def State.Terminal (reqId : Call → UInt64) (state : State) (call : Call) (result : Pending) : Prop :=
  result = shutdownCompletion (reqId call) ∨ result = cancelledCompletion (reqId call) ∨
    (∃ message, result = panicCompletion (reqId call) message) ∨
    state.returned call = some result ∧ result.reqId = reqId call

/-- The operation may still return. -/
def Phase.operating : Phase → Bool
  | idle | reserved | refused _ | released _ | rejected _ | admitted | tracked | ready | running =>
      true
  | _ => false

/-- The completion a task holds. -/
def Phase.result? : Phase → Option Pending
  | settled result | retired result => some result
  | _ => none

/-- Everything held for or pushed for a call is terminal for it. -/
structure State.Spoken (reqId : Call → UInt64) (state : State) : Prop where
  held : ∀ call result, (state.phase call).result? = some result →
    state.Terminal reqId call result
  pushed : ∀ call result, (some call, result) ∈ state.pushed → state.Terminal reqId call result
  silent : ∀ call, (state.phase call).operating → state.returned call = none

namespace State.Spoken

variable {state next : State} {call : Call}

/-- A call that moves to a phase holding nothing new. -/
theorem move (spoken : state.Spoken reqId) (phase : Phase)
    (phases : next.phase = Function.update state.phase call phase)
    (pushed : next.pushed = state.pushed) (returned : next.returned = state.returned)
    (result : ∀ result, phase.result? = some result → state.Terminal reqId call result)
    (operating : phase.operating → (state.phase call).operating) : next.Spoken reqId where
  held := by
    intro other held there
    rw [phases] at there
    simp only [Terminal, returned]
    by_cases same : other = call
    · subst same
      rw [Function.update_self] at there
      exact result held there
    · rw [Function.update_of_ne same] at there
      exact spoken.held other held there
  pushed := by
    intro other told there
    rw [pushed] at there
    simp only [Terminal, returned]
    exact spoken.pushed other told there
  silent := by
    intro other there
    rw [phases] at there
    rw [returned]
    by_cases same : other = call
    · subst same
      rw [Function.update_self] at there
      exact spoken.silent other (operating there)
    · rw [Function.update_of_ne same] at there
      exact spoken.silent other there

/-- A push that is terminal for the call it is for. -/
theorem push (spoken : state.Spoken reqId) (origin : Option Call) (result : Pending)
    (terminal : ∀ call, origin = some call → state.Terminal reqId call result) :
    (state.push origin result).Spoken reqId where
  held := spoken.held
  pushed := by
    intro other told there
    by_cases closed : state.queue.closed
    · simp only [State.push, closed, ↓reduceIte] at there
      exact spoken.pushed other told there
    · simp only [State.push, closed, Bool.false_eq_true, ↓reduceIte, List.mem_append,
        List.mem_singleton, Prod.mk.injEq] at there
      rcases there with old | ⟨rfl, rfl⟩
      · exact spoken.pushed other told old
      · exact terminal other rfl
  silent := spoken.silent

/-- An operation that returns, under its own id. -/
theorem complete (spoken : state.Spoken reqId) {result : Pending}
    (ready : guard reqId state (.complete call result)) :
    (effect reqId state (.complete call result)).Spoken reqId := by
  obtain ⟨running, own⟩ := ready
  have before : state.returned call = none := spoken.silent call (by rw [running]; rfl)
  -- Nothing was returned for the call before, so what was said about it stays said.
  have kept : ∀ other told, state.Terminal reqId other told →
      (effect reqId state (.complete call result)).Terminal reqId other told := by
    rintro other told (shut | cancelled | panicked | ⟨returned, whose⟩)
    · exact Or.inl shut
    · exact Or.inr (Or.inl cancelled)
    · exact Or.inr (Or.inr (Or.inl panicked))
    · refine Or.inr (Or.inr (Or.inr ⟨?_, whose⟩))
      have differs : other ≠ call := by
        rintro rfl
        rw [before] at returned
        cases returned
      exact (Function.update_of_ne differs _ _).trans returned
  refine ⟨?_, fun other told there => kept other told (spoken.pushed other told there), ?_⟩
  · intro other held there
    by_cases same : other = call
    · subst same
      simp only [effect, State.setPhase, Function.update_self, Phase.result?,
        Option.some.injEq] at there
      subst there
      exact Or.inr (Or.inr (Or.inr ⟨Function.update_self _ _ _, own⟩))
    · simp only [effect, State.setPhase, Function.update_of_ne same] at there
      exact kept other held (spoken.held other held there)
  · intro other there
    by_cases same : other = call
    · subst same
      simp only [effect, State.setPhase, Function.update_self, Phase.operating,
        Bool.false_eq_true] at there
    · simp only [effect, State.setPhase, Function.update_of_ne same] at there ⊢
      exact spoken.silent other there

end State.Spoken

/-- Every completion held or pushed for a call is one the call may be answered with. -/
theorem spoken_invariant (reqId : Call → UInt64) :
    (machine reqId).Invariant (State.Spoken reqId) where
  start := ⟨nofun, nofun, fun _ _ => rfl⟩
  step := by
    intro state action reached spoken ready
    have silentMove : ∀ {next : State} (call : Call) (phase : Phase),
        next.phase = Function.update state.phase call phase → next.pushed = state.pushed →
        next.returned = state.returned → phase.result? = none →
        (phase.operating → (state.phase call).operating) → next.Spoken reqId := by
      intro next call phase phases pushed returned nothing operating
      refine spoken.move phase phases pushed returned (fun result held => ?_) operating
      rw [nothing] at held
      cases held
    cases action with
    | reserve call =>
        exact silentMove call .reserved rfl rfl rfl rfl
          (by rw [show state.phase call = _ from ready]; exact id)
    | register call =>
        have was : (state.phase call).operating := by rw [ready.1]; rfl
        simp only [machine, effect]
        cases state.register (reqId call) with
        | some error => exact silentMove call (.refused error) rfl rfl rfl rfl fun _ => was
        | none => exact silentMove call .admitted rfl rfl rfl rfl fun _ => was
    | dropOperation call error =>
        exact silentMove call (.released error) rfl rfl rfl rfl
          (by rw [show state.phase call = _ from ready]; exact id)
    | reject call error =>
        exact silentMove call (.rejected error) rfl rfl rfl rfl
          (by rw [show state.phase call = _ from ready]; exact id)
    | track call =>
        exact silentMove call .tracked rfl rfl rfl rfl
          (by rw [show state.phase call = _ from ready]; exact id)
    | unreserve call =>
        exact silentMove call .ready rfl rfl rfl rfl
          (by rw [show state.phase call = _ from ready]; exact id)
    | spawn call =>
        exact silentMove call .running rfl rfl rfl rfl
          (by rw [show state.phase call = _ from ready]; exact id)
    | observeCancel call =>
        refine spoken.move (.settled (cancelledCompletion (reqId call))) rfl rfl rfl ?_ nofun
        rintro result held
        exact Or.inr (Or.inl (Option.some.inj held).symm)
    | complete call result => exact spoken.complete ready
    | panic call message =>
        refine spoken.move (.settled (panicCompletion (reqId call) message)) rfl rfl rfl ?_ nofun
        rintro result held
        exact Or.inr (Or.inr (Or.inl ⟨message, (Option.some.inj held).symm⟩))
    | abandon call => exact silentMove call .abandoned rfl rfl rfl rfl nofun
    | lose call => exact silentMove call .lost rfl rfl rfl rfl nofun
    | retire call result =>
        have held := spoken.held call result (by rw [ready.1]; rfl)
        simp only [machine, effect]
        by_cases present : reqId call ∈ state.pending
        · simp only [present, ↓reduceIte]
          refine spoken.move (.retired result) rfl rfl rfl ?_ nofun
          rintro other same
          obtain rfl := Option.some.inj same
          exact held
        · simp only [present, ↓reduceIte]
          exact silentMove call .leaving rfl rfl rfl rfl nofun
    | answer call result =>
        have held := spoken.held call result (by rw [ready.1]; rfl)
        have told := spoken.push (some call) result (by rintro _ ⟨⟩; exact held)
        exact told.move .leaving rfl rfl rfl nofun nofun
    | leave call => exact silentMove call .finished rfl rfl rfl rfl nofun
    | cancel id =>
        simp only [machine, effect]
        cases state.pending.lookup id <;>
          exact ⟨spoken.held, spoken.pushed, spoken.silent⟩
    | drainAnswer id call =>
        have own : reqId call = id := ((fair reached).keyed id call ready.2).1
        have told := spoken.push (some call) (shutdownCompletion id)
          (by rintro _ ⟨⟩; exact Or.inl (by rw [own]))
        exact ⟨told.held, told.pushed, told.silent⟩
    | event pending =>
        have told := spoken.push none pending nofun
        exact ⟨told.held, told.pushed, told.silent⟩
    | _ => exact ⟨spoken.held, spoken.pushed, spoken.silent⟩

end KtBridge.Request
