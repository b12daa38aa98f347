import KtBridge.Exchange.Fates

/-! # A cancelled request is cancelled in the runtime

The handler is registered after `start`, so a cancellation may come before it: registering
the handler on a cancelled continuation runs it at once. Either way it runs while the call's
own steps are still to come, or it has run and the runtime knows.
-/

namespace KtBridge.Exchange

open Foundation
open Pump (Completion requestId releaseDiscarded)

/-- The call's operation is in the runtime's table. -/
def State.Registered (state : State) (call : Call) : Prop :=
  state.native.pending.lookup (requestId call) = some call

/-- Where the handlers stand. -/
structure State.Handled (state : State) : Prop where
  left : ∀ call, state.handler call ≠ .absent → state.pump.phase call = .left
  given : ∀ call, state.Issued call → state.pump.phase call = .left → state.handler call ≠ .absent
  waiting : ∀ call, state.handler call = .registered → gone (state.pump.continuation call) = false
  told : ∀ call, state.handler call = .done →
    state.native.cancelled call ∨ ¬ state.Registered call

/-- The call that a step cancels. -/
def cancels : Pump.Action → Option Call
  | .cancel call => some call
  | .revoke call _ => some call
  | _ => none

section Steps

variable {issued : Call → Prop} {state : Pump.State} {call : Call} {action : Pump.Action}

/-- A call that is over stays over. -/
theorem left_step (here : state.phase call = .left) (drawn : call < state.entered)
    (ready : Pump.guard state action) : (Pump.effect state action).phase call = .left := by
  by_cases mine : action.caller = some call
  · exfalso
    cases action with
    | enter caller =>
        obtain rfl := Option.some.inj mine
        exact absurd ready (Nat.ne_of_lt drawn)
    | _ => cases mine <;> cases here.symm.trans ready
  · rw [phase_of_others mine]
    exact here

/-- An admitted call is over once its handler is given, and not before. -/
theorem left_of_step (apart : Apart issued state) (admitted : issued call)
    (ready : Pump.guard state action) (there : (Pump.effect state action).phase call = .left) :
    state.phase call = .left ∨ action = .invokeOnCancellation call := by
  have issues := apart.issues call admitted
  by_cases mine : action.caller = some call
  · cases action with
    | enter caller =>
        obtain rfl := Option.some.inj mine
        simp [Pump.effect, Pump.State.setPhase] at there
    | startReturns caller =>
        obtain rfl := Option.some.inj mine
        simp [Pump.effect, Pump.State.setPhase] at there
    | invokeOnCancellation caller =>
        obtain rfl := Option.some.inj mine
        exact Or.inr rfl
    | startThrows caller thrown =>
        obtain rfl := Option.some.inj mine
        simp [Pump.effect, Pump.State.setPhase] at there
    | _ =>
        cases mine <;>
          exact absurd issues (by rw [show state.phase call = _ from ready]; exact Bool.false_ne_true)
  · rw [phase_of_others mine] at there
    exact Or.inl there

/-- A continuation goes by a cancellation, before it was resumed or after. -/
theorem gone_step (there : gone ((Pump.effect state action).continuation call)) :
    gone (state.continuation call) ∨ cancels action = some call := by
  have resumed : ∀ {other attempt},
      gone ((state.resume other attempt).continuation call) → gone (state.continuation call) := by
    intro other attempt there
    by_cases same : call = other
    · subst same
      unfold Pump.State.resume at there
      split at there
      · simp only [Function.update_self] at there
        cases there
      · exact there
      · exact there
    · rwa [Pump.State.resume_others same] at there
  have updated : ∀ {other value}, gone value = false →
      gone (Function.update state.continuation other value call) → gone (state.continuation call) := by
    intro other value still there
    by_cases same : call = other
    · subst same
      rw [Function.update_self, still] at there
      cases there
    · rwa [Function.update_of_ne same] at there
  have cancelled : ∀ {other value},
      gone (Function.update state.continuation other value call) →
        gone (state.continuation call) ∨ other = call := by
    intro other value there
    by_cases same : call = other
    · exact Or.inr same.symm
    · rw [Function.update_of_ne same] at there
      exact Or.inl there
  cases action with
  | enter other => exact Or.inl (updated rfl there)
  | receive other result => exact Or.inl (updated rfl there)
  | cancel other =>
      rcases cancelled there with before | rfl
      · exact Or.inl before
      · exact Or.inr rfl
  | revoke other completion =>
      rcases cancelled there with before | rfl
      · exact Or.inl before
      · exact Or.inr rfl
  | refuse other => exact Or.inl (resumed there)
  | raise other thrown => exact Or.inl (resumed there)
  | resume other completion rest => exact Or.inl (resumed there)
  | failResume other id rest => exact Or.inl (resumed there)
  | withdraw other =>
      simp only [Pump.effect] at there
      split at there <;> exact Or.inl there
  | dispatch completion rest =>
      simp only [Pump.effect] at there
      split at there
      · exact Or.inl there
      · split at there <;> exact Or.inl there
  | failNext id rest =>
      simp only [Pump.effect] at there
      split at there <;> exact Or.inl there
  | _ => exact Or.inl there

end Steps

namespace State

/-- What a step of the pump's side does to a handler. -/
theorem handle_handler (state : State) (action : Pump.Action) (call : Call) :
    (state.handle action).handler call =
      if action = .invokeOnCancellation call then
        if gone (state.pump.continuation call) then .invoked else .registered
      else if cancels action = some call then
        if state.handler call = .registered then .invoked else state.handler call
      else state.handler call := by
  cases action with
  | invokeOnCancellation other =>
      by_cases same : call = other
      · subst same
        simp [handle, onCancellation]
      · simp [handle, onCancellation, cancels, Function.update_of_ne same, Ne.symm same]
  | cancel other =>
      by_cases same : call = other
      · subst same
        simp [handle, runRegistered, cancels]
      · simp [handle, runRegistered, cancels, Function.update_of_ne same, Ne.symm same]
  | revoke other completion =>
      by_cases same : call = other
      · subst same
        simp [handle, runRegistered, cancels]
      · simp [handle, runRegistered, cancels, Function.update_of_ne same, Ne.symm same]
  | _ => simp [handle, cancels]

end State

/-- A `kt_cancel` tells the runtime of the call it finds. -/
theorem told_of_cancel (state : State) (call : Call) :
    (effect state (.runHandler call)).native.cancelled call ∨
      ¬ (effect state (.runHandler call)).Registered call := by
  by_cases registered : state.native.pending.lookup (requestId call) = some call
  · left
    simp only [effect, Request.effect, registered, Function.update_self]
  · right
    rw [State.Registered]
    simp only [effect, Request.effect]
    split <;> exact registered

namespace State.Handled

variable {state : State}

/-- A step of the pump's side. -/
theorem pump (handled : state.Handled) (met : state.Met) {action : Pump.Action}
    (ready : Pump.guard state.pump action) : (effect state (.pump action)).Handled where
  left := by
    intro call there
    have given : action = .invokeOnCancellation call ∨ state.handler call ≠ .absent := by
      simp only [effect, State.handle_handler] at there
      by_cases here : action = .invokeOnCancellation call
      · exact Or.inl here
      · right
        intro absent
        simp [here, absent] at there
    rcases given with rfl | given
    · simp [effect, Pump.effect, Pump.State.setPhase]
    · have passed := handled.left call given
      exact left_step passed (met.apart.entered_of_phase passed (by simp)).2 ready
  given := by
    intro call issued there
    have issued : state.Issued call := by
      simpa only [State.Issued, effect, State.handle_native] using issued
    simp only [effect, State.handle_handler]
    rcases left_of_step met.apart issued ready there with passed | rfl
    · have given := handled.given call issued passed
      split
      · split <;> simp
      · split
        · split
          · simp
          · exact given
        · exact given
    · rw [if_pos rfl]
      split <;> simp
  waiting := by
    intro call there
    simp only [effect, State.handle_handler] at there ⊢
    apply Bool.eq_false_of_not_eq_true
    intro lost
    rcases gone_step lost with before | cancelling
    · split at there
      · simp at there
      · split at there
        · next registered =>
          split at there
          · cases there
          · next unregistered => exact unregistered there
        · rw [handled.waiting call there] at before
          cases before
    · have differs : action ≠ .invokeOnCancellation call := by
        rintro rfl
        cases cancelling
      rw [if_neg differs, if_pos cancelling] at there
      split at there
      · cases there
      · next unregistered => exact unregistered there
  told := by
    intro call there
    have done : state.handler call = .done := by
      simp only [effect, State.handle_handler] at there
      split at there
      · split at there <;> cases there
      · split at there
        · split at there
          · cases there
          · exact there
        · exact there
    simpa only [State.Registered, effect, State.handle_native] using handled.told call done

/-- A step of the runtime's side. -/
theorem native (handled : state.Handled) (met : state.Met) {action : Request.Action}
    (ready : Request.guard requestId state.native action) :
    (effect state (.native action)).Handled where
  left := handled.left
  given := by
    intro call issued passed
    rcases (Request.change ready).accepted call issued with before | calling
    · exact handled.given call before passed
    · have starting := met.calling call calling
      rw [show state.pump.phase call = .left from passed] at starting
      cases starting
  waiting := handled.waiting
  told := by
    intro call done
    rcases handled.told call done with cancelled | unregistered
    · exact Or.inl ((Request.change ready).cancelled call cancelled)
    · right
      intro registered
      rcases (Request.change ready).pending _ call registered with before | calling
      · exact unregistered before
      · have starting := met.calling call calling
        rw [handled.left call (by rw [show state.handler call = _ from done]; simp)] at starting
        cases starting

/-- A handler tells the runtime. -/
theorem runHandler (handled : state.Handled) (met : state.Met) {call : Call}
    (ready : guard state (.runHandler call)) : (effect state (.runHandler call)).Handled := by
  have told := handled.native met ready.2
  constructor
  · intro other there
    by_cases same : other = call
    · subst same
      exact handled.left other (by rw [ready.1]; simp)
    · simp only [effect, Function.update_of_ne same] at there
      exact handled.left other there
  · intro other issued passed
    by_cases same : other = call
    · subst same
      simp [effect]
    · simp only [effect, Function.update_of_ne same]
      exact told.given other issued passed
  · intro other there
    by_cases same : other = call
    · subst same
      simp [effect] at there
    · simp only [effect, Function.update_of_ne same] at there
      exact handled.waiting other there
  · intro other done
    by_cases same : other = call
    · subst same
      exact told_of_cancel state other
    · simp only [effect, Function.update_of_ne same] at done
      exact told.told other done

end State.Handled

theorem handled_start : start.Handled where
  left := fun call there => absurd rfl there
  given := fun call issued => absurd rfl issued
  waiting := fun call impossible => by cases impossible
  told := fun call impossible => by cases impossible

/-- The handlers stand so in every reachable state. -/
theorem handled {state : State} (reached : machine.Reachable state) : state.Handled := by
  have invariant : machine.Invariant State.Handled := by
    refine ⟨handled_start, ?_⟩
    intro state action reached before ready
    cases action with
    | pump action => exact before.pump (met reached) ready.1
    | native action => exact before.native (met reached) ready.1
    | runHandler call => exact before.runHandler (met reached) ready
  exact invariant.reachable reached

namespace State.Cancelling

variable {state : State} {call : Call}

end State.Cancelling

/-- An operation in the table was admitted. -/
theorem issued_of_registered {state : State} (reached : machine.Reachable state) {call : Call}
    (registered : state.Registered call) : state.Issued call := by
  have waits := ((Request.fair (native_projects.reachable reached)).keyed _ _ registered).2.1
  intro outside
  rw [show state.native.view.stage call = _ from outside] at waits
  cases waits

/-- A cancelled call whose operation runs, untold, is about to give its handler, or its handler
runs. -/
theorem untold {state : State} (reached : machine.Reachable state) {call : Call}
    (lost : gone (state.pump.continuation call)) (registered : state.Registered call)
    (unknown : state.native.cancelled call = false) :
    state.pump.phase call = .starting ∨ state.pump.phase call = .started ∨
      state.handler call = .invoked := by
  have handled := handled reached
  have issued := issued_of_registered reached registered
  have issues := (met reached).apart.issues call issued
  cases here : state.pump.phase call with
  | starting => exact Or.inl rfl
  | started => exact Or.inr (Or.inl rfl)
  | left =>
      right
      right
      cases handler : state.handler call with
      | absent => exact absurd handler (handled.given call issued here)
      | registered =>
          rw [handled.waiting call handler] at lost
          cases lost
      | invoked => rfl
      | done =>
          rcases handled.told call handler with cancelled | unregistered
          · rw [unknown] at cancelled
            cases cancelled
          · exact absurd registered unregistered
  | _ =>
      rw [here] at issues
      cases issues

/-- A completion that made a client or a server. -/
def Creates (completion : Completion) : Prop :=
  completion.isFailure = false ∧ (completion.kind = KtKind.ephemeralStarted.discriminant ∨
    completion.kind = KtKind.clientConnected.discriminant)

instance decidableCreates (completion : Completion) : Decidable (Creates completion) :=
  inferInstanceAs (Decidable (_ ∧ _))

/-- The completion of a connection that was made. -/
def connected : Pending := ((Pending.ack 1).withKind .clientConnected).withAux0 5

end KtBridge.Exchange
