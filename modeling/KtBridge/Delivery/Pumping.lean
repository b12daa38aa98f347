import KtBridge.Delivery.Transit

/-! # Where the pump thread is

The pump thread calls `onPushed` for one event after the other. So at most one call is in `onPushed`,
it is the one that the pump thread made last, and it is about an event. -/

namespace KtBridge

namespace Runtime

/-- The call that takes a step, unless a receiver does. -/
def Action.turn : Action → Option Pump.Call
  | .create call | .ensureOpen call | .workerNew call _ | .validate call _ _ => some call
  | .onWorkerEvents call _ | .close call _ | .remove call _ _ | .free call _ _ => some call
  | .flag call _ _ _ | .channel call _ _ _ _ | .closeRuntime call | .skip call => some call
  | .shut call | .visit call _ _ | .pass call _ _ | .endStream call _ _ _ => some call
  | .endFlag call _ _ _ _ _ | .endChannel call _ _ _ _ _ | .stop call => some call
  | .runtimeFree call _ | .clear call | .push call _ | .onPushed call _ => some call
  | .onEvent call _ | .add call _ _ _ | .offer call _ _ | .handleEnd call _ _ _ => some call
  | .handleChannel call _ _ _ => some call
  | .receive _ _ _ => none

section Turn

variable {decode : ByteArray → String} {state : State} {action : Action}

/-- Only the call whose turn it is moves. -/
theorem phase_of_turn {other : Pump.Call} (waits : action.turn ≠ some other) :
    (effect decode state action).phase other = state.phase other := by
  have moved : ∀ {call phase}, some call ≠ some other →
      Function.update state.phase call phase other = state.phase other :=
    fun different => Function.update_of_ne (fun same => different (congrArg some same.symm)) ..
  cases action with
  | workerNew call handle => cases handle <;> exact moved waits
  | onWorkerEvents call worker =>
      simp only [effect]
      split <;> exact moved waits
  | flag call worker failed kinds => cases kinds <;> exact moved waits
  | endStream call worker kinds remaining => cases kinds <;> exact moved waits
  | onPushed call completion =>
      simp only [effect]
      split <;> exact moved waits
  | onEvent call completion =>
      obtain ⟨after, phases, _⟩ := State.onEvent_phase decode state call completion
      exact (congrFun phases other).trans (moved waits)
  | receive worker kind action => rfl
  | _ => exact moved waits

/-- No call goes on from where it returned. -/
theorem not_returned (ready : guard state action) {call : Pump.Call} (turn : action.turn = some call) :
    state.phase call ≠ .returned := by
  intro returned
  cases action <;> cases turn <;> simp [guard, returned] at ready

end Turn

end Runtime

namespace Delivery

open Foundation
open Pump (Completion Call)
open KtBridge.Runtime (Phase)

/-- Whether a call is in `onPushed`. -/
def delivers : Phase → Bool
  | .pushed _ | .handling _ | .sending _ _ _ | .offering _ _ => true
  | .handlingEnd _ _ _ | .handlingChannel _ _ _ => true
  | _ => false

/-- The completion that a call has not looked at yet. -/
def unread : Phase → Option Completion
  | .pushed completion | .handling completion => some completion
  | _ => none

namespace State

/-- Where the pump thread is in `onPushed`, or that it has returned. -/
def here (state : State) : Phase :=
  match state.delivery with
  | some call => state.runtime.phase call
  | none => .returned

/-- Who is in `onPushed`, and what for. -/
structure Pumped (state : State) : Prop where
  alone : ∀ call, delivers (state.runtime.phase call) = true → state.delivery = some call
  inside : ∀ call, state.delivery = some call →
    delivers (state.runtime.phase call) = true ∨ state.runtime.phase call = .returned
  event : ∀ call completion, unread (state.runtime.phase call) = some completion →
    completion.reqId = 0

end State

section Pumped

variable {decode : ByteArray → String} {state : State} {call : Call}

theorem busy_eq_false : state.busy = false ↔ state.here = .returned := by
  rw [State.busy, State.here]
  cases state.delivery <;> simp

/-- What holds of every call after one has moved. -/
theorem forall_update {Holds : Call → Phase → Prop} {phase : Call → Phase} {call : Call}
    {after : Phase} (old : ∀ other, Holds other (phase other)) (new : Holds call after) :
    ∀ other, Holds other (Function.update phase call after other) := by
  intro other
  by_cases same : other = call
  · rw [same, Function.update_self]
    exact new
  · rw [Function.update_of_ne same]
    exact old other

/-- Where `onEvent` goes on, it has looked at its completion. -/
theorem onEvent_read (decode : ByteArray → String) (runtime : Runtime.State) (call : Call)
    (completion : Completion) :
    ∃ after, (Runtime.onEvent decode runtime call completion).phase =
      Function.update runtime.phase call after ∧ unread after = none := by
  unfold Runtime.onEvent
  split
  · split <;> exact ⟨_, rfl, rfl⟩
  · split
    · exact ⟨_, rfl, rfl⟩
    · split
      · exact ⟨_, rfl, rfl⟩
      · split <;> exact ⟨_, rfl, rfl⟩

/-- A call in `onPushed` goes on there or returns. -/
theorem delivers_step {action : Runtime.Action} {call : Call} (ready : guard state (.runtime action))
    (turn : action.turn = some call) (inside : delivers (state.runtime.phase call) = true) :
    delivers ((Runtime.effect decode state.runtime action).phase call) = true ∨
      (Runtime.effect decode state.runtime action).phase call = .returned := by
  obtain ⟨ready, _⟩ := ready
  have elsewhere : ∀ {phase}, state.runtime.phase call = phase → delivers phase = false → False := by
    intro phase here outside
    rw [here, outside] at inside
    cases inside
  have moved : ∀ {phase}, delivers phase = true ∨ phase = .returned →
      delivers (Function.update state.runtime.phase call phase call) = true ∨
        Function.update state.runtime.phase call phase call = .returned := by
    intro phase there
    rwa [Function.update_self]
  cases action with
  | onPushed other completion =>
      cases turn
      simp only [Runtime.effect]
      split
      · exact moved (.inl rfl)
      · exact moved (.inr rfl)
  | onEvent other completion =>
      cases turn
      simp only [Runtime.effect, Runtime.onEvent]
      split
      · split
        · exact moved (.inr rfl)
        · exact moved (.inl rfl)
      · split
        · exact moved (.inr rfl)
        · split
          · exact moved (.inl rfl)
          · split <;> exact moved (.inr rfl)
  | add other worker kind task =>
      cases turn
      exact moved (.inl rfl)
  | offer other worker kind =>
      cases turn
      exact moved (.inr rfl)
  | handleEnd other worker kind cause =>
      cases turn
      exact moved (.inl rfl)
  | handleChannel other worker kind cause =>
      cases turn
      exact moved (.inr rfl)
  | receive other kind action => cases turn
  | skip other =>
      cases turn
      exact (elsewhere ready.1 rfl).elim
  | _ =>
      cases turn
      first
        | exact (elsewhere ready rfl).elim
        | exact (elsewhere ready.1 rfl).elim

/-- A call gets into `onPushed` with the pump thread only, and then goes on with its event. -/
theorem delivers_before {action : Runtime.Action} (ready : guard state (.runtime action))
    (turn : action.turn = some call) :
    (delivers ((Runtime.effect decode state.runtime action).phase call) = true →
      delivers (state.runtime.phase call) = true) ∧
      ∀ completion, unread ((Runtime.effect decode state.runtime action).phase call) =
        some completion → unread (state.runtime.phase call) = some completion := by
  obtain ⟨ready, allowed⟩ := ready
  have outside : ∀ {phase}, delivers phase = false → unread phase = none →
      (delivers (Function.update state.runtime.phase call phase call) = true →
        delivers (state.runtime.phase call) = true) ∧
        ∀ completion, unread (Function.update state.runtime.phase call phase call) =
          some completion → unread (state.runtime.phase call) = some completion := by
    intro phase elsewhere read
    rw [Function.update_self, elsewhere, read]
    exact ⟨fun impossible => (by cases impossible), fun _ impossible => (by cases impossible)⟩
  have within : ∀ {before phase}, state.runtime.phase call = before → delivers before = true →
      (∀ completion, unread phase = some completion → unread before = some completion) →
        (delivers (Function.update state.runtime.phase call phase call) = true →
          delivers (state.runtime.phase call) = true) ∧
          ∀ completion, unread (Function.update state.runtime.phase call phase call) =
            some completion → unread (state.runtime.phase call) = some completion := by
    intro before phase here there read
    rw [Function.update_self, here]
    exact ⟨fun _ => there, read⟩
  have none_ : ∀ {before : Phase} (completion : Completion), (none : Option Completion) =
      some completion → unread before = some completion :=
    fun _ impossible => by cases impossible
  cases action with
  | workerNew other handle =>
      cases turn
      cases handle <;> exact outside rfl rfl
  | ensureOpen other =>
      cases turn
      simp only [Runtime.effect]
      split <;> exact outside rfl rfl
  | validate other worker accepted =>
      cases turn
      cases accepted <;> exact outside rfl rfl
  | onWorkerEvents other worker =>
      cases turn
      simp only [Runtime.effect]
      split <;> exact outside rfl rfl
  | flag other worker failed kinds =>
      cases turn
      cases kinds with
      | nil => cases failed <;> exact outside rfl rfl
      | cons kind kinds => exact outside rfl rfl
  | endStream other worker kinds remaining =>
      cases turn
      cases kinds <;> exact outside rfl rfl
  | runtimeFree other interrupted =>
      cases turn
      cases interrupted <;> exact outside rfl rfl
  | push other completion => exact allowed.elim
  | onPushed other completion =>
      cases turn
      simp only [Runtime.effect]
      split
      · exact within ready rfl fun _ => id
      · exact outside rfl rfl
  | onEvent other completion =>
      cases turn
      obtain ⟨after, moved, read⟩ := onEvent_read decode state.runtime call completion
      change (delivers ((Runtime.onEvent decode state.runtime call completion).phase call) = true → _)
        ∧ ∀ known, unread ((Runtime.onEvent decode state.runtime call completion).phase call) =
          some known → _
      rw [moved]
      refine within ready rfl fun known same => ?_
      rw [read] at same
      cases same
  | add other worker kind task =>
      cases turn
      exact within ready rfl none_
  | offer other worker kind =>
      cases turn
      exact outside rfl rfl
  | handleEnd other worker kind cause =>
      cases turn
      exact within ready rfl none_
  | handleChannel other worker kind cause =>
      cases turn
      exact outside rfl rfl
  | receive worker kind action => cases turn
  | _ =>
      cases turn
      exact outside rfl rfl

/-- Who is in `onPushed` is who the pump thread says. -/
theorem pumped_invariant (decode : ByteArray → String) : (system decode).Invariant State.Pumped where
  start := by
    refine ⟨fun call there => ?_, fun call there => ?_, fun call completion there => ?_⟩
    all_goals cases there
  step := by
    intro state action _ pumped ready
    cases action with
    | runtime action =>
        refine ⟨fun call there => ?_, fun call delivering => ?_, fun call completion known => ?_⟩
        · by_cases turn : action.turn = some call
          · exact pumped.alone call ((delivers_before ready turn).1 there)
          · exact pumped.alone call (by
              have same : (Runtime.effect decode state.runtime action).phase call =
                  state.runtime.phase call := Runtime.phase_of_turn turn
              rw [← same]
              exact there)
        · by_cases turn : action.turn = some call
          · rcases pumped.inside call delivering with there | returned
            · exact delivers_step ready turn there
            · exact absurd returned (Runtime.not_returned ready.1 turn)
          · have same : (Runtime.effect decode state.runtime action).phase call =
                state.runtime.phase call := Runtime.phase_of_turn turn
            rcases pumped.inside call delivering with there | returned
            · exact .inl (same ▸ there)
            · exact .inr (same.trans returned)
        · by_cases turn : action.turn = some call
          · exact pumped.event call completion ((delivers_before ready turn).2 completion known)
          · exact pumped.event call completion (by
              have same : (Runtime.effect decode state.runtime action).phase call =
                  state.runtime.phase call := Runtime.phase_of_turn turn
              rw [← same]
              exact known)
    | deliver call completion rest =>
        obtain ⟨_, idle, _, event⟩ := ready
        have returned := busy_eq_false.mp idle
        refine ⟨?_, fun other delivering => ?_, ?_⟩
        · refine @forall_update (fun other phase => delivers phase = true → some call = some other) _
            _ _ (fun other there => ?_) fun _ => rfl
          have delivering := pumped.alone other there
          have here : state.runtime.phase other = .returned := by
            simpa only [State.here, delivering] using returned
          rw [here] at there
          cases there
        · cases delivering
          left
          simp [system, effect, Runtime.effect, Runtime.State.setPhase, delivers]
        · refine @forall_update (fun _ phase => ∀ completion, unread phase = some completion →
            completion.reqId = 0) _ _ _ pumped.event fun known same => ?_
          cases same
          exact event
    | exchange action => exact ⟨pumped.alone, pumped.inside, pumped.event⟩
    | loop worker kind step => exact ⟨pumped.alone, pumped.inside, pumped.event⟩
    | start caller worker => exact ⟨pumped.alone, pumped.inside, pumped.event⟩

/-- A call outside `onPushed` leaves the pump thread where it is. -/
theorem here_of_elsewhere (pumped : state.Pumped) {action : Runtime.Action}
    (ready : guard state (.runtime action))
    (elsewhere : ∀ call, action.turn = some call → delivers (state.runtime.phase call) = false) :
    (effect decode state (.runtime action)).here = state.here := by
  simp only [State.here, effect]
  cases delivering : state.delivery with
  | none => rfl
  | some call =>
      refine Runtime.phase_of_turn fun turn => ?_
      rcases pumped.inside call delivering with there | returned
      · rw [elsewhere call turn] at there
        cases there
      · exact Runtime.not_returned ready.1 turn returned

/-- The call that is in `onPushed` is the pump thread's. -/
theorem here_of_delivers (pumped : state.Pumped)
    (inside : delivers (state.runtime.phase call) = true) :
    state.here = state.runtime.phase call := by
  rw [State.here, pumped.alone call inside]

theorem here_after (pumped : state.Pumped)
    (inside : delivers (state.runtime.phase call) = true) {action : Runtime.Action} {after : Phase}
    (moved : (Runtime.effect decode state.runtime action).phase =
      Function.update state.runtime.phase call after) :
    (effect decode state (.runtime action)).here = after := by
  change (match state.delivery with
    | some call => (Runtime.effect decode state.runtime action).phase call
    | none => Phase.returned) = _
  simp only [pumped.alone call inside, moved, Function.update_self]

end Pumped

end Delivery

end KtBridge
