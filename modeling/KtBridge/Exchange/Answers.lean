import KtBridge.Exchange.Holding
import KtBridge.Pump.Ending
import KtBridge.Request.Steps

/-! # What the pump thread is handed

A record that was written for the pump's poller is an event, or answers a call that the
runtime admitted, and each call has at most one. A call is inside its export only while its
caller is in `start`.
-/

namespace KtBridge.Exchange

open Foundation
open Pump (Completion requestId)

/-- The runtime admitted the call. -/
def State.Issued (state : State) (call : Call) : Prop := (state.native.phase call).accepted

/-- A call goes on by its caller's steps. -/
theorem phase_of_others {state : Pump.State} {call : Call} {action : Pump.Action}
    (others : action.caller ≠ some call) :
    (Pump.effect state action).phase call = state.phase call := by
  have elsewhere : ∀ {caller : Call}, some caller ≠ some call → call ≠ caller :=
    fun differs same => differs (congrArg some same.symm)
  cases action with
  | withdraw caller =>
      simp only [Pump.effect]
      split <;> exact Function.update_of_ne (elsewhere others) ..
  | refuse caller =>
      simp only [Pump.effect, Pump.State.setPhase, Pump.State.resume_phase]
      exact Function.update_of_ne (elsewhere others) ..
  | raise caller thrown =>
      simp only [Pump.effect, Pump.State.setPhase, Pump.State.resume_phase]
      exact Function.update_of_ne (elsewhere others) ..
  | enter caller => exact Function.update_of_ne (elsewhere others) ..
  | store caller => exact Function.update_of_ne (elsewhere others) ..
  | readDead caller => exact Function.update_of_ne (elsewhere others) ..
  | readRunning caller => exact Function.update_of_ne (elsewhere others) ..
  | startReturns caller => exact Function.update_of_ne (elsewhere others) ..
  | startThrows caller thrown => exact Function.update_of_ne (elsewhere others) ..
  | retire caller thrown => exact Function.update_of_ne (elsewhere others) ..
  | readActive caller thrown found => exact Function.update_of_ne (elsewhere others) ..
  | invokeOnCancellation caller => exact Function.update_of_ne (elsewhere others) ..
  | dispatch completion rest =>
      simp only [Pump.effect]
      split
      · rfl
      · split <;> rfl
  | resume caller completion rest => exact congrFun (state.resume_phase ..) call
  | failNext id rest =>
      simp only [Pump.effect]
      split <;> rfl
  | failResume caller id rest => exact congrFun (state.resume_phase ..) call
  | _ => rfl

/-- A call in `start` stays there until `start` returns or throws. -/
theorem starting_step {state : Pump.State} {call : Call} (here : state.phase call = .starting)
    (drawn : call < state.entered) {action : Pump.Action} (ready : Pump.guard state action)
    (returns : action ≠ .startReturns call) (throws : ∀ thrown, action ≠ .startThrows call thrown) :
    (Pump.effect state action).phase call = .starting := by
  by_cases mine : action.caller = some call
  · exfalso
    cases action with
    | enter caller =>
        obtain rfl := Option.some.inj mine
        exact absurd ready (Nat.ne_of_lt drawn)
    | startReturns caller => exact returns (congrArg _ (Option.some.inj mine))
    | startThrows caller thrown => exact throws thrown (by rw [Option.some.inj mine])
    | _ =>
        cases mine <;> cases here.symm.trans ready
  · rw [phase_of_others mine]
    exact here

section Records

variable {native : Request.State}

/-- What was written for a poller is an event, or answers an admitted call. -/
theorem origin_of_received (reached : (Request.machine requestId).Reachable native) {poller : Nat}
    {completion : Completion} (there : completion ∈ native.received poller) :
    (∃ pending, (none, pending) ∈ native.pushed ∧ pending.record = completion) ∨
      ∃ call, (native.phase call).accepted ∧ requestId call = completion.reqId := by
  have ordered := (Request.ordered_invariant requestId).reachable reached
  obtain ⟨⟨origin, pending⟩, pushed, rfl⟩ :=
    List.mem_map.mp ((Request.received_sublist ordered poller).mem there)
  cases origin with
  | none => exact Or.inl ⟨pending, pushed, rfl⟩
  | some call =>
      have terminal := ((Request.spoken_invariant requestId).reachable reached).pushed call pending pushed
      exact Or.inr ⟨call, Request.accepted_of_pushed reached pushed, terminal.reqId_eq.symm⟩

end Records

end KtBridge.Exchange
