import KtBridge.Exchange.Balance

/-! # The two sides agree

The invariant of the whole: continuations are kept apart as the runtime's admitted calls
require, exports run only in `start`, the pump thread was handed what was written for it, and
all of that is accounted for.
-/

namespace KtBridge.Exchange

open Foundation
open Pump (Completion requestId releaseDiscarded)

/-- The calls and the completions there are on both sides. -/
structure State.Met (state : State) : Prop where
  apart : Apart state.Issued state.pump
  calling : ∀ call, (state.native.phase call).calling → state.pump.phase call = .starting
  events : ∀ pending, (none, pending) ∈ state.native.pushed →
    pending.reqId = 0 ∧ pushable pending.kind
  handed : state.handed <+: state.native.received pumpPoller
  conserved : (state.handed : Multiset Completion) = content state.pump + state.discarded
  released : state.pump.released = state.discarded.flatMap releaseDiscarded

/-- The id of a call that was drawn is not zero. -/
theorem requestId_ne_zero {call : Nat} (fits : call + 1 < 2 ^ 64) : requestId call ≠ 0 := by
  intro zero
  have value := congrArg UInt64.toNat zero
  simp only [requestId, UInt64.toNat_ofNat', UInt64.toNat_zero] at value
  omega

/-- What a step of the pump's side frees is what it discards. -/
theorem released_step (state : Pump.State) (action : Pump.Action) :
    (Pump.effect state action).released =
      state.released ++ (discards state action).flatMap releaseDiscarded := by
  have nothing : state.released = state.released ++ [].flatMap releaseDiscarded :=
    (List.append_nil _).symm
  cases action with
  | withdraw call =>
      simp only [Pump.effect]
      split <;> exact nothing
  | refuse call => exact (state.resume_released ..).trans nothing
  | raise call thrown => exact (state.resume_released ..).trans nothing
  | failResume call id rest => exact (state.resume_released ..).trans nothing
  | failNext id rest =>
      simp only [Pump.effect]
      split <;> exact nothing
  | revoke call completion =>
      simp only [Pump.effect, discards, List.flatMap_singleton]
  | dispatch completion rest =>
      by_cases event : completion.reqId = 0
      · simp [Pump.effect, discards, event]
      · cases found : state.pending.lookup completion.reqId <;>
          simp [Pump.effect, discards, event, found]
  | resume call completion rest =>
      by_cases cancelled : state.continuation call = .cancelled <;>
        simp [Pump.effect, discards, cancelled]
  | _ => exact nothing

/-- An export that reported an error has no call in the table. -/
theorem not_accepted_of_unissued {phase : Request.Phase} (failed : unissued phase) :
    ¬ phase.accepted := by
  cases phase <;> first | exact fun accepted => accepted rfl | cases failed

/-- A call is not in its export any more when that has returned. -/
theorem not_calling_of_returned {phase : Request.Phase} (returned : spawned phase ∨ unissued phase) :
    phase.calling = false := by
  cases phase <;> first | rfl | simp [spawned, unissued] at returned

/-- Handlers are the only thing that a handler's step changes. -/
@[simp] theorem State.handle_native (state : State) (action : Pump.Action) :
    (state.handle action).native = state.native := by
  cases action <;> rfl

namespace State.Met

variable {state : State}

/-- The pump thread has in its hands what it was handed. -/
theorem handed_of_hands (met : state.Met) {completion : Completion}
    (there : completion ∈ hands state.pump.pump) : completion ∈ state.handed := by
  rw [← Multiset.mem_coe, met.conserved]
  apply Multiset.mem_add.mpr
  left
  apply Multiset.mem_add.mpr
  left
  apply Multiset.mem_add.mpr
  right
  exact Multiset.mem_coe.mpr there

/-- What was handed over under an id answers an admitted call with that id. -/
theorem issued_of_handed (met : state.Met) (reached : machine.Reachable state)
    {completion : Completion} (there : completion ∈ state.handed) (asked : completion.reqId ≠ 0) :
    ∃ call, state.Issued call ∧ requestId call = completion.reqId := by
  rcases origin_of_received (native_projects.reachable reached) (met.handed.mem there) with
    ⟨pending, pushed, rfl⟩ | answered
  · exact absurd (met.events pending pushed).1 asked
  · exact answered

/-- An admitted call drew its id. -/
theorem entered_of_issued (met : state.Met) {call : Call} (issued : state.Issued call) :
    call < state.pump.entered := by
  have issues := met.apart.issues call issued
  apply Nat.lt_of_not_le
  intro beyond
  rw [(met.apart.outside call).mpr beyond] at issues
  cases issues

/-- What is found in the map under the id of an admitted call is that call. -/
theorem found_issued (met : state.Met) {call other : Call} {id : UInt64}
    (issued : state.Issued other) (named : requestId other = id)
    (found : state.pump.pending.lookup id = some call) : state.Issued call := by
  obtain ⟨own, inside⟩ := met.apart.keyed id call found
  rw [met.apart.requestId_inj inside (met.entered_of_issued issued) (own.trans named.symm)]
  exact issued

/-- The calls of the pump's side after a step of it. -/
theorem apart_pump (met : state.Met) (reached : machine.Reachable state) {action : Pump.Action}
    (ready : Pump.guard state.pump action) (allowed : PumpAllows state action) :
    Apart state.Issued (Pump.effect state.pump action) := by
  by_cases drawn : ∃ call, action = .enter call
  · obtain ⟨call, rfl⟩ := drawn
    obtain rfl : call = state.pump.entered := ready
    exact met.apart.enter allowed
  by_cases stored : ∃ call, action = .store call
  · obtain ⟨call, rfl⟩ := stored
    exact met.apart.store ready
  apply met.apart.turns
  apply met.apart.step ready (fun call same => drawn ⟨call, same⟩)
    (fun call same => stored ⟨call, same⟩)
  · rintro call thrown rfl
    exact not_accepted_of_unissued allowed
  · rintro call completion rest rfl found asked
    have inHands : completion ∈ hands state.pump.pump := by
      rw [show state.pump.pump = .dispatching (completion :: rest) from ready]
      exact List.mem_cons_self
    obtain ⟨other, issued, named⟩ := met.issued_of_handed reached (met.handed_of_hands inHands) asked
    exact met.found_issued issued named found

/-- A step of the pump's side. -/
theorem pump (met : state.Met) (reached : machine.Reachable state) {action : Pump.Action}
    (ready : Pump.guard state.pump action) (allowed : PumpAllows state action) :
    (effect state (.pump action)).Met where
  apart := by
    have same : (effect state (.pump action)).Issued = state.Issued := by
      funext call
      simp only [State.Issued, effect, State.handle_native]
    rw [same]
    exact met.apart_pump reached ready allowed
  calling := by
    intro call inside
    simp only [effect, State.handle_native] at inside ⊢
    have here := met.calling call inside
    apply starting_step here (met.apart.entered_of_phase here (by simp)).2 ready
    · rintro rfl
      rw [not_calling_of_returned (Or.inl allowed)] at inside
      cases inside
    · rintro thrown rfl
      rw [not_calling_of_returned (Or.inr allowed)] at inside
      cases inside
  events := by
    simp only [effect, State.handle_native]
    exact met.events
  handed := by
    simp only [effect, State.handle_native]
    cases action with
    | poll timeoutMillis rc batch =>
        obtain ⟨rest, received⟩ := met.handed
        have unread : batch = rest := by
          rw [allowed.2.1, State.unread, ← received, List.drop_left]
        simp only [polled]
        rw [unread, received]
    | _ =>
        simp only [polled, List.append_nil]
        exact met.handed
  conserved := by
    have step := content_step met.apart ready ?failed ?thrown
    · simp only [effect, ← Multiset.coe_add]
      rw [met.conserved, add_right_comm, ← step]
      abel
    · rintro timeoutMillis rc batch rfl
      exact allowed.2.2
    · rintro rfl
      exact allowed
  released := by
    simp only [effect, released_step, List.flatMap_append, met.released]

/-- A step of the runtime's side. -/
theorem native (met : state.Met) {next : State} {action : Request.Action}
    (called : ∀ call, action = .reserve call → state.pump.phase call = .starting)
    (event : ∀ pending, action = .event pending → pending.reqId = 0 ∧ pushable pending.kind)
    (change : Request.Change action state.native next.native)
    (kept : ∀ call, state.Issued call → next.Issued call) (pump : next.pump = state.pump)
    (handed : next.handed = state.handed) (discarded : next.discarded = state.discarded) :
    next.Met where
  apart := by
    rw [pump]
    refine met.apart.accept (fun call issued => ?_) kept
    rcases change.accepted call issued with before | calling
    · exact Or.inl before
    · exact Or.inr (met.calling call calling)
  calling := by
    intro call inside
    rw [pump]
    rcases change.calling call inside with before | reserved
    · exact met.calling call before
    · exact called call reserved
  events := by
    intro pending there
    rcases change.pushed pending there with before | pushed
    · exact met.events pending before
    · exact event pending pushed
  handed := by
    rw [handed]
    exact met.handed.trans (change.received pumpPoller)
  conserved := by
    rw [handed, pump, discarded]
    exact met.conserved
  released := by
    rw [pump, discarded]
    exact met.released

end State.Met

theorem met_start : start.Met where
  apart := by
    constructor <;> simp [start, Pump.start, Request.start, State.Issued, Request.Phase.accepted,
      Request.Phase.stage, Pump.PumpPhase.held, Live, InPlay, Pump.Phase.early]
  calling := by simp [start, Request.start, Request.Phase.calling]
  events := by simp [start, Request.start]
  handed := List.nil_prefix
  conserved := rfl
  released := rfl

/-- The two sides agree in every reachable state. -/
theorem met_invariant : machine.Invariant State.Met where
  start := met_start
  step := by
    intro state action reached met ready
    cases action with
    | pump action => exact met.pump reached ready.1 ready.2
    | native action =>
        refine met.native ?_ ?_ (Request.change ready.1) ?_ rfl rfl rfl
        · rintro call rfl
          exact ready.2
        · rintro pending rfl
          exact ⟨ready.1, ready.2⟩
        · exact fun call issued => Request.accepted_step issued action ready.1
    | runHandler call =>
        refine met.native ?_ ?_ (Request.change ready.2) ?_ rfl rfl rfl
        · intro other impossible
          cases impossible
        · intro pending impossible
          cases impossible
        · exact fun other issued => Request.accepted_step issued _ ready.2

theorem met {state : State} (reached : machine.Reachable state) : state.Met :=
  met_invariant.reachable reached

end KtBridge.Exchange
