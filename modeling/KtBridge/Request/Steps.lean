import KtBridge.Foundation.Entries
import KtBridge.Request.Delivery

/-! # What a step of the runtime may change

For a system around the request machine: a call comes into its export and into the pending
table by its own steps only, and what was written or cancelled stays so. From the protocol, a
call is answered at most once, and only once it was admitted.
-/

namespace KtBridge.Request

open Foundation

variable {reqId : Call → UInt64} {state next : State} {action : Action}

/-- The call is between the reservation of its token and its return. -/
def Phase.calling : Phase → Bool
  | reserved => true
  | refused _ => true
  | released _ => true
  | admitted => true
  | tracked => true
  | ready => true
  | _ => false

/-- What a step may change. -/
structure Change (action : Action) (state next : State) : Prop where
  calling : ∀ call, (next.phase call).calling →
    (state.phase call).calling ∨ action = .reserve call
  accepted : ∀ call, (next.phase call).accepted →
    (state.phase call).accepted ∨ (state.phase call).calling
  cancelled : ∀ call, state.cancelled call → next.cancelled call
  pending : ∀ id call, next.pending.lookup id = some call →
    state.pending.lookup id = some call ∨ (state.phase call).calling
  pushed : ∀ pending, (none, pending) ∈ next.pushed →
    (none, pending) ∈ state.pushed ∨ action = .event pending
  received : ∀ poller, state.received poller <+: next.received poller

namespace Change

/-- A step of no call's own. -/
theorem of_shared (phase : next.phase = state.phase)
    (cancelled : ∀ call, state.cancelled call → next.cancelled call)
    (pending : ∀ id call, next.pending.lookup id = some call → state.pending.lookup id = some call)
    (pushed : ∀ pending, (none, pending) ∈ next.pushed →
      (none, pending) ∈ state.pushed ∨ action = .event pending)
    (received : ∀ poller, state.received poller <+: next.received poller) :
    Change action state next where
  calling := by
    intro call
    rw [phase]
    exact Or.inl
  accepted := by
    intro call
    rw [phase]
    exact Or.inl
  cancelled := cancelled
  pending := fun id call found => Or.inl (pending id call found)
  pushed := pushed
  received := received

/-- A call goes on, with nothing pushed but for itself. -/
theorem of_call {call : Call} {before phase : Phase} (here : state.phase call = before)
    (phases : next.phase = Function.update state.phase call phase)
    (calling : phase.calling → before.calling ∨ action = .reserve call)
    (accepted : phase.accepted → before.accepted ∨ before.calling)
    (cancelled : next.cancelled = state.cancelled)
    (pending : ∀ id other, next.pending.lookup id = some other →
      state.pending.lookup id = some other ∨ other = call ∧ before.calling)
    (pushed : ∀ pending, (none, pending) ∈ next.pushed → (none, pending) ∈ state.pushed)
    (received : next.received = state.received) : Change action state next where
  calling := by
    intro other there
    rw [phases] at there
    by_cases same : other = call
    · subst same
      rw [Function.update_self] at there
      rw [here]
      exact calling there
    · rw [Function.update_of_ne same] at there
      exact Or.inl there
  accepted := by
    intro other there
    rw [phases] at there
    by_cases same : other = call
    · subst same
      rw [Function.update_self] at there
      rw [here]
      exact accepted there
    · rw [Function.update_of_ne same] at there
      exact Or.inl there
  cancelled := by
    rw [cancelled]
    exact fun _ => id
  pending := by
    intro id other found
    rcases pending id other found with before | ⟨rfl, called⟩
    · exact Or.inl before
    · right
      rw [here]
      exact called
  pushed := fun pending there => Or.inl (pushed pending there)
  received := by
    rw [received]
    exact fun _ => List.prefix_refl _

end Change

/-- A push for a call adds no event. -/
theorem State.push_event {state : State} {origin : Option Call} {result pending : Pending}
    (there : (none, pending) ∈ (state.push origin result).pushed) :
    (none, pending) ∈ state.pushed ∨ origin = none ∧ pending = result := by
  by_cases closed : state.queue.closed
  · left
    simpa [State.push, closed] using there
  · simp only [State.push, closed, Bool.false_eq_true, ↓reduceIte, List.mem_append,
      List.mem_singleton, Prod.mk.injEq] at there
    rcases there with old | ⟨whose, rfl⟩
    · exact Or.inl old
    · exact Or.inr ⟨whose.symm, rfl⟩

/-- What each step may change. -/
theorem change (ready : guard reqId state action) : Change action state (effect reqId state action) := by
  have waits : Phase.accepted .running := by simp [Phase.accepted, Phase.stage]
  have retires (result : Pending) : (Phase.retired result).accepted := by
    simp [Phase.accepted, Phase.stage]
  have leaves : Phase.accepted .leaving := by simp [Phase.accepted, Phase.stage]
  cases action with
  | reserve call =>
      refine Change.of_call ready rfl (fun _ => Or.inr rfl) ?_ rfl (fun _ _ => Or.inl) (fun _ => id) rfl
      exact fun accepted => absurd rfl accepted
  | register call =>
      simp only [effect]
      cases state.register (reqId call) with
      | some error =>
          exact Change.of_call ready.1 rfl (fun _ => Or.inl rfl) (fun _ => Or.inr rfl) rfl
            (fun _ _ => Or.inl) (fun _ => id) rfl
      | none =>
          refine Change.of_call ready.1 rfl (fun _ => Or.inl rfl) (fun _ => Or.inr rfl) rfl ?_
            (fun _ => id) rfl
          intro id other found
          rcases lookup_of_insert found with old | ⟨_, own⟩
          · exact Or.inl old
          · exact Or.inr ⟨own, rfl⟩
  | dropOperation call error =>
      exact Change.of_call ready rfl (fun _ => Or.inl rfl) (fun _ => Or.inr rfl) rfl
        (fun _ _ => Or.inl) (fun _ => id) rfl
  | reject call error =>
      exact Change.of_call ready rfl (fun returned => absurd returned Bool.false_ne_true)
        (fun _ => Or.inr rfl) rfl (fun _ _ => Or.inl) (fun _ => id) rfl
  | track call =>
      exact Change.of_call ready rfl (fun _ => Or.inl rfl) (fun _ => Or.inr rfl) rfl
        (fun _ _ => Or.inl) (fun _ => id) rfl
  | unreserve call =>
      exact Change.of_call ready rfl (fun _ => Or.inl rfl) (fun _ => Or.inr rfl) rfl
        (fun _ _ => Or.inl) (fun _ => id) rfl
  | spawn call =>
      exact Change.of_call ready rfl (fun returned => absurd returned Bool.false_ne_true)
        (fun _ => Or.inr rfl) rfl (fun _ _ => Or.inl) (fun _ => id) rfl
  | observeCancel call =>
      exact Change.of_call ready.1 rfl (fun returned => absurd returned Bool.false_ne_true)
        (fun _ => Or.inl waits) rfl (fun _ _ => Or.inl) (fun _ => id) rfl
  | complete call result =>
      exact Change.of_call ready.1 rfl (fun returned => absurd returned Bool.false_ne_true)
        (fun _ => Or.inl waits) rfl (fun _ _ => Or.inl) (fun _ => id) rfl
  | panic call message =>
      exact Change.of_call ready rfl (fun returned => absurd returned Bool.false_ne_true)
        (fun _ => Or.inl waits) rfl (fun _ _ => Or.inl) (fun _ => id) rfl
  | abandon call =>
      exact Change.of_call ready rfl (fun returned => absurd returned Bool.false_ne_true)
        (fun _ => Or.inl waits) rfl (fun _ _ => Or.inl) (fun _ => id) rfl
  | lose call =>
      exact Change.of_call ready rfl (fun returned => absurd returned Bool.false_ne_true)
        (fun _ => Or.inl waits) rfl (fun _ _ => Or.inl) (fun _ => id) rfl
  | retire call result =>
      simp only [effect]
      split
      · exact Change.of_call ready.1 rfl (fun returned => absurd returned Bool.false_ne_true)
          (fun _ => Or.inl waits) rfl (fun _ _ found => Or.inl (lookup_of_erase found)) (fun _ => id)
          rfl
      · exact Change.of_call ready.1 rfl (fun returned => absurd returned Bool.false_ne_true)
          (fun _ => Or.inl waits) rfl (fun _ _ => Or.inl) (fun _ => id) rfl
  | answer call result =>
      refine Change.of_call ready.1 rfl (fun returned => absurd returned Bool.false_ne_true)
        (fun _ => Or.inl (retires _)) rfl (fun _ _ => Or.inl) (fun pending there => ?_) rfl
      exact (State.push_event there).resolve_right (by simp)
  | leave call =>
      exact Change.of_call ready rfl (fun returned => absurd returned Bool.false_ne_true)
        (fun _ => Or.inl leaves) rfl (fun _ _ => Or.inl) (fun _ => id) rfl
  | cancel id =>
      simp only [effect]
      split
      · next call found =>
        refine Change.of_shared rfl (fun other was => ?_) (fun _ _ found => found) (fun _ => Or.inl)
          (fun _ => List.prefix_refl _)
        simp only [Function.update_apply]
        split
        · rfl
        · exact was
      · exact Change.of_shared rfl (fun _ was => was) (fun _ _ found => found) (fun _ => Or.inl)
          (fun _ => List.prefix_refl _)
  | drainAnswer id call =>
      refine Change.of_shared rfl (fun other was => ?_) (fun _ _ => lookup_of_erase)
        (fun pending there => Or.inl ?_) (fun _ => List.prefix_refl _)
      · simp only [effect, Function.update_apply]
        split
        · rfl
        · exact was
      · exact (State.push_event there).resolve_right (by simp)
  | event pending =>
      refine Change.of_shared rfl (fun _ => id) (fun _ _ => id) (fun told there => ?_)
        (fun _ => List.prefix_refl _)
      rcases State.push_event there with old | ⟨_, rfl⟩
      · exact Or.inl old
      · exact Or.inr rfl
  | write poller pending rest =>
      refine Change.of_shared rfl (fun _ => id) (fun _ _ => id) (fun _ => Or.inl) (fun other => ?_)
      simp only [effect, Function.update_apply]
      split
      · next same =>
        rw [same]
        exact List.prefix_append ..
      · exact List.prefix_refl _
  | _ =>
      exact Change.of_shared rfl (fun _ => id) (fun _ _ => id) (fun _ => Or.inl)
        (fun _ => List.prefix_refl _)

/-- A completion that answers a call is under the call's id. -/
theorem State.Terminal.reqId_eq {call : Call} {result : Pending}
    (terminal : state.Terminal reqId call result) : result.reqId = reqId call := by
  rcases terminal with rfl | rfl | ⟨message, rfl⟩ | ⟨_, own⟩
  · rfl
  · rfl
  · rfl
  · exact own

/-- Only a call that was admitted is answered. -/
theorem accepted_of_pushed (reached : (machine reqId).Reachable state) {call : Call}
    {result : Pending} (pushed : (some call, result) ∈ state.pushed) :
    (state.phase call).accepted := by
  intro outside
  have silent : state.answers call = [] := (fair reached).outside call outside
  rw [State.answers, List.map_eq_nil_iff, List.filter_eq_nil_iff] at silent
  exact silent _ pushed (decide_eq_true rfl)

/-- What a poller has is among what was pushed, in that order. -/
theorem received_sublist (ordered : state.Ordered) (poller : Nat) :
    (state.received poller).Sublist (state.pushed.map fun entry => entry.2.record) := by
  have taken : (state.received poller).Sublist (state.taken.map fun entry => entry.2.record) := by
    have written : (state.received poller).Sublist
        ((state.taken.filter fun entry => entry.1 = poller).map fun entry => entry.2.record) := by
      rw [ordered.delivered poller]
      exact List.sublist_append_left ..
    exact written.trans (List.filter_sublist.map _)
  have records := congrArg (List.map Pending.record) ordered.queued
  rw [List.map_append, List.map_map, List.map_map] at records
  apply taken.trans
  rw [show (state.pushed.map fun entry => entry.2.record) = _ from records]
  exact List.sublist_append_left ..

end KtBridge.Request
