import KtBridge.Exchange.Sides

/-! # The fate of a completion

A completion handed to the pump thread for a request is with the pump thread, waits in one
resumed continuation, was returned by one call, or was discarded: one of these, once. The
last two are for good, and every completion can come to one of them.
-/

namespace KtBridge.Exchange

open Foundation
open Pump (Completion requestId releaseDiscarded)

/-- What may have become of a completion handed to the pump thread. -/
inductive Fate where
  | withPump
  /-- The call's continuation was resumed with it, and has not run yet. -/
  | waiting (call : Call)
  | returned (call : Call)
  | discarded
  deriving DecidableEq

/-- Nothing more happens to the completion. -/
def Fate.final : Fate → Bool
  | returned _ => true
  | discarded => true
  | _ => false

namespace State

/-- How often a completion met with a fate. -/
def count (state : State) (completion : Completion) : Fate → Nat
  | .withPump => (hands state.pump.pump).count completion
  | .waiting call =>
      if state.pump.continuation call = .resumed (.value completion) then 1 else 0
  | .returned call =>
      if state.pump.continuation call = .received (.value completion) then 1 else 0
  | .discarded => state.discarded.count completion

end State

section Values

variable {state : Pump.State} {call : Call} {completion : Completion}

/-- A continuation gets a value from the pump thread only. -/
theorem value_step {action : Pump.Action} (ready : Pump.guard state action)
    (there : completion ∈ ((Pump.effect state action).continuation call).value) :
    completion ∈ (state.continuation call).value ∨
      ∃ rest, action = .resume call completion rest := by
  have updated : ∀ {other : Call} {value : Pump.Continuation}, value.value = 0 →
      completion ∈ (Function.update state.continuation other value call).value →
      completion ∈ (state.continuation call).value := by
    intro other value none there
    by_cases same : call = other
    · subst same
      rw [Function.update_self, none] at there
      exact absurd there (Multiset.notMem_zero _)
    · rwa [Function.update_of_ne same] at there
  cases action with
  | enter other => exact Or.inl (updated rfl there)
  | cancel other => exact Or.inl (updated rfl there)
  | revoke other taken => exact Or.inl (updated rfl there)
  | refuse other =>
      rw [← resume_exception (Pump.notIssued (requestId other))]
      exact Or.inl there
  | raise other thrown =>
      rw [← resume_exception thrown.mapped]
      exact Or.inl there
  | failResume other id rest =>
      rw [← resume_exception (Pump.notCompleted id)]
      exact Or.inl there
  | receive other result =>
      have same : (Pump.Continuation.received result).value = (state.continuation other).value := by
        rw [show state.continuation other = .resumed result from ready]
        cases result <;> rfl
      rw [← value_update same]
      exact Or.inl there
  | resume other handed rest =>
      by_cases same : call = other
      · subst same
        simp only [Pump.effect, Pump.State.resume] at there
        split at there
        · simp only [Function.update_self, Pump.Continuation.value, Multiset.mem_singleton] at there
          rw [there]
          exact Or.inr ⟨rest, rfl⟩
        · exact Or.inl there
        · exact Or.inl there
      · left
        rwa [← Pump.State.resume_others same]
  | withdraw other =>
      simp only [Pump.effect] at there
      split at there <;> exact Or.inl there
  | dispatch handed rest =>
      simp only [Pump.effect] at there
      split at there
      · exact Or.inl there
      · split at there <;> exact Or.inl there
  | failNext id rest =>
      simp only [Pump.effect] at there
      split at there <;> exact Or.inl there
  | _ => exact Or.inl there

end Values

/-- A continuation is resumed with the completion of its own request. -/
theorem own_value {state : State} (reached : machine.Reachable state) {call : Call}
    {completion : Completion} (there : completion ∈ (state.pump.continuation call).value) :
    requestId call = completion.reqId := by
  have invariant : machine.Invariant fun state => ∀ call completion,
      completion ∈ (state.pump.continuation call).value → requestId call = completion.reqId := by
    refine ⟨fun call completion there => absurd there (Multiset.notMem_zero _), ?_⟩
    intro state action reached own ready call completion there
    cases action with
    | pump action =>
        rcases value_step ready.1 there with before | ⟨rest, rfl⟩
        · exact own call completion before
        · exact ((met reached).apart.taken call completion rest ready.1).2
    | native action => exact own call completion there
    | runHandler other => exact own call completion there
  exact invariant.reachable reached call completion there

/-- A continuation is resumed with what was pushed for its own request. -/
theorem pushed_of_value {state : State} (reached : machine.Reachable state) {call : Call}
    {completion : Completion} (there : completion ∈ (state.pump.continuation call).value) :
    ∃ pending, (some call, pending) ∈ state.native.pushed ∧ pending.record = completion := by
  have met := met reached
  have inside : call < state.pump.entered := by
    refine met.apart.entered_of_continuation fun active => ?_
    rw [active] at there
    exact Multiset.notMem_zero _ there
  have kept : completion ∈ (tally state.pump.entered fun call =>
      (state.pump.continuation call).value) := mem_tally inside there
  have handed : completion ∈ state.handed := by
    rw [← Multiset.mem_coe, met.conserved]
    exact Multiset.mem_add.mpr (.inl (Multiset.mem_add.mpr (.inr kept)))
  have ordered := (Request.ordered_invariant requestId).reachable (native_projects.reachable reached)
  obtain ⟨⟨origin, pending⟩, pushed, same⟩ :=
    List.mem_map.mp ((Request.received_sublist ordered pumpPoller).mem (met.handed.mem handed))
  have own : pending.reqId = requestId call :=
    (congrArg Record.reqId same).trans (own_value reached there).symm
  cases origin with
  | none =>
      have few : call + 1 < 2 ^ 64 := Nat.lt_of_le_of_lt inside met.apart.few
      exact absurd (own.symm.trans (met.events pending pushed).1) (requestId_ne_zero few)
  | some other =>
      have native := native_projects.reachable reached
      have terminal := ((Request.spoken_invariant requestId).reachable native).pushed other pending
        pushed
      have entered := met.entered_of_issued (Request.accepted_of_pushed native pushed)
      obtain rfl := met.apart.requestId_inj entered inside (terminal.reqId_eq.symm.trans own)
      exact ⟨pending, pushed, same⟩

section Total

variable {state : State} {completion : Completion}

end Total

section Final

variable {completion : Completion} {fate : Fate}

end Final

/-- The steps that deliver what was handed over: of the pump thread with its batch, and of a
resumed coroutine. -/
def delivers : Action → Bool
  | .pump (.readSize _) => true
  | .pump (.dispatch _ _) => true
  | .pump (.resume _ _ _) => true
  | .pump (.receive _ _) => true
  | _ => false

/-- The pump thread resumes the continuation it took, when it gets through the rest. -/
theorem resumed {rest : List Completion}
    (later : ∀ state : State, machine.Reachable state → state.pump.pump = .dispatching rest →
      machine.Leads delivers state fun state => hands state.pump.pump = [])
    {state : State} (reached : machine.Reachable state) {call : Call} {completion : Completion}
    (here : state.pump.pump = .taken call completion rest) :
    machine.Leads delivers state fun state => hands state.pump.pump = [] := by
  have apart := (met reached).apart
  have resumable : (state.pump.continuation call).resumable := by
    apply apart.resumable call (Or.inr (apart.taken call completion rest here).1)
    right
    right
    rw [here]
    rfl
  have ready : machine.guard state (.pump (.resume call completion rest)) := ⟨here, trivial⟩
  apply GuardedSystem.Leads.cons rfl ready
  apply later _ (reached.step _ ready)
  simp only [machine, effect, Pump.effect, resumable, ↓reduceIte]

/-- The pump thread gets through the rest of its batch. -/
theorem dispatched (rest : List Completion) : ∀ state : State, machine.Reachable state →
    state.pump.pump = .dispatching rest →
      machine.Leads delivers state fun state => hands state.pump.pump = [] := by
  induction rest with
  | nil =>
      intro state _ here
      apply GuardedSystem.Leads.here
      rw [here]
      rfl
  | cons completion rest ih =>
      intro state reached here
      have ready : machine.guard state (.pump (.dispatch completion rest)) := ⟨here, trivial⟩
      have next := reached.step _ ready
      apply GuardedSystem.Leads.cons rfl ready
      by_cases event : completion.reqId = 0
      · apply ih _ next
        simp only [machine, effect, Pump.effect, event, ↓reduceIte]
      · cases found : state.pump.pending.lookup completion.reqId with
        | none =>
            apply ih _ next
            simp only [machine, effect, Pump.effect, event, found, ↓reduceIte]
        | some call =>
            apply resumed ih next
            simp only [machine, effect, Pump.effect, event, found, ↓reduceIte]
            rfl

/-- The pump thread gets rid of what it has in its hands. -/
theorem emptied {state : State} (reached : machine.Reachable state) :
    machine.Leads delivers state fun state => hands state.pump.pump = [] := by
  cases here : state.pump.pump with
  | polled batch =>
      have ready : machine.guard state (.pump (.readSize batch)) := ⟨here, trivial⟩
      apply GuardedSystem.Leads.cons rfl ready
      by_cases last : ¬ state.pump.running ∧ batch = []
      · apply GuardedSystem.Leads.here
        simp only [machine, effect, Pump.effect, if_pos last, hands]
      · apply dispatched batch _ (reached.step _ ready)
        simp only [machine, effect, Pump.effect, if_neg last]
  | dispatching batch => exact dispatched batch state reached here
  | taken call completion rest => exact resumed (dispatched rest) reached here
  | _ =>
      apply GuardedSystem.Leads.here
      rw [here]
      rfl

/-- The coroutines of the first calls run. -/
theorem received (entered bound : Nat) : ∀ state : State, hands state.pump.pump = [] →
    state.pump.entered = entered → machine.Leads delivers state fun state =>
      hands state.pump.pump = [] ∧ state.pump.entered = entered ∧
        ∀ call < bound, ∀ result, state.pump.continuation call ≠ .resumed result := by
  induction bound with
  | zero =>
      intro state empty same
      exact GuardedSystem.Leads.here ⟨empty, same, fun call inside => absurd inside (Nat.not_lt_zero call)⟩
  | succ bound ih =>
      intro state empty same
      apply (ih state empty same).trans
      intro trace _ settled
      obtain ⟨empty, same, before⟩ := settled
      by_cases waits : ∃ result, (machine.after state trace).pump.continuation bound = .resumed result
      · obtain ⟨result, here⟩ := waits
        have ready : machine.guard (machine.after state trace) (.pump (.receive bound result)) :=
          ⟨here, trivial⟩
        apply GuardedSystem.Leads.cons rfl ready
        refine GuardedSystem.Leads.here ⟨empty, same, ?_⟩
        intro call inside other
        simp only [machine, effect, Pump.effect, Function.update_apply]
        split
        · simp
        · next differs =>
          exact before call (Nat.lt_of_le_of_ne (Nat.le_of_lt_succ inside) differs) other
      · refine GuardedSystem.Leads.here ⟨empty, same, ?_⟩
        intro call inside result resumed
        rcases Nat.lt_succ_iff_lt_or_eq.mp inside with older | rfl
        · exact before call older result resumed
        · exact waits ⟨result, resumed⟩

end KtBridge.Exchange
