import KtBridge.Sampler.Machine

/-! # Who is inside which monitor

Each monitor counts the entries of the thread that has it. They are those of the calls and of the
sampler on that thread (`State.Accounted`), so two threads are never inside the same monitor. -/

namespace KtBridge.Sampler

open Foundation

variable {K : Type}

/-- The monitors that a call is inside of. -/
def Phase.holds : Phase K → Lock → Bool
  | updating .., lock => lock = .runtime
  | removing worker failed, lock | freeing worker failed, lock => !failed && lock = .worker worker
  | shutting, lock | draining, lock | stopping, lock | unregistering, lock => lock = .sample
  | _, _ => false

/-- The monitors that the sampler is inside of. -/
def Sampling.holds : Sampling K → Lock → Bool
  | locking, lock | delivering .., lock | calling .., lock | retrieving, lock => lock = .sample
  | updating .., lock => lock = .sample ∨ lock = .runtime
  | _, _ => false

/-- Who does not call is idle. -/
theorem idle_of_busy {phase : Phase K} (rests : phase.busy = false) : phase = .idle := by
  cases phase with
  | idle => rfl
  | _ => cases rests

theorem idle_of_rests {sampling : Sampling K} (rests : sampling.rests) : sampling = .idle := by
  cases sampling with
  | idle => rfl
  | _ => cases rests

namespace State

/-- How often a thread is inside a monitor. -/
def entries (state : State K) (thread : Thread) (lock : Lock) : Nat :=
  match thread with
  | .sampler => (state.sampling.holds lock).toNat + ((state.phase .hook).holds lock).toNat
  | .caller place => ((state.phase (.outside place)).holds lock).toNat

/-- The monitors count what the calls and the sampler have entered. -/
def Accounted (state : State K) : Prop :=
  ∀ lock thread, (state.lock lock).entries thread = state.entries thread lock

/-- A callback calls while it runs. -/
def Hooked (state : State K) : Prop :=
  (state.phase .hook).busy → state.sampling.inCallback

variable {state next : State K} {party : Party}

/-- A call that moves on changes the entries of its own thread. -/
theorem entries_call (others : ∀ other, other ≠ party → next.phase other = state.phase other)
    (still : next.sampling = state.sampling) (thread : Thread) (lock : Lock) :
    next.entries thread lock +
        (if party.thread = thread then ((state.phase party).holds lock).toNat else 0) =
      state.entries thread lock +
        if party.thread = thread then ((next.phase party).holds lock).toNat else 0 := by
  cases thread with
  | sampler =>
      cases party with
      | hook =>
          simp only [entries, Party.thread, still, ↓reduceIte]
          omega
      | outside place =>
          rw [entries, entries, still, others .hook (by simp)]
          simp [Party.thread]
  | caller place =>
      by_cases own : party = .outside place
      · subst own
        simp only [entries, Party.thread, ↓reduceIte]
        omega
      · have other : party.thread ≠ .caller place := by
          cases party with
          | hook => simp [Party.thread]
          | outside there =>
              intro same
              cases same
              exact own rfl
        rw [entries, entries, others _ (Ne.symm own), if_neg other, if_neg other]

/-- A call is inside what it holds. -/
theorem Accounted.inside (accounted : state.Accounted) {lock : Lock}
    (holds : (state.phase party).holds lock) : 0 < (state.lock lock).entries party.thread := by
  rw [accounted]
  cases party with
  | hook =>
      simp only [entries, Party.thread, holds, Bool.toNat_true]
      omega
  | outside place => simp [entries, Party.thread, holds]

/-- The sampler is inside what it holds. -/
theorem Accounted.insideSampler (accounted : state.Accounted) {lock : Lock}
    (holds : state.sampling.holds lock) : 0 < (state.lock lock).entries .sampler := by
  rw [accounted]
  simp only [entries, holds, Bool.toNat_true]
  omega

/-- A monitor that is available to one thread has no other inside. -/
theorem Accounted.outside (accounted : state.Accounted) {lock : Lock} {thread other : Thread}
    (available : (state.lock lock).Available thread) (different : other ≠ thread) :
    state.entries other lock = 0 := by
  rw [← accounted]
  by_contra inside
  have owner := Monitor.owner_of_entries (Nat.pos_of_ne_zero inside)
  exact different (available other owner)

/-- Two calls are not both inside the same monitor. -/
theorem Accounted.exclusive (accounted : state.Accounted) {other : Party} {lock : Lock}
    (one : (state.phase party).holds lock) (two : (state.phase other).holds lock) :
    party = other := by
  have same := Monitor.exclusive (accounted.inside one) (accounted.inside two)
  cases party <;> cases other <;> first | rfl | cases same
  rfl

/-- While the sampler is inside a monitor and no callback runs, no call is. -/
theorem Accounted.alone (accounted : state.Accounted) {lock : Lock}
    (holds : state.sampling.holds lock) (quiet : (state.phase .hook).holds lock = false) :
    (state.phase party).holds lock = false := by
  by_contra inside
  have same := Monitor.exclusive (accounted.insideSampler holds)
    (accounted.inside (Bool.not_eq_false _ |>.mp inside))
  cases party with
  | hook => exact inside quiet
  | outside place => cases same

/-- A step of a call keeps the account. -/
theorem Accounted.call {next : State K} (accounted : state.Accounted)
    (others : ∀ other, other ≠ party → next.phase other = state.phase other)
    (still : next.sampling = state.sampling) (wants : Option Lock)
    (passes : state.Passes party.thread wants)
    (turn : Turn party.thread wants (state.phase party).holds (next.phase party).holds state.lock
      next.lock) :
    next.Accounted := by
  intro lock thread
  have entered := turn.entries passes (fun lock holds => accounted.inside holds) lock thread
  have called := entries_call others still thread lock
  rw [accounted lock thread] at entered
  omega

/-- A step of the sampler keeps the account. -/
theorem Accounted.sampler {next : State K} (accounted : state.Accounted)
    (still : next.phase = state.phase) (wants : Option Lock) (passes : state.Passes .sampler wants)
    (turn : Turn .sampler wants state.sampling.holds next.sampling.holds state.lock next.lock) :
    next.Accounted := by
  intro lock thread
  have entered := turn.entries passes (fun lock holds => accounted.insideSampler holds) lock thread
  rw [accounted lock thread] at entered
  cases thread with
  | sampler =>
      simp only [entries, still, ↓reduceIte] at entered ⊢
      omega
  | caller place =>
      simp only [entries, still, reduceCtorEq, ↓reduceIte, Nat.add_zero] at entered ⊢
      exact entered

/-- Whoever begins a call is inside nothing. -/
theorem Accounted.begin (accounted : state.Accounted) (begins : state.Begins party)
    {phase : Phase K} (outside : phase.holds = fun _ => false) :
    (state.setPhase party phase).Accounted := by
  refine accounted.call (fun _ different => setPhase_of_ne _ _ different) rfl none
    (fun _ none => by cases none) (.keeps rfl ?_)
  rw [idle_of_busy begins.1, setPhase_self, outside]
  rfl

end State

section Steps

variable [Field K] [LinearOrder K] [IsStrictOrderedRing K] {state : State K} {party : Party}
  {input : Input K}

/-- A step of a call changes no other call. -/
theorem step_phase_of_ne {other : Party} (different : other ≠ party) :
    (step state party input).phase other = state.phase other := by
  unfold step
  split <;> (try split) <;> (try split) <;>
    simp [State.setPhase, State.enter, State.leave, State.tell, State.list, State.setResource,
      Function.update_of_ne different]

theorem step_sampling : (step state party input).sampling = state.sampling := by
  unfold step
  split <;> (try split) <;> (try split) <;> rfl

/-- What a step of a call does to the monitors. -/
theorem step_turn :
    Turn party.thread (state.phase party).wants (state.phase party).holds
      ((step state party input).phase party).holds state.lock (step state party input).lock := by
  unfold step
  split
  · next here => exact .keeps rfl rfl
  · next suppliers here =>
      refine .keeps rfl ?_
      rw [here]
      simp only [State.setPhase, Function.update_self]
      split <;> rfl
  · next suppliers here =>
      rw [here]
      split <;> exact .keeps rfl (by simp only [State.setPhase, Function.update_self]; rfl)
  · next worker suppliers here =>
      rw [here]
      split
      · exact .keeps rfl (by simp only [State.setPhase, Function.update_self]; rfl)
      split
      · refine .enters .runtime rfl rfl rfl ?_
        funext lock
        simp [State.setPhase, Phase.holds, Function.update_apply]
      · exact .keeps rfl (by simp only [State.setPhase, Function.update_self]; rfl)
  · next worker resource here =>
      rw [here]
      refine .leaves .runtime (by simp [Phase.holds]) (by split <;> rfl) ?_
      funext lock
      split <;> simp [State.setPhase, Phase.holds, Function.update_apply]
  · next worker here =>
      rw [here]
      split <;> exact .keeps rfl (by simp only [State.setPhase, Function.update_self]; rfl)
  · next worker failed here =>
      rw [here]
      exact .keeps rfl (by simp only [State.setPhase, Function.update_self]; rfl)
  · next worker failed here =>
      rw [here]
      cases failed with
      | true => exact .keeps rfl (by simp only [State.setPhase, Function.update_self]; rfl)
      | false =>
          refine .leaves (.worker worker) (by simp [Phase.holds]) rfl ?_
          funext lock
          simp [State.setPhase, Phase.holds, Function.update_apply]
  · next worker callback here =>
      rw [here]
      refine .keeps (by split <;> rfl) ?_
      simp only [State.setPhase, Function.update_self]
      rfl
  · next worker here =>
      rw [here]
      refine .keeps rfl ?_
      simp only [State.setPhase, Function.update_self]
      split <;> rfl
  · next worker here =>
      rw [here]
      split
      · exact .keeps rfl (by simp only [State.setPhase, Function.update_self]; rfl)
      · refine .enters (.worker worker) rfl rfl rfl ?_
        funext lock
        simp [State.setPhase, Phase.holds, Function.update_apply]
  · next here =>
      rw [here]
      refine .keeps rfl ?_
      simp only [State.setPhase, Function.update_self]
      split <;> rfl
  · next here =>
      rw [here]
      split
      · exact .keeps rfl (by simp only [State.setPhase, Function.update_self]; rfl)
      · refine .enters .sample rfl rfl rfl ?_
        funext lock
        simp [State.setPhase, Phase.holds, Function.update_apply]
  · next here =>
      rw [here]
      exact .keeps rfl (by simp only [State.setPhase, Function.update_self]; rfl)
  · next here =>
      rw [here]
      exact .keeps rfl (by simp only [State.setPhase, Function.update_self]; rfl)
  · next here =>
      rw [here]
      exact .keeps rfl (by simp only [State.setPhase, Function.update_self]; rfl)
  · next here =>
      rw [here]
      refine .leaves .sample (by simp [Phase.holds]) rfl ?_
      funext lock
      simp [State.setPhase, Phase.holds, Function.update_apply]

theorem advance_phase : (advance state input).phase = state.phase := by
  unfold advance
  split <;> (try split) <;> rfl

/-- What a step of the sampler does to the monitors. -/
theorem advance_turn :
    Turn .sampler state.sampling.wants state.sampling.holds
      (advance state input).sampling.holds state.lock (advance state input).lock := by
  unfold advance
  split
  · exact .keeps rfl rfl
  · exact .keeps rfl rfl
  · next here =>
      rw [here]
      split
      · exact .keeps rfl rfl
      · refine .enters .sample rfl rfl rfl ?_
        funext lock
        simp [State.setSampling, Sampling.holds, Function.update_apply]
  · next here =>
      rw [here]
      refine .enters .runtime rfl rfl rfl ?_
      funext lock
      simp only [State.setSampling, Sampling.holds, Function.update_apply]
      split <;> simp [*]
  · next deliveries here =>
      rw [here]
      refine .leaves .runtime (by simp [Sampling.holds]) rfl ?_
      funext lock
      simp only [State.setSampling, Sampling.holds, Function.update_apply]
      split <;> simp [*]
  · next worker left deliveries here =>
      rw [here]
      split <;> exact .keeps rfl rfl
  · next here =>
      rw [here]
      split
      · refine .leaves .sample (by simp [Sampling.holds]) rfl ?_
        funext lock
        simp [State.setSampling, Sampling.holds, Function.update_apply]
      · exact .keeps rfl rfl
  · next delivery deliveries here =>
      rw [here]
      split
      · refine .leaves .sample (by simp [Sampling.holds]) rfl ?_
        funext lock
        simp [State.setSampling, Sampling.holds, Function.update_apply]
      · exact .keeps rfl rfl
  · next delivery deliveries here =>
      rw [here]
      split
      · refine .leaves .sample (by simp [Sampling.holds]) rfl ?_
        funext lock
        simp [State.setSampling, Sampling.holds, Function.update_apply]
      · exact .keeps rfl rfl
  · next here =>
      rw [here]
      refine .leaves .sample (by simp [Sampling.holds]) rfl ?_
      funext lock
      simp [State.setSampling, Sampling.holds, Function.update_apply]

/-- The monitors count who is inside them, in every reachable state. -/
theorem accounted_invariant : (system K).Invariant State.Accounted where
  start := by
    intro lock thread
    cases thread <;> rfl
  step := by
    intro state action _ accounted ready
    cases action with
    | create party suppliers => exact accounted.begin ready rfl
    | observe party worker callback => exact accounted.begin ready.1 rfl
    | close party worker => exact accounted.begin ready.1 rfl
    | closeRuntime party => exact accounted.begin ready rfl
    | step party input =>
        exact accounted.call (fun _ => step_phase_of_ne) step_sampling _ ready.2.1 step_turn
    | sample =>
        refine accounted.sampler rfl none (fun _ none => by cases none) (.keeps rfl ?_)
        rw [idle_of_rests ready]
        rfl
    | advance input => exact accounted.sampler advance_phase _ ready.2.2 advance_turn

/-- Only callbacks call on the sampler's thread, in every reachable state. -/
theorem hooked_invariant : (system K).Invariant State.Hooked where
  start := by
    intro busy
    cases busy
  step := by
    intro state action _ hooked ready
    have begins : ∀ party phase, state.Begins party → (state.setPhase party phase).Hooked := by
      intro party phase begins busy
      by_cases own : party = .hook
      · exact begins.2 own
      · refine hooked ?_
        rwa [State.setPhase_of_ne _ _ (Ne.symm own)] at busy
    cases action with
    | create party suppliers => exact begins party _ ready
    | observe party worker callback => exact begins party _ ready.1
    | close party worker => exact begins party _ ready.1
    | closeRuntime party => exact begins party _ ready
    | step party input =>
        intro busy
        change (step state party input).sampling.inCallback
        rw [step_sampling]
        by_cases own : party = .hook
        · subst own
          exact hooked ready.1
        · refine hooked ?_
          change ((step state party input).phase .hook).busy at busy
          rwa [step_phase_of_ne (Ne.symm own)] at busy
    | sample =>
        intro busy
        have inside := hooked busy
        rw [idle_of_rests ready] at inside
        cases inside
    | advance input =>
        intro busy
        change ((advance state input).phase .hook).busy at busy
        rw [advance_phase, ready.2.1] at busy
        cases busy

end Steps

end KtBridge.Sampler
