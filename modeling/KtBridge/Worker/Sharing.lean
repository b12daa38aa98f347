import KtBridge.Worker.Progress

/-! # The clones of the Core reference

Whoever may still clone the reference has a clone, so once the last one is unwrapped
there is no other and none comes back: Core is finalized at most once.
-/

namespace KtBridge.Worker

open Foundation

/-- Whether the holder of the shutdown lock has the reference at this step. -/
def Step.holds : Step → Bool
  | locked => false
  | finishing => false
  | returning _ => false
  | _ => true

/-- Who surely has a clone, and what that says about `finalize_shutdown`. -/
structure State.Shared (state : State) : Prop where
  stored : state.worker ≠ .finalized → .state ∈ state.refs
  starting : state.launching → .start ∈ state.refs
  held : ∀ job step, state.shutdownLock = some (job, step) → step.holds → .job ∈ state.refs
  once : state.finalizeRuns = 0 ∨ state.finalizeRuns = 1 ∧ state.refs = ∅
  done : state.finalizeDone ≤ state.finalizeRuns
  finishing : ∀ job, state.shutdownLock = some (job, .finishing) →
    state.finalizeRuns = 1 ∧ state.finalizeDone = 0

namespace State.Shared

variable {state next : State}

/-- While there is a clone, Core was not unwrapped. -/
theorem unrun (shared : state.Shared) {holder : Holder} (held : holder ∈ state.refs) :
    state.finalizeRuns = 0 := by
  apply shared.once.resolve_right
  intro ran
  rw [ran.2] at held
  exact absurd held (Finset.notMem_empty holder)

/-- A step that neither begins nor completes `finalize_shutdown`. -/
theorem frame (shared : state.Shared) (stored : next.worker ≠ .finalized → .state ∈ next.refs)
    (starting : next.launching → .start ∈ next.refs)
    (held : ∀ job step, next.shutdownLock = some (job, step) → step.holds → .job ∈ next.refs)
    (refs : next.refs ⊆ state.refs ∨ state.finalizeRuns = 0)
    (runs : next.finalizeRuns = state.finalizeRuns) (done : next.finalizeDone = state.finalizeDone)
    (finishing : ∀ job, next.shutdownLock = some (job, .finishing) →
      state.shutdownLock = some (job, .finishing)) : next.Shared := by
  refine ⟨stored, starting, held, ?_, ?_, ?_⟩
  · rw [runs]
    rcases refs with fewer | unrun
    · rcases shared.once with never | ⟨ran, empty⟩
      · exact Or.inl never
      · rw [empty] at fewer
        exact Or.inr ⟨ran, Finset.subset_empty.mp fewer⟩
    · exact Or.inl unrun
  · rw [runs, done]
    exact shared.done
  · rw [runs, done]
    exact fun job now => shared.finishing job (finishing job now)

/-- The holder of the shutdown lock goes on with the references as they are. -/
theorem goOn (shared : state.Shared) {job : Job} {step : Step} (after : Step)
    (held : state.shutdownLock = some (job, step)) (holds : after.holds → step.holds)
    (unfinished : after ≠ .finishing) (lock : next.shutdownLock = some (job, after))
    (worker : next.worker = state.worker) (stateLock : next.stateLock = state.stateLock)
    (refs : next.refs = state.refs) (runs : next.finalizeRuns = state.finalizeRuns)
    (done : next.finalizeDone = state.finalizeDone) : next.Shared := by
  refine shared.frame ?_ ?_ ?_ (Or.inl (by rw [refs])) runs done ?_
  · rw [worker, refs]
    exact shared.stored
  · simp only [State.launching, stateLock, refs]
    exact shared.starting
  · intro other value there has
    rw [lock] at there
    cases there
    rw [refs]
    exact shared.held job step held (holds has)
  · intro other there
    rw [lock] at there
    cases there
    exact absurd rfl unfinished

/-- A step outside the shutdown lock that keeps the clones the worker, `start` and the
lock's holder have. -/
theorem others (shared : state.Shared) (worker : next.worker = state.worker)
    (launching : next.launching → state.launching)
    (lock : next.shutdownLock = state.shutdownLock)
    (kept : ∀ holder ∈ state.refs, holder = .state ∨ holder = .start ∨ holder = .job →
      holder ∈ next.refs)
    (refs : next.refs ⊆ state.refs ∨ state.finalizeRuns = 0)
    (runs : next.finalizeRuns = state.finalizeRuns)
    (done : next.finalizeDone = state.finalizeDone) : next.Shared := by
  refine shared.frame ?_ ?_ ?_ refs runs done ?_
  · intro open_
    rw [worker] at open_
    exact kept _ (shared.stored open_) (Or.inl rfl)
  · intro busy
    exact kept _ (shared.starting (launching busy)) (Or.inr (Or.inl rfl))
  · intro job step there has
    rw [lock] at there
    exact kept _ (shared.held job step there has) (Or.inr (Or.inr rfl))
  · rw [lock]
    exact fun _ there => there

/-- `finalize` tries to take Core out of its last reference. -/
theorem tryUnwrap (shared : state.Shared) (progress : state.Progress) {job : Job}
    (ready : guard state (.tryUnwrap job)) : (effect state (.tryUnwrap job)).Shared := by
  have held : state.shutdownLock = some (job, .unwrapping) := ready
  have facts := progress.facts _ _ held
  by_cases unshared : state.refs = {.job}
  · have unrun := shared.unrun (shared.held job _ held rfl)
    have done := shared.done
    simp only [effect, unshared, ↓reduceIte]
    refine ⟨fun open_ => absurd facts.2 open_, ?_, ?_, ?_, ?_, ?_⟩
    · intro busy
      have idle := facts.1.1.2.1
      rw [show state.launching from busy] at idle
      cases idle
    · intro other step there has
      cases there
      cases has
    · right
      exact ⟨by rw [unrun], rfl⟩
    · exact Nat.le_succ_of_le done
    · intro other there
      refine ⟨by rw [unrun], ?_⟩
      rw [unrun] at done
      exact Nat.le_zero.mp done
  · simp only [effect, unshared, ↓reduceIte]
    exact shared.goOn .sharing held (fun _ => rfl) (by simp) rfl rfl rfl rfl rfl rfl

/-- A shutdown takes the reference, or finds it gone. -/
theorem readState (shared : state.Shared) {call : Nat} (ready : guard state (.readState call)) :
    (effect state (.readState call)).Shared := by
  have idle := State.Sound.idle_of_unlocked ready.2
  have busy : ∀ {Claim : Prop}, state.launching → Claim := by
    intro Claim launching
    rw [launching] at idle
    cases idle
  cases worker : state.worker with
  | running started =>
      have stored := shared.stored (by rw [worker]; simp)
      simp only [effect, worker]
      exact shared.frame (fun _ => Finset.mem_insert_of_mem stored) busy
        (fun _ _ _ _ => Finset.mem_insert_self ..) (Or.inr (shared.unrun stored)) rfl rfl
        (by intro _ impossible; cases impossible)
  | draining =>
      have stored := shared.stored (by rw [worker]; simp)
      simp only [effect, worker]
      exact shared.frame (fun _ => Finset.mem_insert_of_mem stored) busy
        (fun _ _ _ _ => Finset.mem_insert_self ..) (Or.inr (shared.unrun stored)) rfl rfl
        (by intro _ impossible; cases impossible)
  | finalized =>
      simp only [effect, worker]
      exact shared.goOn (.returning (.ok ())) ready.1 (by decide) (by decide) rfl rfl rfl rfl rfl rfl

/-- The worker is finalized by the holder of the shutdown lock, who keeps a clone. -/
theorem finalize (shared : state.Shared) {job : Job} {step after : Step}
    (held : state.shutdownLock = some (job, step)) (holds : step.holds)
    (unlocked : state.stateLock = none) (unfinished : after ≠ .finishing) :
    (state.finalize.goOn job after).Shared := by
  have idle := State.Sound.idle_of_unlocked unlocked
  refine shared.frame (fun open_ => absurd rfl open_) ?_ ?_ (Or.inl (Finset.erase_subset _ _))
    rfl rfl ?_
  · intro launching
    rw [show state.launching from launching] at idle
    cases idle
  · intro other value _ _
    exact Finset.mem_erase.mpr ⟨(by simp), shared.held job step held holds⟩
  · intro other there
    cases there
    exact absurd rfl unfinished

/-- The holder of the shutdown lock drops its clone. -/
theorem dropJob (shared : state.Shared) (worker : next.worker = state.worker)
    (stateLock : next.stateLock = state.stateLock)
    (lock : ∀ job step, next.shutdownLock = some (job, step) → step = .returning (.ok ()))
    (refs : next.refs = state.refs.erase .job) (runs : next.finalizeRuns = state.finalizeRuns)
    (done : next.finalizeDone = state.finalizeDone) : next.Shared := by
  refine shared.frame ?_ ?_ ?_ (Or.inl ?_) runs done ?_
  · intro open_
    rw [worker] at open_
    rw [refs]
    exact Finset.mem_erase.mpr ⟨(by simp), shared.stored open_⟩
  · intro busy
    simp only [State.launching, stateLock] at busy
    rw [refs]
    exact Finset.mem_erase.mpr ⟨(by simp), shared.starting busy⟩
  · intro job step there has
    rw [lock job step there] at has
    cases has
  · rw [refs]
    exact Finset.erase_subset _ _
  · intro job there
    cases lock job _ there

/-- A step taken under the state lock by `start` or `free`, which drop a clone at most
when they are done with it. -/
theorem underLock (shared : state.Shared) (extra : Holder) (other : extra ≠ .job)
    (stored : next.worker ≠ .finalized → .state ∈ next.refs)
    (starting : next.launching → .start ∈ next.refs)
    (lock : next.shutdownLock = state.shutdownLock)
    (kept : ∀ holder ∈ state.refs, holder ≠ .state → holder ≠ extra → holder ∈ next.refs)
    (refs : next.refs ⊆ state.refs ∨ state.finalizeRuns = 0)
    (runs : next.finalizeRuns = state.finalizeRuns)
    (done : next.finalizeDone = state.finalizeDone) : next.Shared := by
  refine shared.frame stored starting ?_ refs runs done ?_
  · intro job step there has
    rw [lock] at there
    exact kept _ (shared.held job step there has) (by simp) other.symm
  · rw [lock]
    exact fun _ there => there

/-- `start` takes the reference, or finds nothing to do. -/
theorem start (shared : state.Shared) {call : Nat} : (effect state (.start call)).Shared := by
  cases worker : state.worker with
  | running started =>
      cases started with
      | false =>
          have stored := shared.stored (by rw [worker]; simp)
          simp only [effect, worker]
          exact shared.underLock .start (by simp) (fun _ => Finset.mem_insert_of_mem stored)
            (fun _ => Finset.mem_insert_self ..) rfl
            (fun _ held _ _ => Finset.mem_insert_of_mem held) (Or.inr (shared.unrun stored)) rfl rfl
      | true =>
          simp only [effect, worker]
          exact shared.others worker.symm id rfl (fun _ held _ => held)
            (Or.inl (Finset.Subset.refl _)) rfl rfl
  | _ =>
      simp only [effect, worker]
      exact shared.others worker.symm id rfl (fun _ held _ => held)
        (Or.inl (Finset.Subset.refl _)) rfl rfl

/-- `free` moves the reference out of the state. -/
theorem free (shared : state.Shared) : (effect state .free).Shared := by
  by_cases finalized : state.worker = .finalized
  · simp only [effect, finalized, ↓reduceIte]
    exact shared.underLock .free (by intro impossible; cases impossible)
      (fun open_ => absurd rfl open_) (by intro impossible; cases impossible) rfl
      (fun _ held _ _ => held) (Or.inl (Finset.Subset.refl _)) rfl rfl
  · simp only [effect, finalized, ↓reduceIte]
    refine shared.underLock .free (by intro impossible; cases impossible)
      (fun open_ => absurd rfl open_) (by intro impossible; cases impossible) rfl ?_
      (Or.inr (shared.unrun (shared.stored finalized))) rfl rfl
    intro holder held notState _
    exact Finset.mem_insert_of_mem (Finset.mem_erase.mpr ⟨notState, held⟩)

/-- Every step keeps the clones accounted for. -/
theorem step {action : Action} (shared : state.Shared) (progress : state.Progress)
    (ready : guard state action) : (effect state action).Shared := by
  cases action with
  | start call => exact shared.start
  | storeLivePumps call =>
      refine shared.others rfl ?_ rfl (fun _ held _ => held) (Or.inl (Finset.Subset.refl _)) rfl rfl
      intro _
      simp only [State.launching, show state.stateLock = some (.starting call) from ready]
  | spawn call kind kinds =>
      have busy : state.stateLock = some (.spawning call (kind :: kinds)) := ready
      have launching : state.launching := by simp only [State.launching, busy]
      exact shared.others rfl (fun _ => launching) rfl
        (fun _ held _ => Finset.mem_insert_of_mem held)
        (Or.inr (shared.unrun (shared.starting launching))) rfl rfl
  | startReturn call =>
      refine shared.underLock .start (by intro impossible; cases impossible) ?_
        (by intro impossible; cases impossible) rfl
        (fun _ held _ other => Finset.mem_erase.mpr ⟨other, held⟩)
        (Or.inl (Finset.erase_subset _ _)) rfl rfl
      exact fun open_ => Finset.mem_erase.mpr ⟨(by simp), shared.stored open_⟩
  | free => exact shared.free
  | freeReturn =>
      refine shared.underLock .free (by intro impossible; cases impossible) ?_
        (by intro impossible; cases impossible) rfl
        (fun _ held _ other => Finset.mem_erase.mpr ⟨other, held⟩)
        (Or.inl (Finset.erase_subset _ _)) rfl rfl
      exact fun open_ => Finset.mem_erase.mpr ⟨(by simp), shared.stored open_⟩
  | exit pump exit =>
      refine shared.others rfl id rfl ?_ (Or.inl (Finset.erase_subset _ _)) rfl rfl
      intro holder held guarded
      refine Finset.mem_erase.mpr ⟨?_, held⟩
      rcases guarded with rfl | rfl | rfl <;> simp
  | borrow call =>
      obtain ⟨_, reachable, _⟩ := ready
      have open_ : state.worker ≠ .finalized := by
        intro finalized
        rw [State.core, finalized] at reachable
        cases reachable
      exact shared.others rfl id rfl (fun _ held _ => Finset.mem_insert_of_mem held)
        (Or.inr (shared.unrun (shared.stored open_))) rfl rfl
  | giveBack call =>
      refine shared.others rfl id rfl ?_ (Or.inl (Finset.erase_subset _ _)) rfl rfl
      intro holder held guarded
      refine Finset.mem_erase.mpr ⟨?_, held⟩
      rcases guarded with rfl | rfl | rfl <;> simp
  | acquire job =>
      refine shared.frame shared.stored shared.starting ?_ (Or.inl (Finset.Subset.refl _)) rfl rfl
        (by intro _ impossible; cases impossible)
      intro other step there has
      cases there
      cases has
  | readState call => exact shared.readState ready
  | initiate job started =>
      refine shared.goOn _ ready (fun _ => rfl) ?_ rfl rfl rfl rfl rfl rfl
      split <;> simp
  | discard job => exact shared.finalize ready.1 rfl ready.2 (by simp)
  | dropCore job =>
      refine shared.dropJob rfl rfl ?_ rfl rfl rfl
      intro other step there
      cases there
      rfl
  | loadLivePumps job expired =>
      refine shared.goOn _ ready (fun _ => rfl) ?_ rfl rfl rfl rfl rfl rfl
      split
      · simp
      · split <;> simp
  | wake job => exact shared.goOn .polling ready (fun _ => rfl) (by simp) rfl rfl rfl rfl rfl rfl
  | spawnBackground call =>
      exact shared.goOn (.returning (.error notDrained)) ready (by decide) (by decide) rfl rfl rfl rfl rfl rfl
  | check job =>
      refine shared.goOn _ ready.1 (fun _ => rfl) ?_ rfl rfl rfl rfl rfl rfl
      split <;> simp
  | close job => exact shared.finalize ready.1 rfl ready.2 (by simp)
  | tryUnwrap job => exact shared.tryUnwrap progress ready
  | compareDeadline job expired =>
      refine shared.goOn _ ready (fun _ => rfl) ?_ rfl rfl rfl rfl rfl rfl
      split <;> simp
  | retry job => exact shared.goOn .unwrapping ready (fun _ => rfl) (by simp) rfl rfl rfl rfl rfl rfl
  | restore job =>
      have facts := progress.facts _ _ ready.1
      have unrun := shared.unrun (shared.held job _ ready.1 rfl)
      refine shared.frame (fun _ => Finset.mem_insert_self ..) ?_ ?_ (Or.inr unrun) rfl rfl
        (by intro _ impossible; cases impossible)
      · intro busy
        have idle := facts.1.1.2.1
        rw [show state.launching from busy] at idle
        cases idle
      · intro other step there has
        cases there
        cases has
  | finishFinalize job =>
      have ended := shared.finishing job ready
      refine ⟨shared.stored, shared.starting, ?_, shared.once, ?_, (by intro _ impossible; cases impossible)⟩
      · intro other step there has
        cases there
        cases has
      · simp only [effect, State.goOn]
        omega
  | finish job result => exact shared.dropJob rfl rfl (by intros; contradiction) rfl rfl rfl
  | observe call =>
      simp only [effect]
      split <;> exact shared.others rfl id rfl (fun _ held _ => held)
        (Or.inl (Finset.Subset.refl _)) rfl rfl
  | takeCore call =>
      by_cases finalized : state.worker = .finalized
      · simp only [effect, finalized, ↓reduceIte]
        exact shared.goOn (.returning (.ok ())) ready.1 (by decide) (by decide) rfl rfl rfl rfl rfl rfl
      · have stored := shared.stored finalized
        simp only [effect, finalized, ↓reduceIte]
        exact shared.frame (fun _ => Finset.mem_insert_of_mem stored)
          (fun busy => Finset.mem_insert_of_mem (shared.starting busy))
          (fun _ _ _ _ => Finset.mem_insert_self ..) (Or.inr (shared.unrun stored)) rfl rfl
          (by intro _ impossible; cases impossible)
  | cancel call =>
      simp only [effect]
      split
      · exact shared.others rfl id rfl (fun _ held _ => held) (Or.inl (Finset.Subset.refl _)) rfl rfl
      · exact shared.dropJob rfl rfl (by simp) rfl rfl rfl
  | _ =>
      exact shared.others rfl id rfl (fun _ held _ => held) (Or.inl (Finset.Subset.refl _)) rfl rfl

end State.Shared

end KtBridge.Worker
