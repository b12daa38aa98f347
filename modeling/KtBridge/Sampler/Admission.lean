import KtBridge.Sampler.Order
import Mathlib.Data.List.DropRight

/-! # What the gates are told

A worker's gate shows what its controllers decide about the readings they have seen: each kind has
the controller of its own settings or none, and an update that the native side refuses leaves the
gate as it was. -/

namespace KtBridge.Sampler

open Foundation GuardedSystem Resource Slots

/-- Each bit is that of its kind. -/
theorem allows_bits (allowed : SlotKind → Bool) (kind : SlotKind) :
    allows (bits allowed) kind = allowed kind := by
  simp only [bits, kinds, List.foldl]
  cases workflow : allowed .workflow <;> cases activity : allowed .activity <;>
    cases localActivity : allowed .localActivity <;> cases nexus : allowed .nexus <;>
      cases kind <;> simp only [workflow, activity, localActivity, nexus] <;> decide

/-- The native side takes no other bits. -/
theorem bits_le (allowed : SlotKind → Bool) : bits allowed ≤ 15 := by
  simp only [bits, kinds, List.foldl]
  cases allowed .workflow <;> cases allowed .activity <;> cases allowed .localActivity <;>
    cases allowed .nexus <;> decide

variable {K : Type}

/-- What a worker's controllers have seen, and whether the native side was told. -/
def updates (worker : Worker) (log : List (Event K)) : List (Reading K × Bool) :=
  log.filterMap fun
    | .updateResource other reading accepted =>
        if other = worker then some (reading, accepted) else none
    | _ => none

/-- What they had seen when the native side was told last. -/
def told (updates : List (Reading K × Bool)) : List (Reading K) :=
  (updates.rdropWhile fun update => !update.2).map Prod.fst

theorem updates_append (worker : Worker) (log more : List (Event K)) :
    updates worker (log ++ more) = updates worker log ++ updates worker more :=
  List.filterMap_append

variable [Field K] [LinearOrder K] [IsStrictOrderedRing K]

/-- The controllers of a worker after what they have seen. -/
def controllers (suppliers : Suppliers K) (readings : List (Reading K)) (kind : SlotKind) :
    Option (Controlled K) :=
  (suppliers kind).map fun options =>
    ⟨options, JvmResourceController.run options .new (readings.map fun reading => reading.sample kind)⟩

/-- What they decide. -/
def decision (suppliers : Suppliers K) (readings : List (Reading K)) (kind : SlotKind) : Bool :=
  (controllers suppliers readings kind).any fun controlled => controlled.controller.allow

theorem controllers_update (suppliers : Suppliers K) (readings : List (Reading K))
    (reading : Reading K) (worker : ResourceWorker K)
    (same : worker.controllers = controllers suppliers readings) :
    (worker.update reading).controllers = controllers suppliers (readings ++ [reading]) := by
  funext kind
  simp only [ResourceWorker.update, same, controllers, JvmResourceController.run, Option.map_map,
    List.map_append, List.foldl_append]
  rfl

theorem mask_eq (suppliers : Suppliers K) (readings : List (Reading K)) (worker : ResourceWorker K)
    (same : worker.controllers = controllers suppliers readings) :
    worker.mask = bits (decision suppliers readings) := by
  have decides : worker.allow = decision suppliers readings := by
    funext kind
    rw [ResourceWorker.allow, same]
    rfl
  rw [ResourceWorker.mask, decides]

/-- Nothing is allowed before the first update. -/
theorem decision_nil (suppliers : Suppliers K) : bits (decision suppliers []) = 0 := by
  have none : decision suppliers [] = fun _ => false := by
    funext kind
    simp only [decision, controllers]
    cases suppliers kind <;> rfl
  rw [none]
  rfl

/-- What is known of the controllers of the workers, and of their gates. -/
structure Told (logged : State K × List (Event K)) : Prop where
  updating : ∀ party worker resource, logged.1.phase party = .updating worker resource →
    worker ∉ logged.1.listed ∧ updates worker logged.2 = [] ∧
      ∃ suppliers, .register worker suppliers ∈ logged.2 ∧ resource = .new suppliers
  listed : ∀ worker ∈ logged.1.listed, ∃ suppliers, .register worker suppliers ∈ logged.2 ∧
    (logged.1.resource worker).controllers =
      controllers suppliers ((updates worker logged.2).map Prod.fst)
  gate : ∀ worker suppliers, .register worker suppliers ∈ logged.2 →
    logged.1.gate worker = bits (decision suppliers (told (updates worker logged.2)))
  unregistered : ∀ worker, (∀ suppliers, .register worker suppliers ∉ logged.2) →
    logged.1.gate worker = 0 ∧ updates worker logged.2 = []
  one : ∀ worker suppliers others, .register worker suppliers ∈ logged.2 →
    .register worker others ∈ logged.2 → suppliers = others

section Events

variable {state next : State K} {log : List (Event K)} {worker : Worker}

omit [Field K] [LinearOrder K] [IsStrictOrderedRing K]

theorem updates_self (reading : Reading K) (accepted : Bool) :
    updates worker [.updateResource worker reading accepted] = [(reading, accepted)] := by
  simp [updates]

theorem updates_other {other : Worker} (different : other ≠ worker) (reading : Reading K)
    (accepted : Bool) : updates worker [.updateResource other reading accepted] = [] := by
  simp [updates, different]

theorem told_accepted (earlier : List (Reading K × Bool)) (reading : Reading K) :
    told (earlier ++ [(reading, true)]) = earlier.map Prod.fst ++ [reading] := by
  simp [told]

theorem told_refused (earlier : List (Reading K × Bool)) (reading : Reading K) :
    told (earlier ++ [(reading, false)]) = told earlier := by
  simp [told]

end Events

section Steps

variable {state next : State K} {log : List (Event K)}

/-- A step that updates nothing and registers nobody. -/
theorem Told.same (known : Told (state, log)) {more : List (Event K)}
    (updating : ∀ party worker resource, next.phase party = .updating worker resource →
      state.phase party = .updating worker resource)
    (silent : ∀ worker, updates worker more = [] ∧ ∀ suppliers, .register worker suppliers ∉ more)
    (gate : next.gate = state.gate)
    (kept : ∀ worker, (next.resource worker).controllers = (state.resource worker).controllers)
    (listed : ∀ worker ∈ next.listed, worker ∈ state.listed) : Told (next, log ++ more) := by
  have seen : ∀ worker, updates worker (log ++ more) = updates worker log := by
    intro worker
    rw [updates_append, (silent worker).1, List.append_nil]
  have registered : ∀ {worker suppliers}, .register worker suppliers ∈ log ++ more →
      .register worker suppliers ∈ log := by
    intro worker suppliers member
    exact (List.mem_append.mp member).resolve_right ((silent worker).2 suppliers)
  refine
    { updating := ?_
      listed := ?_
      gate := ?_
      unregistered := ?_
      one := ?_ }
  · intro party worker resource updates
    obtain ⟨unlisted, first, suppliers, member, new⟩ :=
      known.updating party worker resource (updating party worker resource updates)
    exact ⟨fun there => unlisted (listed worker there), (seen worker).trans first, suppliers,
      List.mem_append_left _ member, new⟩
  · intro worker member
    obtain ⟨suppliers, registers, has⟩ := known.listed worker (listed worker member)
    exact ⟨suppliers, List.mem_append_left _ registers, by rw [kept, has, seen]⟩
  · intro worker suppliers member
    rw [gate, seen]
    exact known.gate worker suppliers (registered member)
  · intro worker absent
    rw [gate, seen]
    exact known.unregistered worker fun suppliers member =>
      absent suppliers (List.mem_append_left _ member)
  · intro worker suppliers others one two
    exact known.one worker suppliers others (registered one) (registered two)

/-- A worker's controllers see a reading, and its gate is told unless the native side refuses. -/
theorem Told.update (known : Told (state, log)) {worker : Worker} {suppliers : Suppliers K}
    {resource : ResourceWorker K} {reading : Reading K} {accepted : Bool}
    (registered : .register worker suppliers ∈ log)
    (has : resource.controllers = controllers suppliers ((updates worker log).map Prod.fst))
    (updating : ∀ party other resource, next.phase party = .updating other resource →
      state.phase party = .updating other resource ∧ other ≠ worker)
    (gate : next.gate = if accepted then
      Function.update state.gate worker (resource.update reading).mask else state.gate)
    (sees : worker ∈ next.listed →
      (next.resource worker).controllers = (resource.update reading).controllers)
    (kept : ∀ other, other ≠ worker → next.resource other = state.resource other)
    (listed : ∀ other ∈ next.listed, other ∈ state.listed ∨ other = worker) :
    Told (next, log ++ [.updateResource worker reading accepted]) := by
  have seen : ∀ other, other ≠ worker →
      updates other (log ++ [.updateResource worker reading accepted]) = updates other log := by
    intro other different
    rw [updates_append, updates_other (Ne.symm different), List.append_nil]
  have own : updates worker (log ++ [.updateResource worker reading accepted]) =
      updates worker log ++ [(reading, accepted)] := by
    rw [updates_append, updates_self]
  have before : ∀ {other others}, .register other others ∈
      log ++ [.updateResource worker reading accepted] → .register other others ∈ log := by
    intro other others member
    exact (List.mem_append.mp member).resolve_right (by simp)
  have changed := controllers_update suppliers _ reading resource has
  refine
    { updating := ?_
      listed := ?_
      gate := ?_
      unregistered := ?_
      one := ?_ }
  · intro party other resource updates
    obtain ⟨same, different⟩ := updating party other resource updates
    obtain ⟨unlisted, first, others, member, new⟩ := known.updating party other resource same
    refine ⟨fun there => ?_, (seen other different).trans first, others,
      List.mem_append_left _ member, new⟩
    exact (listed other there).elim unlisted different
  · intro other member
    by_cases same : other = worker
    · subst same
      refine ⟨suppliers, List.mem_append_left _ registered, ?_⟩
      rw [sees member, changed, own, List.map_append]
      rfl
    · obtain ⟨others, registers, still⟩ :=
        known.listed other ((listed other member).resolve_right same)
      exact ⟨others, List.mem_append_left _ registers,
        by rw [kept other same, still, seen other same]⟩
  · intro other others member
    rw [gate]
    by_cases same : other = worker
    · subst same
      obtain rfl := known.one other others suppliers (before member) registered
      rw [own]
      cases accepted with
      | true =>
          rw [if_pos rfl, Function.update_self, told_accepted]
          exact mask_eq _ _ _ changed
      | false =>
          rw [if_neg Bool.false_ne_true, told_refused]
          exact known.gate other others registered
    · rw [seen other same]
      have still := known.gate other others (before member)
      split
      · rw [Function.update_of_ne same, still]
      · exact still
  · intro other absent
    have different : other ≠ worker := by
      intro same
      exact absent suppliers (List.mem_append_left _ (same ▸ registered))
    have still := known.unregistered other fun others member =>
      absent others (List.mem_append_left _ member)
    rw [gate, seen other different]
    refine ⟨?_, still.2⟩
    split
    · rw [Function.update_of_ne different, still.1]
    · exact still.1
  · intro other others more one two
    exact known.one other others more (before one) (before two)

/-- A worker is registered. -/
theorem Told.register (known : Told (state, log)) {worker : Worker} {suppliers : Suppliers K}
    (fresh : ∀ others, .register worker others ∉ log) (unlisted : worker ∉ state.listed)
    (updating : ∀ party other resource, next.phase party = .updating other resource →
      state.phase party = .updating other resource ∨ other = worker ∧ resource = .new suppliers)
    (gate : next.gate = state.gate) (kept : next.resource = state.resource)
    (listed : next.listed = state.listed) : Told (next, log ++ [.register worker suppliers]) := by
  have seen : ∀ other, updates other (log ++ [.register worker suppliers]) = updates other log := by
    intro other
    rw [updates_append]
    exact List.append_nil _
  have first := known.unregistered worker fresh
  refine
    { updating := ?_
      listed := ?_
      gate := ?_
      unregistered := ?_
      one := ?_ }
  · intro party other resource updates
    rw [seen, listed]
    rcases updating party other resource updates with same | ⟨rfl, new⟩
    · obtain ⟨absent, none, others, member, new⟩ := known.updating party other resource same
      exact ⟨absent, none, others, List.mem_append_left _ member, new⟩
    · exact ⟨unlisted, first.2, suppliers, by simp, new⟩
  · intro other member
    rw [listed] at member
    obtain ⟨others, registers, has⟩ := known.listed other member
    exact ⟨others, List.mem_append_left _ registers, by rw [kept, has, seen]⟩
  · intro other others member
    rw [gate, seen]
    rcases List.mem_append.mp member with before | now
    · exact known.gate other others before
    · cases List.mem_singleton.mp now
      rw [first.1, first.2]
      exact (decision_nil suppliers).symm
  · intro other absent
    rw [gate, seen]
    exact known.unregistered other fun others member =>
      absent others (List.mem_append_left _ member)
  · intro other others more one two
    rcases List.mem_append.mp one with before | now <;>
      rcases List.mem_append.mp two with earlier | new
    · exact known.one other others more before earlier
    · cases List.mem_singleton.mp new
      exact absurd before (fresh others)
    · cases List.mem_singleton.mp now
      exact absurd earlier (fresh more)
    · cases List.mem_singleton.mp now
      cases List.mem_singleton.mp new
      rfl

end Steps

section Calls

variable {state : State K} {log : List (Event K)} {party : Party} {input : Input K}

/-- What a call changes in the controllers and the gates, unless it updates. -/
theorem step_gate (unhurried : ∀ worker resource, state.phase party ≠ .updating worker resource) :
    (step state party input).gate = state.gate ∧
      (∀ worker, ((step state party input).resource worker).controllers =
        (state.resource worker).controllers) ∧
      ∀ worker ∈ (step state party input).listed, worker ∈ state.listed := by
  cases here : state.phase party with
  | updating worker resource => exact absurd here (unhurried worker resource)
  | observing worker callback =>
      simp only [step, here]
      split
      · refine ⟨rfl, fun other => ?_, fun _ member => member⟩
        by_cases same : other = worker
        · subst same
          simp [State.setPhase, State.setResource]
        · simp [State.setPhase, State.setResource, Function.update_of_ne same]
      · exact ⟨rfl, fun _ => rfl, fun _ member => member⟩
  | removing worker failed =>
      simp only [step, here]
      exact ⟨rfl, fun _ => rfl, fun _ member => List.mem_of_mem_erase member⟩
  | shutting =>
      simp only [step, here]
      simp [State.setPhase]
  | _ =>
      simp only [step, here]
      (try split) <;> (try split)
      all_goals exact ⟨by trivial, fun _ => by trivial, fun _ member => member⟩

omit [Field K] [LinearOrder K] [IsStrictOrderedRing K] in
/-- A call that neither updates nor registers reports neither. -/
theorem silent_of_phase {phase : Phase K} {closed : Bool}
    (unhurried : ∀ worker resource, phase ≠ .updating worker resource)
    (done : ∀ worker suppliers, phase ≠ .registering worker suppliers) (worker : Worker) :
    updates worker (phase.reports closed input) = [] ∧
      ∀ suppliers, .register worker suppliers ∉ phase.reports closed input := by
  cases phase with
  | updating other resource => exact absurd rfl (unhurried other resource)
  | registering other suppliers => exact absurd rfl (done other suppliers)
  | _ => simp [Phase.reports, updates]

/-- A step of a call keeps what the others do. -/
theorem updating_of_step (arrives : ∀ worker resource,
      (step state party input).phase party ≠ .updating worker resource) {other : Party}
    {worker : Worker} {resource : ResourceWorker K}
    (now : (step state party input).phase other = .updating worker resource) :
    other ≠ party ∧ state.phase other = .updating worker resource := by
  have different : other ≠ party := fun same => arrives worker resource (same ▸ now)
  exact ⟨different, (step_phase_of_ne different).symm.trans now⟩

/-- A step of a call. -/
theorem Told.step (known : Told (state, log)) (kept : Lifetime.Kept (lifetimes (state, log)))
    (listing : Listing (state, log)) (busy : (state.phase party).busy) :
    Told (Sampler.step state party input,
      log ++ (state.phase party).reports state.closed input) := by
  have flow := step_flow input busy
  cases here : state.phase party with
  | updating worker resource =>
      obtain ⟨unlisted, none, suppliers, registered, rfl⟩ := known.updating party worker _ here
      have leaves : ∀ other resource,
          (Sampler.step state party input).phase party ≠ .updating other resource := by
        intro other resource now
        rw [here, now] at flow
        cases flow
      have new : (ResourceWorker.new suppliers).controllers =
          controllers suppliers ((updates worker log).map Prod.fst) := by
        rw [none]
        rfl
      refine known.update registered new ?_ ?_ ?_ ?_ ?_
      · intro other found resource now
        obtain ⟨different, before⟩ := updating_of_step leaves now
        refine ⟨before, fun same => different ?_⟩
        exact @keepers_same _ _ _ _ worker _ kept (by rw [before, same]; rfl) (by rw [here]; rfl)
      · simp only [Sampler.step, here]
        split <;> rfl
      · intro member
        simp only [Sampler.step, here] at member ⊢
        split at member
        · next accepted =>
            rw [if_pos accepted]
            simp [State.setPhase, State.list, State.setResource]
        · exact absurd member unlisted
      · intro other different
        simp only [Sampler.step, here]
        split
        · exact Function.update_of_ne different ..
        · rfl
      · intro other member
        rcases step_listed state party input with same | ⟨found, resource, updates, listed⟩ |
            ⟨_, _, removes, _⟩ | ⟨shuts, _⟩
        · exact .inl (same ▸ member)
        · rw [here] at updates
          cases updates
          rw [listed] at member
          split at member
          · exact .inl member
          · exact (List.mem_append.mp member).imp id List.mem_singleton.mp
        · cases here.symm.trans removes
        · cases here.symm.trans shuts
  | registering worker suppliers =>
      have fresh := listing.fresh party worker suppliers here
      have unhurried : ∀ worker resource, state.phase party ≠ .updating worker resource := by
        intro found resource impossible
        cases here.symm.trans impossible
      have frame := @step_gate K _ _ _ state party input unhurried
      by_cases controlled : !state.closed && kinds.any fun kind => (suppliers kind).isSome
      · have unlisted : worker ∉ state.listed := by
          intro member
          obtain ⟨others, registered, _⟩ := known.listed worker member
          exact fresh others registered
        rw [Phase.reports, if_pos controlled]
        rw [Bool.and_eq_true, Bool.not_eq_true'] at controlled
        refine known.register fresh unlisted ?_ ?_ ?_ ?_
        · intro other found resource now
          by_cases own : other = party
          · rw [own] at now
            rw [here, now] at flow
            cases flow
            exact .inr ⟨rfl, rfl⟩
          · exact .inl ((step_phase_of_ne own).symm.trans now)
        all_goals simp only [Sampler.step, here, controlled, Bool.false_eq_true, ↓reduceIte]; rfl
      · rw [Phase.reports, if_neg controlled]
        refine known.same ?_ (fun _ => ⟨rfl, fun _ => List.not_mem_nil⟩) frame.1 frame.2.1 frame.2.2
        intro other found resource now
        refine (updating_of_step ?_ now).2
        intro found resource now
        rw [here, now] at flow
        cases flow with
        | controlled _ _ opened some => exact controlled (by rw [opened, some]; rfl)
  | _ =>
      all_goals
        have unhurried : ∀ worker resource, state.phase party ≠ .updating worker resource := by
          intro worker resource impossible
          cases here.symm.trans impossible
        have done : ∀ worker suppliers, state.phase party ≠ .registering worker suppliers := by
          intro worker suppliers impossible
          cases here.symm.trans impossible
        have frame := @step_gate K _ _ _ state party input unhurried
        rw [← here]
        refine known.same ?_ (silent_of_phase unhurried done) frame.1 frame.2.1 frame.2.2
        intro other found resource now
        refine (updating_of_step ?_ now).2
        intro found resource now
        rw [here, now] at flow
        cases flow

/-- What a step of the sampler changes, unless it updates. -/
theorem advance_gate (input : Input K) (unhurried : ∀ worker left deliveries,
      state.sampling ≠ .updating (worker :: left) deliveries) :
    (advance state input).gate = state.gate ∧ (advance state input).resource = state.resource ∧
      ∀ worker, updates worker (state.sampling.reports state.closed input) = [] ∧
        ∀ suppliers, .register worker suppliers ∉ state.sampling.reports state.closed input := by
  cases here : state.sampling with
  | updating left deliveries =>
      cases left with
      | nil => simp [advance, here, State.setSampling, State.leave, Sampling.reports, updates]
      | cons worker left => exact absurd here (unhurried worker left deliveries)
  | delivering deliveries =>
      cases deliveries <;> simp only [advance, here] <;> split <;>
        simp [State.setSampling, State.leave, Sampling.reports, updates, *]
  | _ =>
      simp only [advance, here]
      (try split) <;>
        simp [State.setSampling, State.leave, State.enter, Sampling.reports, updates]

/-- A step of the sampler. -/
theorem Told.advance (known : Told (state, log)) (listing : Listing (state, log)) :
    Told (Sampler.advance state input, log ++ state.sampling.reports state.closed input) := by
  obtain ⟨_, listed, _⟩ := advance_frame state input
  by_cases hurried :
      ∃ worker left deliveries, state.sampling = .updating (worker :: left) deliveries
  · obtain ⟨worker, left, deliveries, here⟩ := hurried
    have there := listing.left _ deliveries here worker List.mem_cons_self
    obtain ⟨suppliers, registered, has⟩ := known.listed worker there
    rw [here]
    refine known.update registered has ?_ ?_ ?_ ?_ ?_
    · intro party other resource now
      rw [advance_phase] at now
      refine ⟨now, fun same => (known.updating party other resource now).1 (same ▸ there)⟩
    · simp only [Sampler.advance, here]
      split
      · next none =>
          rw [none]
          rfl
      · next stats some =>
          rw [some]
          rfl
    · intro _
      simp only [Sampler.advance, here]
      split <;> simp [State.setSampling, State.setResource, State.tell]
    · intro other different
      simp only [Sampler.advance, here]
      split <;> exact Function.update_of_ne different ..
    · intro other member
      exact .inl (listed ▸ member)
  · have unhurried : ∀ worker left deliveries,
        state.sampling ≠ .updating (worker :: left) deliveries :=
      fun worker left deliveries here => hurried ⟨worker, left, deliveries, here⟩
    obtain ⟨gate, resource, silent⟩ := advance_gate input unhurried
    refine known.same ?_ silent gate (fun worker => by rw [resource])
      fun worker member => listed ▸ member
    intro party worker resource now
    rwa [advance_phase] at now

end Calls

/-- Whoever begins a call tells nobody. -/
theorem Told.begin {state : State K} {log : List (Event K)} (known : Told (state, log))
    (party : Party) {phase : Phase K}
    (idle : ∀ worker resource, phase ≠ .updating worker resource) :
    Told (state.setPhase party phase, log) := by
  rw [← List.append_nil log]
  refine known.same ?_ (fun _ => ⟨rfl, fun _ => List.not_mem_nil⟩) rfl (fun _ => rfl)
    fun _ member => member
  intro other worker resource now
  by_cases own : other = party
  · rw [own, State.setPhase_self] at now
    exact absurd now (idle worker resource)
  · rwa [State.setPhase_of_ne _ _ own] at now

theorem told_invariant : ((system K).logged events).Invariant Told where
  start :=
    { updating := fun _ _ _ holds => by cases holds
      listed := fun _ member => absurd member List.not_mem_nil
      gate := fun _ _ member => absurd member List.not_mem_nil
      unregistered := fun _ _ => ⟨rfl, rfl⟩
      one := fun _ _ _ member => absurd member List.not_mem_nil }
  step := by
    rintro ⟨state, log⟩ action reached known ready
    have listing := listing_invariant.reachable reached
    cases action with
    | create party | observe party | close party | closeRuntime party =>
        rw [effect_logged_of_silent log rfl]
        exact known.begin party fun _ _ impossible => by cases impossible
    | step party input => exact known.step (lifetimes_kept reached) listing ready.1
    | sample =>
        rw [effect_logged_of_silent log rfl]
        exact { known with }
    | advance input => exact known.advance listing

/-- What a kind's controller allows, it allows below its own target. -/
theorem below_of_decision {suppliers : Suppliers K} {readings : List (Reading K)} {kind : SlotKind}
    (allowed : decision suppliers readings kind) :
    ∃ options reading, suppliers kind = some options ∧ readings.getLast? = some reading ∧
      reading.memoryUsage < options.targetMemoryUsage := by
  cases settings : suppliers kind with
  | none =>
      rw [decision, controllers, settings] at allowed
      cases allowed
  | some options =>
      rw [decision, controllers, settings] at allowed
      rcases List.eq_nil_or_concat readings with rfl | ⟨earlier, reading, rfl⟩
      · cases allowed
      · refine ⟨options, reading, rfl, by simp, ?_⟩
        have granted : (JvmResourceController.update options
            (JvmResourceController.run options .new
              (earlier.map fun reading => reading.sample kind))
            (reading.sample kind)).allow := by
          simpa [JvmResourceController.run] using allowed
        exact JvmResourceController.below_of_allow granted

/-- Over every run, the gate of a registered worker shows for each kind what its controller decides
about the readings it has seen, up to the last that the native side took, and grants nothing unless
that one was below the target of the kind; a worker whose kinds have no controllers is granted
nothing by the sampler. -/
theorem gates_follow_the_controllers {trace : List (Action K)} (runs : (system K).Runs start trace)
    (worker : Worker) :
    (∀ suppliers, .register worker suppliers ∈ (system K).log events start trace →
      let seen := updates worker ((system K).log events start trace)
      (∀ kind, allows (((system K).after start trace).gate worker) kind =
        decision suppliers (told seen) kind) ∧
      (∀ kind, allows (((system K).after start trace).gate worker) kind →
        ∃ options reading, suppliers kind = some options ∧ (told seen).getLast? = some reading ∧
          reading.memoryUsage < options.targetMemoryUsage) ∧
      (worker ∈ ((system K).after start trace).listed →
        (((system K).after start trace).resource worker).controllers =
          controllers suppliers (seen.map Prod.fst))) ∧
    ((∀ suppliers, .register worker suppliers ∉ (system K).log events start trace) →
      ((system K).after start trace).gate worker = 0) ∧
    ((system K).after start trace).gate worker ≤ 15 := by
  have reached : ((system K).logged events).Reachable
      ((system K).after start trace, (system K).log events start trace) := reachable_log runs
  have known := told_invariant.reachable reached
  refine ⟨fun suppliers registered => ?_, fun absent => (known.unregistered worker absent).1, ?_⟩
  · have gate : ((system K).after start trace).gate worker = _ :=
      known.gate worker suppliers registered
    have shows : ∀ kind, allows (((system K).after start trace).gate worker) kind =
        decision suppliers (told (updates worker ((system K).log events start trace))) kind := by
      intro kind
      rw [gate, allows_bits]
    refine ⟨shows, fun kind allowed => below_of_decision (shows kind ▸ allowed), fun listed => ?_⟩
    obtain ⟨others, also, has⟩ := known.listed worker listed
    rw [known.one worker suppliers others registered also]
    exact has
  · by_cases registered :
        ∃ suppliers, .register worker suppliers ∈ (system K).log events start trace
    · obtain ⟨suppliers, registered⟩ := registered
      have gate : ((system K).after start trace).gate worker = _ :=
        known.gate worker suppliers registered
      rw [gate]
      exact bits_le _
    · have gate : ((system K).after start trace).gate worker = 0 :=
        (known.unregistered worker fun suppliers member => registered ⟨suppliers, member⟩).1
      rw [gate]
      decide

/-- After the second update a worker may still hand out workflow slots, and no others. -/
theorem gates_follow_the_controllers_second :
    ((system ℚ).after start (closingCallback.take 12)).gate 7 = 1 ∧
      ∀ kind, allows (((system ℚ).after start (closingCallback.take 12)).gate 7) kind →
        ∃ options reading, tuned kind = some options ∧
          (told (updates 7 ((system ℚ).log events start (closingCallback.take 12)))).getLast? =
            some reading ∧ reading.memoryUsage < options.targetMemoryUsage :=
  ⟨by decide +kernel,
    ((gates_follow_the_controllers (by decide +kernel) 7).1 tuned (List.Mem.head _)).2.1⟩

end KtBridge.Sampler
