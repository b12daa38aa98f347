import KtBridge.Metrics.Retrieval

/-! # A drained batch is copied once

The pending batch is the last one drained, until a call that returns `KT_OK` has copied it. What a
failing call drained stays pending, so no failure loses, repeats or reorders a batch.
-/

namespace KtBridge.Metrics.Retrieval

open Foundation

variable {Double : Type} {setting : Setting Double} {state : Retrieval Double}

/-- The batch that a call got from the meter and did not encode yet. -/
def Phase.drawn : Phase Double → List (MetricBatch Double)
  | .fetching _ metrics => [metrics]
  | _ => []

/-- The batch that the meter gave to a call under way. -/
def drawn (state : Retrieval Double) : List (MetricBatch Double) :=
  match state.holder with
  | none => []
  | some thread => Phase.drawn (state.phase thread)

/-- What the meter gave, drain by drain. -/
def given (state : Retrieval Double) : List (MetricBatch Double) :=
  state.drains.map (fun drained => drained.metrics) ++ state.drawn

/-- What a call in this phase knows of the pending batch. -/
def Phase.Fits (pending : Option ByteArray) : Phase Double → Prop
  | .draining _ | .fetching _ _ => pending = none
  | .writing _ => pending.isSome
  | _ => True

theorem Phase.Fits.outside {phase : Phase Double} (out : phase.inside = false)
    (pending : Option ByteArray) : Phase.Fits pending phase := by
  cases phase with
  | idle => trivial
  | resolving buffer => trivial
  | locking buffer => trivial
  | draining buffer => cases out
  | fetching buffer metrics => cases out
  | writing buffer => cases out
  | returned written => trivial

/-- The calls agree with the lock and with what is pending. -/
structure Locked (state : Retrieval Double) : Prop where
  held : ∀ thread, (state.phase thread).inside ↔ state.holder = some thread
  fits : ∀ thread, Phase.Fits state.metricBatch (state.phase thread)

/-- Every drain is copied, or pending, or under way. -/
structure Kept (setting : Setting Double) (state : Retrieval Double) : Prop where
  copies : state.copied ++ state.metricBatch.toList =
    state.drains.map fun drained => setting.encode drained.batch
  meter : state.given = if setting.bufferMetrics then state.ledger.batches.map Prod.snd
    else List.replicate state.given.length ⟨[], [], []⟩
  unmetered : setting.bufferMetrics = false → state.ledger = Ledger.start

@[simp] theorem setPhase_holder (thread : Thread) (phase : Phase Double) :
    (state.setPhase thread phase).holder = state.holder := rfl

@[simp] theorem setPhase_metricBatch (thread : Thread) (phase : Phase Double) :
    (state.setPhase thread phase).metricBatch = state.metricBatch := rfl

@[simp] theorem setPhase_drains (thread : Thread) (phase : Phase Double) :
    (state.setPhase thread phase).drains = state.drains := rfl

@[simp] theorem setPhase_copied (thread : Thread) (phase : Phase Double) :
    (state.setPhase thread phase).copied = state.copied := rfl

@[simp] theorem setPhase_ledger (thread : Thread) (phase : Phase Double) :
    (state.setPhase thread phase).ledger = state.ledger := rfl

@[simp] theorem setPhase_same (thread : Thread) (phase : Phase Double) :
    (state.setPhase thread phase).phase thread = phase :=
  Function.update_self ..

theorem setPhase_other {thread other : Thread} (different : other ≠ thread)
    (phase : Phase Double) : (state.setPhase thread phase).phase other = state.phase other :=
  Function.update_of_ne different ..

namespace Locked

theorem outside_of_none (locked : state.Locked) (free : state.holder = none) (thread : Thread) :
    (state.phase thread).inside = false := by
  rw [Bool.eq_false_iff]
  intro inside
  rw [(locked.held thread).mp inside] at free
  cases free

theorem others (locked : state.Locked) {thread other : Thread}
    (inside : (state.phase thread).inside) (different : other ≠ thread) :
    (state.phase other).inside = false := by
  rw [Bool.eq_false_iff]
  intro also
  have same := ((locked.held other).mp also).symm.trans ((locked.held thread).mp inside)
  exact different (Option.some.inj same)

/-- A step from outside the lock to outside the lock. -/
theorem move (locked : state.Locked) {thread : Thread} {phase : Phase Double}
    (before : (state.phase thread).inside = false) (after : phase.inside = false) :
    (state.setPhase thread phase).Locked := by
  constructor
  · intro other
    by_cases same : other = thread
    · rw [same, setPhase_same, setPhase_holder, ← locked.held thread, before, after]
    · rw [setPhase_other same, setPhase_holder]
      exact locked.held other
  · intro other
    by_cases same : other = thread
    · rw [same, setPhase_same]
      exact Phase.Fits.outside after _
    · rw [setPhase_other same]
      exact locked.fits other

/-- A step of the one call that has the lock, or takes it. -/
theorem hold {next : Retrieval Double} {thread : Thread} {phase : Phase Double}
    (others : ∀ other, other ≠ thread → (state.phase other).inside = false)
    (phases : next.phase = Function.update state.phase thread phase)
    (holder : next.holder = if phase.inside then some thread else none)
    (fits : Phase.Fits next.metricBatch phase) : next.Locked := by
  constructor
  · intro other
    by_cases same : other = thread
    · rw [same, phases, Function.update_self, holder]
      split
      · rename_i inside
        exact ⟨fun _ => rfl, fun _ => inside⟩
      · rename_i outside
        exact ⟨fun inside => absurd inside outside, fun held => by cases held⟩
    · rw [phases, Function.update_of_ne same, others other same, holder]
      split
      · exact ⟨fun inside => absurd inside Bool.false_ne_true,
          fun held => absurd (Option.some.inj held).symm same⟩
      · exact ⟨fun inside => absurd inside Bool.false_ne_true, fun held => by cases held⟩
  · intro other
    by_cases same : other = thread
    · rw [same, phases, Function.update_self]
      exact fits
    · rw [phases, Function.update_of_ne same]
      exact Phase.Fits.outside (others other same) _

end Locked

theorem inside_of_free {phase : Phase Double} (free : phase.free) : phase.inside = false := by
  cases phase <;> first | rfl | cases free

theorem inside_of_returned {thread : Thread} {written : Written}
    (there : state.phase thread = .returned written) : (state.phase thread).inside = false := by
  rw [there]
  rfl

/-- The loop's own state says nothing about the lock. -/
theorem Locked.setLoop (locked : state.Locked) (thread : Thread) (loop : Loop) :
    (state.setLoop thread loop).Locked :=
  ⟨locked.held, locked.fits⟩

/-- What the loop does next, as one of three. -/
theorem afterCall_cases (state : Retrieval Double) (thread : Thread) (written : Written)
    (cap : Int32) (retries : Nat) :
    (∃ size, state.afterCall thread written cap retries =
      (state.setLoop thread (.running size (retries + 1))).setPhase thread
        (.resolving (loopBuffer size))) ∨
    ∃ loop, state.afterCall thread written cap retries = state.setLoop thread loop := by
  unfold afterCall
  dsimp only
  split
  · split
    · exact Or.inl ⟨_, rfl⟩
    · exact Or.inr ⟨_, rfl⟩
  · split
    · exact Or.inr ⟨_, rfl⟩
    · exact Or.inr ⟨_, rfl⟩

/-- A call that writes leaves the lock; only if it succeeded is the batch gone. -/
theorem effect_write {thread : Thread} {buffer : Buffer} {bytes : ByteArray}
    (pending : state.metricBatch = some bytes) :
    effect setting state (.write thread buffer) =
      { state.setPhase thread (.returned (writeOut bytes buffer)) with
        holder := none
        metricBatch := if (writeOut bytes buffer).result = .ok () then none else some bytes
        copied := state.copied ++
          if (writeOut bytes buffer).result = .ok () then [bytes] else [] } := by
  simp only [effect, pending]
  split
  · rename_i done
    simp only [done, ↓reduceIte]
  · rename_i failed
    have refused : ¬(writeOut bytes buffer).result = .ok () := failed
    simp only [refused, ↓reduceIte, List.append_nil]
    rw [← pending]
    rfl

theorem locked_step (locked : state.Locked) {action : Action Double}
    (named : state.ledger.Named) (ready : guard setting state action) :
    (effect setting state action).Locked := by
  cases action with
  | create kind params => exact ⟨locked.held, locked.fits⟩
  | record sample => exact ⟨locked.held, locked.fits⟩
  | log record => exact ⟨locked.held, locked.fits⟩
  | call thread buffer => exact locked.move (inside_of_free ready.1) rfl
  | resolve thread buffer refusal =>
      have outside : (state.phase thread).inside = false := by
        rw [ready.1]
        rfl
      cases refusal with
      | none => exact locked.move outside rfl
      | some error => exact locked.move outside rfl
  | lock thread buffer =>
      refine Locked.hold (fun other _ => locked.outside_of_none ready.2 other) rfl ?_ ?_
      · simp only [effect]
        split <;> rfl
      · simp only [effect]
        split
        · assumption
        · rename_i empty
          exact Option.not_isSome_iff_eq_none.mp empty
  | drain thread buffer =>
      have inside : (state.phase thread).inside := by
        rw [show state.phase thread = .draining buffer from ready]
        rfl
      have empty : state.metricBatch = none := by
        have fits := locked.fits thread
        rw [show state.phase thread = .draining buffer from ready] at fits
        exact fits
      have holds := (locked.held thread).mp inside
      simp only [effect]
      split
      · obtain ⟨batch, drained, _⟩ := Ledger.drain_spec named
        simp only [drained]
        exact Locked.hold (fun other => locked.others inside) rfl holds empty
      · exact Locked.hold (fun other => locked.others inside) rfl holds empty
  | fetch thread buffer metrics =>
      have inside : (state.phase thread).inside := by
        rw [show state.phase thread = .fetching buffer metrics from ready]
        rfl
      exact Locked.hold (fun other => locked.others inside) rfl ((locked.held thread).mp inside) rfl
  | write thread buffer =>
      have inside : (state.phase thread).inside := by
        rw [show state.phase thread = .writing buffer from ready]
        rfl
      have full := locked.fits thread
      rw [show state.phase thread = .writing buffer from ready] at full
      obtain ⟨bytes, pending⟩ := Option.isSome_iff_exists.mp full
      rw [effect_write pending]
      exact Locked.hold (fun other => locked.others inside) rfl rfl trivial
  | retrieveMetrics thread =>
      exact (locked.setLoop thread _).move (inside_of_free ready.1) rfl
  | next thread written cap retries =>
      have outside := inside_of_returned ready.1
      rcases afterCall_cases state thread written cap retries with ⟨size, next⟩ | ⟨loop, next⟩
      · simp only [effect, next]
        exact (locked.setLoop thread _).move outside rfl
      · simp only [effect, next]
        exact locked.setLoop thread loop

/-- What a call changes in the meter is one drain. -/
theorem projects (setting : Setting Double) :
    GuardedSystem.Projects (system setting) Ledger.system fun state => state.ledger where
  start := rfl
  step := by
    intro state action ready
    cases action with
    | create kind params => exact Or.inr ⟨.create kind params, trivial, rfl⟩
    | record sample => exact Or.inr ⟨.record sample, ready.2, rfl⟩
    | log record => exact Or.inl rfl
    | call thread buffer => exact Or.inl rfl
    | resolve thread buffer refusal => cases refusal <;> exact Or.inl rfl
    | lock thread buffer => exact Or.inl rfl
    | drain thread buffer =>
        simp only [system, effect]
        split
        · right
          refine ⟨.drain, trivial, ?_⟩
          split <;> rfl
        · exact Or.inl rfl
    | fetch thread buffer metrics => exact Or.inl rfl
    | write thread buffer =>
        left
        simp only [system, effect]
        split
        · rfl
        · split <;> rfl
    | retrieveMetrics thread => exact Or.inl rfl
    | next thread written cap retries =>
        left
        rcases afterCall_cases state thread written cap retries with ⟨size, next⟩ | ⟨loop, next⟩
        · simp only [system, effect, next]
          rfl
        · simp only [system, effect, next]
          rfl

theorem ledger_reachable (reached : (system setting).Reachable state) :
    (Ledger.system : GuardedSystem (Ledger Double) _).Reachable state.ledger :=
  (projects setting).reachable reached

theorem locked (reached : (system setting).Reachable state) : state.Locked := by
  have invariant : (system setting).Invariant Locked := by
    refine ⟨⟨fun thread => ?_, fun thread => trivial⟩, ?_⟩
    · exact ⟨fun inside => absurd inside Bool.false_ne_true,
        fun holds => absurd holds (by simp [system, start])⟩
    intro state action reached before ready
    exact locked_step before (Ledger.kept (ledger_reachable reached)).1 ready
  exact invariant.reachable reached

section Drains

/-- Only a call that has the lock can be between the meter and the logs. -/
theorem drawn_of_outside (locked : state.Locked) {thread : Thread} (phase : Phase Double)
    (outside : (state.phase thread).inside = false) :
    (state.setPhase thread phase).drawn = state.drawn := by
  unfold drawn
  rw [setPhase_holder]
  cases holds : state.holder with
  | none => rfl
  | some other =>
      have inside := (locked.held other).mpr holds
      have different : other ≠ thread := by
        intro same
        rw [same, outside] at inside
        cases inside
      simp only [setPhase_other different]

theorem drawn_of_phase (thread : Thread) (phase : Phase Double) {next : Retrieval Double}
    (holds : next.holder = some thread) (there : next.phase thread = phase) :
    next.drawn = Phase.drawn phase := by
  unfold drawn
  rw [holds]
  exact congrArg Phase.drawn there

theorem drawn_of_free {next : Retrieval Double} (free : next.holder = none) : next.drawn = [] := by
  unfold drawn
  rw [free]

/-- Steps that leave the batches alone. -/
theorem Kept.same {next : Retrieval Double} (kept : state.Kept setting)
    (copied : next.copied = state.copied) (pending : next.metricBatch = state.metricBatch)
    (drains : next.drains = state.drains) (drawn : next.drawn = state.drawn)
    (ledger : next.ledger = state.ledger) : next.Kept setting := by
  constructor
  · rw [copied, pending, drains]
    exact kept.copies
  · have given : next.given = state.given := by rw [Retrieval.given, drains, drawn, Retrieval.given]
    rw [given, ledger]
    exact kept.meter
  · rw [ledger]
    exact kept.unmetered

theorem Kept.drain (kept : state.Kept setting) (locked : state.Locked)
    (named : state.ledger.Named) {thread : Thread} {buffer : Buffer}
    (ready : state.phase thread = .draining buffer) :
    (effect setting state (.drain thread buffer)).Kept setting := by
  have holds : state.holder = some thread := by
    apply (locked.held thread).mp
    rw [ready]
    rfl
  have before : state.given = state.drains.map fun drained => drained.metrics := by
    rw [given, drawn_of_phase _ _ holds ready]
    exact List.append_nil _
  have meter := kept.meter
  rw [before] at meter
  simp only [effect]
  split
  · rename_i buffered
    obtain ⟨batch, drained, _⟩ := Ledger.drain_spec named
    obtain ⟨_, _, after⟩ := Ledger.effect_drain named
    simp only [drained]
    refine ⟨kept.copies, ?_, fun unmetered => absurd unmetered (by rw [buffered]; decide)⟩
    rw [given, drawn_of_phase thread (.fetching buffer batch)]
    · simp only [buffered, ↓reduceIte] at meter ⊢
      simp only [Ledger.effect, drained, setPhase_drains, Phase.drawn]
      rw [meter, List.map_append]
      rfl
    · exact holds
    · exact setPhase_same ..
  · rename_i unbuffered
    refine ⟨kept.copies, ?_, kept.unmetered⟩
    rw [given, drawn_of_phase thread (.fetching buffer ⟨[], [], []⟩)]
    · simp only [unbuffered, Bool.false_eq_true, ↓reduceIte] at meter ⊢
      simp only [setPhase_drains, Phase.drawn, List.length_append, List.length_map,
        List.length_singleton]
      rw [meter, List.length_map, List.replicate_succ']
    · exact holds
    · exact setPhase_same ..

theorem Kept.fetch (kept : state.Kept setting) (locked : state.Locked) {thread : Thread}
    {buffer : Buffer} {metrics : MetricBatch Double}
    (ready : state.phase thread = .fetching buffer metrics) :
    (effect setting state (.fetch thread buffer metrics)).Kept setting := by
  have holds : state.holder = some thread := by
    apply (locked.held thread).mp
    rw [ready]
    rfl
  have empty : state.metricBatch = none := by
    have fits := locked.fits thread
    rw [ready] at fits
    exact fits
  have before : state.given = state.drains.map (fun drained => drained.metrics) ++ [metrics] := by
    rw [given, drawn_of_phase _ _ holds ready]
    rfl
  have after : (effect setting state (.fetch thread buffer metrics)).given = state.given := by
    rw [before, given, drawn_of_phase thread (.writing buffer)]
    · simp only [effect, Phase.drawn, List.map_append, List.map_singleton, List.append_nil]
    · exact holds
    · exact setPhase_same ..
  have copies := kept.copies
  rw [empty, Option.toList_none, List.append_nil] at copies
  constructor
  · simp only [effect, setPhase_copied, Option.toList_some, List.map_append, List.map_singleton]
    rw [copies]
  · rw [after]
    exact kept.meter
  · exact kept.unmetered

theorem Kept.write (kept : state.Kept setting) (locked : state.Locked) {thread : Thread}
    {buffer : Buffer} (ready : state.phase thread = .writing buffer) :
    (effect setting state (.write thread buffer)).Kept setting := by
  have holds : state.holder = some thread := by
    apply (locked.held thread).mp
    rw [ready]
    rfl
  have full := locked.fits thread
  rw [ready] at full
  obtain ⟨bytes, pending⟩ := Option.isSome_iff_exists.mp full
  have before : state.given = state.drains.map fun drained => drained.metrics := by
    rw [given, drawn_of_phase _ _ holds ready]
    exact List.append_nil _
  have copies := kept.copies
  rw [pending, Option.toList_some] at copies
  rw [effect_write pending]
  constructor
  · simp only [setPhase_drains]
    rw [← copies]
    split
    · rw [Option.toList_none, List.append_nil]
    · rw [Option.toList_some, List.append_nil]
  · have meter := kept.meter
    rw [before] at meter
    rw [given, drawn_of_free rfl, List.append_nil]
    exact meter
  · exact kept.unmetered

theorem kept_step (kept : state.Kept setting) (locked : state.Locked)
    (named : state.ledger.Named) {action : Action Double} (ready : guard setting state action) :
    (effect setting state action).Kept setting := by
  cases action with
  | create kind params =>
      refine ⟨kept.copies, ?_, fun unmetered => absurd ready (by simp [guard, unmetered])⟩
      exact kept.meter
  | record sample =>
      refine ⟨kept.copies, ?_, fun unmetered => absurd ready.1 (by simp [unmetered])⟩
      exact kept.meter
  | log record => exact ⟨kept.copies, kept.meter, kept.unmetered⟩
  | call thread buffer =>
      exact kept.same rfl rfl rfl (drawn_of_outside locked _ (inside_of_free ready.1)) rfl
  | resolve thread buffer refusal =>
      have outside : (state.phase thread).inside = false := by
        rw [ready.1]
        rfl
      cases refusal with
      | none => exact kept.same rfl rfl rfl (drawn_of_outside locked _ outside) rfl
      | some error => exact kept.same rfl rfl rfl (drawn_of_outside locked _ outside) rfl
  | lock thread buffer =>
      refine kept.same rfl rfl rfl ?_ rfl
      rw [drawn_of_free ready.2]
      simp only [effect, drawn, setPhase_same]
      split <;> rfl
  | drain thread buffer => exact kept.drain locked named ready
  | fetch thread buffer metrics => exact kept.fetch locked ready
  | write thread buffer => exact kept.write locked ready
  | retrieveMetrics thread =>
      exact kept.same rfl rfl rfl (drawn_of_outside (locked.setLoop ..) _ (inside_of_free ready.1))
        rfl
  | next thread written cap retries =>
      have outside := inside_of_returned ready.1
      rcases afterCall_cases state thread written cap retries with ⟨size, next⟩ | ⟨loop, next⟩
      · simp only [effect, next]
        exact kept.same rfl rfl rfl (drawn_of_outside (locked.setLoop ..) _ outside) rfl
      · simp only [effect, next]
        exact kept.same rfl rfl rfl rfl rfl

theorem kept (reached : (system setting).Reachable state) : state.Kept setting := by
  have invariant : (system setting).Invariant (Kept setting) := by
    constructor
    · refine ⟨rfl, ?_, fun _ => rfl⟩
      split <;> rfl
    · intro state action reached before ready
      exact kept_step before (locked reached) (Ledger.kept (ledger_reachable reached)).1 ready
  exact invariant.reachable reached

/-- Only fetching makes a drain, and only a successful write copies. -/
theorem batches_step (action : Action Double) (ready : guard setting state action) :
    (effect setting state action).drains = state.drains ∧
      (effect setting state action).metricBatch = state.metricBatch ∧
      (effect setting state action).copied = state.copied ∨
    (∃ thread buffer metrics, action = .fetch thread buffer metrics) ∨
    ∃ thread buffer bytes, action = .write thread buffer ∧ state.metricBatch = some bytes ∧
      (writeOut bytes buffer).result = .ok () := by
  cases action with
  | create kind params => exact Or.inl ⟨rfl, rfl, rfl⟩
  | record sample => exact Or.inl ⟨rfl, rfl, rfl⟩
  | log record => exact Or.inl ⟨rfl, rfl, rfl⟩
  | call thread buffer => exact Or.inl ⟨rfl, rfl, rfl⟩
  | resolve thread buffer refusal => cases refusal <;> exact Or.inl ⟨rfl, rfl, rfl⟩
  | lock thread buffer => exact Or.inl ⟨rfl, rfl, rfl⟩
  | drain thread buffer =>
      left
      simp only [effect]
      split
      · split <;> exact ⟨rfl, rfl, rfl⟩
      · exact ⟨rfl, rfl, rfl⟩
  | fetch thread buffer metrics => exact Or.inr (Or.inl ⟨thread, buffer, metrics, rfl⟩)
  | write thread buffer =>
      cases pending : state.metricBatch with
      | none =>
          left
          simp only [effect, pending]
          exact ⟨trivial, trivial, trivial⟩
      | some bytes =>
          by_cases done : (writeOut bytes buffer).result = .ok ()
          · exact Or.inr (Or.inr ⟨thread, buffer, bytes, rfl, rfl, done⟩)
          · left
            rw [effect_write pending]
            simp only [done, ↓reduceIte, List.append_nil, setPhase_drains]
            exact ⟨trivial, trivial, trivial⟩
  | retrieveMetrics thread => exact Or.inl ⟨rfl, rfl, rfl⟩
  | next thread written cap retries =>
      left
      rcases afterCall_cases state thread written cap retries with ⟨size, next⟩ | ⟨loop, next⟩
      · simp only [effect, next]
        exact ⟨rfl, rfl, rfl⟩
      · simp only [effect, next]
        exact ⟨rfl, rfl, rfl⟩

/-- Drains and copies are only added. -/
theorem prefix_step (action : Action Double) (ready : guard setting state action) :
    state.drains <+: (effect setting state action).drains ∧
      state.copied <+: (effect setting state action).copied := by
  rcases batches_step action ready with ⟨drains, _, copied⟩ | fetch | write
  · rw [drains, copied]
    exact ⟨List.prefix_rfl, List.prefix_rfl⟩
  · obtain ⟨thread, buffer, metrics, rfl⟩ := fetch
    exact ⟨List.prefix_append .., List.prefix_rfl⟩
  · obtain ⟨thread, buffer, bytes, rfl, pending, _⟩ := write
    rw [effect_write pending]
    exact ⟨List.prefix_rfl, List.prefix_append ..⟩

theorem prefix_run {trace : List (Action Double)} (runs : (system setting).Runs state trace) :
    state.drains <+: ((system setting).after state trace).drains ∧
      state.copied <+: ((system setting).after state trace).copied := by
  induction trace generalizing state with
  | nil => exact ⟨List.prefix_rfl, List.prefix_rfl⟩
  | cons action rest ih =>
      obtain ⟨drains, copied⟩ := prefix_step action runs.1
      obtain ⟨drainsLater, copiedLater⟩ := ih runs.2
      exact ⟨drains.trans drainsLater, copied.trans copiedLater⟩

end Drains

end KtBridge.Metrics.Retrieval
