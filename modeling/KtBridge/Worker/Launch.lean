import KtBridge.Worker.Machine

/-! # The pumps of a worker

A worker is started at most once, with three pumps. The count of live pumps is the
number that have not left yet, plus those still to be spawned while `start` runs; a
pump is recorded for `free` before the state lock is released, so `free` misses none.
-/

namespace KtBridge.Worker

open Foundation

namespace State

/-- `start` is at work under the state lock. -/
def launching (state : State) : Bool :=
  match state.stateLock with
  | some (.starting _) => true
  | some (.spawning _ _) => true
  | _ => false

/-- The pumps a running `start` still has to spawn. -/
def unspawned (state : State) : Nat :=
  match state.stateLock with
  | some (.starting _) => taskKinds.length
  | some (.spawning _ kinds) => kinds.length
  | _ => 0

/-- The pumps counted as live before they are spawned. -/
def counted (state : State) : Nat :=
  match state.stateLock with
  | some (.spawning _ kinds) => kinds.length
  | _ => 0

/-- The pumps that have not left the count. -/
def live (state : State) : Nat := state.spawned.countP fun pump => pump.phase ≠ .gone

/-- The worker was started with all its pumps, and is past `Running`. -/
def Retiring (state : State) : Prop :=
  state.started ∧ state.launching = false ∧ ∀ started, state.worker ≠ .running started

/-- All pumps have left. -/
def Exited (state : State) : Prop :=
  state.Retiring ∧ ∀ pump ∈ state.spawned, pump.phase = .gone

end State

/-- What ties `start`, the pumps and `free`. -/
structure State.Sound (state : State) : Prop where
  running : ∀ started, state.worker = .running started → state.started = started
  launching : state.launching → state.worker = .running true
  fresh : ∀ call, state.stateLock = some (.starting call) → state.spawned = []
  count : state.started → state.spawned.length + state.unspawned = taskKinds.length
  unstarted : state.started = false → state.spawned = []
  live : state.livePumps.toNat = state.counted + state.live
  recorded : ∀ pump < state.spawned.length, pump ∈ state.pumps ∨
    ∃ loop ∈ state.spawned[pump]?, loop.aborted
  stopped : state.freed → ∀ started, state.worker ≠ .running started
  drained : state.freed → state.stateLock ≠ some .freeing → state.pumps = []

namespace State.Sound

variable {state next : State}

/-- Steps that leave the pumps and the state lock alone, and do not start the worker. -/
theorem frame (sound : state.Sound)
    (worker : next.worker = state.worker ∨
      state.launching = false ∧ ∀ started, next.worker ≠ .running started)
    (stateLock : next.stateLock = state.stateLock) (livePumps : next.livePumps = state.livePumps)
    (spawned : next.spawned = state.spawned) (pumps : next.pumps = state.pumps)
    (started : next.started = state.started) (freed : next.freed = state.freed) : next.Sound := by
  have launching : next.launching = state.launching := by simp only [State.launching, stateLock]
  constructor
  · intro value running
    rcases worker with same | ⟨_, other⟩
    · rw [started]
      exact sound.running value (same.symm.trans running)
    · exact absurd running (other value)
  · intro busy
    rw [launching] at busy
    rcases worker with same | ⟨idle, _⟩
    · rw [same]
      exact sound.launching busy
    · rw [busy] at idle
      cases idle
  · rw [stateLock, spawned]
    exact sound.fresh
  · simp only [State.unspawned, stateLock, spawned, started]
    exact sound.count
  · rw [started, spawned]
    exact sound.unstarted
  · simp only [State.counted, State.live, stateLock, spawned, livePumps]
    exact sound.live
  · rw [spawned, pumps]
    exact sound.recorded
  · intro wasFreed value
    rcases worker with same | ⟨_, other⟩
    · rw [same]
      exact sound.stopped (freed ▸ wasFreed) value
    · exact other value
  · rw [freed, stateLock, pumps]
    exact sound.drained

/-- `start` finds a worker that was never started. -/
theorem start (sound : state.Sound) {call : Nat} (free : state.stateLock = none)
    (fresh : state.worker = .running false) : (effect state (.start call)).Sound := by
  have notStarted : state.started = false := sound.running false fresh
  have notFreed : ¬ state.freed := fun freed => sound.stopped freed false fresh
  have none := sound.unstarted notStarted
  have live := sound.live
  simp only [State.counted, free] at live
  simp only [effect, fresh]
  refine ⟨fun value running => ?_, fun _ => rfl, fun _ _ => none, fun _ => ?_, nofun, ?_,
    ?_, fun freed => absurd freed notFreed, fun freed => absurd freed notFreed⟩
  · cases running
    rfl
  · rw [none]
    rfl
  · simpa only [State.counted, State.live] using live
  · rw [none]
    exact nofun

/-- `start` spawns its next pump. -/
theorem spawn (sound : state.Sound) {call : Nat} {kind : TaskKind} {kinds : List TaskKind}
    (busy : state.stateLock = some (.spawning call (kind :: kinds))) :
    (effect state (.spawn call kind kinds)).Sound := by
  have launching : state.launching := by simp only [State.launching, busy]
  have running := sound.launching launching
  have notFreed : ¬ state.freed := fun freed => sound.stopped freed true running
  have started := sound.running true running
  have count := sound.count started
  have live := sound.live
  simp only [State.unspawned, busy, List.length_cons] at count
  simp only [State.counted, State.live, busy, List.length_cons] at live
  constructor
  · exact sound.running
  · exact fun _ => running
  · exact nofun
  · intro _
    simp only [effect, State.unspawned, List.length_append, List.length_singleton]
    omega
  · intro absurdity
    rw [show state.started = false from absurdity] at started
    cases started
  · simp only [effect, State.counted, State.live, List.countP_append, List.countP_singleton]
    rw [live]
    simp
    omega
  · intro pump inside
    simp only [effect, List.length_append, List.length_singleton] at inside ⊢
    by_cases last : pump = state.spawned.length
    · left
      rw [last]
      exact List.mem_append_right _ (List.mem_singleton.mpr rfl)
    · have before : pump < state.spawned.length := by omega
      rcases sound.recorded pump before with recorded | aborted
      · exact Or.inl (List.mem_append_left _ recorded)
      · rw [List.getElem?_append_left before]
        exact Or.inr aborted
  · exact sound.stopped
  · intro freed
    exact absurd freed notFreed

/-- `start` stores the count. -/
theorem storeLivePumps (sound : state.Sound) {call : Nat}
    (busy : state.stateLock = some (.starting call)) :
    (effect state (.storeLivePumps call)).Sound := by
  have launching : state.launching := by simp only [State.launching, busy]
  have running := sound.launching launching
  have notFreed : ¬ state.freed := fun freed => sound.stopped freed true running
  have none := sound.fresh call busy
  refine ⟨sound.running, fun _ => running, nofun, fun _ => ?_, sound.unstarted, ?_, ?_,
    sound.stopped, fun freed => absurd freed notFreed⟩
  · simp only [effect, State.unspawned, none, List.length_nil, Nat.zero_add]
  · simp only [effect, State.counted, State.live, none, List.countP_nil]
    rfl
  · intro pump inside
    exact sound.recorded pump inside

/-- `start` has spawned every pump. -/
theorem startReturn (sound : state.Sound) {call : Nat}
    (busy : state.stateLock = some (.spawning call [])) :
    (effect state (.startReturn call)).Sound := by
  have launching : state.launching := by simp only [State.launching, busy]
  have running := sound.launching launching
  have notFreed : ¬ state.freed := fun freed => sound.stopped freed true running
  have count := sound.count
  have live := sound.live
  simp only [State.unspawned, busy, List.length_nil] at count
  simp only [State.counted, busy, List.length_nil] at live
  exact ⟨sound.running, nofun, nofun, count, sound.unstarted, live, sound.recorded, sound.stopped,
    fun freed => absurd freed notFreed⟩

/-- `free` replaces the state. -/
theorem free (sound : state.Sound) (unlocked : state.stateLock = none) :
    (effect state .free).Sound := by
  have count := sound.count
  have live := sound.live
  simp only [State.unspawned, unlocked] at count
  simp only [State.counted, unlocked] at live
  exact ⟨nofun, nofun, nofun, count, sound.unstarted, live, sound.recorded, fun _ => nofun,
    fun _ here => absurd rfl here⟩

/-- `free` has aborted every recorded pump. -/
theorem freeReturn (sound : state.Sound) (busy : state.stateLock = some .freeing)
    (all : state.pumps = []) : (effect state .freeReturn).Sound := by
  have count := sound.count
  have live := sound.live
  simp only [State.unspawned, busy] at count
  simp only [State.counted, busy] at live
  exact ⟨sound.running, nofun, nofun, count, sound.unstarted, live, sound.recorded, sound.stopped,
    fun _ _ => all⟩

/-- Nobody is starting the worker while the state lock is free. -/
theorem idle_of_unlocked (unlocked : state.stateLock = none) : state.launching = false := by
  simp only [State.launching, unlocked]

/-- What changing one pump does to the list of all. -/
theorem setPump_eq {pump : Nat} {loop : Pump} (change : Pump → Pump)
    (found : state.spawned[pump]? = some loop) :
    ∃ before after, state.spawned = before ++ loop :: after ∧
      (state.setPump pump change).spawned = before ++ change loop :: after := by
  obtain ⟨inside, there⟩ := List.getElem?_eq_some_iff.mp found
  obtain ⟨before, other, after, split, length, modified⟩ :=
    List.exists_of_modify change inside
  refine ⟨before, after, ?_, ?_⟩
  · rw [split]
    have here : state.spawned[pump]? = some other := by
      rw [split, ← length, List.getElem?_append_right le_rfl, Nat.sub_self]
      rfl
    rw [Option.some.inj (found.symm.trans here)]
  · have here : state.spawned[pump]? = some other := by
      rw [split, ← length, List.getElem?_append_right le_rfl, Nat.sub_self]
      rfl
    rw [Option.some.inj (found.symm.trans here)]
    exact modified

/-- A change of one pump that keeps an abort asked for. -/
theorem setPump (sound : state.Sound) {pump : Nat} {loop : Pump} (change : Pump → Pump)
    (found : state.spawned[pump]? = some loop) (aborts : ∀ pump, pump.aborted → (change pump).aborted)
    (worker : next.worker = state.worker) (stateLock : next.stateLock = state.stateLock)
    (livePumps : next.livePumps.toNat + (if loop.phase ≠ .gone then 1 else 0) =
      state.livePumps.toNat + if (change loop).phase ≠ .gone then 1 else 0)
    (spawned : next.spawned = (state.setPump pump change).spawned)
    (recorded : ∀ other ∈ state.pumps, other ∈ next.pumps ∨
      other = pump ∧ ∀ pump, (change pump).aborted)
    (started : next.started = state.started) (freed : next.freed = state.freed)
    (drained : next.freed → next.stateLock ≠ some .freeing → next.pumps = []) : next.Sound := by
  obtain ⟨before, after, split, changed⟩ := setPump_eq change found
  have length : next.spawned.length = state.spawned.length := by
    rw [spawned, split, changed]
    simp only [List.length_append, List.length_cons]
  have none : state.spawned = [] → next.spawned = [] := by
    intro empty
    rw [empty] at split
    cases before <;> cases split
  constructor
  · rw [worker, started]
    exact sound.running
  · rw [worker]
    simp only [State.launching, stateLock]
    exact sound.launching
  · rw [stateLock]
    exact fun call busy => none (sound.fresh call busy)
  · simp only [State.unspawned, stateLock, length, started]
    exact sound.count
  · intro notStarted
    exact none (sound.unstarted (started.symm.trans notStarted))
  · have live := sound.live
    simp only [State.counted, State.live, stateLock, spawned, split, changed, List.countP_append,
      List.countP_cons, decide_eq_true_eq] at live ⊢
    omega
  · intro other inside
    have same : next.spawned[other]? =
        if pump = other then state.spawned[other]?.map change else state.spawned[other]? := by
      rw [spawned]
      simp only [State.setPump, List.getElem?_modify]
      split <;> simp
    rw [length] at inside
    rw [same]
    rcases sound.recorded other inside with there | ⟨value, member, aborted⟩
    · rcases recorded other there with still | ⟨rfl, all⟩
      · exact Or.inl still
      · right
        rw [if_pos rfl, found]
        exact ⟨_, rfl, all loop⟩
    · right
      by_cases here : pump = other
      · rw [if_pos here, member]
        exact ⟨_, rfl, aborts value aborted⟩
      · rw [if_neg here]
        exact ⟨value, member, aborted⟩
  · rw [worker, freed]
    exact sound.stopped
  · exact drained

/-- `free` aborts one recorded pump. -/
theorem abort (sound : state.Sound) {pump : Nat} {rest : List Nat}
    (busy : state.stateLock = some .freeing) (recorded : state.pumps = pump :: rest) :
    (effect state (.abort pump rest)).Sound := by
  have still : ∀ other ∈ state.pumps, other ∈ rest ∨ other = pump := by
    intro other member
    rw [recorded] at member
    exact (List.mem_cons.mp member).symm
  cases found : state.spawned[pump]? with
  | some loop =>
      refine sound.setPump Pump.abort found (fun _ _ => rfl) rfl rfl rfl rfl ?_ rfl rfl ?_
      · intro other member
        exact (still other member).imp id fun same => ⟨same, fun _ => rfl⟩
      · exact fun _ idle => absurd busy idle
  | none =>
      have outside := List.getElem?_eq_none_iff.mp found
      have same : (effect state (.abort pump rest)).spawned = state.spawned :=
        List.modify_eq_self outside
      have live := sound.live
      have count := sound.count
      refine ⟨sound.running, sound.launching, ?_, ?_, ?_, ?_, ?_, sound.stopped,
        fun _ idle => absurd busy idle⟩
      · rw [same]
        exact sound.fresh
      · rw [same]
        exact count
      · rw [same]
        exact sound.unstarted
      · simp only [State.live, same]
        exact live
      · intro other inside
        rw [same] at inside ⊢
        rcases sound.recorded other inside with there | aborted
        · rcases still other there with later | here
          · exact Or.inl later
          · rw [here] at inside
            exact absurd inside (Nat.not_lt.mpr outside)
        · exact Or.inr aborted

/-- A pump that has not left is counted. -/
theorem livePumps_pos (sound : state.Sound) {pump : Nat} {loop : Pump}
    (found : state.spawned[pump]? = some loop) (present : loop.phase ≠ .gone) :
    1 ≤ state.livePumps.toNat := by
  have positive : 0 < state.live := by
    apply List.countP_pos_iff.mpr
    exact ⟨loop, List.mem_of_getElem? found, by simpa using present⟩
  rw [sound.live]
  omega

/-- With the count at zero and nobody spawning, every pump has left. -/
theorem exited (sound : state.Sound) (retiring : state.Retiring) (zero : state.livePumps = 0) :
    state.Exited := by
  refine ⟨retiring, ?_⟩
  intro loop member
  by_contra present
  obtain ⟨pump, found⟩ := List.mem_iff_getElem?.mp member
  have positive := sound.livePumps_pos found present
  rw [zero] at positive
  exact absurd positive (by decide)

/-- Every step keeps the pumps accounted for. -/
theorem step {action : Action} (sound : state.Sound) (ready : guard state action) :
    (effect state action).Sound := by
  cases action with
  | start call =>
      obtain ⟨free, _⟩ := ready
      cases worker : state.worker with
      | running started =>
          cases started with
          | false => exact sound.start free worker
          | true =>
              simp only [effect, worker]
              exact sound.frame (Or.inl worker.symm) rfl rfl rfl rfl rfl rfl
      | _ =>
          simp only [effect, worker]
          exact sound.frame (Or.inl worker.symm) rfl rfl rfl rfl rfl rfl
  | storeLivePumps call => exact sound.storeLivePumps ready
  | spawn call kind kinds => exact sound.spawn ready
  | startReturn call => exact sound.startReturn ready
  | free => exact sound.free ready
  | abort pump rest =>
      obtain ⟨busy, recorded⟩ := ready
      exact sound.abort busy recorded
  | freeReturn => exact sound.freeReturn ready.1 ready.2
  | exit pump exit =>
      obtain ⟨loop, found, polling, _⟩ := ready
      refine sound.setPump (Pump.withPhase .leaving) found (fun _ aborted => aborted)
        rfl rfl ?_ rfl (fun _ member => Or.inl member) rfl rfl sound.drained
      rw [polling]
      rfl
  | leave pump =>
      obtain ⟨loop, found, leaving⟩ := ready
      have positive := sound.livePumps_pos found (by rw [leaving]; nofun)
      have one : (1 : UInt64).toNat = 1 := rfl
      refine sound.setPump (Pump.withPhase .gone) found (fun _ aborted => aborted)
        rfl rfl ?_ rfl (fun _ member => Or.inl member) rfl rfl sound.drained
      simp only [effect, State.setPump, leaving, Pump.withPhase]
      rw [UInt64.toNat_sub_of_le _ _ (UInt64.le_iff_toNat_le.mpr (one ▸ positive)), one]
      simp only [reduceCtorEq, ne_eq, not_false_eq_true, not_true_eq_false, ↓reduceIte]
      omega
  | discard job =>
      exact sound.frame (Or.inr ⟨idle_of_unlocked ready.2, nofun⟩) rfl rfl rfl rfl rfl rfl
  | close job =>
      exact sound.frame (Or.inr ⟨idle_of_unlocked ready.2, nofun⟩) rfl rfl rfl rfl rfl rfl
  | restore job =>
      exact sound.frame (Or.inr ⟨idle_of_unlocked ready.2, nofun⟩) rfl rfl rfl rfl rfl rfl
  | readState call =>
      obtain ⟨_, unlocked⟩ := ready
      cases worker : state.worker with
      | running started =>
          simp only [effect, worker]
          exact sound.frame (Or.inr ⟨idle_of_unlocked unlocked, nofun⟩) rfl rfl rfl rfl rfl rfl
      | _ =>
          simp only [effect, worker]
          exact sound.frame (Or.inl rfl) rfl rfl rfl rfl rfl rfl
  | tryUnwrap job =>
      simp only [effect]
      split <;> exact sound.frame (Or.inl rfl) rfl rfl rfl rfl rfl rfl
  | observe call =>
      simp only [effect]
      split <;> exact sound.frame (Or.inl rfl) rfl rfl rfl rfl rfl rfl
  | takeCore call =>
      simp only [effect]
      split <;> exact sound.frame (Or.inl rfl) rfl rfl rfl rfl rfl rfl
  | cancel call =>
      simp only [effect]
      split <;> exact sound.frame (Or.inl rfl) rfl rfl rfl rfl rfl rfl
  | _ => exact sound.frame (Or.inl rfl) rfl rfl rfl rfl rfl rfl

/-- A retiring worker does not start again. -/
theorem retiring_step {action : Action} (ready : guard state action)
    (retiring : state.Retiring) : (effect state action).Retiring := by
  obtain ⟨started, idle, past⟩ := retiring
  cases action with
  | start call =>
      cases worker : state.worker with
      | running value => exact absurd worker (past value)
      | _ =>
          simp only [effect, worker]
          exact ⟨started, idle, nofun⟩
  | storeLivePumps call =>
      simp only [State.launching, show state.stateLock = some (.starting call) from ready] at idle
      cases idle
  | spawn call kind kinds =>
      simp only [State.launching,
        show state.stateLock = some (.spawning call (kind :: kinds)) from ready] at idle
      cases idle
  | startReturn call => exact ⟨started, rfl, past⟩
  | free => exact ⟨started, rfl, nofun⟩
  | freeReturn => exact ⟨started, rfl, past⟩
  | discard job => exact ⟨started, idle, nofun⟩
  | close job => exact ⟨started, idle, nofun⟩
  | restore job => exact ⟨started, idle, nofun⟩
  | readState call =>
      simp only [effect]
      split
      · exact ⟨started, idle, nofun⟩
      · exact ⟨started, idle, past⟩
      · exact ⟨started, idle, past⟩
  | tryUnwrap job =>
      simp only [effect]
      split <;> exact ⟨started, idle, past⟩
  | observe call =>
      simp only [effect]
      split <;> exact ⟨started, idle, past⟩
  | takeCore call =>
      simp only [effect]
      split <;> exact ⟨started, idle, past⟩
  | cancel call =>
      simp only [effect]
      split <;> exact ⟨started, idle, past⟩
  | _ => exact ⟨started, idle, past⟩

/-- Once all pumps have left, none comes back. -/
theorem exited_step {action : Action} (ready : guard state action) (exited : state.Exited) :
    (effect state action).Exited := by
  refine ⟨retiring_step ready exited.1, ?_⟩
  have gone := exited.2
  cases action with
  | start call =>
      simp only [effect]
      split <;> exact gone
  | spawn call kind kinds =>
      have idle := exited.1.2.1
      simp only [State.launching,
        show state.stateLock = some (.spawning call (kind :: kinds)) from ready] at idle
      cases idle
  | abort pump rest =>
      intro loop member
      obtain ⟨index, there⟩ := List.mem_iff_getElem?.mp member
      simp only [effect, State.setPump, List.getElem?_modify, Option.map_eq_map,
        Option.map_eq_some_iff] at there
      obtain ⟨before, found, same⟩ := there
      have left := gone before (List.mem_of_getElem? found)
      rw [← same]
      split
      · exact left
      · exact left
  | exit pump exit =>
      obtain ⟨loop, found, polling, _⟩ := ready
      have left := gone loop (List.mem_of_getElem? found)
      rw [polling] at left
      cases left
  | leave pump =>
      obtain ⟨loop, found, leaving⟩ := ready
      have left := gone loop (List.mem_of_getElem? found)
      rw [leaving] at left
      cases left
  | readState call =>
      simp only [effect]
      split <;> exact gone
  | tryUnwrap job =>
      simp only [effect]
      split <;> exact gone
  | observe call =>
      simp only [effect]
      split <;> exact gone
  | takeCore call =>
      simp only [effect]
      split <;> exact gone
  | cancel call =>
      simp only [effect]
      split <;> exact gone
  | _ => exact gone

end State.Sound

end KtBridge.Worker
