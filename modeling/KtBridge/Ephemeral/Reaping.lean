import KtBridge.Ephemeral.Mutexes

/-! # What becomes of a server

Wherever a server is, something answers for it: its reservation, a cleanup task whose
token is outstanding, or a shutdown that ran to its end (`State.Tended`).
-/

namespace KtBridge.Ephemeral

open Foundation Request

variable {reqId : Call → UInt64}

/-- Every server is answered for. -/
structure State.Tended (state : State) : Prop where
  reserved : ∀ server, .server server ∈ state.request.tracker.outstanding ↔
    (state.slot server).reserves
  employed : ∀ job, .cleanup job ∈ state.request.tracker.outstanding ↔ (state.job job).runs
  vacated : ∀ server, state.slot server = .vacated → state.stopped server
  ended : ∀ server holder result, state.guarded server = some (holder, .ended result) →
    state.slot server = .present → state.stopped server
  moved : ∀ server job, state.slot server = .moved job ∨ state.slot server = .handed job →
    state.job job = .reaping server ∨ state.stopped server

namespace State.Tended

variable {state next : State} {server : Server} {holder : Holder} {job : Job}

/-- A step that leaves the servers, the tasks and the tokens alone. -/
theorem frame (tended : state.Tended)
    (tokens : ∀ token : Token, token.foreign →
      (token ∈ next.request.tracker.outstanding ↔ token ∈ state.request.tracker.outstanding))
    (slot : next.slot = state.slot) (tasks : next.job = state.job)
    (guarded : next.guarded = state.guarded) (stopped : next.stopped = state.stopped) :
    next.Tended := by
  constructor
  · intro server
    rw [slot]
    exact (tokens _ rfl).trans (tended.reserved server)
  · intro job
    rw [tasks]
    exact (tokens _ rfl).trans (tended.employed job)
  · rw [slot, stopped]
    exact tended.vacated
  · rw [slot, stopped, guarded]
    exact tended.ended
  · rw [slot, stopped, tasks]
    exact tended.moved

theorem ask (tended : state.Tended) (reqId : Call → UInt64) (action : Request.Action)
    (own : action.lends = false) :
    (state.ask reqId action).Tended :=
  tended.frame (fun _ foreign => foreign_outstanding reqId state.request action own foreign)
    rfl rfl rfl rfl

/-- Changes that nothing here depends on. -/
theorem same (tended : state.Tended) (request : next.request = state.request)
    (slot : next.slot = state.slot) (tasks : next.job = state.job)
    (guarded : next.guarded = state.guarded) (stopped : next.stopped = state.stopped) :
    next.Tended :=
  tended.frame (fun _ _ => by rw [request]) slot tasks guarded stopped

/-- The last clone takes the server out with its reservation. -/
theorem letGo (tended : state.Tended) (server : Server) (holder : Holder) :
    (state.letGo server holder).Tended := by
  by_cases last : (state.holders server).erase holder = ∅ ∧ state.slot server = .present
  · have slots : (state.letGo server holder).slot = Function.update state.slot server .dropping :=
      if_pos last
    constructor
    · intro other
      rw [slots, Function.update_apply]
      split
      · next same =>
          rw [same]
          apply (tended.reserved server).trans
          rw [last.2]
          exact Iff.rfl
      · exact tended.reserved other
    · exact tended.employed
    · intro other
      rw [slots, Function.update_apply]
      split
      · intro impossible
        cases impossible
      · exact tended.vacated other
    · intro other keeper result
      rw [slots, Function.update_apply]
      split
      · intro _ impossible
        cases impossible
      · exact tended.ended other keeper result
    · intro other job
      rw [slots, Function.update_apply]
      split
      · intro impossible
        rcases impossible with impossible | impossible <;> cases impossible
      · exact tended.moved other job
  · exact tended.same rfl (if_neg last) rfl rfl rfl

/-- The mutex moves on to a stage from which nothing is inferred. -/
theorem setGuarded (tended : state.Tended) {guarded : Option (Holder × Guarded)}
    (unended : ∀ holder result, guarded ≠ some (holder, .ended result)) :
    (state.setGuarded server guarded).Tended := by
  refine ⟨tended.reserved, tended.employed, tended.vacated, ?_, tended.moved⟩
  intro other keeper result there
  simp only [State.setGuarded, Function.update_apply] at there
  split at there
  · exact absurd there (unended keeper result)
  · exact tended.ended other keeper result there

/-- A task that has no server of its own goes on. -/
theorem advance (tended : state.Tended) {phase : JobPhase} (runs : (state.job job).runs)
    (after : phase.runs) (unreaping : ∀ server, state.job job ≠ .reaping server) :
    (state.setJob job phase).Tended := by
  refine ⟨tended.reserved, ?_, tended.vacated, tended.ended, ?_⟩
  · intro other
    apply (tended.employed other).trans
    simp only [State.setJob, Function.update_apply]
    split
    · next same =>
        rw [same]
        exact iff_of_true runs after
    · exact Iff.rfl
  · intro other task there
    simp only [State.setJob, Function.update_apply]
    split
    · next same =>
        subst same
        exact Or.inr ((tended.moved other task there).resolve_left (unreaping other))
    · exact tended.moved other task there

/-- A task is spawned to shut an entry down. -/
theorem spawn (tended : state.Tended) (idle : state.job job = .idle) :
    (state.spawnJob reqId job (.closing server)).Tended := by
  refine ⟨?_, ?_, tended.vacated, tended.ended, ?_⟩
  · intro other
    apply Iff.trans _ (tended.reserved other)
    exact Finset.mem_insert.trans (or_iff_right (by simp))
  · intro other
    simp only [State.spawnJob, State.setJob, Function.update_apply]
    split
    · next same =>
        rw [same]
        exact iff_of_true (Finset.mem_insert_self ..) rfl
    · next different =>
        apply Iff.trans _ (tended.employed other)
        exact Finset.mem_insert.trans (or_iff_right (by simpa using different))
  · intro other task there
    simp only [State.spawnJob, State.setJob, Function.update_apply]
    split
    · next same =>
        subst same
        refine Or.inr ((tended.moved other task there).resolve_left ?_)
        intro reaping
        have phase := Eq.trans (Eq.symm idle) reaping
        cases phase
    · exact tended.moved other task there

theorem startReturns (tended : state.Tended) {call : Call} :
    ((machine reqId).effect state (.startReturns call server)).Tended := by
  constructor
  · intro other
    simp only [machine, effect, State.setGuarded, State.setOperation, State.setSlot,
      Function.update_apply]
    split
    · next same =>
        rw [same]
        exact iff_of_true (Finset.mem_insert_self ..) rfl
    · next different =>
        apply Iff.trans _ (tended.reserved other)
        exact Finset.mem_insert.trans (or_iff_right (by simpa using different))
  · intro job
    apply Iff.trans _ (tended.employed job)
    exact Finset.mem_insert.trans (or_iff_right (by simp))
  · intro other
    simp only [machine, effect, State.setGuarded, State.setOperation, State.setSlot,
      Function.update_apply]
    split
    · intro impossible
      cases impossible
    · exact tended.vacated other
  · intro other holder result there
    simp only [machine, effect, State.setGuarded, State.setOperation, State.setSlot,
      Function.update_apply] at there ⊢
    split at there
    · cases there
    · next different =>
        rw [if_neg different]
        exact tended.ended other holder result there
  · intro other job
    simp only [machine, effect, State.setGuarded, State.setOperation, State.setSlot,
      Function.update_apply]
    split
    · intro impossible
      rcases impossible with impossible | impossible <;> cases impossible
    · exact tended.moved other job

theorem look (tended : state.Tended) :
    ((machine reqId).effect state (.look holder server)).Tended := by
  refine ⟨tended.reserved, tended.employed, tended.vacated, ?_, tended.moved⟩
  intro other keeper result there present
  simp only [machine, effect, State.setGuarded, Function.update_apply] at there present
  split at there
  · next same =>
      subst same
      rw [if_pos present] at there
      cases there
  · exact tended.ended other keeper result there present

theorem stop (tended : state.Tended) {result : Except String Unit} :
    ((machine reqId).effect state (.stop holder server result)).Tended := by
  have mono : ∀ other, state.stopped other → Function.update state.stopped server true other := by
    intro other before
    rw [Function.update_apply]
    split
    · rfl
    · exact before
  refine ⟨tended.reserved, tended.employed, ?_, ?_, ?_⟩
  · exact fun other vacated => mono other (tended.vacated other vacated)
  · intro other keeper outcome there present
    simp only [machine, effect, State.setGuarded, Function.update_apply] at there ⊢
    split at there
    · next same => simp only [same, ↓reduceIte]
    · next different =>
        simp only [different, ↓reduceIte]
        exact tended.ended other keeper outcome there present
  · intro other job there
    exact (tended.moved other job there).imp_right (mono other)

theorem take (tended : state.Tended) {result : Except String Unit}
    (ready : (machine reqId).guard state (.take holder server result)) :
    ((machine reqId).effect state (.take holder server result)).Tended := by
  simp only [machine, effect]
  split
  · next present =>
      have stopped := tended.ended server holder result ready present
      constructor
      · intro other
        simp only [State.setGuarded, State.ask, State.setSlot, Function.update_apply]
        split
        · next same =>
            rw [same]
            exact iff_of_false (Finset.notMem_erase _ _) (by simp [Slot.reserves])
        · next different =>
            apply Iff.trans _ (tended.reserved other)
            exact Finset.mem_erase.trans (and_iff_right (by simpa using different))
      · intro job
        apply Iff.trans _ (tended.employed job)
        exact Finset.mem_erase.trans (and_iff_right (by simp))
      · intro other
        simp only [State.setGuarded, State.ask, State.setSlot, Function.update_apply]
        split
        · next same =>
            rw [same]
            exact fun _ => stopped
        · exact tended.vacated other
      · intro other keeper outcome there
        simp only [State.setGuarded, State.ask, State.setSlot, Function.update_apply] at there ⊢
        split at there
        · cases there
        · next different =>
            rw [if_neg different]
            exact tended.ended other keeper outcome there
      · intro other job
        simp only [State.setGuarded, State.ask, State.setSlot, Function.update_apply]
        split
        · intro impossible
          rcases impossible with impossible | impossible <;> cases impossible
        · exact tended.moved other job
  · exact tended.setGuarded (by simp)

theorem resume (tended : state.Tended) (result : Except String Unit)
    (closing : ∀ job, holder = .job job → state.job job = .closing server) :
    (state.resume server result holder).Tended := by
  cases holder with
  | table => exact tended
  | operation call => exact tended.same rfl rfl rfl rfl rfl
  | thread thread => exact tended.same rfl rfl rfl rfl rfl
  | sweep =>
      simp only [State.resume]
      split
      · exact tended.same rfl rfl rfl rfl rfl
      · exact tended
  | job job =>
      have phase := closing job rfl
      exact tended.advance (by rw [phase]; rfl) rfl (fun other => by rw [phase]; simp)

theorem spawnCleanup (tended : state.Tended)
    (ready : (machine reqId).guard state (.spawnCleanup server job)) :
    ((machine reqId).effect state (.spawnCleanup server job)).Tended := by
  obtain ⟨dropping, idle⟩ := ready
  constructor
  · intro other
    simp only [machine, effect, State.spawnJob, State.setJob, State.ask, State.setSlot,
      Function.update_apply]
    have unchanged : Token.server other ∈ insert (Token.cleanup job)
        state.request.tracker.outstanding ↔ (state.slot other).reserves :=
      (Finset.mem_insert.trans (or_iff_right (by simp))).trans (tended.reserved other)
    apply unchanged.trans
    split
    · next same =>
        rw [same, dropping]
        exact Iff.rfl
    · exact Iff.rfl
  · intro other
    simp only [machine, effect, State.spawnJob, State.setJob, Function.update_apply]
    split
    · next same =>
        rw [same]
        exact iff_of_true (Finset.mem_insert_self ..) rfl
    · next different =>
        apply Iff.trans _ (tended.employed other)
        exact Finset.mem_insert.trans (or_iff_right (by simpa using different))
  · intro other
    simp only [machine, effect, State.spawnJob, State.setJob, State.ask, State.setSlot,
      Function.update_apply]
    split
    · intro impossible
      cases impossible
    · exact tended.vacated other
  · intro other keeper result there
    simp only [machine, effect, State.spawnJob, State.setJob, State.ask, State.setSlot,
      Function.update_apply]
    split
    · intro impossible
      cases impossible
    · exact tended.ended other keeper result there
  · intro other task there
    simp only [machine, effect, State.spawnJob, State.setJob, State.ask, State.setSlot,
      Function.update_apply] at there ⊢
    split at there
    · next same =>
        rcases there with there | there
        · cases there
          rw [if_pos rfl, same]
          exact Or.inl rfl
        · cases there
    · split
      · next same =>
          subst same
          refine Or.inr ((tended.moved other task there).resolve_left ?_)
          rw [idle]
          simp
      · exact tended.moved other task there

theorem dropReservation (tended : state.Tended)
    (ready : (machine reqId).guard state (.dropReservation server job)) :
    ((machine reqId).effect state (.dropReservation server job)).Tended := by
  have moved : state.slot server = .moved job := ready
  constructor
  · intro other
    simp only [machine, effect, State.ask, State.setSlot, Function.update_apply]
    split
    · next same =>
        rw [same]
        exact iff_of_false (Finset.notMem_erase _ _) (by simp [Slot.reserves])
    · next different =>
        apply Iff.trans _ (tended.reserved other)
        exact Finset.mem_erase.trans (and_iff_right (by simpa using different))
  · intro other
    apply Iff.trans _ (tended.employed other)
    exact Finset.mem_erase.trans (and_iff_right (by simp))
  · intro other
    simp only [machine, effect, State.ask, State.setSlot, Function.update_apply]
    split
    · intro impossible
      cases impossible
    · exact tended.vacated other
  · intro other keeper result there
    simp only [machine, effect, State.ask, State.setSlot, Function.update_apply]
    split
    · intro impossible
      cases impossible
    · exact tended.ended other keeper result there
  · intro other task there
    simp only [machine, effect, State.ask, State.setSlot, Function.update_apply] at there ⊢
    split at there
    · next same =>
        rw [same]
        rcases there with there | there
        · cases there
        · cases there
          exact tended.moved server job (Or.inl moved)
    · exact tended.moved other task there

theorem reap (tended : state.Tended) {result : Except String Unit}
    (ready : (machine reqId).guard state (.reap job server result)) :
    ((machine reqId).effect state (.reap job server result)).Tended := by
  have reaping : state.job job = .reaping server := ready
  have mono : ∀ other, state.stopped other → Function.update state.stopped server true other := by
    intro other before
    rw [Function.update_apply]
    split
    · rfl
    · exact before
  refine ⟨tended.reserved, ?_, ?_, ?_, ?_⟩
  · intro other
    apply (tended.employed other).trans
    simp only [machine, effect, State.setJob, Function.update_apply]
    split
    · next same =>
        rw [same, reaping]
        exact Iff.rfl
    · exact Iff.rfl
  · exact fun other vacated => mono other (tended.vacated other vacated)
  · exact fun other keeper outcome there present =>
      mono other (tended.ended other keeper outcome there present)
  · intro other task there
    simp only [machine, effect, State.setJob, Function.update_apply]
    split
    · next same =>
        subst same
        refine Or.inr ?_
        rcases tended.moved other task there with busy | stopped
        · rw [reaping] at busy
          cases busy
          exact if_pos rfl
        · split
          · rfl
          · exact stopped
    · have before := tended.moved other task there
      apply before.imp_right
      intro stopped
      split
      · rfl
      · exact stopped

theorem jobEnd (tended : state.Tended) (ready : (machine reqId).guard state (.jobEnd job)) :
    ((machine reqId).effect state (.jobEnd job)).Tended := by
  have ending : state.job job = .ending := ready
  refine ⟨?_, ?_, tended.vacated, tended.ended, ?_⟩
  · intro other
    apply Iff.trans _ (tended.reserved other)
    exact Finset.mem_erase.trans (and_iff_right (by simp))
  · intro other
    simp only [machine, effect, State.ask, State.setJob, Function.update_apply]
    split
    · next same =>
        rw [same]
        exact iff_of_false (Finset.notMem_erase _ _) (by simp [JobPhase.runs])
    · next different =>
        apply Iff.trans _ (tended.employed other)
        exact Finset.mem_erase.trans (and_iff_right (by simpa using different))
  · intro other task there
    simp only [machine, effect, State.ask, State.setJob, Function.update_apply]
    split
    · next same =>
        subst same
        refine Or.inr ((tended.moved other task there).resolve_left ?_)
        rw [ending]
        simp
    · exact tended.moved other task there

/-- An operation comes to its end, and drops its clone. -/
theorem conclude (tended : state.Tended) (reqId : Call → UInt64) (call : Call)
    (action : Request.Action) (own : action.lends = false) :
    (((state.letGo server holder).setOperation call .plain).ask reqId action).Tended := by
  have settled : ((state.letGo server holder).setOperation call .plain).Tended :=
    (tended.letGo server holder).same rfl rfl rfl rfl rfl
  exact settled.ask reqId action own

end State.Tended

theorem State.Plain.own {state : State} {action : Request.Action} (plain : state.Plain action) :
    action.lends = false := by
  cases action with
  | issue token => cases plain
  | release token => cases plain
  | _ => rfl

theorem Interrupts.own {call : Call} {action : Request.Action} (interrupts : Interrupts call action) :
    action.lends = false := by
  cases action with
  | issue token => cases interrupts
  | release token => cases interrupts
  | _ => rfl

/-- Every step leaves every server answered for. -/
theorem tended_invariant (reqId : Call → UInt64) : (machine reqId).Invariant State.Tended where
  start := by
    constructor
    · exact fun _ => iff_of_false (Finset.notMem_empty _) Bool.false_ne_true
    · exact fun _ => iff_of_false (Finset.notMem_empty _) Bool.false_ne_true
    · exact fun _ impossible => by cases impossible
    · exact fun _ _ _ impossible => by cases impossible
    · exact fun _ _ impossible => by rcases impossible with impossible | impossible <;> cases impossible
  step := by
    intro state action reached tended ready
    cases action with
    | request action => exact tended.ask reqId action ready.2.own
    | startReturns call server => exact tended.startReturns
    | insertOwned call server handle info =>
        have held : (state.hold server .table).Tended := tended.same rfl rfl rfl rfl rfl
        exact (held.conclude reqId call
          (.complete call (startedCompletion (reqId call) handle info)) rfl).same
            rfl rfl rfl rfl rfl
    | closeRefused call server job =>
        exact (tended.spawn ready.2).same rfl rfl rfl rfl rfl
    | dropRefused call server => exact tended.conclude reqId call _ rfl
    | dropCaptured call server error => exact tended.conclude reqId call _ rfl
    | interrupt call server action =>
        simp only [machine, effect]
        split
        · exact (tended.setGuarded (by simp)).conclude reqId call action ready.2.1.own
        · exact tended.conclude reqId call action ready.2.1.own
    | answer call server result => exact tended.conclude reqId call _ rfl
    | readDone thread server => exact (tended.letGo server _).same rfl rfl rfl rfl rfl
    | remove thread server handle =>
        have held : (state.hold server (.thread thread)).Tended := tended.same rfl rfl rfl rfl rfl
        exact (held.letGo server .table).same rfl rfl rfl rfl rfl
    | freeDone thread server result => exact (tended.letGo server _).same rfl rfl rfl rfl rfl
    | acquire holder server => exact tended.setGuarded (by simp)
    | look holder server => exact tended.look
    | stop holder server result => exact tended.stop
    | take holder server result => exact tended.take ready
    | unlock holder server result =>
        have locked := (locked_invariant reqId).reachable reached server holder _ ready
        refine (tended.setGuarded (by simp)).resume result ?_
        intro job same
        subst same
        exact locked
    | spawnCleanup server job => exact tended.spawnCleanup ready
    | dropReservation server job => exact tended.dropReservation ready
    | jobDone job server =>
        have closed : state.job job = .closed server := ready
        refine (tended.letGo server (.job job)).advance ?_ rfl ?_
        · rw [show (state.letGo server (.job job)).job job = _ from closed]
          rfl
        · intro other
          rw [show (state.letGo server (.job job)).job job = _ from closed]
          simp
    | reap job server result => exact tended.reap ready
    | jobEnd job => exact tended.jobEnd ready
    | discard pending =>
        simp only [machine, effect]
        split
        · split
          · split
            · exact ((tended.letGo _ .table).ask reqId (.drop pending) rfl).same rfl rfl rfl rfl rfl
            · exact tended.ask reqId (.drop pending) rfl
          · exact tended.ask reqId (.drop pending) rfl
        · exact tended.ask reqId (.drop pending) rfl
    | sweepClose child rest job => exact (tended.spawn ready.2).same rfl rfl rfl rfl rfl
    | sweepDrop child rest => exact (tended.letGo child .sweep).same rfl rfl rfl rfl rfl
    | drainStart => exact (tended.ask reqId .drainStart rfl).same rfl rfl rfl rfl rfl
    | drainFinish => exact (tended.ask reqId .drainFinish rfl).same rfl rfl rfl rfl rfl
    | closeTracker => exact (tended.ask reqId .closeTracker rfl).same rfl rfl rfl rfl rfl
    | _ => exact tended.same rfl rfl rfl rfl rfl

end KtBridge.Ephemeral
