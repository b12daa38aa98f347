import KtBridge.Ephemeral.Machine

/-! # Who has an entry's mutex

The mutex of an entry is held only by somebody who is shutting the entry down
(`State.Locked`), and nobody shuts down two at a time. What a step does to a holder is
put together from what each update of the state does (`State.Continues`).
-/

namespace KtBridge.Ephemeral

open Foundation Request

variable {reqId : Call → UInt64}

/-- Whoever has an entry's mutex is shutting the entry down. -/
def State.Locked (state : State) : Prop :=
  ∀ server holder guarded, state.guarded server = some (holder, guarded) →
    state.Shutting server holder

/-- A holder shuts one entry down at a time. -/
theorem State.Shutting.unique {state : State} {first second : Server} {holder : Holder}
    (one : state.Shutting first holder) (other : state.Shutting second holder) :
    first = second := by
  cases holder with
  | table => cases one
  | operation call =>
      have same := one.1.symm.trans other.1
      cases same
      rfl
  | thread thread =>
      have same : Thread.freeing first = .freeing second := Eq.trans (Eq.symm one) other
      cases same
      rfl
  | sweep =>
      have same : some first = some second := Eq.trans (Eq.symm one) other
      cases same
      rfl
  | job job =>
      have same : JobPhase.closing first = .closing second := Eq.trans (Eq.symm one) other
      cases same
      rfl

/-- Nobody but the one holder is stopped from shutting an entry down. -/
structure State.Continues (state next : State) (except : Option Holder) : Prop where
  running : ∀ call server, except ≠ some (.operation call) →
    state.operation call = .shutting server → state.request.phase call = .running →
    next.request.phase call = .running
  operation : ∀ call server, except ≠ some (.operation call) →
    state.operation call = .shutting server → next.operation call = .shutting server
  thread : ∀ thread server, except ≠ some (.thread thread) →
    state.thread thread = .freeing server → next.thread thread = .freeing server
  sweep : ∀ server, except ≠ some .sweep → state.free.stopping? = some server →
    next.free.stopping? = some server
  job : ∀ job server, except ≠ some (.job job) → state.job job = .closing server →
    next.job job = .closing server

theorem State.Continues.shutting {state next : State} {except : Option Holder}
    (continues : state.Continues next except) {server : Server} {holder : Holder}
    (other : except ≠ some holder) (shutting : state.Shutting server holder) :
    next.Shutting server holder := by
  cases holder with
  | table => exact shutting
  | operation call =>
      exact ⟨continues.operation call server other shutting.1,
        continues.running call server other shutting.1 shutting.2⟩
  | thread thread => exact continues.thread thread server other shutting
  | sweep => exact continues.sweep server other shutting
  | job job => exact continues.job job server other shutting

/-- Unlocking one mutex leaves the others as they were. -/
theorem kept_of_update {guarded : Server → Option (Holder × Guarded)} {server other : Server}
    {held : Holder × Guarded} (there : Function.update guarded server none other = some held) :
    guarded other = some held := by
  rw [Function.update_apply] at there
  split at there
  · cases there
  · exact there

namespace State.Locked

variable {state next : State} {server : Server}

/-- A step that leaves the mutexes alone. -/
theorem keep (locked : state.Locked) (continues : state.Continues next none)
    (guarded : next.guarded = state.guarded) : next.Locked := by
  intro server holder stage there
  rw [guarded] at there
  exact continues.shutting (by simp) (locked server holder stage there)

/-- A step on one mutex, by a holder that is shutting the entry down. -/
theorem set (locked : state.Locked) (continues : state.Continues next none)
    {guarded : Option (Holder × Guarded)}
    (moved : next.guarded = Function.update state.guarded server guarded)
    (holds : ∀ holder stage, guarded = some (holder, stage) → state.Shutting server holder) :
    next.Locked := by
  intro other holder stage there
  apply continues.shutting (by simp)
  rw [moved, Function.update_apply] at there
  split at there
  · next same =>
      rw [same]
      exact holds holder stage there
  · exact locked other holder stage there

/-- A holder stops shutting entries down, and has no mutex left. -/
theorem leave (locked : state.Locked) {holder : Holder}
    (continues : state.Continues next (some holder))
    (kept : ∀ other keeper stage, next.guarded other = some (keeper, stage) →
      state.guarded other = some (keeper, stage))
    (free : ∀ other stage, next.guarded other ≠ some (holder, stage)) : next.Locked := by
  intro other keeper stage there
  apply continues.shutting _ (locked other keeper stage (kept other keeper stage there))
  intro same
  cases same
  exact free other stage there

end State.Locked

/-- A step that leaves everybody's phase alone. -/
theorem State.Continues.still {state next : State} {except : Option Holder}
    (request : next.request = state.request) (operation : next.operation = state.operation)
    (thread : next.thread = state.thread) (free : next.free = state.free)
    (job : next.job = state.job) : state.Continues next except := by
  constructor
  · rw [request]
    exact fun _ _ _ _ running => running
  · rw [operation]
    exact fun _ _ _ shutting => shutting
  · rw [thread]
    exact fun _ _ _ freeing => freeing
  · rw [free]
    exact fun _ _ stopping => stopping
  · rw [job]
    exact fun _ _ _ closing => closing

namespace State.Continues

variable {state middle next : State} {except : Option Holder}

theorem trans (first : state.Continues middle except) (second : middle.Continues next except) :
    state.Continues next except where
  running := fun call server other shutting running =>
    second.running call server other (first.operation call server other shutting)
      (first.running call server other shutting running)
  operation := fun call server other shutting =>
    second.operation call server other (first.operation call server other shutting)
  thread := fun thread server other freeing =>
    second.thread thread server other (first.thread thread server other freeing)
  sweep := fun server other stopping => second.sweep server other (first.sweep server other stopping)
  job := fun job server other closing =>
    second.job job server other (first.job job server other closing)

theorem letGo (except : Option Holder) (state : State) (server : Server)
    (holder : Holder) : state.Continues (state.letGo server holder) except :=
  still rfl rfl rfl rfl rfl

theorem hold (except : Option Holder) (state : State) (server : Server)
    (holder : Holder) : state.Continues (state.hold server holder) except :=
  still rfl rfl rfl rfl rfl

theorem setSlot (except : Option Holder) (state : State) (server : Server) (slot : Slot) :
    state.Continues (state.setSlot server slot) except :=
  still rfl rfl rfl rfl rfl

theorem setGuarded (except : Option Holder) (state : State) (server : Server)
    (guarded : Option (Holder × Guarded)) :
    state.Continues (state.setGuarded server guarded) except :=
  still rfl rfl rfl rfl rfl

theorem setOperation (except : Option Holder) (state : State) (call : Call)
    (operation : Operation)
    (idle : except ≠ some (.operation call) → ∀ server, state.operation call ≠ .shutting server) :
    state.Continues (state.setOperation call operation) except := by
  refine ⟨fun _ _ _ _ running => running, ?_, fun _ _ _ freeing => freeing,
    fun _ _ stopping => stopping, fun _ _ _ closing => closing⟩
  intro other server kept shutting
  by_cases same : other = call
  · subst same
    exact absurd shutting (idle kept server)
  · simp only [State.setOperation, Function.update_of_ne same]
    exact shutting

theorem setThread (except : Option Holder) (state : State) (thread : Nat) (phase : Thread)
    (idle : except ≠ some (.thread thread) → ∀ server, state.thread thread ≠ .freeing server) :
    state.Continues (state.setThread thread phase) except := by
  refine ⟨fun _ _ _ _ running => running, fun _ _ _ shutting => shutting, ?_,
    fun _ _ stopping => stopping, fun _ _ _ closing => closing⟩
  intro other server kept freeing
  by_cases same : other = thread
  · subst same
    exact absurd freeing (idle kept server)
  · simp only [State.setThread, Function.update_of_ne same]
    exact freeing

theorem setJob (except : Option Holder) (state : State) (job : Job) (phase : JobPhase)
    (idle : except ≠ some (.job job) → ∀ server, state.job job ≠ .closing server) :
    state.Continues (state.setJob job phase) except := by
  refine ⟨fun _ _ _ _ running => running, fun _ _ _ shutting => shutting,
    fun _ _ _ freeing => freeing, fun _ _ stopping => stopping, ?_⟩
  intro other server kept closing
  by_cases same : other = job
  · subst same
    exact absurd closing (idle kept server)
  · simp only [State.setJob, Function.update_of_ne same]
    exact closing

/-- A step of the request machine that ends nobody else's shutdown. -/
theorem ask (except : Option Holder) {action : Request.Action}
    (ready : Request.guard reqId state.request action)
    (unended : ∀ call server, except ≠ some (.operation call) →
      state.operation call = .shutting server → action.ends ≠ some call) :
    state.Continues (state.ask reqId action) except := by
  refine ⟨?_, fun _ _ _ shutting => shutting, fun _ _ _ freeing => freeing,
    fun _ _ stopping => stopping, fun _ _ _ closing => closing⟩
  intro call server kept shutting running
  exact running_kept ready running (unended call server kept shutting)

/-- Issuing or releasing a token is no concern of any call. -/
theorem lend (except : Option Holder) (reqId : Call → UInt64) (state : State)
    (action : Request.Action) (lends : action.lends) :
    state.Continues (state.ask reqId action) except := by
  cases action with
  | issue token => exact ⟨fun _ _ _ _ running => running, fun _ _ _ shutting => shutting,
      fun _ _ _ freeing => freeing, fun _ _ stopping => stopping, fun _ _ _ closing => closing⟩
  | release token => exact ⟨fun _ _ _ _ running => running, fun _ _ _ shutting => shutting,
      fun _ _ _ freeing => freeing, fun _ _ stopping => stopping, fun _ _ _ closing => closing⟩
  | _ => cases lends

/-- The sweep moves on from where it blocks on nobody. -/
theorem setFree (except : Option Holder) (state : State) (free : FreePhase)
    (idle : state.free.stopping? = none) :
    state.Continues { state with free := free } except := by
  refine ⟨fun _ _ _ _ running => running, fun _ _ _ shutting => shutting,
    fun _ _ _ freeing => freeing, ?_, fun _ _ _ closing => closing⟩
  intro server _ stopping
  rw [idle] at stopping
  cases stopping

end State.Continues

/-- A plain step ends no operation that has an entry. -/
theorem State.Plain.unended {state : State} {action : Request.Action} (plain : state.Plain action)
    {call : Call} {server : Server} (shutting : state.operation call = .shutting server) :
    action.ends ≠ some call := by
  intro ends
  cases action with
  | observeCancel other =>
      cases ends
      have calm : state.operation call = .plain := plain
      rw [shutting] at calm
      cases calm
  | complete other result =>
      cases ends
      have calm : state.operation call = .plain := plain
      rw [shutting] at calm
      cases calm
  | panic other message =>
      cases ends
      have calm : state.operation call = .plain := plain
      rw [shutting] at calm
      cases calm
  | abandon other =>
      cases ends
      have calm : state.operation call = .plain := plain
      rw [shutting] at calm
      cases calm
  | _ => cases ends

/-- An operation that has come to its end, and its request. -/
theorem State.Continues.conclude (except : Option Holder) (reqId : Call → UInt64)
    (state : State) (call : Call) (server : Server) (action : Request.Action)
    (ready : Request.guard reqId state.request action)
    (own : action.ends = some call ∨ action.ends = none)
    (idle : except ≠ some (.operation call) → ∀ server, state.operation call ≠ .shutting server) :
    state.Continues (((state.letGo server (.operation call)).setOperation call .plain).ask reqId
      action) except := by
  have settled : state.Continues ((state.letGo server (.operation call)).setOperation call .plain)
      except := (letGo except state server _).trans (setOperation except _ call .plain idle)
  refine settled.trans (ask except ready ?_)
  intro other target _ shutting ends
  rcases own with own | own
  · rw [own] at ends
    cases ends
    simp [State.setOperation] at shutting
  · rw [own] at ends
    cases ends

/-- A shutdown returns to its holder. -/
theorem State.Continues.resume (state : State) (server : Server) (result : Except String Unit)
    (holder : Holder) : state.Continues (state.resume server result holder) (some holder) := by
  cases holder with
  | table => exact still rfl rfl rfl rfl rfl
  | operation call => exact setOperation _ state call _ (fun other => absurd rfl other)
  | thread thread => exact setThread _ state thread _ (fun other => absurd rfl other)
  | sweep =>
      simp only [State.resume]
      split
      · exact ⟨fun _ _ _ _ running => running, fun _ _ _ shutting => shutting,
          fun _ _ _ freeing => freeing, fun _ other => absurd rfl other,
          fun _ _ _ closing => closing⟩
      · exact still rfl rfl rfl rfl rfl
  | job job => exact setJob _ state job _ (fun other => absurd rfl other)

theorem State.guarded_resume (state : State) (server : Server) (result : Except String Unit)
    (holder : Holder) : (state.resume server result holder).guarded = state.guarded := by
  cases holder with
  | sweep =>
      simp only [State.resume]
      split <;> rfl
  | _ => rfl

/-- Every step leaves an entry's mutex with somebody who is shutting it down. -/
theorem locked_invariant (reqId : Call → UInt64) : (machine reqId).Invariant State.Locked where
  start := by
    intro server holder stage impossible
    cases impossible
  step := by
    intro state action _ locked ready
    have unlocked : ∀ holder stage, (none : Option (Holder × Guarded)) ≠ some (holder, stage) := by
      simp
    cases action with
    | request action =>
        refine locked.keep (State.Continues.ask none ready.1 ?_) rfl
        exact fun _ _ _ shutting => ready.2.unended shutting
    | startReturns call server =>
        have asked := State.Continues.lend none reqId state (.issue (.server server)) rfl
        have moved := State.Continues.setOperation none
          (state.ask reqId (.issue (.server server))) call (.started server)
          (fun _ _ => by simp [State.ask, ready.2.1])
        refine locked.set ((asked.trans moved).trans (State.Continues.still rfl rfl rfl rfl rfl))
          rfl ?_
        exact fun holder stage impossible => absurd impossible (unlocked holder stage)
    | insertOwned call server handle info =>
        have concluded := State.Continues.conclude none reqId (state.hold server .table) call server
          (.complete call (startedCompletion (reqId call) handle info)) ⟨ready.1, rfl⟩
          (Or.inl rfl) (fun _ _ => by simp [State.hold, ready.2.1])
        exact locked.keep (((State.Continues.hold none state server .table).trans concluded).trans
          (State.Continues.still rfl rfl rfl rfl rfl)) rfl
    | refuse call server =>
        exact locked.keep (State.Continues.setOperation none state call _
          (fun _ _ => by simp [ready.1])) rfl
    | closeRefused call server job =>
        have lent := State.Continues.lend none reqId state (.issue (.cleanup job)) rfl
        have employed := State.Continues.setJob none (state.ask reqId (.issue (.cleanup job))) job
          (.closing server) (fun _ _ => by simp [State.ask, ready.2])
        refine locked.keep (((lent.trans employed).trans (State.Continues.hold none _ server
          (.job job))).trans (State.Continues.setOperation none _ call _ ?_)) rfl
        exact fun _ _ => by simp [State.ask, State.setJob, State.hold, ready.1]
    | dropRefused call server =>
        exact locked.keep (State.Continues.conclude none reqId state call server _
          ⟨ready.1, rfl⟩ (Or.inl rfl) (fun _ _ => by simp [ready.2])) rfl
    | lookup call server handle =>
        refine locked.keep ((State.Continues.hold none state server (.operation call)).trans
          (State.Continues.setOperation none _ call _ ?_)) rfl
        exact fun _ _ => by simp [State.hold, ready.2.1]
    | dropCaptured call server error =>
        -- The request was rejected, so its operation never ran, and has no mutex.
        refine locked.leave (State.Continues.conclude _ reqId state call server _ ready.2
          (Or.inr rfl) (fun other => absurd rfl other)) (fun _ _ _ there => there) ?_
        intro other stage there
        have running := (locked other _ stage there).2
        rw [show state.request.phase call = _ from ready.2] at running
        cases running
    | interrupt call server action =>
        obtain ⟨shutting, interrupts, possible, _⟩ := ready
        have own : action.ends = some call := by
          cases action with
          | observeCancel other => exact congrArg some interrupts
          | panic other message => exact congrArg some interrupts
          | abandon other => exact congrArg some interrupts
          | _ => cases interrupts
        simp only [machine, effect]
        split
        · refine locked.leave ((State.Continues.setGuarded _ state server none).trans
            (State.Continues.conclude _ reqId (state.setGuarded server none) call server action
              possible (Or.inl own) (fun other => absurd rfl other))) ?_ ?_
          · intro other keeper stage there
            exact kept_of_update there
          · intro other stage there
            have before := kept_of_update there
            obtain ⟨same, _⟩ := locked other _ stage before
            rw [shutting] at same
            cases same
            have unlocked := Function.update_self server (none : Option (Holder × Guarded))
              state.guarded
            cases unlocked.symm.trans there
        · next unheld =>
            refine locked.leave (State.Continues.conclude _ reqId state call server action
              possible (Or.inl own) (fun other => absurd rfl other)) (fun _ _ _ there => there) ?_
            intro other stage there
            obtain ⟨same, _⟩ := locked other _ stage there
            rw [shutting] at same
            cases same
            exact unheld (congrArg (Option.map Prod.fst) there)
    | answer call server result =>
        exact locked.keep (State.Continues.conclude none reqId state call server _
          ⟨ready.1, by cases result <;> rfl⟩ (Or.inl rfl) (fun _ _ => by simp [ready.2])) rfl
    | read thread server handle =>
        refine locked.keep ((State.Continues.hold none state server (.thread thread)).trans
          (State.Continues.setThread none _ thread _ ?_)) rfl
        exact fun _ _ => by simp [State.hold, ready.1]
    | readDone thread server =>
        refine locked.keep ((State.Continues.letGo none state server (.thread thread)).trans
          (State.Continues.setThread none _ thread _ ?_)) rfl
        exact fun _ _ => by simp [State.letGo, show state.thread thread = _ from ready]
    | remove thread server handle =>
        have moved := State.Continues.setThread none ((state.hold server (.thread thread)).letGo
          server .table) thread (.freeing server) (fun _ _ => by
            simp [State.hold, State.letGo, ready.1])
        exact locked.keep (((State.Continues.hold none state server (.thread thread)).trans
          (State.Continues.letGo none _ server .table)).trans
            (moved.trans (State.Continues.still rfl rfl rfl rfl rfl))) rfl
    | freeDone thread server result =>
        refine locked.keep ((State.Continues.letGo none state server (.thread thread)).trans
          (State.Continues.setThread none _ thread _ ?_)) rfl
        exact fun _ _ => by simp [State.letGo, show state.thread thread = _ from ready]
    | acquire holder server =>
        refine locked.set (State.Continues.still rfl rfl rfl rfl rfl) rfl ?_
        intro keeper stage same
        cases same
        exact ready.1
    | look holder server =>
        refine locked.set (State.Continues.still rfl rfl rfl rfl rfl) rfl ?_
        intro keeper stage same
        cases same
        exact locked server holder _ ready
    | stop holder server result =>
        refine locked.set (State.Continues.still rfl rfl rfl rfl rfl) rfl ?_
        intro keeper stage same
        cases same
        exact locked server holder _ ready
    | take holder server result =>
        have holds : ∀ keeper stage, some (holder, Guarded.taken result) = some (keeper, stage) →
            state.Shutting server keeper := by
          intro keeper stage same
          cases same
          exact locked server holder _ ready
        simp only [machine, effect]
        split
        · refine locked.set (((State.Continues.setSlot none state server .vacated).trans
            (State.Continues.lend none reqId (state.setSlot server .vacated)
              (.release (.server server)) rfl)).trans
            (State.Continues.setGuarded none _ server _)) rfl holds
        · exact locked.set (State.Continues.still rfl rfl rfl rfl rfl) rfl holds
    | unlock holder server result =>
        have guarded := State.guarded_resume (state.setGuarded server none) server result holder
        refine locked.leave ((State.Continues.setGuarded _ state server none).trans
          (State.Continues.resume (state.setGuarded server none) server result holder)) ?_ ?_
        · intro other keeper stage there
          exact kept_of_update ((congrFun guarded other).symm.trans there)
        · intro other stage there
          have after := (congrFun guarded other).symm.trans there
          obtain rfl := (locked other _ stage (kept_of_update after)).unique
            (locked server _ _ ready)
          rw [show (state.setGuarded other none).guarded other = none from
            Function.update_self ..] at after
          cases after
    | spawnCleanup server job =>
        have lent := State.Continues.lend none reqId (state.setSlot server (.moved job))
          (.issue (.cleanup job)) rfl
        have employed := State.Continues.setJob none ((state.setSlot server (.moved job)).ask reqId
          (.issue (.cleanup job))) job (.reaping server) (fun _ _ => by
            simp [State.ask, State.setSlot, ready.2])
        exact locked.keep ((State.Continues.setSlot none state server (.moved job)).trans
          (lent.trans employed)) rfl
    | dropReservation server job =>
        exact locked.keep ((State.Continues.setSlot none state server (.handed job)).trans
          (State.Continues.lend none reqId (state.setSlot server (.handed job))
            (.release (.server server)) rfl)) rfl
    | jobDone job server =>
        refine locked.keep ((State.Continues.letGo none state server (.job job)).trans
          (State.Continues.setJob none _ job _ ?_)) rfl
        exact fun _ _ => by simp [State.letGo, show state.job job = _ from ready]
    | reap job server result =>
        refine locked.keep ((State.Continues.setJob none state job .ending ?_).trans
          (State.Continues.still rfl rfl rfl rfl rfl)) rfl
        exact fun _ _ => by simp [show state.job job = _ from ready]
    | jobEnd job =>
        refine locked.keep ((State.Continues.setJob none state job .finished ?_).trans
          (State.Continues.lend none reqId _ (.release (.cleanup job)) rfl)) rfl
        exact fun _ _ => by simp [show state.job job = _ from ready]
    | discard pending =>
        have dropped : ∀ before : State, before.request = state.request →
            before.Continues (before.ask reqId (.drop pending)) none := by
          intro before same
          refine State.Continues.ask none ?_ (fun _ _ _ _ => by simp [Request.Action.ends])
          rw [same]
          exact ready
        simp only [machine, effect]
        split
        · split
          · next server _ =>
              split
              · exact locked.keep (((State.Continues.letGo none state server .table).trans
                  (dropped _ rfl)).trans (State.Continues.still rfl rfl rfl rfl rfl)) rfl
              · exact locked.keep (dropped state rfl) rfl
          · exact locked.keep (dropped state rfl) rfl
        · exact locked.keep (dropped state rfl) rfl
    | removeRuntime children =>
        exact locked.keep ((State.Continues.setFree none state (.sweeping children)
          (by rw [ready.1]; rfl)).trans (State.Continues.still rfl rfl rfl rfl rfl)) rfl
    | sweepNext child rest =>
        exact locked.keep (State.Continues.setFree none state _
          (by rw [show state.free = _ from ready]; rfl)) rfl
    | sweepClose child rest job =>
        have lent := State.Continues.lend none reqId state (.issue (.cleanup job)) rfl
        have employed := State.Continues.setJob none (state.ask reqId (.issue (.cleanup job))) job
          (.closing child) (fun _ _ => by simp [State.ask, ready.2])
        exact locked.keep (((lent.trans employed).trans (State.Continues.hold none _ child
          (.job job))).trans (State.Continues.setFree none _ (.closed child rest)
            (by simp [State.ask, State.setJob, State.hold, ready.1, FreePhase.stopping?]))) rfl
    | sweepDrop child rest =>
        exact locked.keep ((State.Continues.letGo none state child .sweep).trans
          (State.Continues.setFree none _ (.sweeping rest)
            (by simp [State.letGo, show state.free = _ from ready, FreePhase.stopping?]))) rfl
    | sweepDone =>
        exact locked.keep (State.Continues.setFree none state _
          (by rw [show state.free = _ from ready]; rfl)) rfl
    | drainStart =>
        have asked := State.Continues.ask none ready.2 (fun _ _ _ _ => by simp [Request.Action.ends])
        exact locked.keep (asked.trans
          (State.Continues.setFree none _ .draining (by simp [State.ask, ready.1, FreePhase.stopping?])))
          rfl
    | drainFinish =>
        have asked := State.Continues.ask none ready.2 (fun _ _ _ _ => by simp [Request.Action.ends])
        exact locked.keep (asked.trans
          (State.Continues.setFree none _ .drained (by simp [State.ask, ready.1, FreePhase.stopping?])))
          rfl
    | closeTracker =>
        have closed : state.Continues (state.ask reqId .closeTracker) none :=
          State.Continues.ask none trivial (fun _ _ _ _ => by simp [Request.Action.ends])
        exact locked.keep (closed.trans (State.Continues.setFree none _ .waiting
          (by simp [State.ask, show state.free = _ from ready, FreePhase.stopping?]))) rfl
    | waitReturns =>
        exact locked.keep (State.Continues.setFree none state _ (by rw [ready.1]; rfl)) rfl

end KtBridge.Ephemeral
