import KtBridge.Ephemeral.Reaping

/-! # What a closed runtime leaves behind

When `free_runtime`'s wait returns, every call is over, every server that was started
has been shut down, and nothing is admitted any more (`closed_runtime_is_quiet`): the
wait returns only on a tracker without tokens, and every server still unstopped would
hold one, its own or its cleanup task's.
-/

namespace KtBridge.Ephemeral

open Foundation Request

variable {reqId : Call → UInt64}

theorem State.request_resume (state : State) (server : Server) (result : Except String Unit)
    (holder : Holder) : (state.resume server result holder).request = state.request := by
  cases holder with
  | sweep =>
      simp only [State.resume]
      split <;> rfl
  | _ => rfl

/-- A shutdown that returns to the sweep is before the drain. -/
theorem State.drains_resume (state : State) (server : Server) (result : Except String Unit)
    (holder : Holder) (drains : (state.resume server result holder).free.drains) :
    state.free.drains := by
  cases holder with
  | sweep =>
      simp only [State.resume] at drains
      split at drains
      · cases drains
      · exact drains
  | _ => exact drains

/-- Every step is a step of the request machine or leaves it alone. -/
theorem request_step {state : State} {action : Action} (tended : state.Tended)
    (ready : (machine reqId).guard state action) :
    ((machine reqId).effect state action).request = state.request ∨
      ∃ label, (Request.machine reqId).guard state.request label ∧
        ((machine reqId).effect state action).request =
          (Request.machine reqId).effect state.request label := by
  have issued : ∀ job, state.job job = .idle →
      (Request.machine reqId).guard state.request (.issue (.cleanup job)) := by
    intro job idle
    refine ⟨rfl, ?_⟩
    rw [tended.employed, idle]
    simp [JobPhase.runs]
  have released : ∀ server, (state.slot server).reserves →
      (Request.machine reqId).guard state.request (.release (.server server)) :=
    fun server reserves => ⟨rfl, (tended.reserved server).mpr reserves⟩
  cases action with
  | request action => exact Or.inr ⟨action, ready.1, rfl⟩
  | startReturns call server =>
      refine Or.inr ⟨.issue (.server server), ⟨rfl, ?_⟩, rfl⟩
      rw [tended.reserved, ready.2.2]
      simp [Slot.reserves]
  | insertOwned call server handle info =>
      exact Or.inr ⟨.complete call (startedCompletion (reqId call) handle info), ⟨ready.1, rfl⟩, rfl⟩
  | closeRefused call server job => exact Or.inr ⟨_, issued job ready.2, rfl⟩
  | dropRefused call server =>
      exact Or.inr ⟨.complete call (refusedCompletion (reqId call)), ⟨ready.1, rfl⟩, rfl⟩
  | dropCaptured call server error => exact Or.inr ⟨.dropOperation call error, ready.2, rfl⟩
  | interrupt call server action =>
      refine Or.inr ⟨action, ready.2.2.1, ?_⟩
      simp only [machine, effect]
      split <;> rfl
  | answer call server result =>
      exact Or.inr ⟨.complete call (shutdownAnswer (reqId call) result),
        ⟨ready.1, by cases result <;> rfl⟩, rfl⟩
  | take holder server result =>
      simp only [machine, effect]
      split
      · next present => exact Or.inr ⟨_, released server (by rw [present]; rfl), rfl⟩
      · exact Or.inl rfl
  | unlock holder server result => exact Or.inl (State.request_resume ..)
  | spawnCleanup server job => exact Or.inr ⟨_, issued job ready.2, rfl⟩
  | dropReservation server job =>
      exact Or.inr ⟨_, released server (by rw [show state.slot server = _ from ready]; rfl), rfl⟩
  | jobEnd job =>
      refine Or.inr ⟨.release (.cleanup job), ⟨rfl, (tended.employed job).mpr ?_⟩, rfl⟩
      rw [show state.job job = _ from ready]
      rfl
  | discard pending =>
      refine Or.inr ⟨.drop pending, ready, ?_⟩
      simp only [machine, effect]
      split
      · split
        · split <;> rfl
        · rfl
      · rfl
  | sweepClose child rest job => exact Or.inr ⟨_, issued job ready.2, rfl⟩
  | drainStart => exact Or.inr ⟨.drainStart, ready.2, rfl⟩
  | drainFinish => exact Or.inr ⟨.drainFinish, ready.2, rfl⟩
  | closeTracker => exact Or.inr ⟨.closeTracker, trivial, rfl⟩
  | _ => exact Or.inl rfl

/-- The requests of a reachable state are reachable by the request machine. -/
theorem request_reachable {state : State} (reached : (machine reqId).Reachable state) :
    (Request.machine reqId).Reachable state.request := by
  induction reached with
  | start => exact GuardedSystem.Reachable.start
  | step reached action ready ih =>
      have tended := (tended_invariant reqId).reachable reached
      rcases request_step tended ready with same | ⟨label, met, next⟩
      · rw [same]
        exact ih
      · rw [next]
        exact ih.step label met

/-- Once the drain has begun the pending table is closed. -/
theorem closed_invariant (reqId : Call → UInt64) :
    (machine reqId).Invariant fun state => state.free.drains → state.request.closed where
  start := fun impossible => by cases impossible
  step := by
    intro state action reached before ready after
    have stays : state.request.closed → ((machine reqId).effect state action).request.closed := by
      intro closed
      have tended := (tended_invariant reqId).reachable reached
      rcases request_step tended ready with same | ⟨label, met, next⟩
      · rw [same]
        exact closed
      · rw [next]
        exact (accepted_before closed met).1
    have kept : ((machine reqId).effect state action).free = state.free →
        ((machine reqId).effect state action).request.closed := by
      intro same
      rw [same] at after
      exact stays (before after)
    cases action with
    | interrupt call server label =>
        apply kept
        simp only [machine, effect]
        split <;> rfl
    | take holder server result =>
        apply kept
        simp only [machine, effect]
        split <;> rfl
    | unlock holder server result =>
        have drains := State.drains_resume (state.setGuarded server none) server result holder after
        exact stays (before drains)
    | discard pending =>
        apply kept
        simp only [machine, effect]
        split
        · split
          · split <;> rfl
          · rfl
        · rfl
    | removeRuntime children => cases after
    | sweepNext child rest => cases after
    | sweepClose child rest job => cases after
    | sweepDrop child rest => cases after
    | sweepDone => cases after
    | drainStart => rfl
    | drainFinish => exact stays (before (by rw [ready.1]; rfl))
    | closeTracker => exact stays (before (by rw [show state.free = _ from ready]; rfl))
    | waitReturns => exact stays (before (by rw [ready.1]; rfl))
    | _ => exact kept rfl

/-- Only a running operation starts a server. -/
theorem absent_step {state : State} {action : Action} {server : Server}
    (ready : (machine reqId).guard state action) (absent : state.slot server = .absent)
    (resting : ∀ call, state.request.phase call ≠ .running) :
    ((machine reqId).effect state action).slot server = .absent := by
  have letGo : ∀ (before : State) other holder, before.slot server = .absent →
      (before.letGo other holder).slot server = .absent := by
    intro before other holder was
    simp only [State.letGo]
    split
    · next last =>
        rw [Function.update_of_ne]
        · exact was
        · intro same
          have present := last.2
          rw [← same, was] at present
          cases present
    · exact was
  have elsewhere : ∀ other slot, state.slot other ≠ .absent →
      Function.update state.slot other slot server = .absent := by
    intro other slot different
    rw [Function.update_of_ne]
    · exact absent
    · intro same
      exact different (same ▸ absent)
  cases action with
  | startReturns call other => exact absurd ready.1 (resting call)
  | insertOwned call other handle info => exact letGo (state.hold other .table) _ _ absent
  | dropRefused call other => exact letGo state _ _ absent
  | dropCaptured call other error => exact letGo state _ _ absent
  | interrupt call other label =>
      simp only [machine, effect]
      split
      · exact letGo (state.setGuarded other none) _ _ absent
      · exact letGo state _ _ absent
  | answer call other result => exact letGo state _ _ absent
  | readDone thread other => exact letGo state _ _ absent
  | remove thread other handle => exact letGo (state.hold other (.thread thread)) _ _ absent
  | freeDone thread other result => exact letGo state _ _ absent
  | take holder other result =>
      simp only [machine, effect]
      split
      · next present => exact elsewhere other .vacated (by rw [present]; simp)
      · exact absent
  | unlock holder other result =>
      cases holder with
      | sweep =>
          simp only [machine, effect, State.resume]
          split <;> exact absent
      | _ => exact absent
  | spawnCleanup other job => exact elsewhere other _ (by rw [ready.1]; simp)
  | dropReservation other job =>
      exact elsewhere other _ (by rw [show state.slot other = _ from ready]; simp)
  | jobDone job other => exact letGo state _ _ absent
  | discard pending =>
      simp only [machine, effect]
      split
      · split
        · split
          · exact letGo state _ _ absent
          · exact absent
        · exact absent
      · exact absent
  | sweepDrop child rest => exact letGo state _ _ absent
  | _ => exact absent

/-- What a quiet runtime keeps along a run. -/
structure State.Still (first state : State) : Prop where
  quiet : state.request.Quiet
  accepted : ∀ call, (state.request.phase call).accepted → (first.request.phase call).accepted
  absent : ∀ server, first.slot server = .absent → state.slot server = .absent

/-- A quiet runtime admits no call and starts no server. -/
theorem still_run {state : State} (reached : (machine reqId).Reachable state)
    (quiet : state.request.Quiet) {trace : List Action} (runs : (machine reqId).Runs state trace) :
    state.Still ((machine reqId).after state trace) := by
  refine reached.keeps ?_ ⟨quiet, fun _ accepted => accepted, fun _ absent => absent⟩ runs
  intro middle action reached still ready
  have resting : ∀ call, middle.request.phase call ≠ .running := by
    intro call running
    have ceased := still.quiet.ceased call (by rw [running]; simp [Phase.accepted, Phase.stage])
    rw [running] at ceased
    cases ceased
  have absent : ∀ server, state.slot server = .absent →
      ((machine reqId).effect middle action).slot server = .absent :=
    fun server first => absent_step ready (still.absent server first) resting
  have tended := (tended_invariant reqId).reachable reached
  rcases request_step tended ready with same | ⟨label, met, next⟩
  · refine ⟨?_, ?_, absent⟩
    · rw [same]
      exact still.quiet
    · rw [same]
      exact still.accepted
  · obtain ⟨after, before⟩ := still.quiet.step met
    refine ⟨?_, ?_, absent⟩
    · rw [next]
      exact after
    · intro call accepted
      rw [next] at accepted
      exact still.accepted call (before call accepted)

/-- A server without a token was shut down. -/
theorem stopped_of_drained {state : State} (tended : state.Tended)
    (drained : state.request.tracker.outstanding = ∅) {server : Server}
    (started : state.slot server ≠ .absent) : state.stopped server := by
  have unreserved : (state.slot server).reserves = false := by
    by_contra reserves
    have held := (tended.reserved server).mpr (Bool.eq_true_of_not_eq_false reserves)
    rw [drained] at held
    exact Finset.notMem_empty _ held
  have resting : ∀ job, (state.job job).runs = false := by
    intro job
    by_contra runs
    have held := (tended.employed job).mpr (Bool.eq_true_of_not_eq_false runs)
    rw [drained] at held
    exact Finset.notMem_empty _ held
  cases slot : state.slot server with
  | absent => exact absurd slot started
  | vacated => exact tended.vacated server slot
  | handed job =>
      refine (tended.moved server job (Or.inr slot)).resolve_left ?_
      intro reaping
      have runs := resting job
      rw [reaping] at runs
      cases runs
  | present =>
      rw [slot] at unreserved
      cases unreserved
  | dropping =>
      rw [slot] at unreserved
      cases unreserved
  | moved job =>
      rw [slot] at unreserved
      cases unreserved

/-- When `free_runtime`'s wait returns, every call is over, every server that
`ephemeral::start` returned has been shut down and its reservation released; and from
then on no call is accepted, no operation runs and no server is started. -/
theorem closed_runtime_is_quiet (reqId : Call → UInt64) (state : State)
    (reached : (machine reqId).Reachable state)
    (returns : (machine reqId).guard state .waitReturns) :
    (∀ call, (state.request.phase call).ceased) ∧
      (∀ server, state.slot server ≠ .absent → state.stopped server ∧
        (state.slot server).reserves = false ∧
        .server server ∉ state.request.tracker.outstanding) ∧
      ∀ trace, (machine reqId).Runs state trace →
        (∀ call, (((machine reqId).after state trace).request.phase call).accepted →
          (state.request.phase call).accepted ∧
            (((machine reqId).after state trace).request.phase call).ceased) ∧
        ∀ server, ((machine reqId).after state trace).slot server ≠ .absent →
          state.slot server ≠ .absent := by
  obtain ⟨waiting, _, drained⟩ := returns
  have tended := (tended_invariant reqId).reachable reached
  have ceased := ceased_of_drained (request_reachable reached) drained
  have closed : state.request.closed :=
    (closed_invariant reqId).reachable reached (by rw [waiting]; rfl)
  refine ⟨ceased, ?_, ?_⟩
  · intro server started
    have unreserved : Token.server server ∉ state.request.tracker.outstanding := by
      rw [drained]
      exact Finset.notMem_empty _
    refine ⟨stopped_of_drained tended drained started, ?_, unreserved⟩
    rw [tended.reserved] at unreserved
    exact Bool.eq_false_of_not_eq_true unreserved
  · intro trace runs
    have still := still_run reached ⟨closed, fun call _ => ceased call⟩ runs
    refine ⟨?_, ?_⟩
    · intro call accepted
      exact ⟨still.accepted call accepted, still.quiet.ceased call accepted⟩
    · intro server started absent
      exact started (still.absent server absent)

/-- Requests are under their numbers, from one on. -/
def numbered (call : Call) : UInt64 := UInt64.ofNat (call + 1)

def accept (call : Call) : List Action :=
  [.request (.reserve call), .request (.register call), .request (.track call),
    .request (.unreserve call), .request (.spawn call)]

def leave (call : Call) (result : Pending) : List Action :=
  [.request (.retire call result), .request (.answer call result), .request (.leave call)]

def shutDown (holder : Holder) (server : Server) (result : Except String Unit) : List Action :=
  [.acquire holder server, .look holder server, .stop holder server result,
    .take holder server result, .unlock holder server result]

/-- One server is started and delivered; its shutdown is cancelled midway; a second
start returns after the runtime was removed, and its server is closed by a task; the
sweep shuts the first one down with an error. -/
def closingTrace : List Action :=
  List.flatten [
    accept 0, [.startReturns 0 5, .insertOwned 0 5 9 ByteArray.empty],
    leave 0 (startedCompletion (numbered 0) 9 ByteArray.empty),
    [.lookup 1 5 9], accept 1, [.acquire (.operation 1) 5, .look (.operation 1) 5,
      .request (.cancel (numbered 1)), .interrupt 1 5 (.observeCancel 1)],
    leave 1 (cancelledCompletion (numbered 1)),
    accept 2, [.startReturns 2 6, .removeRuntime [5], .refuse 2 6, .closeRefused 2 6 0,
      .dropRefused 2 6], leave 2 (refusedCompletion (numbered 2)),
    shutDown (.job 0) 6 (.ok ()), [.jobDone 0 6, .jobEnd 0],
    [.sweepNext 5 []], shutDown .sweep 5 (.error "no such process"),
    [.sweepClose 5 [] 1, .sweepDrop 5 [], .sweepDone, .drainStart, .drainFinish, .closeTracker],
    [.acquire (.job 1) 5, .look (.job 1) 5, .take (.job 1) 5 (.ok ()),
      .unlock (.job 1) 5 (.ok ()), .jobDone 1 5, .jobEnd 1]]

theorem closing_run :
    (machine numbered).Runs start closingTrace ∧
      (machine numbered).guard ((machine numbered).after start closingTrace) .waitReturns ∧
      ((machine numbered).after start closingTrace).slot 5 ≠ .absent := by
  decide +kernel

theorem closed_runtime_is_quiet_swept :
    ((machine numbered).after start closingTrace).stopped 5 := by
  have reached : (machine numbered).Reachable ((machine numbered).after start closingTrace) :=
    GuardedSystem.reachable_iff.mpr ⟨closingTrace, closing_run.1, rfl⟩
  have quiet := closed_runtime_is_quiet numbered _ reached closing_run.2.1
  exact (quiet.2.1 5 closing_run.2.2).1

end KtBridge.Ephemeral
