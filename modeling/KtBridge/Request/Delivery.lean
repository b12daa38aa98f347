import KtBridge.Request.Answers

/-! # What a poller receives

Everything pushed into the open queue is taken in order, and everything a poller
takes is written in order (`Ordered`). A poller alone on its queue that is told of
the shutdown has therefore received every completion, each once.
-/

namespace KtBridge.Request

open Foundation

variable {reqId : Call → UInt64}

/-- What a poll still has to write. -/
def PollerPhase.batch : PollerPhase → List Pending
  | delivering batch => batch
  | _ => []

/-- The completions pushed, taken, queued and written, in one order. -/
structure State.Ordered (state : State) : Prop where
  queued : state.pushed.map Prod.snd = state.taken.map Prod.snd ++ state.queue.queue
  delivered : ∀ poller,
    ((state.taken.filter fun entry => entry.1 = poller).map fun entry => entry.2.record) =
      state.received poller ++ (state.poller poller).batch.map Pending.record
  room : ∀ poller cap timeoutMillis, state.poller poller = .polling cap timeoutMillis → 0 < cap

namespace State.Ordered

variable {state next : State}

/-- A step that touches none of the four. -/
theorem frame (ordered : state.Ordered) (pushed : next.pushed = state.pushed)
    (taken : next.taken = state.taken) (queue : next.queue.queue = state.queue.queue)
    (received : next.received = state.received) (poller : next.poller = state.poller) :
    next.Ordered where
  queued := by rw [pushed, taken, queue]; exact ordered.queued
  delivered := by rw [taken, received, poller]; exact ordered.delivered
  room := by rw [poller]; exact ordered.room

theorem push (ordered : state.Ordered) (origin : Option Call) (pending : Pending) :
    (state.push origin pending).Ordered where
  queued := by
    by_cases closed : state.queue.closed
    · simpa [State.push, Queue.push, closed] using ordered.queued
    · simp [State.push, Queue.push, closed, ordered.queued]
  delivered := ordered.delivered
  room := ordered.room

/-- A poll enters its wait loop with room for a record. -/
theorem poll (ordered : state.Ordered) {poller cap : Nat} {timeoutMillis : Int}
    (ready : (machine reqId).guard state (.poll poller cap timeoutMillis)) :
    ((machine reqId).effect state (.poll poller cap timeoutMillis)).Ordered := by
  have entered : cap ≠ 0 ∧ state.poller poller = .idle := by
    simp only [machine, guard, pollEntry] at ready
    split at ready
    · cases ready
    · rename_i nonzero
      refine ⟨nonzero, ?_⟩
      by_contra busy
      simp [busy] at ready
  refine ⟨ordered.queued, fun other => ?_, fun other => ?_⟩
  · by_cases same : other = poller
    · subst same
      simpa [machine, effect, entered.2, PollerPhase.batch] using ordered.delivered other
    · simpa [machine, effect, same] using ordered.delivered other
  · intro bound millis waiting
    by_cases same : other = poller
    · subst same
      simp only [machine, effect, Function.update_self, PollerPhase.polling.injEq] at waiting
      omega
    · simp only [machine, effect, Function.update_of_ne same] at waiting
      exact ordered.room other bound millis waiting

/-- A pass moves a prefix of the queue into the poller's batch. -/
theorem pass (ordered : state.Ordered) {poller cap : Nat} {timeoutMillis : Int}
    {timedOut closed : Bool} {rest : Queue} {batch : List Pending}
    (ready : (machine reqId).guard state (.pass poller cap timeoutMillis timedOut rest batch closed)) :
    ((machine reqId).effect state (.pass poller cap timeoutMillis timedOut rest batch closed)).Ordered := by
  obtain ⟨waiting, passed⟩ := ready
  have split := (Queue.pass_takes_prefix passed).1
  refine ⟨?_, fun other => ?_, fun other => ?_⟩
  · have queued := ordered.queued
    rw [split] at queued
    simp [machine, effect, queued, Function.comp_def]
  · have before := ordered.delivered other
    by_cases same : other = poller
    · subst same
      rw [waiting] at before
      have tagged : (batch.map fun pending => (other, pending)).filter
          (fun entry => entry.1 = other) = batch.map fun pending => (other, pending) :=
        List.filter_eq_self.mpr fun entry member => by
          obtain ⟨_, _, rfl⟩ := List.mem_map.mp member
          exact decide_eq_true rfl
      have last : (if batch = [] then PollerPhase.idle else .delivering batch).batch = batch := by
        cases batch <;> rfl
      simp only [machine, effect, List.filter_append, tagged, List.map_append, before, PollerPhase.batch,
        List.map_nil, List.append_nil, Function.update_self, List.map_map, Function.comp_def]
      exact congrArg (fun last : List Pending => state.received other ++ last.map Pending.record)
        last.symm
    · have foreign : (batch.map fun pending => (poller, pending)).filter
          (fun entry => entry.1 = other) = [] :=
        List.filter_eq_nil_iff.mpr fun entry member => by
          obtain ⟨_, _, rfl⟩ := List.mem_map.mp member
          simpa using Ne.symm same
      simpa [machine, effect, List.filter_append, foreign, same] using before
  · intro bound millis there
    by_cases same : other = poller
    · subst same
      simp only [machine, effect, Function.update_self] at there
      split at there <;> cases there
    · simp only [machine, effect, Function.update_of_ne same] at there
      exact ordered.room other bound millis there

/-- A record is written for the first completion of the batch. -/
theorem write (ordered : state.Ordered) {poller : Nat} {pending : Pending} {rest : List Pending}
    (ready : (machine reqId).guard state (.write poller pending rest)) :
    ((machine reqId).effect state (.write poller pending rest)).Ordered := by
  refine ⟨ordered.queued, fun other => ?_, fun other => ?_⟩
  · have before := ordered.delivered other
    by_cases same : other = poller
    · subst same
      rw [show state.poller other = _ from ready] at before
      simpa [machine, effect, PollerPhase.batch] using before
    · simpa [machine, effect, same] using before
  · intro bound millis there
    by_cases same : other = poller
    · subst same
      simp [machine, effect] at there
    · simp only [machine, effect, Function.update_of_ne same] at there
      exact ordered.room other bound millis there

theorem finishPoll (ordered : state.Ordered) {poller : Nat}
    (ready : (machine reqId).guard state (.finishPoll poller)) :
    ((machine reqId).effect state (.finishPoll poller)).Ordered := by
  refine ⟨ordered.queued, fun other => ?_, fun other => ?_⟩
  · have before := ordered.delivered other
    by_cases same : other = poller
    · subst same
      rw [show state.poller other = _ from ready] at before
      simpa [machine, effect, PollerPhase.batch] using before
    · simpa [machine, effect, same] using before
  · intro bound millis there
    by_cases same : other = poller
    · subst same
      simp [machine, effect] at there
    · simp only [machine, effect, Function.update_of_ne same] at there
      exact ordered.room other bound millis there

end State.Ordered

/-- Completions keep their order from the push to the record. -/
theorem ordered_invariant (reqId : Call → UInt64) :
    (machine reqId).Invariant State.Ordered where
  start := ⟨rfl, fun _ => rfl, nofun⟩
  step := by
    intro state action _ ordered ready
    cases action with
    | register call =>
        simp only [machine, effect]
        cases state.register (reqId call) <;> exact ordered.frame rfl rfl rfl rfl rfl
    | retire call result =>
        simp only [machine, effect]
        split <;> exact ordered.frame rfl rfl rfl rfl rfl
    | answer call result =>
        exact (ordered.push (some call) result).frame rfl rfl rfl rfl rfl
    | cancel id =>
        simp only [machine, effect]
        cases state.pending.lookup id <;> exact ordered.frame rfl rfl rfl rfl rfl
    | drainAnswer id call =>
        exact (ordered.push (some call) (shutdownCompletion id)).frame rfl rfl rfl rfl rfl
    | event pending => exact ordered.push none pending
    | poll poller cap timeoutMillis => exact ordered.poll ready
    | pass poller cap timeoutMillis timedOut next batch closed => exact ordered.pass ready
    | write poller pending rest => exact ordered.write ready
    | finishPoll poller => exact ordered.finishPoll ready
    | _ => exact ordered.frame rfl rfl rfl rfl rfl

/-- `spawn_request` has put the call into the pending table, and returns `Ok`. -/
def Phase.accepted (phase : Phase) : Prop := phase.stage ≠ .outside

/-- The call was answered once, with something it may be answered with. -/
def State.AnsweredOnce (reqId : Call → UInt64) (state : State) (call : Call) : Prop :=
  ∃ result, state.answers call = [result] ∧ state.Terminal reqId call result

/-- Nothing is pushed into a closed queue, and it stays closed. -/
theorem closed_step {state : State} (closed : state.queue.closed) (action : Action)
    (ready : (machine reqId).guard state action) :
    ((machine reqId).effect state action).queue.closed ∧
      ((machine reqId).effect state action).pushed = state.pushed := by
  have push : ∀ origin pending, (state.push origin pending).queue.closed ∧
      (state.push origin pending).pushed = state.pushed := by
    intro origin pending
    simp [State.push, Queue.push, closed]
  cases action with
  | register call =>
      simp only [machine, effect]
      cases state.register (reqId call) <;> exact ⟨closed, rfl⟩
  | retire call result =>
      simp only [machine, effect]
      split <;> exact ⟨closed, rfl⟩
  | answer call result => exact push (some call) result
  | cancel id =>
      simp only [machine, effect]
      cases state.pending.lookup id <;> exact ⟨closed, rfl⟩
  | drainAnswer id call => exact push (some call) (shutdownCompletion id)
  | drainFinish => exact ⟨rfl, rfl⟩
  | event pending => exact push none pending
  | pass poller cap timeoutMillis timedOut next batch flag =>
      exact ⟨(Queue.pass_takes_prefix ready.2).2.2.trans closed, rfl⟩
  | _ => exact ⟨closed, rfl⟩

/-- Along a run, nothing is pushed into a closed queue. -/
theorem closed_run {state : State} (closed : state.queue.closed) (trace : List Action)
    (runs : (machine reqId).Runs state trace) :
    ((machine reqId).after state trace).pushed = state.pushed := by
  induction trace generalizing state with
  | nil => rfl
  | cons action rest ih =>
      obtain ⟨stays, same⟩ := closed_step closed action runs.1
      exact (ih stays runs.2).trans same

/-- An accepted call stays accepted. -/
theorem accepted_step {state : State} {call : Call} (accepted : (state.phase call).accepted)
    (action : Action) (ready : (machine reqId).guard state action) :
    (((machine reqId).effect state action).phase call).accepted := by
  have staged : ∀ (view : Protocol.State Pending) label, view.stage call ≠ .outside →
      (Protocol.effect reqId view label).stage call ≠ .outside := by
    intro view label outside
    have set : ∀ other stage, stage ≠ .outside →
        Function.update view.stage other stage call ≠ .outside := by
      intro other stage inside
      rw [Function.update_apply]
      split
      · exact inside
      · exact outside
    cases label with
    | register other => exact set other .waiting nofun
    | retire other => exact set other .retiring nofun
    | forfeit other => exact set other .done nofun
    | answer other result => exact set other .done nofun
    | _ => exact outside
  rcases (projects reqId).step state action ready with same | ⟨label, _, next⟩
  · have stages := congrArg (fun view : Protocol.State Pending => view.stage call) same
    exact fun outside => accepted (stages.symm.trans outside)
  · have stages := congrArg (fun view : Protocol.State Pending => view.stage call) next
    exact fun outside => staged state.view label accepted (stages.symm.trans outside)

theorem accepted_run {state : State} {call : Call} (accepted : (state.phase call).accepted)
    (trace : List Action) (runs : (machine reqId).Runs state trace) :
    (((machine reqId).after state trace).phase call).accepted := by
  induction trace generalizing state with
  | nil => exact accepted
  | cons action rest ih => exact ih (accepted_step accepted action runs.1) runs.2

/-- A call is answered once when the protocol has it answered. -/
theorem answeredOnce {state : State} (reached : (machine reqId).Reachable state) {call : Call}
    (answered : state.view.Answered call) : state.AnsweredOnce reqId call := by
  obtain ⟨result, only⟩ := answered
  refine ⟨result, only, ((spoken_invariant reqId).reachable reached).pushed call result ?_⟩
  have member : result ∈ state.answers call := by
    rw [show state.answers call = [result] from only]
    exact List.mem_singleton.mpr rfl
  obtain ⟨⟨origin, told⟩, present, rfl⟩ := List.mem_map.mp member
  obtain ⟨pushed, whose⟩ := List.mem_filter.mp present
  obtain rfl : origin = some call := of_decide_eq_true whose
  exact pushed

/-- A shutdown under way can always be brought to its end. -/
theorem drain_completes (reqId : Call → UInt64) (state : State)
    (locked : state.lock = some .drain) :
    ∃ trace, (machine reqId).Runs state trace ∧
      ((machine reqId).after state trace).queue.closed := by
  -- By induction on the number of pending ids.
  induction count : state.pending.keys.length generalizing state with
  | zero =>
      refine ⟨[.drainFinish], ⟨⟨locked, List.length_eq_zero_iff.mp count⟩, trivial⟩, rfl⟩
  | succ fewer ih =>
      obtain ⟨id, present⟩ : ∃ id, id ∈ state.pending.keys :=
        List.exists_mem_of_length_pos (by omega)
      obtain ⟨call, found⟩ := Option.isSome_iff_exists.mp
        (AList.lookup_isSome.mpr (AList.mem_keys.mpr present))
      have erased : (state.pending.erase id).keys.length = fewer := by
        rw [AList.keys_erase, List.length_erase_of_mem present]
        omega
      obtain ⟨trace, runs, closed⟩ :=
        ih ((machine reqId).effect state (.drainAnswer id call)) locked erased
      exact ⟨.drainAnswer id call :: trace, ⟨⟨locked, found⟩, runs⟩, closed⟩

/-- From every reachable state a shutdown can run to its end. -/
theorem shutdown_completes {state : State} (reached : (machine reqId).Reachable state) :
    ∃ trace, (machine reqId).Runs state trace ∧
      ((machine reqId).after state trace).queue.closed := by
  have unlocked : ∀ state : State, state.lock = none →
      ∃ trace, (machine reqId).Runs state trace ∧
        ((machine reqId).after state trace).queue.closed := by
    intro state free
    obtain ⟨trace, runs, closed⟩ :=
      drain_completes reqId ((machine reqId).effect state .drainStart) rfl
    exact ⟨.drainStart :: trace, ⟨free, runs⟩, closed⟩
  cases held : state.lock with
  | none => exact unlocked state held
  | some party =>
      cases party with
      | drain => exact drain_completes reqId state held
      | task call =>
          have retires : state.view.stage call = .retiring :=
            ((fair reached).retiring call).mpr (by simp [State.view, held, Party.holder])
          obtain ⟨result, retired⟩ : ∃ result, state.phase call = .retired result := by
            simp only [State.view, Function.comp_apply] at retires
            cases phase : state.phase call <;> simp only [phase, Phase.stage, reduceCtorEq] at retires
            exact ⟨_, rfl⟩
          obtain ⟨trace, runs, closed⟩ :=
            unlocked ((machine reqId).effect state (.answer call result)) rfl
          exact ⟨.answer call result :: trace, ⟨⟨retired, held⟩, runs⟩, closed⟩

/-- An accepted call is answered once, or not yet and is still to be answered. -/
theorem answered_or_pending {state : State} (reached : (machine reqId).Reachable state)
    {call : Call} (accepted : (state.phase call).accepted) :
    state.answers call = [] ∧ (state.pending.lookup (reqId call) = some call ∨
        ∃ result, state.phase call = .retired result ∧ state.lock = some (.task call)) ∨
      state.AnsweredOnce reqId call ∧ state.pending.lookup (reqId call) ≠ some call := by
  have fair := fair reached
  have absent : state.AnsweredOnce reqId call → state.pending.lookup (reqId call) ≠ some call := by
    rintro ⟨result, only, _⟩ found
    have none : state.answers call = [] := (fair.keyed (reqId call) call found).2.2
    rw [none] at only
    cases only
  cases stage : state.view.stage call with
  | outside => exact absurd stage accepted
  | waiting =>
      rcases fair.waiting call stage with found | ⟨_, _, answered⟩
      · exact Or.inl ⟨(fair.keyed (reqId call) call found).2.2, Or.inl found⟩
      · exact Or.inr ⟨answeredOnce reached answered, absent (answeredOnce reached answered)⟩
  | retiring =>
      refine Or.inl ⟨fair.unanswered call stage, Or.inr ?_⟩
      have locked : state.lock.map Party.holder = some (.call call) :=
        (fair.retiring call).mp stage
      simp only [State.view, Function.comp_apply] at stage
      cases phase : state.phase call <;> simp only [phase, Phase.stage, reduceCtorEq] at stage
      refine ⟨_, rfl, ?_⟩
      obtain ⟨party, held, same⟩ := Option.map_eq_some_iff.mp locked
      cases party with
      | drain => cases same
      | task other =>
          obtain rfl := Protocol.Holder.call.inj same
          exact held
  | done =>
      have answered := answeredOnce reached (fair.done call stage)
      exact Or.inr ⟨answered, absent answered⟩

/-- Once the queue is closed, every accepted call was answered. -/
theorem answered_of_closed {state : State} (reached : (machine reqId).Reachable state)
    (closed : state.queue.closed) {call : Call} (accepted : (state.phase call).accepted) :
    state.AnsweredOnce reqId call := by
  obtain ⟨_, empty, nobody⟩ := (fair reached).isSealed closed
  rcases answered_or_pending reached accepted with ⟨_, found | ⟨result, retired, _⟩⟩ | answered
  · have present : reqId call ∈ state.pending.keys :=
      AList.mem_keys.mp (AList.lookup_isSome.mp (by rw [found]; rfl))
    rw [show state.pending.keys = [] from empty] at present
    exact absurd present List.not_mem_nil
  · exact absurd (by simp only [State.view, Function.comp_apply, retired, Phase.stage])
      (nobody call)
  · exact answered.1

/-- In every reachable state: an accepted call has been answered once, or is still
in the pending table or about to be pushed; it has been answered once its task is
finished or the queue is closed, and that can always be reached; a call that is
not accepted is never answered, and its rejection changes nothing but its own
phase; no answer meets a closed queue; and a poller alone on the queue that is
told of the shutdown has received everything ever pushed, in order. -/
theorem one_terminal_completion (reqId : Call → UInt64) (state : State)
    (reached : (machine reqId).Reachable state) :
    (∀ call, (state.phase call).accepted →
      (state.answers call = [] ∧ (state.pending.lookup (reqId call) = some call ∨
        ∃ result, state.phase call = .retired result ∧ state.lock = some (.task call)) ∨
      state.AnsweredOnce reqId call ∧ state.pending.lookup (reqId call) ≠ some call) ∧
      (state.phase call = .finished ∨ state.queue.closed → state.AnsweredOnce reqId call) ∧
      ∃ trace, (machine reqId).Runs state trace ∧
        ((machine reqId).after state trace).AnsweredOnce reqId call) ∧
    (∀ call, ¬ (state.phase call).accepted → state.answers call = []) ∧
    (∀ call error, (machine reqId).guard state (.register call) →
      ((machine reqId).effect state (.register call)).phase call = .refused error →
      (state.closed ∧ error = .shutdown ∨ reqId call ∈ state.pending ∧
        error = .invalidArgument ("duplicate req_id " ++ toString (reqId call).toNat)) ∧
      (machine reqId).effect state (.register call) = state.setPhase call (.refused error)) ∧
    (∀ call result, (machine reqId).guard state (.answer call result) →
      state.queue.closed = false ∧
      ((machine reqId).effect state (.answer call result)).answers call = [result]) ∧
    (∀ id call, (machine reqId).guard state (.drainAnswer id call) →
      state.queue.closed = false ∧
      ((machine reqId).effect state (.drainAnswer id call)).answers call =
        [shutdownCompletion (reqId call)]) ∧
    ∀ poller cap timeoutMillis timedOut next closed,
      (∀ entry ∈ state.taken, entry.1 = poller) →
      (machine reqId).guard state (.pass poller cap timeoutMillis timedOut next [] closed) →
      emptyPoll closed = .error .shutdown →
      state.received poller = state.pushed.map (fun entry => entry.2.record) ∧
      (∀ call, (state.phase call).accepted → state.AnsweredOnce reqId call) ∧
      ∀ trace, (machine reqId).Runs state trace →
        ((machine reqId).after state trace).pushed = state.pushed := by
  have fair := fair reached
  have ordered := (ordered_invariant reqId).reachable reached
  refine ⟨fun call accepted => ⟨answered_or_pending reached accepted, ?_, ?_⟩, ?_, ?_, ?_, ?_, ?_⟩
  · rintro (finished | closed)
    · refine answeredOnce reached (fair.done call ?_)
      simp only [State.view, Function.comp_apply, finished, Phase.stage]
    · exact answered_of_closed reached closed accepted
  · obtain ⟨trace, runs, closed⟩ := shutdown_completes reached
    exact ⟨trace, runs, answered_of_closed (reached.run runs) closed
      (accepted_run accepted trace runs)⟩
  · intro call outside
    exact fair.outside call (Classical.not_not.mp outside)
  · intro call error ready refused
    simp only [machine, effect, State.register] at refused ⊢
    by_cases closed : state.closed
    · simp only [closed, ↓reduceIte, State.setPhase, Function.update_self,
        Phase.refused.injEq] at refused ⊢
      subst refused
      exact ⟨Or.inl ⟨trivial, rfl⟩, rfl⟩
    · by_cases taken : reqId call ∈ state.pending
      · simp only [closed, taken, Bool.false_eq_true, ↓reduceIte, State.setPhase,
          Function.update_self, Phase.refused.injEq] at refused ⊢
        subst refused
        exact ⟨Or.inr ⟨trivial, rfl⟩, rfl⟩
      · simp only [closed, taken, Bool.false_eq_true, ↓reduceIte, State.setPhase,
          Function.update_self, reduceCtorEq] at refused
  · intro call result ready
    have retires : state.view.stage call = .retiring := by
      simp only [State.view, Function.comp_apply, ready.1, Phase.stage]
    have opened : state.queue.closed = false := by
      by_contra closed
      exact (fair.isSealed (Bool.eq_true_of_not_eq_false closed)).2.2 call retires
    have none : state.answers call = [] := fair.unanswered call retires
    have pushed := congrArg (fun view : Protocol.State Pending => view.answers call)
      (state.view_push_answer call result)
    refine ⟨opened, ?_⟩
    simp only [State.view, Protocol.State.push, opened, Bool.false_eq_true, ↓reduceIte,
      Function.update_self, none, List.nil_append] at pushed
    exact pushed
  · intro id call ready
    obtain ⟨own, _, none⟩ := fair.keyed id call ready.2
    have opened : state.queue.closed = false :=
      fair.opened (AList.lookup_isSome.mp (by rw [show state.view.pending.lookup id = _ from ready.2]; rfl))
    have pushed := congrArg (fun view : Protocol.State Pending => view.answers call)
      (state.view_push_answer call (shutdownCompletion id))
    refine ⟨opened, ?_⟩
    simp only [State.view] at none
    simp only [State.view, Protocol.State.push, opened, Bool.false_eq_true, ↓reduceIte,
      Function.update_self, none, List.nil_append] at pushed
    rw [own]
    exact pushed
  · intro poller cap timeoutMillis timedOut next closed alone ready told
    obtain ⟨waiting, passed⟩ := ready
    have flag : closed = true := by
      by_contra opened
      simp [emptyPoll, opened] at told
    have sealedQueue : state.queue.closed := by
      rw [← (Queue.pass_takes_prefix passed).2.1]
      exact flag
    have empty : state.queue.queue = [] :=
      Queue.pass_empty (ordered.room poller cap timeoutMillis waiting) passed
    refine ⟨?_, fun call => answered_of_closed reached sealedQueue,
      closed_run sealedQueue⟩
    have delivered := ordered.delivered poller
    have queued := ordered.queued
    rw [empty, List.append_nil] at queued
    rw [waiting, show (PollerPhase.polling cap timeoutMillis).batch = [] from rfl, List.map_nil,
      List.append_nil, List.filter_eq_self.mpr fun entry member => decide_eq_true
        (alone entry member)] at delivered
    rw [← delivered]
    have records := congrArg (List.map Pending.record) queued
    simp only [List.map_map] at records
    exact records.symm

/-- A request that completes, then a shutdown. -/
def completedTrace : List Action :=
  [.reserve 0, .register 0, .track 0, .unreserve 0, .spawn 0, .complete 0 (Pending.ack 7),
    .retire 0 (Pending.ack 7), .answer 0 (Pending.ack 7), .leave 0, .drainStart, .drainFinish]

theorem one_terminal_completion_of_completed :
    ((machine fun _ => 7).after start completedTrace).AnsweredOnce (fun _ => 7) 0 :=
  ((one_terminal_completion (fun _ => 7) ((machine fun _ => 7).after start completedTrace)
    (GuardedSystem.Reachable.start.run (by decide))).1 0 (by unfold Phase.accepted; decide)).2.1
      (Or.inl rfl)

end KtBridge.Request
