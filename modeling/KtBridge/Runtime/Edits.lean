import KtBridge.Runtime.Closing

/-! # What may happen to a stream, whoever closes it

Any thread may close a stream while the pump thread sends to it and receivers take from it. Each step
changes one stream at most, in one of five ways (`Edit`), and none of them loses or repeats a task
that was sent (`TaskStream.State.Kept`). -/

namespace KtBridge

namespace TaskStream

open Pump

/-- Every task that was sent is queued, or taken by one call; and who waits is parked, once. -/
structure State.Kept (state : State) : Prop where
  ordered : state.taken.map Prod.snd ++ state.tasks = state.sent
  owned : ∀ call, (state.taken.filter fun entry => entry.1 = call).map Prod.snd =
    (state.phase call).task.toList
  waiting : ∀ call ∈ state.waiters, state.phase call = .parked
  distinct : state.waiters.Nodup

theorem kept_start : start.Kept where
  ordered := rfl
  owned := fun _ => rfl
  waiting := fun _ impossible => by cases impossible
  distinct := List.nodup_nil

namespace State.Kept

variable {state : State} {call : Receive}

/-- A call that is not parked moves on with the task it has, if it has one. -/
theorem move (kept : state.Kept) {phase : Phase} (task : phase.task = (state.phase call).task)
    (unparked : state.phase call ≠ .parked) : (state.setPhase call phase).Kept where
  ordered := kept.ordered
  owned := by
    intro other
    simp only [setPhase, Function.update_apply]
    split
    · next same =>
        rw [same, task]
        exact kept.owned call
    · exact kept.owned other
  waiting := by
    intro other waits
    have different : other ≠ call := fun same => unparked (same ▸ kept.waiting other waits)
    simp only [setPhase, Function.update_of_ne different]
    exact kept.waiting other waits
  distinct := kept.distinct

/-- A call that waits no longer moves on. -/
theorem release (kept : state.Kept) {waiters : List Receive} {phase : Phase}
    (parked : state.phase call = .parked) (task : phase.task = none) (gone : call ∉ waiters)
    (fewer : ∀ other ∈ waiters, other ∈ state.waiters) (distinct : waiters.Nodup) :
    { state.setPhase call phase with waiters := waiters : State }.Kept where
  ordered := kept.ordered
  owned := by
    intro other
    simp only [setPhase, Function.update_apply]
    split
    · next same =>
        have owned := kept.owned call
        rw [parked] at owned
        rw [same, task]
        exact owned
    · exact kept.owned other
  waiting := by
    intro other waits
    have different : other ≠ call := fun same => gone (same ▸ waits)
    simp only [setPhase, Function.update_of_ne different]
    exact kept.waiting other (fewer other waits)
  distinct := distinct

/-- A wakeup is left, or handed to the first who waits. -/
theorem trySend (kept : state.Kept) : state.trySend.Kept ∧
    ∀ other, state.phase other ≠ .parked → state.trySend.phase other = state.phase other := by
  unfold State.trySend
  split
  · exact ⟨kept, fun _ _ => rfl⟩
  · next first rest opened waiters =>
      have parked := kept.waiting first (by rw [waiters]; exact List.mem_cons_self)
      have distinct := kept.distinct
      rw [waiters, List.nodup_cons] at distinct
      refine ⟨kept.release parked rfl distinct.1 (fun other waits => ?_) distinct.2, ?_⟩
      · rw [waiters]
        exact List.mem_cons_of_mem _ waits
      · intro other unparked
        refine Function.update_of_ne (fun same => unparked ?_) ..
        rw [same]
        exact parked
  · exact ⟨⟨kept.ordered, kept.owned, kept.waiting, kept.distinct⟩, fun _ _ => rfl⟩

/-- A call offers a wakeup and moves on. -/
theorem trySend_move (kept : state.Kept) {phase : Phase}
    (task : phase.task = (state.phase call).task) (unparked : state.phase call ≠ .parked) :
    (state.trySend.setPhase call phase).Kept := by
  obtain ⟨sent, others⟩ := kept.trySend
  have same := others call unparked
  exact sent.move (by rw [same, task]) (by rwa [same])

/-- A call takes the head of the queue, if there is one. -/
theorem poll (kept : state.Kept) {found : ByteArray → Phase} {empty : Phase}
    (unparked : state.phase call ≠ .parked) (without : (state.phase call).task = none)
    (has : ∀ task, (found task).task = some task) (none_ : empty.task = none) :
    (state.poll call found empty).Kept := by
  unfold State.poll
  split
  · next task rest queued =>
      refine ⟨?_, ?_, ?_, kept.distinct⟩
      · have ordered := kept.ordered
        rw [queued] at ordered
        simp only [List.map_append, List.map_cons, List.map_nil, List.append_assoc,
          List.singleton_append]
        exact ordered
      · intro other
        have owned := kept.owned other
        by_cases same : other = call
        · subst same
          rw [without] at owned
          simp only [setPhase, Function.update_self, has, List.filter_append, List.map_append, owned]
          simp
        · simp only [setPhase, Function.update_of_ne same, List.filter_append, List.map_append, owned]
          simp [Ne.symm same]
      · intro other waits
        have different : other ≠ call := fun same => unparked (same ▸ kept.waiting other waits)
        simp only [setPhase, Function.update_of_ne different]
        exact kept.waiting other waits
  · exact kept.move (none_.trans without.symm) unparked

theorem closeChannel (kept : state.Kept) (cause : Option Throwable) :
    (state.closeChannel cause).Kept := by
  unfold State.closeChannel
  split
  · exact kept
  · refine ⟨kept.ordered, fun call => ?_, fun _ impossible => (by cases impossible), List.nodup_nil⟩
    by_cases waits : call ∈ state.waiters
    · have owned := kept.owned call
      rw [kept.waiting call waits] at owned
      simp only [waits, ↓reduceIte]
      exact owned
    · simp only [waits, ↓reduceIte]
      exact kept.owned call

/-- A receiver at the channel takes a wakeup, or waits. -/
theorem receive (kept : state.Kept) (receiving : state.phase call = .receiving) :
    (effect state (.receive call)).Kept := by
  have unparked : state.phase call ≠ .parked := by simp [receiving]
  have moved : ∀ {phase : Phase}, phase.task = none → (state.setPhase call phase).Kept :=
    fun none_ => kept.move (by rw [none_, receiving]; rfl) unparked
  simp only [effect]
  split
  · have woken : (state.setPhase call (.woken .element)).Kept := moved rfl
    exact ⟨woken.ordered, woken.owned, woken.waiting, woken.distinct⟩
  · split
    · exact moved rfl
    · have parked : (state.setPhase call .parked).Kept := moved rfl
      have outside : call ∉ state.waiters := fun waits => unparked (kept.waiting call waits)
      refine ⟨parked.ordered, parked.owned, fun other waits => ?_, ?_⟩
      · rcases List.mem_append.mp waits with before | now
        · exact parked.waiting other before
        · rw [List.mem_singleton.mp now]
          exact Function.update_self ..
      · exact kept.distinct.append (List.nodup_singleton call) (by simpa using outside)

/-- A receiver takes a step of its own. -/
theorem step (kept : state.Kept) {action : Action} (receiving : action.receiving = true)
    (ready : guard state action) : (effect state action).Kept := by
  cases action with
  | send task => cases receiving
  | offer => cases receiving
  | close cause => cases receiving
  | closeChannel cause => cases receiving
  | call call =>
      have idle : state.phase call = .idle := ready
      exact kept.move (by rw [idle]; rfl) (by simp [idle])
  | cancel call => exact ⟨kept.ordered, kept.owned, kept.waiting, kept.distinct⟩
  | ensureActive call =>
      have starting : state.phase call = .starting := ready
      refine kept.move ?_ (by simp [starting])
      rw [starting]
      split <;> rfl
  | poll call =>
      have polling : state.phase call = .polling := ready
      exact kept.poll (by simp [polling]) (by rw [polling]; rfl) (fun _ => rfl) rfl
  | look call task =>
      have polled : state.phase call = .polled task := ready
      refine kept.move ?_ (by simp [polled])
      rw [polled]
      split <;> rfl
  | pass call task =>
      have passing : state.phase call = .passing task := ready
      exact kept.trySend_move (by rw [passing]; rfl) (by simp [passing])
  | receive call => exact kept.receive ready
  | unpark call =>
      refine kept.release ready.1 rfl ?_ (fun other => List.mem_of_mem_erase)
        (kept.distinct.erase _)
      exact kept.distinct.not_mem_erase
  | dispatch call wakeup lost =>
      have resumed : state.phase call = .resumed wakeup := ready.1
      exact kept.move (by rw [resumed]; rfl) (by simp [resumed])
  | lookAgain call wakeup =>
      have woken : state.phase call = .woken wakeup := ready
      refine kept.move ?_ (by simp [woken])
      rw [woken]
      split
      · exact wakeup.next_unparked.2
      · rfl
  | repass call wakeup =>
      have repassing : state.phase call = .repassing wakeup := ready
      exact kept.trySend_move (by rw [repassing]; exact wakeup.next_unparked.2) (by simp [repassing])
  | drain call cause =>
      have draining : state.phase call = .draining cause := ready
      exact kept.poll (by simp [draining]) (by rw [draining]; rfl) (fun _ => rfl) rfl

/-- What a call took, it has. -/
theorem mem_taken (kept : state.Kept) {task : ByteArray} :
    (call, task) ∈ state.taken ↔ (state.phase call).task = some task := by
  rw [← Option.mem_toList, ← kept.owned call]
  simp

/-- A call takes one task at most. -/
theorem nodup_takers (kept : state.Kept) : (state.taken.map Prod.fst).Nodup := by
  rw [List.nodup_iff_count_le_one]
  intro call
  have single : ((state.taken.filter fun entry => entry.1 = call).map Prod.snd).length ≤ 1 := by
    rw [kept.owned call]
    cases (state.phase call).task <;> simp
  rw [List.length_map] at single
  rw [List.count_eq_countP, List.countP_map, List.countP_eq_length_filter]
  exact single

end State.Kept

end TaskStream

namespace Runtime

open Foundation Pump

/-- What a step may do to a stream. -/
inductive Edit (stream : TaskStream.State) : TaskStream.State → Prop where
  | flag : Edit stream { stream with closed := true }
  | closeChannel (cause : Option Throwable) : Edit stream (stream.closeChannel cause)
  | add (task : ByteArray) :
      Edit stream { stream with tasks := stream.tasks ++ [task], sent := stream.sent ++ [task] }
  | offer : Edit stream stream.trySend
  | receive (action : TaskStream.Action) (receiving : action.receiving = true)
      (ready : TaskStream.guard stream action) : Edit stream (TaskStream.effect stream action)

/-- No edit loses or repeats a task. -/
theorem Edit.kept {stream next : TaskStream.State} (edit : Edit stream next) (kept : stream.Kept) :
    next.Kept := by
  cases edit with
  | flag => exact ⟨kept.ordered, kept.owned, kept.waiting, kept.distinct⟩
  | closeChannel cause => exact kept.closeChannel cause
  | add task =>
      refine ⟨?_, kept.owned, kept.waiting, kept.distinct⟩
      rw [← kept.ordered, List.append_assoc]
  | offer => exact kept.trySend.1
  | receive action receiving ready => exact kept.step receiving ready

namespace State

variable {decode : ByteArray → String} {state : State} {action : Action}

/-- A step edits one stream, or none. -/
theorem edits (decode : ByteArray → String) (ready : guard state action) :
    (effect decode state action).stream = state.stream ∨
      ∃ worker kind stream, Edit (state.stream worker kind) stream ∧
        (effect decode state action).stream = (state.setStream worker kind stream).stream := by
  cases action with
  | workerNew call handle => cases handle <;> exact .inl rfl
  | onWorkerEvents call worker =>
      left
      simp only [effect]
      split <;> rfl
  | flag call worker failed kinds =>
      cases kinds with
      | nil => exact .inl rfl
      | cons kind kinds => exact .inr ⟨worker, kind, _, .flag, rfl⟩
  | channel call worker failed kind kinds => exact .inr ⟨worker, kind, _, .closeChannel none, rfl⟩
  | endStream call worker kinds remaining => cases kinds <;> exact .inl rfl
  | endFlag call worker kind cause kinds remaining => exact .inr ⟨worker, kind, _, .flag, rfl⟩
  | endChannel call worker kind cause kinds remaining =>
      exact .inr ⟨worker, kind, _, .closeChannel cause, rfl⟩
  | onPushed call completion =>
      left
      simp only [effect]
      split <;> rfl
  | onEvent call completion => exact .inl (onEvent_stream call completion)
  | add call worker kind task => exact .inr ⟨worker, kind, _, .add task, rfl⟩
  | offer call worker kind => exact .inr ⟨worker, kind, _, .offer, rfl⟩
  | handleEnd call worker kind cause => exact .inr ⟨worker, kind, _, .flag, rfl⟩
  | handleChannel call worker kind cause => exact .inr ⟨worker, kind, _, .closeChannel cause, rfl⟩
  | receive worker kind this =>
      exact .inr ⟨worker, kind, _, .receive this ready.1 ready.2, rfl⟩
  | _ => exact .inl rfl

/-- Every stream keeps the tasks it was sent. -/
theorem kept_invariant (decode : ByteArray → String) :
    (system decode).Invariant fun state => ∀ worker kind, (state.stream worker kind).Kept where
  start := fun _ _ => TaskStream.kept_start
  step := by
    intro state action _ kept ready
    simp only [system]
    rcases edits decode ready with same | ⟨worker, kind, stream, edit, changed⟩
    · rw [same]
      exact kept
    · rw [changed]
      exact forall_setStream (fun _ _ stream => stream.Kept) (edit.kept (kept worker kind)) kept

end State

end Runtime

end KtBridge
