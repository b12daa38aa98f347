import KtBridge.Runtime.Machine

/-! # Closing ends every stream

A handler stays registered until its worker is being closed, or the runtime has ended its streams.
So whoever closes leaves no stream of a worker open, and no receiver waiting. -/

namespace KtBridge.Runtime

open Foundation Pump

/-- The worker that the call is closing, its handler removed. -/
def Phase.closes : Phase → Option Worker
  | freeing worker _ | closing worker _ _ | closingChannel worker _ _ _ => some worker
  | _ => none

namespace State

/-- Whether the flag of a stream is set. -/
def Flagged (state : State) (worker : Worker) (kind : KtTaskKind) : Prop :=
  (state.stream worker kind).closed = true

/-- Whether a stream is closed. -/
def Ended (state : State) (worker : Worker) (kind : KtTaskKind) : Prop :=
  (state.stream worker kind).Ended

/-- Whether all three streams of a worker are closed. -/
def AllEnded (state : State) (worker : Worker) : Prop := ∀ kind, state.Ended worker kind

/-- Whether a close of the worker is under way, and its handler removed. -/
def Closing (state : State) (worker : Worker) : Prop :=
  ∃ call, (state.phase call).closes = some worker

/-- The streams of a worker that are ended, but for some. -/
def EndedBut (state : State) (worker : Worker) (kinds : List KtTaskKind) : Prop :=
  ∀ kind, kind ∈ kinds ∨ state.Ended worker kind

/-- The registered workers whose streams are ended, but for some. -/
def SweptBut (state : State) (workers : Finset Worker) : Prop :=
  state.closed = true ∧ ∀ worker ∈ state.handlers, worker ∈ workers ∨ state.AllEnded worker

/-- What a call knows of streams that are ended. -/
def Fits (state : State) : Phase → Prop
  | .closing worker _ kinds => state.EndedBut worker kinds
  | .closingChannel worker _ kind kinds =>
      state.Flagged worker kind ∧ state.EndedBut worker (kind :: kinds)
  | .closed worker => state.AllEnded worker
  | .sweeping remaining => state.SweptBut remaining
  | .endingStream worker kinds remaining =>
      state.EndedBut worker kinds ∧ state.SweptBut (insert worker remaining)
  | .endingFlag worker kind _ kinds remaining =>
      state.EndedBut worker (kind :: kinds) ∧ state.SweptBut (insert worker remaining)
  | .endingChannel worker kind _ kinds remaining =>
      state.Flagged worker kind ∧ state.EndedBut worker (kind :: kinds) ∧
        state.SweptBut (insert worker remaining)
  | .stopping | .clearing => state.SweptBut ∅
  | .ended false => state.closed = true ∧ state.handlers = ∅
  | _ => True

/-- The streams, the handlers and the calls agree. -/
structure Orderly (state : State) : Prop where
  calm : ∀ worker kind, (state.stream worker kind).Calm
  fits : ∀ call, state.Fits (state.phase call)
  created : ∀ call worker, state.phase call = .created worker →
    worker ∈ state.handlers ∨ state.Closing worker ∨ state.AllEnded worker

section Streams

variable {state : State} {worker : Worker} {kind : KtTaskKind} {stream : TaskStream.State}

theorem setStream_self : (state.setStream worker kind stream).stream worker kind = stream := by
  simp [setStream]

theorem setStream_of_ne {other : Worker} {this : KtTaskKind}
    (different : ¬(other = worker ∧ this = kind)) :
    (state.setStream worker kind stream).stream other this = state.stream other this := by
  by_cases same : other = worker
  · subst same
    have apart : this ≠ kind := fun same' => different ⟨rfl, same'⟩
    simp [setStream, Function.update_of_ne apart]
  · simp [setStream, Function.update_of_ne same]

/-- What holds of every stream after one has changed. -/
theorem forall_setStream (Holds : Worker → KtTaskKind → TaskStream.State → Prop)
    (here : Holds worker kind stream)
    (others : ∀ other this, Holds other this (state.stream other this)) :
    ∀ other this, Holds other this ((state.setStream worker kind stream).stream other this) := by
  intro other this
  by_cases same : other = worker ∧ this = kind
  · obtain ⟨rfl, rfl⟩ := same
    rwa [setStream_self]
  · rw [setStream_of_ne same]
    exact others other this

end Streams

/-- How a step changes the streams: not at all, or one of them. -/
inductive Changes (state next : State) : Prop where
  | none (same : next.stream = state.stream)
  | one (worker : Worker) (kind : KtTaskKind) (stream : TaskStream.State)
      (changed : next.stream = (state.setStream worker kind stream).stream)
      (calm : (state.stream worker kind).Calm → stream.Calm)
      (flagged : (state.stream worker kind).closed = true → stream.closed = true)
      (kept : (state.stream worker kind).closedWith.isSome = true →
        stream.closedWith.isSome = true)
      (ranked : (state.stream worker kind).Calm →
        (state.stream worker kind).closedWith.isSome = true →
          ∀ call, stream.rank call ≤ (state.stream worker kind).rank call)

namespace Changes

variable {state next : State} {worker : Worker} {kind : KtTaskKind}

/-- The flag of a stream is set. -/
theorem flag (changed : next.stream = (state.flag worker kind).stream) : Changes state next := by
  refine .one worker kind _ changed (fun calm => ?_) (fun _ => rfl) (fun kept => kept)
    fun _ _ _ => le_rfl
  exact ⟨calm.waiting, calm.closed, calm.took⟩

/-- The channel of a stream is closed. -/
theorem closeChannel {cause : Option Throwable}
    (changed : next.stream = (state.closeChannel worker kind cause).stream) :
    Changes state next := by
  refine .one worker kind _ changed (fun calm => calm.closeChannel cause) (fun flagged => ?_)
    (fun _ => TaskStream.State.closeChannel_closes ..) fun _ closed _ => ?_
  · exact (TaskStream.State.closeChannel_closed ..).trans flagged
  · rw [TaskStream.State.closeChannel_of_closed closed]

end Changes

section Steps

variable {decode : ByteArray → String} {state : State} {action : Action}

theorem onEvent_stream (call : Call) (completion : Completion) :
    (onEvent decode state call completion).stream = state.stream := by
  unfold onEvent
  split
  · split <;> rfl
  · split
    · rfl
    · split
      · rfl
      · split <;> rfl

theorem changes (decode : ByteArray → String) (ready : guard state action) :
    Changes state (effect decode state action) := by
  cases action with
  | workerNew call handle => cases handle <;> exact .none rfl
  | onWorkerEvents call worker =>
      refine .none ?_
      simp only [effect]
      split <;> rfl
  | flag call worker failed kinds =>
      cases kinds with
      | nil => exact .none rfl
      | cons kind kinds => exact .flag rfl
  | channel call worker failed kind kinds => exact .closeChannel rfl
  | endStream call worker kinds remaining => cases kinds <;> exact .none rfl
  | endFlag call worker kind cause kinds remaining => exact .flag rfl
  | endChannel call worker kind cause kinds remaining => exact .closeChannel rfl
  | onPushed call completion =>
      refine .none ?_
      simp only [effect]
      split <;> rfl
  | onEvent call completion => exact .none (onEvent_stream call completion)
  | add call worker kind task =>
      refine .one worker kind _ rfl (fun calm => ?_) (fun flagged => flagged) (fun kept => kept)
        fun _ _ _ => le_rfl
      exact ⟨calm.waiting, calm.closed, calm.took⟩
  | offer call worker kind =>
      refine .one worker kind _ rfl (fun calm => calm.trySend) (fun flagged => ?_)
        (fun kept => ?_) fun _ closed _ => ?_
      · rwa [TaskStream.State.trySend_closed]
      · rwa [TaskStream.State.trySend_closedWith]
      · rw [TaskStream.State.trySend_of_closed closed]
  | handleEnd call worker kind cause => exact .flag rfl
  | handleChannel call worker kind cause => exact .closeChannel rfl
  | receive worker kind this =>
      refine .one worker kind _ rfl (fun calm => calm.step ready.1 ready.2) (fun flagged => ?_)
        (fun kept => ?_)
        fun calm closed call => TaskStream.State.rank_step closed calm ready.1 ready.2 call
      · rwa [TaskStream.State.closed_step ready.1]
      · rwa [TaskStream.State.closedWith_step ready.1]
  | _ => exact .none rfl

theorem calm_step (calm : ∀ worker kind, (state.stream worker kind).Calm)
    (ready : guard state action) :
    ∀ worker kind, ((effect decode state action).stream worker kind).Calm := by
  cases changes decode ready with
  | none same =>
      rw [same]
      exact calm
  | one worker kind stream changed calmed flagged kept ranked =>
      rw [changed]
      exact forall_setStream (fun _ _ stream => stream.Calm) (calmed (calm worker kind)) calm

/-- What every change of a stream keeps, every step keeps. -/
theorem stream_step (Holds : TaskStream.State → Prop) {worker : Worker} {kind : KtTaskKind}
    (holds : Holds (state.stream worker kind)) (ready : guard state action)
    (keeps : ∀ stream : TaskStream.State,
      ((state.stream worker kind).closed = true → stream.closed = true) →
      ((state.stream worker kind).closedWith.isSome = true → stream.closedWith.isSome = true) →
        Holds stream) : Holds ((effect decode state action).stream worker kind) := by
  cases changes decode ready with
  | none same => rwa [same]
  | one other this stream changed calmed flagged kept ranked =>
      rw [changed]
      by_cases same : worker = other ∧ kind = this
      · obtain ⟨rfl, rfl⟩ := same
        rw [setStream_self]
        exact keeps stream flagged kept
      · rwa [setStream_of_ne same]

theorem Flagged.step {worker : Worker} {kind : KtTaskKind} (flagged : state.Flagged worker kind)
    (ready : guard state action) : (effect decode state action).Flagged worker kind :=
  stream_step (fun stream => stream.closed = true) flagged ready
    fun _ kept _ => kept flagged

/-- A stream that is ended stays ended. -/
theorem Ended.step {worker : Worker} {kind : KtTaskKind} (ended : state.Ended worker kind)
    (ready : guard state action) : (effect decode state action).Ended worker kind :=
  stream_step (fun stream => stream.Ended) ended ready
    fun _ flagged kept => ⟨flagged ended.flag, kept ended.channel⟩

theorem AllEnded.step {worker : Worker} (ended : state.AllEnded worker)
    (ready : guard state action) : (effect decode state action).AllEnded worker :=
  fun kind => (ended kind).step ready

theorem onEvent_handlers (decode : ByteArray → String) (state : State) (call : Call)
    (completion : Completion) :
    (onEvent decode state call completion).handlers = state.handlers ∧
      (onEvent decode state call completion).closed = state.closed := by
  unfold onEvent
  split
  · split <;> exact ⟨rfl, rfl⟩
  · split
    · exact ⟨rfl, rfl⟩
    · split
      · exact ⟨rfl, rfl⟩
      · split <;> exact ⟨rfl, rfl⟩

theorem onEvent_phase (decode : ByteArray → String) (state : State) (call : Call)
    (completion : Completion) :
    ∃ after : Phase, (onEvent decode state call completion).phase =
        Function.update state.phase call after ∧
      (∀ next : State, next.Fits after) ∧ after.closes = none ∧ ∀ worker, after ≠ .created worker := by
  unfold onEvent
  split
  · split <;> exact ⟨_, rfl, fun _ => trivial, rfl, by simp⟩
  · split
    · exact ⟨_, rfl, fun _ => trivial, rfl, by simp⟩
    · split
      · exact ⟨_, rfl, fun _ => trivial, rfl, by simp⟩
      · split <;> exact ⟨_, rfl, fun _ => trivial, rfl, by simp⟩

/-- A closed runtime stays closed and takes no handler. -/
theorem closed_step (decode : ByteArray → String) (action : Action)
    (closed : state.closed = true) :
    (effect decode state action).closed = true ∧
      (effect decode state action).handlers ⊆ state.handlers := by
  cases action with
  | workerNew call handle => cases handle <;> exact ⟨closed, subset_rfl⟩
  | onWorkerEvents call worker =>
      simp only [effect, closed, if_true]
      exact ⟨closed, subset_rfl⟩
  | remove call worker failed => exact ⟨closed, Finset.erase_subset _ _⟩
  | flag call worker failed kinds => cases kinds <;> exact ⟨closed, subset_rfl⟩
  | shut call => exact ⟨rfl, subset_rfl⟩
  | endStream call worker kinds remaining => cases kinds <;> exact ⟨closed, subset_rfl⟩
  | clear call => exact ⟨closed, Finset.empty_subset _⟩
  | onPushed call completion =>
      simp only [effect]
      split <;> exact ⟨closed, subset_rfl⟩
  | onEvent call completion =>
      obtain ⟨handlers, same⟩ := onEvent_handlers decode state call completion
      exact ⟨same.trans closed, handlers.subset⟩
  | _ => exact ⟨closed, subset_rfl⟩

theorem closed_step_empty (decode : ByteArray → String) (action : Action)
    (ended : state.closed = true ∧ state.handlers = ∅) :
    (effect decode state action).closed = true ∧ (effect decode state action).handlers = ∅ := by
  obtain ⟨closed, fewer⟩ := closed_step decode action ended.1
  rw [ended.2] at fewer
  exact ⟨closed, Finset.subset_empty.mp fewer⟩

theorem SweptBut.step {workers : Finset Worker} (swept : state.SweptBut workers)
    (ready : guard state action) : (effect decode state action).SweptBut workers := by
  obtain ⟨closed, ended⟩ := swept
  obtain ⟨closed', fewer⟩ := closed_step decode action closed
  exact ⟨closed', fun worker member =>
    (ended worker (fewer member)).imp_right fun ended => ended.step ready⟩

theorem SweptBut.of_insert {worker : Worker} {workers : Finset Worker}
    (swept : state.SweptBut (insert worker workers))
    (ended : worker ∈ state.handlers → state.AllEnded worker) : state.SweptBut workers := by
  refine ⟨swept.1, fun other member => ?_⟩
  obtain listed | done := swept.2 other member
  · obtain same | listed := Finset.mem_insert.mp listed
    · exact .inr (same ▸ ended (same ▸ member))
    · exact .inl listed
  · exact .inr done

theorem EndedBut.all {worker : Worker} (ended : state.EndedBut worker []) :
    state.AllEnded worker :=
  fun kind => (ended kind).resolve_left List.not_mem_nil

theorem EndedBut.tail {worker : Worker} {kind : KtTaskKind} {kinds : List KtTaskKind}
    (ended : state.EndedBut worker (kind :: kinds)) (here : state.Ended worker kind) :
    state.EndedBut worker kinds := by
  intro other
  obtain listed | done := ended other
  · obtain same | listed := List.mem_cons.mp listed
    · exact .inr (same ▸ here)
    · exact .inl listed
  · exact .inr done

theorem flag_flags {worker : Worker} {kind : KtTaskKind} :
    (state.flag worker kind).Flagged worker kind := by
  rw [Flagged, flag, setStream_self]

theorem closeChannel_ends {worker : Worker} {kind : KtTaskKind} {cause : Option Throwable}
    (flagged : state.Flagged worker kind) :
    (state.closeChannel worker kind cause).Ended worker kind := by
  rw [Ended, closeChannel, setStream_self]
  refine ⟨(TaskStream.State.closeChannel_closed ..).trans flagged, ?_⟩
  exact TaskStream.State.closeChannel_closes ..

theorem EndedBut.step {worker : Worker} {kinds : List KtTaskKind}
    (ended : state.EndedBut worker kinds) (ready : guard state action) :
    (effect decode state action).EndedBut worker kinds :=
  fun kind => (ended kind).imp_right fun ended => ended.step ready

/-- What a call knows stays true while others move. -/
theorem Fits.step {phase : Phase} (fits : state.Fits phase) (ready : guard state action) :
    (effect decode state action).Fits phase := by
  cases phase with
  | closing worker failed kinds => exact EndedBut.step fits ready
  | closingChannel worker failed kind kinds => exact ⟨fits.1.step ready, fits.2.step ready⟩
  | closed worker => exact AllEnded.step fits ready
  | sweeping remaining => exact SweptBut.step fits ready
  | endingStream worker kinds remaining => exact ⟨fits.1.step ready, fits.2.step ready⟩
  | endingFlag worker kind cause kinds remaining => exact ⟨fits.1.step ready, fits.2.step ready⟩
  | endingChannel worker kind cause kinds remaining =>
      exact ⟨fits.1.step ready, fits.2.1.step ready, fits.2.2.step ready⟩
  | stopping => exact SweptBut.step fits ready
  | clearing => exact SweptBut.step fits ready
  | ended skipped =>
      cases skipped with
      | true => trivial
      | false => exact closed_step_empty decode action fits
  | _ => trivial

/-- A close under way still is, unless the call that moved has ended the streams. -/
theorem Closing.move {next : State} {worker : Worker} {call : Call} {after : Phase}
    (closing : state.Closing worker) (moved : next.phase = Function.update state.phase call after)
    (keeps : (state.phase call).closes = some worker →
      after.closes = some worker ∨ next.AllEnded worker) :
    next.Closing worker ∨ next.AllEnded worker := by
  obtain ⟨other, closes⟩ := closing
  by_cases same : other = call
  · subst same
    refine (keeps closes).imp_left fun closes => ⟨other, ?_⟩
    rwa [moved, Function.update_self]
  · refine .inl ⟨other, ?_⟩
    rwa [moved, Function.update_of_ne same]

end Steps

namespace Orderly

variable {decode : ByteArray → String} {state : State} {action : Action} {call : Call}
  {before after : Phase}

/-- A step of one call. -/
theorem move (orderly : state.Orderly) (ready : guard state action)
    (here : state.phase call = before)
    (moved : (effect decode state action).phase = Function.update state.phase call after)
    (fits : state.Fits before → (effect decode state action).Fits after)
    (closes : ∀ worker, before.closes = some worker → state.Fits before →
      after.closes = some worker ∨ (effect decode state action).AllEnded worker)
    (handlers : ∀ worker ∈ state.handlers, worker ∈ (effect decode state action).handlers ∨
      (effect decode state action).Closing worker ∨
        (effect decode state action).AllEnded worker)
    (created : ∀ worker, after = .created worker →
      worker ∈ (effect decode state action).handlers) :
    (effect decode state action).Orderly := by
  have known : state.Fits before := here ▸ orderly.fits call
  refine ⟨calm_step orderly.calm ready, fun other => ?_, fun other worker creates => ?_⟩
  · rw [moved]
    by_cases same : other = call
    · rw [same, Function.update_self]
      exact fits known
    · rw [Function.update_of_ne same]
      exact (orderly.fits other).step ready
  · rw [moved] at creates
    by_cases same : other = call
    · rw [same, Function.update_self] at creates
      exact .inl (created worker creates)
    · rw [Function.update_of_ne same] at creates
      obtain registered | closing | ended := orderly.created other worker creates
      · exact handlers worker registered
      · exact .inr (closing.move moved fun closes' => closes worker (here ▸ closes') known)
      · exact .inr (.inr (ended.step ready))

/-- A step of one call that closes nothing and leaves the handlers. -/
theorem stay (orderly : state.Orderly) (ready : guard state action)
    (here : state.phase call = before)
    (moved : (effect decode state action).phase = Function.update state.phase call after)
    (fits : state.Fits before → (effect decode state action).Fits after)
    (closes : before.closes = after.closes)
    (handlers : (effect decode state action).handlers = state.handlers)
    (created : ∀ worker, after ≠ .created worker) : (effect decode state action).Orderly := by
  refine orderly.move ready here moved fits (fun worker same _ => .inl (closes ▸ same))
    (fun worker member => .inl ?_) (fun worker same => absurd same (created worker))
  rwa [handlers]

/-- A step of a call that knows nothing afterwards. -/
theorem forget (orderly : state.Orderly) (ready : guard state action)
    (here : state.phase call = before)
    (moved : (effect decode state action).phase = Function.update state.phase call after)
    (fits : ∀ next : State, next.Fits after) (closes : before.closes = after.closes)
    (handlers : (effect decode state action).handlers = state.handlers)
    (created : ∀ worker, after ≠ .created worker) : (effect decode state action).Orderly :=
  orderly.stay ready here moved (fun _ => fits _) closes handlers created

theorem step (orderly : state.Orderly) (ready : guard state action) :
    (effect decode state action).Orderly := by
  cases action with
  | ensureOpen call =>
      refine orderly.forget ready ready rfl (fun next => ?_) ?_ rfl (fun worker => ?_)
      · split <;> trivial
      · split <;> rfl
      · split <;> simp
  | workerNew call handle =>
      cases handle with
      | none => exact orderly.forget ready ready.1 rfl (fun _ => trivial) rfl rfl (by simp)
      | some worker => exact orderly.forget ready ready.1 rfl (fun _ => trivial) rfl rfl (by simp)
  | validate call worker accepted =>
      refine orderly.forget ready ready rfl (fun next => ?_) ?_ rfl (fun worker => ?_)
      · split <;> trivial
      · split <;> rfl
      · split <;> simp
  | onWorkerEvents call worker =>
      by_cases closed : state.closed = true
      · have same : effect decode state (.onWorkerEvents call worker) =
            state.setPhase call (.removing worker true) := by simp [effect, closed]
        exact orderly.forget ready ready (congrArg State.phase same) (fun _ => trivial) rfl
          (by simp [same, setPhase]) (by simp)
      · have moved : (effect decode state (.onWorkerEvents call worker)).phase =
            Function.update state.phase call (.created worker) := by simp [effect, closed, setPhase]
        refine orderly.move ready ready moved (fun _ => trivial)
          (fun other closes => by cases closes) (fun other member => .inl ?_) (fun other same => ?_)
        · simp [effect, closed, member]
        · cases same
          simp [effect, closed]
  | remove call worker failed =>
      refine orderly.move ready ready rfl (fun _ => trivial) (fun other closes => by cases closes)
        (fun other member => ?_) (fun other same => by cases same)
      by_cases same : other = worker
      · exact .inr (.inl ⟨call, by simp [effect, setPhase, Phase.closes, same]⟩)
      · exact .inl (Finset.mem_erase_of_ne_of_mem same member)
  | free call worker failed =>
      refine orderly.stay ready ready rfl (fun _ kind => .inl ?_) rfl rfl (by simp)
      exact KtTaskKind.mem_entries kind
  | flag call worker failed kinds =>
      cases kinds with
      | nil =>
          refine orderly.move ready ready rfl (fun ended => ?_) (fun other closes ended => ?_)
            (fun other member => .inl member) (fun other same => ?_)
          · split
            · trivial
            · exact (EndedBut.step ended ready).all
          · cases closes
            exact .inr (EndedBut.step ended ready).all
          · split at same <;> cases same
      | cons kind kinds =>
          refine orderly.stay ready ready rfl (fun ended => ⟨?_, EndedBut.step ended ready⟩) rfl
            rfl (by simp)
          exact flag_flags
  | channel call worker failed kind kinds =>
      refine orderly.stay ready ready rfl (fun known => ?_) rfl rfl (by simp)
      exact (known.2.step ready).tail (closeChannel_ends known.1)
  | shut call =>
      refine orderly.stay ready ready.1 rfl (fun _ => ⟨rfl, ?_⟩) rfl rfl (by simp)
      exact fun worker member => .inl member
  | visit call worker remaining =>
      refine orderly.stay ready ready.1 rfl (fun swept => ⟨fun kind => .inl ?_, ?_⟩) rfl rfl
        (by simp)
      · exact KtTaskKind.mem_entries kind
      · rw [Finset.insert_erase ready.2]
        exact SweptBut.step swept ready
  | pass call worker remaining =>
      refine orderly.stay ready ready.1 rfl (fun swept => ?_) rfl rfl (by simp)
      have swept' : (effect decode state (.pass call worker remaining)).SweptBut
          (insert worker (remaining.erase worker)) := by
        rw [Finset.insert_erase ready.2.1]
        exact SweptBut.step swept ready
      exact swept'.of_insert fun member => absurd member ready.2.2
  | endStream call worker kinds remaining =>
      cases kinds with
      | nil =>
          refine orderly.stay ready ready rfl (fun known => ?_) rfl rfl (by simp)
          exact (known.2.step ready).of_insert fun _ => (known.1.step ready).all
      | cons kind kinds =>
          refine orderly.stay ready ready rfl (fun known => ?_) rfl rfl (by simp)
          exact ⟨known.1.step ready, known.2.step ready⟩
  | endFlag call worker kind cause kinds remaining =>
      refine orderly.stay ready ready rfl (fun known => ?_) rfl rfl (by simp)
      exact ⟨flag_flags, known.1.step ready, known.2.step ready⟩
  | endChannel call worker kind cause kinds remaining =>
      refine orderly.stay ready ready rfl (fun known => ?_) rfl rfl (by simp)
      exact ⟨(known.2.1.step ready).tail (closeChannel_ends known.1), known.2.2.step ready⟩
  | stop call =>
      exact orderly.stay ready ready rfl (fun swept => swept) rfl rfl (by simp)
  | runtimeFree call interrupted =>
      cases interrupted with
      | true => exact orderly.forget ready ready rfl (fun _ => trivial) rfl rfl (by simp)
      | false => exact orderly.stay ready ready rfl (fun swept => swept) rfl rfl (by simp)
  | clear call =>
      refine orderly.move ready ready rfl (fun swept => ⟨swept.1, rfl⟩)
        (fun other closes => by cases closes) (fun other member => .inr (.inr ?_))
        (fun other same => by cases same)
      have known := orderly.fits call
      rw [show state.phase call = .clearing from ready] at known
      exact ((known.2 other member).resolve_left (Finset.notMem_empty other)).step ready
  | skip call => exact orderly.forget ready ready.1 rfl (fun _ => trivial) rfl rfl (by simp)
  | push call completion =>
      exact orderly.forget ready ready.1 rfl (fun _ => trivial) rfl rfl (by simp)
  | onPushed call completion =>
      by_cases taken : ¬logs completion ∧ completion.aux0 ∈ state.handlers
      · have same : effect decode state (.onPushed call completion) =
            state.setPhase call (.handling completion) := if_pos taken
        exact orderly.forget ready ready (congrArg State.phase same) (fun _ => trivial) rfl
          (by simp [same, setPhase]) (by simp)
      · have same : effect decode state (.onPushed call completion) =
            state.setPhase call .returned := if_neg taken
        exact orderly.forget ready ready (congrArg State.phase same) (fun _ => trivial) rfl
          (by simp [same, setPhase]) (by simp)
  | onEvent call completion =>
      obtain ⟨after, moved, fits, closes, created⟩ := onEvent_phase decode state call completion
      exact orderly.forget ready ready moved fits closes.symm
        (onEvent_handlers decode state call completion).1 created
  | receive worker kind this =>
      refine ⟨calm_step orderly.calm ready, fun other => (orderly.fits other).step ready,
        fun other this creates => ?_⟩
      exact (orderly.created other this creates).imp_right fun closing =>
        closing.imp_right fun ended => ended.step ready
  | _ => exact orderly.forget ready ready rfl (fun _ => trivial) rfl rfl (by simp)

end Orderly

theorem start_orderly : start.Orderly where
  calm := fun _ _ => TaskStream.State.calm_start
  fits := fun _ => trivial
  created := fun _ _ created => by cases created

theorem orderly_invariant (decode : ByteArray → String) : (system decode).Invariant Orderly where
  start := start_orderly
  step := fun _ _ _ known ready => known.step ready

/-- A close of the worker has returned, or of its runtime, and none of the worker is under way. -/
def CloseReturned (state : State) (worker : Worker) : Prop :=
  (∃ call, state.phase call = .closed worker) ∨
    (∃ call, state.phase call = .ended false) ∧ (∃ call, state.phase call = .created worker) ∧
      ¬state.Closing worker

theorem Orderly.allEnded {state : State} (known : state.Orderly) {worker : Worker}
    (returned : state.CloseReturned worker) : state.AllEnded worker := by
  obtain ⟨call, closed⟩ | ⟨⟨call, ended⟩, ⟨creator, created⟩, idle⟩ := returned
  · have fits := known.fits call
    rwa [closed] at fits
  · have fits := known.fits call
    rw [ended] at fits
    obtain registered | closing | done := known.created creator worker created
    · rw [fits.2] at registered
      exact absurd registered (Finset.notMem_empty worker)
    · exact absurd closing idle
    · exact done

end State

/-- Whether a step is of one call of `receive` of a stream. -/
def Action.of (worker : Worker) (kind : KtTaskKind) (call : TaskStream.Receive) : Action → Bool
  | .receive other this action => other = worker ∧ this = kind ∧ action.call? = some call
  | _ => false

namespace State

section Released

variable {decode : ByteArray → String} {state : State} {worker : Worker} {kind : KtTaskKind}

/-- A step of a call of `receive` at an ended stream brings it closer to its end, and no step brings
it further from it. -/
theorem Orderly.rank_step (known : state.Orderly) (ended : state.Ended worker kind)
    {action : Action} (ready : guard state action) (call : TaskStream.Receive) :
    ((effect decode state action).stream worker kind).rank call +
      (Action.of worker kind call action).toNat ≤ (state.stream worker kind).rank call := by
  cases own : Action.of worker kind call action with
  | true =>
      cases action with
      | receive other this action =>
          simp only [Action.of, decide_eq_true_eq] at own
          obtain ⟨rfl, rfl, mine⟩ := own
          have falls := TaskStream.State.rank_own ended.channel (known.calm other this) mine ready.2
          simp only [effect, setStream_self, Bool.toNat_true]
          omega
      | _ => cases own
  | false =>
      simp only [Bool.toNat_false, Nat.add_zero]
      cases changes decode ready with
      | none same => rw [same]
      | one other this stream changed calmed flagged kept ranked =>
          rw [changed]
          by_cases same : worker = other ∧ kind = this
          · obtain ⟨rfl, rfl⟩ := same
            rw [setStream_self]
            exact ranked (known.calm worker kind) ended.channel call
          · rw [setStream_of_ne same]

/-- In an ended stream a call that is not done has a step of its own to take. -/
theorem Orderly.enabled (known : state.Orderly) (ended : state.Ended worker kind)
    (call : TaskStream.Receive)
    (running : ((state.stream worker kind).phase call).done = false) :
    ∃ action, Action.of worker kind call action = true ∧ guard state action := by
  obtain ⟨action, mine, receiving, ready⟩ :=
    TaskStream.State.enabled (known.calm worker kind) ended.channel call running
  exact ⟨.receive worker kind action, by simp [Action.of, mine], receiving, ready⟩

end Released

/-- What calls of `receive` can count on in every run from here: the streams of the worker stay
ended, and a call is never parked, has only so many steps of its own, and a next one until it is
done. A task it returns was taken from the queue. -/
structure Released (decode : ByteArray → String) (state : State) (worker : Worker) : Prop where
  ended : ∀ trace, (system decode).Runs state trace →
    ((system decode).after state trace).AllEnded worker
  unparked : ∀ kind call trace, (system decode).Runs state trace →
    (((system decode).after state trace).stream worker kind).phase call ≠ .parked
  bounded : ∀ kind call trace, (system decode).Runs state trace →
    trace.countP (Action.of worker kind call) ≤ 19
  moves : ∀ kind call trace, (system decode).Runs state trace →
    ((((system decode).after state trace).stream worker kind).phase call).done = false →
      ∃ action, Action.of worker kind call action = true ∧
        (system decode).guard ((system decode).after state trace) action
  took : ∀ kind call task trace, (system decode).Runs state trace →
    (((system decode).after state trace).stream worker kind).phase call = .returned task →
      (call, task) ∈ (((system decode).after state trace).stream worker kind).taken

/-- What the closes of a runtime and of its workers have done when they return. -/
structure Final (decode : ByteArray → String) (state : State) : Prop where
  streams : ∀ call, state.phase call = .ended false → ∀ creator worker,
    state.phase creator = .created worker → state.AllEnded worker ∨ state.Closing worker
  handlers : ∀ call, state.phase call = .ended false → ∀ trace, (system decode).Runs state trace →
    ((system decode).after state trace).handlers = ∅
  released : ∀ worker, state.CloseReturned worker → state.Released decode worker

section Reached

variable {decode : ByteArray → String} {state : State}

/-- Streams that are ended stay so, and let nobody wait. -/
theorem released_of_ended (reached : (system decode).Reachable state) {worker : Worker}
    (ended : state.AllEnded worker) : state.Released decode worker := by
  have stays : ∀ trace, (system decode).Runs state trace →
      ((system decode).after state trace).AllEnded worker := fun trace runs =>
    reached.keeps (fun _ _ _ known ready => AllEnded.step known ready) ended runs
  have known : ∀ trace, (system decode).Runs state trace →
      ((system decode).after state trace).Orderly := fun trace runs =>
    (orderly_invariant decode).reachable (reached.run runs)
  refine ⟨stays, fun kind call trace runs => ?_, fun kind call trace runs => ?_,
    fun kind call trace runs running => ?_, fun kind call task trace runs returned => ?_⟩
  · exact ((known trace runs).calm worker kind).not_parked (stays trace runs kind).channel call
  · have bounded := reached.countP_le (fun state => state.AllEnded worker)
      (Action.of worker kind call) (fun state => (state.stream worker kind).rank call)
      (fun _ _ _ ended ready => AllEnded.step ended ready)
      (fun _ _ reached ended ready =>
        ((orderly_invariant decode).reachable reached).rank_step (ended kind) ready call) ended runs
    have atMost := (state.stream worker kind).rank_le call
    omega
  · exact (known trace runs).enabled (stays trace runs kind) call running
  · refine ((known trace runs).calm worker kind).took call task ?_
    rw [returned]
    rfl

/-- Once closed, a runtime has no handlers, and gets none. -/
theorem handlers_stay_empty (reached : (system decode).Reachable state) {call : Call}
    (ended : state.phase call = .ended false) {trace : List Action}
    (runs : (system decode).Runs state trace) : ((system decode).after state trace).handlers = ∅ := by
  have fits := ((orderly_invariant decode).reachable reached).fits call
  rw [ended] at fits
  have step : ∀ (state : State) (action : Action), (system decode).Reachable state →
      (state.closed = true ∧ state.handlers = ∅) → (system decode).guard state action →
        (effect decode state action).closed = true ∧ (effect decode state action).handlers = ∅ :=
    fun _ action _ known _ => closed_step_empty decode action known
  exact (reached.keeps step fits runs).2

end Reached

/-- A worker is created. -/
def creation : List Action :=
  [.create 1, .ensureOpen 1, .workerNew 1 (some 5), .validate 1 5 true, .onWorkerEvents 1 5]

/-- A second close finds the runtime closed by the first, which has ended no stream yet. -/
def overtaking : List Action := creation ++ [.closeRuntime 2, .shut 2, .closeRuntime 3, .skip 3]

/-- A close that finds the runtime closed does not wait for the streams to end. -/
theorem skipping_close_ends_nothing :
    ¬∀ state : State, (system fun _ => "").Reachable state → ∀ call skipped,
      state.phase call = .ended skipped → ∀ creator worker,
        state.phase creator = .created worker → state.AllEnded worker ∨ state.Closing worker := by
  intro ends
  have runs : (system fun _ => "").Runs start overtaking := by decide +kernel
  obtain ended | ⟨call, closes⟩ := ends _ (GuardedSystem.Reachable.start.run runs) 3 true
    (by decide +kernel) 1 5 (by decide +kernel)
  · exact absurd (ended .activity).flag (by decide +kernel)
  · simp [overtaking, creation, GuardedSystem.after, system, effect, setPhase, start,
      Function.update_apply] at closes
    split_ifs at closes <;> cases closes

/-- The close that closed a runtime ends every stream, and a worker's own close ends its own; no
handler is registered afterwards, and nobody stays parked. -/
theorem close_lets_nobody_wait {decode : ByteArray → String} {state : State}
    (reached : (system decode).Reachable state) : state.Final decode := by
  have known := (orderly_invariant decode).reachable reached
  refine ⟨fun call ended creator worker created => ?_, fun call ended trace runs => ?_,
    fun worker returned => ?_⟩
  · by_cases closing : state.Closing worker
    · exact .inr closing
    · exact .inl (known.allEnded (.inr ⟨⟨call, ended⟩, ⟨creator, created⟩, closing⟩))
  · exact handlers_stay_empty reached ended runs
  · exact released_of_ended reached (known.allEnded returned)

/-- The sweep of one handler. -/
def sweep : List Action :=
  [.shut 2, .visit 2 5 {5},
    .endStream 2 5 KtTaskKind.entries ∅,
    .endFlag 2 5 .workflowActivation none [.activity, .nexus] ∅,
    .endChannel 2 5 .workflowActivation none [.activity, .nexus] ∅,
    .endStream 2 5 [.activity, .nexus] ∅, .endFlag 2 5 .activity none [.nexus] ∅,
    .endChannel 2 5 .activity none [.nexus] ∅, .endStream 2 5 [.nexus] ∅,
    .endFlag 2 5 .nexus none [] ∅, .endChannel 2 5 .nexus none [] ∅, .endStream 2 5 [] ∅,
    .stop 2, .runtimeFree 2 false, .clear 2]

/-- The worker's own close. -/
def ownClose : List Action :=
  [.close 3 5, .remove 3 5 false, .free 3 5 false, .flag 3 5 false KtTaskKind.entries,
    .channel 3 5 false .workflowActivation [.activity, .nexus], .flag 3 5 false [.activity, .nexus],
    .channel 3 5 false .activity [.nexus], .flag 3 5 false [.nexus], .channel 3 5 false .nexus [],
    .flag 3 5 false []]

/-- A receiver is parked, the runtime is closed, and then the worker. -/
def closedOver : List Action :=
  creation ++ [.receive 5 .activity (.call 0), .receive 5 .activity (.ensureActive 0),
    .receive 5 .activity (.poll 0), .receive 5 .activity (.receive 0), .closeRuntime 2] ++ sweep ++
    ownClose

theorem close_lets_nobody_wait_parked :
    ((system fun _ => "").after start closedOver).handlers = ∅ ∧
      ((system fun _ => "").after start closedOver).Released (fun _ => "") 5 ∧
      (((system fun _ => "").after start closedOver).stream 5 .activity).phase 0 =
        .resumed (.closed none) := by
  have runs : (system fun _ => "").Runs start closedOver := by decide +kernel
  have final := close_lets_nobody_wait (GuardedSystem.Reachable.start.run runs)
  refine ⟨?_, final.released 5 (.inl ⟨3, by decide +kernel⟩), by decide +kernel⟩
  have empty := final.handlers 2 (by decide +kernel) [] trivial
  rwa [GuardedSystem.after_nil] at empty

end State

end KtBridge.Runtime
