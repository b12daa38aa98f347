import KtBridge.Metrics.Retrying

/-! # The loop that retrieves

The loop of `KtBridge.retrieveMetrics` calls again with the length it was told. Alone with the
runtime it makes at most two native calls.
-/

namespace KtBridge.Metrics.Retrieval

open Foundation

variable {Double : Type} {setting : Setting Double} {state : Retrieval Double}

/-- The buffer of a call under way. -/
def Phase.buffer? : Phase Double → Option Buffer
  | .resolving buffer | .locking buffer | .draining buffer | .fetching buffer _ => buffer
  | .writing buffer => buffer
  | .idle | .returned _ => none

/-- Where the loop is when no other thread retrieves: before the first result, told that the
buffer is too small, before the second result with room for the batch, or told something else. -/
inductive Attempt (pending : Option ByteArray) : Int32 → Nat → Phase Double → Prop where
  | first {phase : Phase Double} (calling : Phase.buffer? phase = some (loopBuffer 65536)) :
      Attempt pending 65536 0 phase
  | tooSmall {bytes : ByteArray} (there : pending = some bytes) (more : 65536 < bytes.size)
      (short : bytes.size < 2 ^ 31) :
      Attempt pending 65536 0
        (.returned ⟨.error .bufferTooSmall, some (UInt32.ofNat bytes.size), .empty⟩)
  | second {cap : Int32} {bytes : ByteArray} {phase : Phase Double} (there : pending = some bytes)
      (room : bytes.size ≤ cap.toUInt32.toNat)
      (calling : Phase.buffer? phase = some (loopBuffer cap)) : Attempt pending cap 1 phase
  | other {cap : Int32} {retries : Nat} {written : Written} (most : retries ≤ 1)
      (other : written.status ≠ ktErrBufferTooSmall) : Attempt pending cap retries (.returned written)

/-- Whether the loop was entered, and did not fail on the size it was told. -/
def Loop.isValid : Loop → Bool
  | .outside | .invalid _ => false
  | .running _ _ | .finished _ | .thrown _ => true

/-- A thread whose loop nobody disturbs. -/
structure Alone (thread : Thread) (state : Retrieval Double) : Prop where
  lock : state.holder = none ∨ state.holder = some thread
  attempt : ∀ cap retries, state.loop thread = .running cap retries →
    Attempt state.metricBatch cap retries (state.phase thread)
  valid : Loop.isValid (state.loop thread)

/-- Core's own steps, and those of the thread. -/
def Action.undisturbed (thread : Thread) (action : Action Double) : Bool :=
  action.recording || action.thread? == some thread

section Loop

variable {thread : Thread}

theorem Attempt.most {pending : Option ByteArray} {cap : Int32} {retries : Nat}
    {phase : Phase Double} (attempt : Attempt pending cap retries phase) : retries ≤ 1 := by
  cases attempt with
  | first calling => exact Nat.zero_le 1
  | tooSmall there more short => exact Nat.zero_le 1
  | second there room calling => exact Nat.le_refl 1
  | other most other => exact most

/-- A call that goes on with its buffer. -/
theorem Attempt.go {pending : Option ByteArray} {cap : Int32} {retries : Nat}
    {phase next : Phase Double} {buffer : Buffer} (attempt : Attempt pending cap retries phase)
    (before : Phase.buffer? phase = some buffer) (after : Phase.buffer? next = some buffer) :
    Attempt pending cap retries next := by
  cases attempt with
  | first calling => exact .first (by rw [after, ← before, calling])
  | tooSmall there more short => cases before
  | second there room calling => exact .second there room (by rw [after, ← before, calling])
  | other most other => cases before

/-- A call that may change what is pending is the first, as the second finds a batch. -/
theorem Attempt.drain {cap : Int32} {retries : Nat} {phase next : Phase Double} {buffer : Buffer}
    {pending : Option ByteArray} (attempt : Attempt none cap retries phase)
    (before : Phase.buffer? phase = some buffer) (after : Phase.buffer? next = some buffer) :
    Attempt pending cap retries next := by
  cases attempt with
  | first calling => exact .first (by rw [after, ← before, calling])
  | tooSmall there more short => cases there
  | second there room calling => cases there
  | other most other => cases before

/-- The result of a first call is final or says how much room there must be; that of a second
call is final. -/
theorem Attempt.write {bytes : ByteArray} {cap : Int32} {retries : Nat} {buffer : Buffer}
    (attempt : Attempt (some bytes) cap retries (.writing buffer : Phase Double))
    (short : bytes.size < 2 ^ 31) :
    Attempt (if (writeOut bytes buffer).result = .ok () then none else some bytes) cap retries
      (.returned (writeOut bytes buffer) : Phase Double) := by
  by_cases small : (writeOut bytes buffer).status = ktErrBufferTooSmall
  · obtain ⟨more, written⟩ := writeOut_tooSmall small
    cases attempt with
    | first calling =>
        rw [Option.some.inj calling] at more ⊢
        rw [Option.some.inj calling] at written
        rw [written, if_neg (by simp)]
        exact .tooSmall rfl more short
    | second there room calling =>
        rw [Option.some.inj there] at more
        rw [Option.some.inj calling] at more
        exact absurd room (Nat.not_le.mpr more)
  · exact .other attempt.most small

theorem Action.own {action : Action Double} {other : Thread} (kind : action.undisturbed thread)
    (which : action.thread? = some other) : other = thread := by
  have own : action.recording = false := by
    cases action <;> first | rfl | cases which
  simp only [undisturbed, own, Bool.false_or, which, beq_iff_eq] at kind
  exact Option.some.inj kind

/-- What the loop makes of a result. -/
theorem Alone.next (alone : Alone thread state) {written : Written} {cap : Int32} {retries : Nat}
    (attempt : Attempt state.metricBatch cap retries (.returned written : Phase Double)) :
    Alone thread (state.afterCall thread written cap retries) := by
  cases attempt with
  | first calling => cases calling
  | second there room calling => cases calling
  | tooSmall there more short =>
      simp only [afterCall, Option.getD_some, Written.status, KtError.code, ↓reduceIte,
        if_pos (size_gt short more)]
      refine ⟨alone.lock, ?_, ?_⟩
      · intro cap retries running
        simp only [setPhase, setLoop, Function.update_self] at running ⊢
        cases running
        exact .second there (Nat.le_of_eq (cap_size short).symm) rfl
      · simp only [setPhase, setLoop, Function.update_self]
        rfl
  | other most other =>
      simp only [afterCall, if_neg other]
      split
      · refine ⟨alone.lock, ?_, ?_⟩
        · intro cap retries running
          simp only [setLoop, Function.update_self] at running
          cases running
        · simp only [setLoop, Function.update_self]
          rfl
      · refine ⟨alone.lock, ?_, ?_⟩
        · intro cap retries running
          simp only [setLoop, Function.update_self] at running
          cases running
        · simp only [setLoop, Function.update_self]
          rfl

theorem Alone.step (alone : Alone thread state) (reached : (system setting).Reachable state)
    (short : ∀ drained ∈ state.drains, (setting.encode drained.batch).size < 2 ^ 31)
    {action : Action Double} (kind : action.undisturbed thread)
    (ready : guard setting state action) : Alone thread (effect setting state action) := by
  have fits := (locked reached).fits thread
  cases action with
  | create kind params => exact ⟨alone.lock, alone.attempt, alone.valid⟩
  | record sample => exact ⟨alone.lock, alone.attempt, alone.valid⟩
  | log record => exact ⟨alone.lock, alone.attempt, alone.valid⟩
  | call other buffer =>
      cases Action.own kind rfl
      refine ⟨alone.lock, ?_, alone.valid⟩
      intro cap retries running
      have idle := ready.2
      rw [show state.loop thread = .running cap retries from running] at idle
      cases idle
  | resolve other buffer refusal =>
      cases Action.own kind rfl
      obtain ⟨there, errors⟩ := ready
      cases refusal with
      | none =>
          refine ⟨alone.lock, ?_, alone.valid⟩
          intro cap retries running
          simp only [effect, setPhase_same]
          exact (alone.attempt cap retries running).go (by rw [there]; rfl) rfl
      | some error =>
          refine ⟨alone.lock, ?_, alone.valid⟩
          intro cap retries running
          simp only [effect, setPhase_same]
          refine .other (alone.attempt cap retries running).most ?_
          rcases errors error rfl with rfl | rfl
          · exact show ktErrStaleHandle ≠ ktErrBufferTooSmall by decide
          · exact show ktErrWrongHandleKind ≠ ktErrBufferTooSmall by decide
  | lock other buffer =>
      cases Action.own kind rfl
      refine ⟨Or.inr rfl, ?_, alone.valid⟩
      intro cap retries running
      simp only [effect, setPhase_same]
      apply (alone.attempt cap retries running).go (by rw [ready.1]; rfl)
      split <;> rfl
  | drain other buffer =>
      cases Action.own kind rfl
      have there : state.phase thread = .draining buffer := ready
      rw [there] at fits
      have before : ∀ cap retries, state.loop thread = .running cap retries →
          Attempt none cap retries (state.phase thread) := by
        intro cap retries running
        rw [← show state.metricBatch = none from fits]
        exact alone.attempt cap retries running
      obtain ⟨batch, drained, _⟩ :=
        Ledger.drain_spec (Ledger.kept (ledger_reachable reached)).1
      simp only [effect, drained]
      split
      · refine ⟨alone.lock, ?_, alone.valid⟩
        intro cap retries running
        simp only [setPhase_same]
        exact (before cap retries running).drain (by rw [there]; rfl) rfl
      · refine ⟨alone.lock, ?_, alone.valid⟩
        intro cap retries running
        simp only [setPhase_same]
        exact (before cap retries running).drain (by rw [there]; rfl) rfl
  | fetch other buffer metrics =>
      cases Action.own kind rfl
      have there : state.phase thread = .fetching buffer metrics := ready
      rw [there] at fits
      refine ⟨alone.lock, ?_, alone.valid⟩
      intro cap retries running
      have before := alone.attempt cap retries running
      rw [show state.metricBatch = none from fits] at before
      simp only [effect, setPhase_same]
      exact before.drain (by rw [there]; rfl) rfl
  | write other buffer =>
      cases Action.own kind rfl
      have there : state.phase thread = .writing buffer := ready
      obtain ⟨bytes, pending⟩ := pending_of_writing reached there
      rw [effect_write pending]
      refine ⟨Or.inl rfl, ?_, alone.valid⟩
      intro cap retries running
      have before := alone.attempt cap retries running
      rw [pending, there] at before
      simp only [setPhase_same]
      exact before.write (pending_short reached short pending)
  | retrieveMetrics other =>
      cases Action.own kind rfl
      refine ⟨alone.lock, ?_, ?_⟩
      · intro cap retries running
        simp only [effect, setPhase, setLoop, Function.update_self] at running ⊢
        cases running
        exact .first rfl
      · simp only [effect, setPhase, setLoop, Function.update_self]
        rfl
  | next other written cap retries =>
      cases Action.own kind rfl
      obtain ⟨there, running⟩ := ready
      have attempt := alone.attempt cap retries running
      rw [there] at attempt
      exact alone.next attempt

/-- How many steps a call has before it, with the loop's step after it. -/
def Phase.left : Phase Double → Nat
  | .idle => 0
  | .resolving _ => 6
  | .locking _ => 5
  | .draining _ => 4
  | .fetching _ _ => 3
  | .writing _ => 2
  | .returned _ => 1

/-- How many steps the loop has before it, at most. -/
def left (thread : Thread) (state : Retrieval Double) : Nat :=
  match state.loop thread with
  | .running _ retries => (if retries = 0 then 6 else 0) + Phase.left (state.phase thread)
  | _ => 0

theorem left_of_running {cap : Int32} {retries : Nat}
    (running : state.loop thread = .running cap retries) :
    left thread state = (if retries = 0 then 6 else 0) + Phase.left (state.phase thread) := by
  simp only [left, running]

/-- A step of the native call brings the loop's end closer. -/
theorem left_of_call {next : Retrieval Double} {cap : Int32} {retries : Nat}
    (running : state.loop thread = .running cap retries) (loop : next.loop = state.loop)
    (phase : Phase.left (next.phase thread) < Phase.left (state.phase thread)) :
    left thread next < left thread state := by
  rw [left_of_running running, left_of_running ((congrFun loop thread).trans running)]
  exact Nat.add_lt_add_left phase _

/-- So does what the loop makes of a result. -/
theorem Alone.left_next {written : Written} {cap : Int32} {retries : Nat}
    (attempt : Attempt state.metricBatch cap retries (.returned written : Phase Double))
    (running : state.loop thread = .running cap retries)
    (there : state.phase thread = .returned written) :
    left thread (state.afterCall thread written cap retries) < left thread state := by
  rw [left_of_running running, there]
  cases attempt with
  | first calling => cases calling
  | second there room calling => cases calling
  | tooSmall there more short =>
      simp only [afterCall, Option.getD_some, Written.status, KtError.code, ↓reduceIte,
        if_pos (size_gt short more), left, setPhase, setLoop, Function.update_self, Phase.left]
      decide
  | other most other =>
      simp only [afterCall, if_neg other]
      split
      · simp only [left, setLoop, Function.update_self, Phase.left]
        exact Nat.lt_add_left _ Nat.one_pos
      · simp only [left, setLoop, Function.update_self, Phase.left]
        exact Nat.lt_add_left _ Nat.one_pos

theorem Alone.left_step (alone : Alone thread state) (reached : (system setting).Reachable state)
    {action : Action Double} (own : action.thread? = some thread)
    (ready : guard setting state action) {cap : Int32} {retries : Nat}
    (running : state.loop thread = .running cap retries) :
    left thread (effect setting state action) < left thread state := by
  have attempt := alone.attempt cap retries running
  cases action with
  | create kind params => cases own
  | record sample => cases own
  | log record => cases own
  | call other buffer =>
      obtain rfl : other = thread := Option.some.inj own
      have idle := ready.2
      rw [running] at idle
      cases idle
  | retrieveMetrics other =>
      obtain rfl : other = thread := Option.some.inj own
      have idle := ready.2
      rw [running] at idle
      cases idle
  | resolve other buffer refusal =>
      obtain rfl : other = thread := Option.some.inj own
      cases refusal with
      | none =>
          refine left_of_call running rfl ?_
          simp only [effect, setPhase_same, ready.1, Phase.left]
          decide
      | some error =>
          refine left_of_call running rfl ?_
          simp only [effect, setPhase_same, ready.1, Phase.left]
          decide
  | lock other buffer =>
      obtain rfl : other = thread := Option.some.inj own
      refine left_of_call running rfl ?_
      simp only [effect, setPhase_same, ready.1]
      split
      · exact show 2 < 5 by decide
      · exact show 4 < 5 by decide
  | drain other buffer =>
      obtain rfl : other = thread := Option.some.inj own
      have there : state.phase other = .draining buffer := ready
      simp only [effect]
      split
      · split
        · refine left_of_call running rfl ?_
          simp only [setPhase_same, there, Phase.left]
          decide
        · refine left_of_call running rfl ?_
          simp only [setPhase_same, there, Phase.left]
          decide
      · refine left_of_call running rfl ?_
        simp only [setPhase_same, there, Phase.left]
        decide
  | fetch other buffer metrics =>
      obtain rfl : other = thread := Option.some.inj own
      refine left_of_call running rfl ?_
      simp only [effect, setPhase_same, show state.phase other = .fetching buffer metrics from ready,
        Phase.left]
      decide
  | write other buffer =>
      obtain rfl : other = thread := Option.some.inj own
      have there : state.phase other = .writing buffer := ready
      obtain ⟨bytes, pending⟩ := pending_of_writing reached there
      rw [effect_write pending]
      refine left_of_call running rfl ?_
      simp only [setPhase_same, there, Phase.left]
      decide
  | next other written lastCap lastRetries =>
      obtain rfl : other = thread := Option.some.inj own
      obtain ⟨there, same⟩ := ready
      obtain ⟨rfl, rfl⟩ : cap = lastCap ∧ retries = lastRetries := by
        rw [running] at same
        cases same
        exact ⟨rfl, rfl⟩
      rw [there] at attempt
      exact Alone.left_next attempt running there

/-- The loop never waits for another thread. -/
theorem Alone.ready (alone : Alone thread state) (locked : state.Locked) {cap : Int32}
    {retries : Nat} (running : state.loop thread = .running cap retries) :
    ∃ action : Action Double, action.thread? = some thread ∧ guard setting state action := by
  have attempt := alone.attempt cap retries running
  cases there : state.phase thread with
  | idle =>
      rw [there] at attempt
      cases attempt with
      | first calling => cases calling
      | second _ _ calling => cases calling
  | resolving buffer =>
      exact ⟨.resolve thread buffer none, rfl, there, fun error member => by cases member⟩
  | locking buffer =>
      refine ⟨.lock thread buffer, rfl, there, ?_⟩
      rcases alone.lock with free | own
      · exact free
      · have inside := (locked.held thread).mpr own
        rw [there] at inside
        cases inside
  | draining buffer => exact ⟨.drain thread buffer, rfl, there⟩
  | fetching buffer metrics => exact ⟨.fetch thread buffer metrics, rfl, there⟩
  | writing buffer => exact ⟨.write thread buffer, rfl, there⟩
  | returned written => exact ⟨.next thread written cap retries, rfl, there, running⟩

/-- A loop that has ended stays so until it is entered again. -/
theorem ended_step {action : Action Double} (again : action ≠ .retrieveMetrics thread)
    (ready : guard setting state action) (ended : Loop.isRunning (state.loop thread) = false) :
    (effect setting state action).loop thread = state.loop thread := by
  cases action with
  | create kind params => rfl
  | record sample => rfl
  | log record => rfl
  | call other buffer => rfl
  | resolve other buffer refusal => cases refusal <;> rfl
  | lock other buffer => rfl
  | drain other buffer =>
      simp only [effect]
      split
      · split <;> rfl
      · rfl
  | fetch other buffer metrics => rfl
  | write other buffer =>
      simp only [effect]
      split
      · rfl
      · split <;> rfl
  | retrieveMetrics other =>
      have different : thread ≠ other := fun same => again (by rw [same])
      exact Function.update_of_ne different ..
  | next other written cap retries =>
      have different : thread ≠ other := by
        rintro rfl
        rw [ready.2] at ended
        cases ended
      rcases afterCall_cases state other written cap retries with ⟨size, next⟩ | ⟨loop, next⟩
      · simp only [effect, next]
        exact Function.update_of_ne different ..
      · simp only [effect, next]
        exact Function.update_of_ne different ..

theorem ended_run {trace : List (Action Double)} (again : ∀ action ∈ trace,
      action ≠ .retrieveMetrics thread) (runs : (system setting).Runs state trace)
    (ended : Loop.isRunning (state.loop thread) = false) :
    ((system setting).after state trace).loop thread = state.loop thread := by
  induction trace generalizing state with
  | nil => rfl
  | cons action rest ih =>
      have same := ended_step (again action List.mem_cons_self) runs.1 ended
      rw [GuardedSystem.after_cons]
      refine (ih (fun other member => again other (List.mem_cons_of_mem _ member)) runs.2 ?_).trans
        same
      rw [show ((system setting).effect state action).loop thread = state.loop thread from same]
      exact ended

/-- What holds of a loop that was disturbed by nobody, and how many steps it took. -/
theorem Alone.run (alone : Alone thread state) (reached : (system setting).Reachable state)
    {trace : List (Action Double)}
    (undisturbed : ∀ action ∈ trace, action.undisturbed thread ∧ action ≠ .retrieveMetrics thread)
    (runs : (system setting).Runs state trace)
    (short : ∀ drained ∈ ((system setting).after state trace).drains,
      (setting.encode drained.batch).size < 2 ^ 31) :
    Alone thread ((system setting).after state trace) ∧
      (Loop.isRunning (((system setting).after state trace).loop thread) →
        trace.countP (fun action => action.thread? == some thread) +
          left thread ((system setting).after state trace) ≤ left thread state) := by
  induction trace generalizing state with
  | nil => exact ⟨alone, fun _ => Nat.le_of_eq (Nat.zero_add _)⟩
  | cons action rest ih =>
      obtain ⟨kind, again⟩ := undisturbed action List.mem_cons_self
      have ready : guard setting state action := runs.1
      have others : ∀ other ∈ rest, other.undisturbed thread ∧ other ≠ .retrieveMetrics thread :=
        fun other member => undisturbed other (List.mem_cons_of_mem _ member)
      have before : ∀ drained ∈ state.drains, (setting.encode drained.batch).size < 2 ^ 31 :=
        fun drained member => short drained ((prefix_run runs).1.subset member)
      have next := alone.step reached before kind ready
      obtain ⟨last, steps⟩ := ih next (reached.step action ready) others runs.2 short
      refine ⟨last, fun running => ?_⟩
      have within := steps running
      have going : Loop.isRunning (state.loop thread) := by
        by_contra ended
        have stopped := Bool.not_eq_true _ |>.mp ended
        have same := ended_run (fun other member => (undisturbed other member).2) runs stopped
        rw [same] at running
        exact ended running
      obtain ⟨cap, retries, there⟩ : ∃ cap retries, state.loop thread = .running cap retries := by
        cases loop : state.loop thread <;> rw [loop] at going
        case running cap retries => exact ⟨cap, retries, rfl⟩
        all_goals cases going
      by_cases own : action.thread? = some thread
      · have closer := alone.left_step reached own ready there
        rw [List.countP_cons_of_pos (by rw [own]; exact beq_self_eq_true _)]
        rw [GuardedSystem.after_cons, Nat.add_right_comm]
        exact Nat.lt_of_le_of_lt within closer
      · have recording : action.recording := by
          simpa [Action.undisturbed, own] using kind
        have same : left thread ((system setting).effect state action) = left thread state := by
          cases action <;> first | rfl | cases recording
        rw [List.countP_cons_of_neg (by rw [beq_iff_eq]; exact own), ← same]
        exact within

end Loop

/-- What a step does to the batches: nothing, or it makes a drain pending, or it copies what was
pending into the buffer of a call that returns `KT_OK`. -/
inductive Moves (setting : Setting Double) (state next : Retrieval Double) : Action Double → Prop
  | still {action : Action Double} (drains : next.drains = state.drains)
      (pending : next.metricBatch = state.metricBatch) (copied : next.copied = state.copied) :
      Moves setting state next action
  | fetched {thread : Thread} {buffer : Buffer} {metrics : MetricBatch Double}
      (empty : state.metricBatch = none)
      (drains : next.drains = state.drains ++ [{ metrics := metrics, logs := state.logs }])
      (pending : next.metricBatch =
        some (setting.encode (Drained.batch { metrics := metrics, logs := state.logs })))
      (copied : next.copied = state.copied) :
      Moves setting state next (.fetch thread buffer metrics)
  | copied {thread : Thread} {buffer : Buffer} {bytes : ByteArray} {written : Written}
      (pending : state.metricBatch = some bytes) (returned : next.phase thread = .returned written)
      (done : written.status = ktOk) (whole : written.bytes = bytes)
      (gone : next.metricBatch = none) (copied : next.copied = state.copied ++ [bytes])
      (drains : next.drains = state.drains) : Moves setting state next (.write thread buffer)

theorem moves (reached : (system setting).Reachable state) {action : Action Double}
    (ready : guard setting state action) :
    Moves setting state (effect setting state action) action := by
  rcases batches_step action ready with ⟨drains, pending, copied⟩ | fetch | write
  · exact .still drains pending copied
  · obtain ⟨thread, buffer, metrics, rfl⟩ := fetch
    have fits := (locked reached).fits thread
    rw [show state.phase thread = .fetching buffer metrics from ready] at fits
    exact .fetched fits rfl rfl rfl
  · obtain ⟨thread, buffer, bytes, rfl, pending, done⟩ := write
    rw [effect_write pending]
    simp only [done, ↓reduceIte]
    exact .copied pending (setPhase_same ..) (status_ok.mpr done) (writeOut_ok done).1 rfl rfl rfl

end KtBridge.Metrics.Retrieval
