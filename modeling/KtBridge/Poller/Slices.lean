import KtBridge.Poller.Delivery

/-! # Slices of a slab

Each payload of a batch is copied into a part of the slab of its own, inside the slab as it was
reserved for the whole batch. Only a poll that returns records touches its poller's slab.
Memory is unbounded here: what is reserved is there.
-/

namespace KtBridge

open Foundation

/-- The slice of a payload in a slab of some length; an empty one has none. -/
def KtCompletion.Slices (length : Nat) (pending : Pending) (record : KtCompletion) : Prop :=
  if pending.payload.size = 0 then record.payload = none ∧ record.payloadLen = 0
  else ∃ offset, record.payload = some offset ∧ record.payloadLen = pending.payload.size ∧
    offset + record.payloadLen ≤ length

/-- The slice of the first record ends before that of the second. -/
def KtCompletion.Apart (first second : KtCompletion) : Prop :=
  ∀ start, first.payload = some start → ∀ other, second.payload = some other →
    start + first.payloadLen ≤ other

namespace BatchBuf

/-- What filling a slab with a batch does. -/
structure Fills (buf : BatchBuf) (batch : List Pending) (next : BatchBuf)
    (records : List KtCompletion) : Prop where
  filled : buf.fill batch = some (next, records)
  /-- Before each put there is room for it, in a slab as long as it was reserved. -/
  room : ∀ first pending later, batch = first ++ pending :: later → ∃ mid written,
    (buf.reset.reserve (total batch)).writeRecords first = some (mid, written) ∧
      mid.used + pending.payload.size ≤ mid.bytes.length ∧
      mid.bytes.length = (buf.reset.reserve (total batch)).bytes.length
  length : next.bytes.length = (buf.reset.reserve (total batch)).bytes.length
  apart : records.Pairwise KtCompletion.Apart
  slices : List.Forall₂ (KtCompletion.Slices next.bytes.length) batch records
  reads : records.map (KtCompletion.read next) = batch.map Pending.record

theorem total_append (first later : List Pending) :
    total (first ++ later) = total first + total later := by
  simp only [total, List.map_append, List.sum_append]

/-- One record has its slice right after what was used. -/
theorem writeRecord_slice {buf : BatchBuf} {pending : Pending}
    (fits : buf.used + pending.payload.size ≤ buf.bytes.length) :
    ∃ next record, buf.writeRecord pending = some (next, record) ∧
      next.used = buf.used + pending.payload.size ∧ next.bytes.length = buf.bytes.length ∧
      record.Slices buf.bytes.length pending ∧
      ∀ offset, record.payload = some offset →
        buf.used = offset ∧ offset + record.payloadLen = next.used := by
  unfold writeRecord
  by_cases empty : pending.payload.size = 0
  · rw [if_pos empty]
    refine ⟨buf, _, rfl, by omega, rfl, ?_, fun offset there => by cases there⟩
    exact (if_pos empty).mpr ⟨rfl, rfl⟩
  · rw [if_neg empty, put, if_pos fits]
    refine ⟨_, _, rfl, rfl, length_splice fits, ?_, ?_⟩
    · exact (if_neg empty).mpr ⟨buf.used, rfl, rfl, fits⟩
    · intro offset there
      exact ⟨Option.some.inj there, by rw [← Option.some.inj there]⟩

/-- The records of a batch that fits have their slices one after the other. -/
theorem writeRecords_slices (batch : List Pending) : ∀ (buf : BatchBuf),
    buf.used + total batch ≤ buf.bytes.length →
    ∃ last records, buf.writeRecords batch = some (last, records) ∧
      last.used = buf.used + total batch ∧ last.bytes.length = buf.bytes.length ∧
      records.Pairwise KtCompletion.Apart ∧
      List.Forall₂ (KtCompletion.Slices buf.bytes.length) batch records ∧
      ∀ record ∈ records, ∀ offset, record.payload = some offset → buf.used ≤ offset := by
  induction batch with
  | nil =>
      intro buf _
      exact ⟨buf, [], rfl, rfl, rfl, .nil, .nil, fun _ member => absurd member List.not_mem_nil⟩
  | cons pending rest ih =>
      intro buf fits
      rw [total_cons] at fits ⊢
      obtain ⟨next, record, written, used, length, slice, place⟩ :=
        writeRecord_slice (show buf.used + pending.payload.size ≤ buf.bytes.length by omega)
      obtain ⟨last, records, rewritten, usedRest, lengthRest, apart, slices, after⟩ :=
        ih next (by omega)
      refine ⟨last, record :: records, ?_, by omega, lengthRest.trans length, ?_, ?_, ?_⟩
      · simp only [writeRecords, written, rewritten, Option.bind_eq_bind, Option.bind_some,
          Option.pure_def]
      · refine List.pairwise_cons.mpr ⟨?_, apart⟩
        intro later member start there other elsewhere
        rw [(place start there).2]
        exact after later member other elsewhere
      · rw [length] at slices
        exact .cons slice slices
      · intro other member offset there
        rcases List.mem_cons.mp member with rfl | later
        · exact Nat.le_of_eq (place offset there).1
        · exact Nat.le_trans (by omega) (after other later offset there)

/-- Filling a slab puts every payload of the batch into a slice of its own. -/
theorem fill_fills (buf : BatchBuf) (batch : List Pending) :
    ∃ next records, buf.Fills batch next records := by
  have reserved := total_le_reserve buf.reset (total batch)
  have unused : (buf.reset.reserve (total batch)).used = 0 := by
    rw [used_reserve]
    rfl
  have fits : (buf.reset.reserve (total batch)).used + total batch ≤
      (buf.reset.reserve (total batch)).bytes.length := by omega
  obtain ⟨next, records, written, _, length, apart, slices, _⟩ :=
    writeRecords_slices batch (buf.reset.reserve (total batch)) fits
  obtain ⟨last, others, filled, reads⟩ := fill_reads_back buf batch
  obtain ⟨rfl, rfl⟩ : last = next ∧ others = records := by
    have same := filled.symm.trans written
    exact Prod.mk.inj (Option.some.inj same)
  refine ⟨last, others, filled, ?_, length, apart, ?_, reads⟩
  · intro first pending later split
    have sizes : total batch = total first + (pending.payload.size + total later) := by
      rw [split, total_append, total_cons]
    obtain ⟨mid, done, writtenFirst, used, lengthMid, _⟩ :=
      writeRecords_slices first (buf.reset.reserve (total batch)) (by omega)
    exact ⟨mid, done, writtenFirst, by omega, lengthMid⟩
  · rw [length]
    exact slices

/-- A slab does not shrink. -/
theorem Fills.grows {buf next : BatchBuf} {batch : List Pending} {records : List KtCompletion}
    (fills : buf.Fills batch next records) : buf.bytes.length ≤ next.bytes.length := by
  rw [fills.length, reserve]
  split
  · rename_i short
    rw [List.takeD_length]
    exact (Nat.le_of_lt short).trans ((le_nextPowerOfTwo _).trans (le_max_left ..))
  · exact Nat.le_refl _

/-- The length of a slab fits in 64 bits, if no batch is too large for that. -/
theorem Fills.bounded {buf next : BatchBuf} {batch : List Pending} {records : List KtCompletion}
    (fills : buf.Fills batch next records) (before : buf.bytes.length ≤ 2 ^ 63)
    (small : total batch < 2 ^ 63) : next.bytes.length ≤ 2 ^ 63 := by
  rw [fills.length, reserve]
  split
  · rw [List.takeD_length]
    have log : Nat.clog 2 (total batch) ≤ 63 :=
      (Nat.clog_le_iff_le_pow Nat.one_lt_two).mpr (Nat.le_of_lt small)
    exact max_le (Nat.pow_le_pow_right Nat.two_pos log) (by decide)
  · exact before

end BatchBuf

theorem KtCompletion.Slices.mono {first second : Nat} (grows : first ≤ second) {pending : Pending}
    {record : KtCompletion} (slices : record.Slices first pending) : record.Slices second pending := by
  unfold Slices at slices ⊢
  split
  · rename_i empty
    rw [if_pos empty] at slices
    exact slices
  · rename_i full
    rw [if_neg full] at slices
    obtain ⟨offset, there, length, inside⟩ := slices
    exact ⟨offset, there, length, inside.trans grows⟩

namespace Poller

variable {state : State}

/-- The write step of a nonempty batch. -/
theorem effect_write (state : State) (poll : Poll) (call : Call) (closed : Bool)
    {batch : List Pending} (full : batch ≠ []) :
    ∃ next records, (state.buf call.poller).Fills batch next records ∧
      effect state (.write poll call batch closed) =
        { state.setPhase poll (.leaving call (.ok batch.length) records) with
          buf := Function.update state.buf call.poller next
          written := Function.update state.written poll (records.map (KtCompletion.read next))
          writer := Function.update state.writer call.poller (some poll) } := by
  obtain ⟨next, records, fills⟩ := BatchBuf.fill_fills (state.buf call.poller) batch
  refine ⟨next, records, fills, ?_⟩
  simp only [effect, full, ↓reduceIte, fills.filled]

/-- Only the write step of a nonempty batch touches a slab. -/
theorem buf_step (state : State) (action : Action) : (effect state action).buf = state.buf ∨
    ∃ poll call batch closed, action = .write poll call batch closed ∧ batch ≠ [] := by
  cases action with
  | push pending =>
      left
      simp only [effect]
      split <;> rfl
  | close => exact Or.inl rfl
  | wake poller => exact Or.inl rfl
  | enter poll call outIsNull =>
      left
      simp only [effect]
      split <;> rfl
  | lock poll call => exact Or.inl rfl
  | check poll call =>
      left
      simp only [effect]
      split <;> rfl
  | park poll call => exact Or.inl rfl
  | unpark poll call notified timedOut => exact Or.inl rfl
  | relock poll call timedOut =>
      left
      simp only [effect]
      split <;> rfl
  | drain poll call => exact Or.inl rfl
  | write poll call batch closed =>
      by_cases empty : batch = []
      · left
        simp only [effect, empty, ↓reduceIte]
        rfl
      · exact Or.inr ⟨poll, call, batch, closed, rfl, empty⟩
  | leave poll call outcome records => exact Or.inl rfl

/-- What a write step leaves its poll with. -/
theorem write_result {poll : Poll} {call current : Call} {batch : List Pending} {closed : Bool}
    {records : List KtCompletion}
    (result : ((effect state (.write poll call batch closed)).phase poll).result =
      some (current, records)) :
    current = call ∧ (batch = [] ∧ records = [] ∨
      batch ≠ [] ∧ ∃ next, (state.buf call.poller).Fills batch next records ∧
        (effect state (.write poll call batch closed)).buf call.poller = next) := by
  by_cases empty : batch = []
  · simp only [effect, empty, ↓reduceIte, State.setPhase, Function.update_self] at result
    obtain ⟨same, none⟩ := Prod.mk.inj (Option.some.inj result)
    exact ⟨same.symm, Or.inl ⟨empty, none.symm⟩⟩
  · obtain ⟨next, written, fills, after⟩ := effect_write state poll call closed empty
    rw [after] at result ⊢
    simp only [State.setPhase, Function.update_self] at result ⊢
    obtain ⟨same, rfl⟩ := Prod.mk.inj (Option.some.inj result)
    exact ⟨same.symm, Or.inr ⟨empty, next, fills, rfl⟩⟩

/-- A poll's records are those it had, or those of its write step. -/
theorem result_step {action : Action} (ready : guard state action) {poll : Poll} {call : Call}
    {records : List KtCompletion}
    (result : ((effect state action).phase poll).result = some (call, records)) :
    (state.phase poll).result = some (call, records) ∨
      ∃ batch closed, action = .write poll call batch closed := by
  by_cases own : action.poll = some poll
  · cases action with
    | push pending => cases own
    | close => cases own
    | wake poller => cases own
    | write mover current batch closed =>
        obtain rfl : mover = poll := Option.some.inj own
        exact Or.inr ⟨batch, closed, by rw [(write_result result).1]⟩
    | leave mover current outcome others =>
        obtain rfl : mover = poll := Option.some.inj own
        left
        simp only [effect, State.setPhase, Function.update_self] at result
        rw [show state.phase mover = .leaving current outcome others from ready]
        exact result
    -- The other steps of the poll leave it without a result.
    | enter | check | relock =>
        obtain rfl := Option.some.inj own
        simp only [effect] at result
        split at result <;> simp [State.setPhase, State.leaveLoop, Phase.result] at result
    | lock | park | unpark | drain =>
        obtain rfl := Option.some.inj own
        simp [effect, State.setPhase, Phase.result] at result
  · left
    rcases phase_of_other state own with same | same
    · rw [same] at result
      exact result
    · rw [same, Phase.result_notify] at result
      exact result

/-- The records of a poll are slices of its drained batch, in a slab at least as long. -/
structure State.Sliced (state : State) : Prop where
  apart : ∀ poll call records, (state.phase poll).result = some (call, records) →
    records.Pairwise KtCompletion.Apart
  slices : ∀ drain ∈ state.drains, ∀ call records,
    (state.phase drain.poll).result = some (call, records) →
    List.Forall₂ (KtCompletion.Slices (state.buf call.poller).bytes.length) drain.batch records
  bounded : (∀ drain ∈ state.drains, BatchBuf.total drain.batch < 2 ^ 63) →
    ∀ poller, (state.buf poller).bytes.length ≤ 2 ^ 63

/-- A slab keeps its length or grows. -/
theorem buf_grows (state : State) (action : Action) (poller : PollerEntry) :
    (state.buf poller).bytes.length ≤ ((effect state action).buf poller).bytes.length := by
  rcases buf_step state action with same | ⟨poll, call, batch, closed, rfl, full⟩
  · rw [same]
  · obtain ⟨next, records, fills, after⟩ := effect_write state poll call closed full
    rw [after]
    simp only [Function.update_apply]
    split
    · rename_i same
      rw [same]
      exact fills.grows
    · exact Nat.le_refl _

/-- A drain that was not there before is of a poll without a result. -/
theorem drains_step {action : Action} {drain : Drain}
    (member : drain ∈ (effect state action).drains) :
    drain ∈ state.drains ∨ ((effect state action).phase drain.poll).result = none := by
  cases action with
  | push pending =>
      left
      simp only [effect] at member
      split at member <;> exact member
  | close => exact Or.inl member
  | wake poller => exact Or.inl member
  | enter poll call outIsNull =>
      left
      simp only [effect] at member
      split at member <;> exact member
  | lock poll call => exact Or.inl member
  | check poll call =>
      left
      simp only [effect] at member
      split at member <;> exact member
  | park poll call => exact Or.inl member
  | unpark poll call notified timedOut => exact Or.inl member
  | relock poll call timedOut =>
      left
      simp only [effect] at member
      split at member <;> exact member
  | drain poll call =>
      rcases List.mem_append.mp member with old | new
      · exact Or.inl old
      · right
        rw [List.mem_singleton.mp new]
        simp [effect, State.setPhase, Phase.result]
  | write poll call batch closed =>
      left
      by_cases empty : batch = []
      · simp only [effect, empty, ↓reduceIte] at member
        exact member
      · obtain ⟨next, records, _, after⟩ := effect_write state poll call closed empty
        rw [after] at member
        exact member
  | leave poll call outcome records => exact Or.inl member

/-- Drains are only added. -/
theorem drains_grow (state : State) (action : Action) :
    state.drains ⊆ (effect state action).drains := by
  cases action with
  | drain poll call => exact List.subset_append_left ..
  | push | enter | check | relock =>
      simp only [effect]
      split <;> exact fun _ member => member
  | write poll call batch closed =>
      simp only [effect]
      split
      · exact fun _ member => member
      · split <;> exact fun _ member => member
  | _ => exact fun _ member => member

namespace State

/-- A poll about to write has a drain of its batch. -/
theorem Accounted.drain_of_writing (accounted : state.Accounted) {poll : Poll} {call : Call}
    {batch : List Pending} {closed : Bool} (writing : state.phase poll = .writing call batch closed) :
    ∃ drain ∈ state.drains, drain.poll = poll ∧ batch = drain.batch := by
  obtain ⟨drain, member, same⟩ :=
    List.mem_map.mp (accounted.drained poll (by rw [writing]; rfl))
  have follows := accounted.follows drain member
  rw [same, writing] at follows
  exact ⟨drain, member, same, follows.2.1⟩

theorem Sliced.step (sliced : state.Sliced) (accounted : state.Accounted) {action : Action}
    (ready : guard state action) : (effect state action).Sliced := by
  constructor
  · intro poll call records result
    rcases result_step ready result with old | ⟨batch, closed, rfl⟩
    · exact sliced.apart poll call records old
    · obtain ⟨_, ⟨_, rfl⟩ | ⟨_, next, fills, _⟩⟩ := write_result result
      · exact .nil
      · exact fills.apart
  · intro drain member call records result
    rcases drains_step member with old | fresh
    · rcases result_step ready result with before | ⟨batch, closed, rfl⟩
      · refine (sliced.slices drain old call records before).imp ?_
        intro pending record slices
        exact slices.mono (buf_grows state action call.poller)
      · have follows := accounted.follows drain old
        rw [show state.phase drain.poll = .writing call batch closed from ready] at follows
        obtain ⟨_, ⟨empty, rfl⟩ | ⟨_, next, fills, after⟩⟩ := write_result result
        · rw [← follows.2.1, empty]
          exact .nil
        · rw [after, ← follows.2.1]
          exact fills.slices
    · rw [fresh] at result
      cases result
  · intro small poller
    have before := sliced.bounded fun drain member => small drain (drains_grow state action member)
    rcases buf_step state action with same | ⟨poll, call, batch, closed, rfl, full⟩
    · rw [same]
      exact before poller
    · obtain ⟨drain, member, _, rfl⟩ := accounted.drain_of_writing ready
      obtain ⟨next, records, fills, after⟩ := effect_write state poll call closed full
      rw [after]
      simp only [Function.update_apply]
      split
      · exact fills.bounded (before call.poller) (small drain (drains_grow state _ member))
      · exact before poller

end State

theorem sliced_start : start.Sliced := by
  constructor
  · exact fun _ _ _ impossible => by cases impossible
  · exact fun _ member => absurd member List.not_mem_nil
  · exact fun _ _ => Nat.zero_le _

theorem sliced_invariant : machine.Invariant State.Sliced where
  start := sliced_start
  step := fun _ _ reached sliced ready => sliced.step (accounted_invariant.reachable reached) ready

/-- A poll with a result wrote the batch it drained. -/
theorem Phase.Follows.written_of_result {phase : Phase} {drain : Drain} {written : List Record}
    (follows : phase.Follows drain written) {result : Call × List KtCompletion}
    (has : phase.result = some result) : written = drain.batch.map Pending.record := by
  cases phase with
  | leaving call outcome records => exact follows.2.2.2
  | returned call outcome records => exact follows.2.2.2
  | _ => cases has

/-- A poll keeps its records. -/
theorem result_run {poll : Poll} {result : Call × List KtCompletion}
    (has : (state.phase poll).result = some result) {trace : List Action}
    (runs : machine.Runs state trace) :
    ((machine.after state trace).phase poll).result = some result := by
  induction trace generalizing state with
  | nil => exact has
  | cons action rest ih =>
      refine ih ?_ runs.2
      have ready : guard state action := runs.1
      by_cases own : action.poll = some poll
      · cases action with
        | push | close | wake => cases own
        | leave mover call outcome records =>
            obtain rfl := Option.some.inj own
            rw [show state.phase mover = .leaving call outcome records from ready] at has
            simp only [machine, effect, State.setPhase, Function.update_self]
            exact has
        | lock | relock | unpark =>
            obtain rfl := Option.some.inj own
            rw [ready.1] at has
            cases has
        | _ =>
            obtain rfl := Option.some.inj own
            simp only [guard] at ready
            rw [ready] at has
            cases has
      · rcases phase_of_other state own with same | same
        · exact (congrArg Phase.result same).trans has
        · refine (congrArg Phase.result same).trans ?_
          rw [Phase.result_notify]
          exact has

/-- Nobody else touches the slab of a poll under way. -/
theorem buf_of_ongoing (exclusive : state.Exclusive) {poll : Poll} {call : Call}
    (ongoing : (state.phase poll).ongoing = some call) {action : Action}
    (ready : guard state action) (other : action.poll ≠ some poll) :
    (effect state action).buf call.poller = state.buf call.poller := by
  rcases buf_step state action with same | ⟨writer, current, batch, closed, rfl, full⟩
  · rw [same]
  · obtain ⟨next, records, _, after⟩ := effect_write state writer current closed full
    have busy : (state.phase writer).ongoing = some current := by
      rw [show state.phase writer = .writing current batch closed from ready]
      rfl
    have apart : call.poller ≠ current.poller := by
      intro same
      have one := exclusive.alone poll writer call current ongoing busy same
      exact other (congrArg some one.symm)
    rw [after]
    exact Function.update_of_ne apart ..

/-- A slab is touched only by a poll on its poller that ends with records. -/
theorem touched_with_records {action : Action} (ready : guard state action)
    {poller : PollerEntry} (touched : (effect state action).buf poller ≠ state.buf poller) :
    ∃ poll call records, action.poll = some poll ∧ call.poller = poller ∧ records ≠ [] ∧
      ((effect state action).phase poll).result = some (call, records) := by
  rcases buf_step state action with same | ⟨poll, call, batch, closed, rfl, full⟩
  · exact absurd (congrFun same poller) touched
  · obtain ⟨next, records, fills, after⟩ := effect_write state poll call closed full
    rw [after] at touched ⊢
    refine ⟨poll, call, records, rfl, ?_, ?_, ?_⟩
    · by_contra different
      exact touched (Function.update_of_ne (Ne.symm different) ..)
    · intro none
      have lengths := fills.slices.length_eq
      rw [none] at lengths
      exact full (List.length_eq_zero_iff.mp lengths)
    · simp only [State.setPhase, Function.update_self]
      rfl

/-- In every run: filling a slab never leaves its bounds or moves it between two puts; the records
of a poll are apart and read back as its batch until another poll writes there; a slab's length
stays in 64 bits; and a slab is touched only by a poll on its poller that ends with records, and
by no other while a poll is under way. -/
theorem slices_stay_as_written (trace : List Action) (runs : machine.Runs start trace) :
    let state := machine.after start trace
    (∀ poll call batch closed, state.phase poll = .writing call batch closed → batch ≠ [] →
      ∃ next records, (state.buf call.poller).Fills batch next records ∧
        (effect state (.write poll call batch closed)).phase poll =
          .leaving call (.ok batch.length) records ∧
        (effect state (.write poll call batch closed)).buf call.poller = next) ∧
    (∀ poll call outcome records, state.phase poll = .leaving call outcome records ∨
        state.phase poll = .returned call outcome records ∧
          state.writer call.poller = some poll →
      records.Pairwise KtCompletion.Apart ∧ ∃ drain ∈ state.drains, drain.poll = poll ∧
        List.Forall₂ (KtCompletion.Slices (state.buf call.poller).bytes.length)
          drain.batch records ∧
        records.map (KtCompletion.read (state.buf call.poller)) =
          drain.batch.map Pending.record) ∧
    ((∀ drain ∈ state.drains, BatchBuf.total drain.batch < 2 ^ 63) →
      ∀ poller, (state.buf poller).bytes.length ≤ 2 ^ 63) ∧
    (∀ before action later poller, trace = before ++ action :: later →
      (machine.after start (before ++ [action])).buf poller ≠
        (machine.after start before).buf poller →
      ∃ poll call records, action.poll = some poll ∧ call.poller = poller ∧ records ≠ [] ∧
        (state.phase poll).result = some (call, records)) ∧
    ∀ poll call action, (state.phase poll).ongoing = some call → guard state action →
      action.poll ≠ some poll → (effect state action).buf call.poller = state.buf call.poller := by
  have reached := GuardedSystem.Reachable.start.run runs
  have accounted : (machine.after start trace).Accounted := accounted_invariant.reachable reached
  have exclusive : (machine.after start trace).Exclusive := exclusive_invariant.reachable reached
  have sliced : (machine.after start trace).Sliced := sliced_invariant.reachable reached
  refine ⟨?_, ?_, sliced.bounded, ?_, ?_⟩
  · intro poll call batch closed writing full
    obtain ⟨next, records, fills, after⟩ := effect_write (machine.after start trace) poll call
      closed full
    refine ⟨next, records, fills, ?_, ?_⟩
    · rw [after]
      exact Function.update_self ..
    · rw [after]
      exact Function.update_self ..
  · intro poll call outcome records ends
    have result : ((machine.after start trace).phase poll).result = some (call, records) := by
      rcases ends with leaving | ⟨returned, _⟩
      · rw [leaving]
        rfl
      · rw [returned]
        rfl
    have left : ((machine.after start trace).phase poll).left := by
      rcases ends with leaving | ⟨returned, _⟩
      · rw [leaving]
        rfl
      · rw [returned]
        rfl
    obtain ⟨drain, member, same⟩ := List.mem_map.mp (accounted.drained poll left)
    have follows := accounted.follows drain member
    refine ⟨sliced.apart poll call records result, drain, member, same, ?_, ?_⟩
    · exact sliced.slices drain member call records (by rw [same]; exact result)
    · rw [reads_back accounted exclusive ends, ← same]
      exact follows.written_of_result (by rw [same]; exact result)
  · intro before action later poller split touched
    rw [split] at runs
    obtain ⟨first, ready, rest⟩ := (machine.runs_append ..).mp runs
    rw [GuardedSystem.after_append] at touched
    obtain ⟨poll, call, records, own, same, some, result⟩ := touched_with_records ready touched
    refine ⟨poll, call, records, own, same, some, ?_⟩
    rw [split, GuardedSystem.after_append]
    exact result_run result rest
  · intro poll call action ongoing ready other
    exact buf_of_ongoing exclusive ongoing ready other

/-- An empty payload and five bytes, in one batch, and a poll that finds nothing. -/
def hello : List Action :=
  let call : Call := { poller := 0, cap := 8, timeoutMillis := 0 }
  let first := Pending.ack 7
  let second := (Pending.ack 8).withPayload "hello".toByteArray
  let batch := [first, second]
  let (_, records) := ((BatchBuf.new).fill batch).getD (BatchBuf.new, [])
  [.push first, .push second,
    .enter 0 call false, .lock 0 call, .check 0 call, .drain 0 call, .write 0 call batch false,
    .leave 0 call (.ok 2) records,
    .enter 1 call false, .lock 1 call, .check 1 call, .drain 1 call, .write 1 call [] false,
    .leave 1 call (.ok 0) []]

theorem slices_stay_as_written_hello :
    ((machine.after start hello).buf 0).used = 5 ∧
      ((∀ drain ∈ (machine.after start hello).drains, BatchBuf.total drain.batch < 2 ^ 63) →
        ∀ poller, ((machine.after start hello).buf poller).bytes.length ≤ 2 ^ 63) :=
  ⟨by decide +kernel, (slices_stay_as_written hello (by decide +kernel)).2.2.1⟩

end Poller

end KtBridge
