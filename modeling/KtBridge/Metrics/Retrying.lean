import KtBridge.Metrics.Draining

/-! # A retry with the reported length succeeds

A batch that did not fit stays as it is until it is copied, so a buffer of the length reported
for it is large enough, and what a call returns as a success is a batch that was copied.
-/

namespace KtBridge.Metrics.Retrieval

open Foundation

variable {Double : Type} {setting : Setting Double} {state : Retrieval Double}

section WriteOut

variable {bytes : ByteArray} {buffer : Buffer}

/-- A buffer is too small for nothing but its capacity, and the length is told. -/
theorem writeOut_tooSmall (small : (writeOut bytes buffer).status = ktErrBufferTooSmall) :
    buffer.cap.toNat < bytes.size ∧
      writeOut bytes buffer =
        ⟨.error .bufferTooSmall, some (UInt32.ofNat bytes.size), .empty⟩ := by
  unfold writeOut at small ⊢
  split at small
  · exact absurd small (by decide)
  · rename_i outLen
    rw [if_neg outLen]
    dsimp only at small ⊢
    split at small
    · rename_i full
      exact ⟨full, if_pos full⟩
    · split at small
      · split at small
        · exact absurd small (show ktErrInvalidArgument ≠ ktErrBufferTooSmall by decide)
        · exact absurd small (show ktOk ≠ ktErrBufferTooSmall by decide)
      · exact absurd small (show ktOk ≠ ktErrBufferTooSmall by decide)

/-- What is copied is the batch, and its length is told. -/
theorem writeOut_ok (done : (writeOut bytes buffer).result = .ok ()) :
    (writeOut bytes buffer).bytes = bytes ∧
      (writeOut bytes buffer).length = some (UInt32.ofNat bytes.size) := by
  unfold writeOut at done ⊢
  split at done
  · cases done
  · rename_i outLen
    rw [if_neg outLen]
    dsimp only at done ⊢
    split at done
    · cases done
    · rename_i room
      rw [if_neg room]
      split at done
      · rename_i some
        rw [if_pos some]
        split at done
        · cases done
        · rename_i out
          rw [if_neg out]
          exact ⟨rfl, rfl⟩
      · rename_i empty
        rw [if_neg empty]
        exact ⟨(ByteArray.size_eq_zero_iff.mp (not_not.mp empty)).symm, rfl⟩

theorem status_ok {written : Written} : written.status = ktOk ↔ written.result = .ok () := by
  unfold Written.status
  split
  · rename_i same
    exact ⟨fun _ => same, fun _ => rfl⟩
  · rename_i error same
    rw [same]
    exact ⟨fun ok => absurd ok error.code_ne_ok, fun ok => by cases ok⟩
  · rename_i same
    rw [same]
    exact ⟨fun ok => absurd ok (by decide), fun ok => by cases ok⟩

/-- A reported length is read back by Kotlin as it was. -/
theorem toNatClampNeg_size (short : bytes.size < 2 ^ 31) :
    (UInt32.ofNat bytes.size).toInt32.toNatClampNeg = bytes.size :=
  Int32.toNatClampNeg_ofNat_of_lt short

theorem cap_size (short : bytes.size < 2 ^ 31) :
    (UInt32.ofNat bytes.size).toInt32.toUInt32.toNat = bytes.size := by
  rw [UInt32.toUInt32_toInt32, UInt32.toNat_ofNat', Nat.mod_eq_of_lt]
  exact Nat.lt_trans short (by decide)

/-- More than the first capacity is more for Kotlin too. -/
theorem size_gt (short : bytes.size < 2 ^ 31) (more : 65536 < bytes.size) :
    (UInt32.ofNat bytes.size).toInt32 > 65536 := by
  have size : (UInt32.ofNat bytes.size).toInt32.toInt = bytes.size :=
    Int32.toInt_ofNat_of_lt short
  apply Int32.lt_iff_toInt_lt.mpr
  rw [size]
  exact Int.ofNat_lt.mpr more

end WriteOut

section Retry

/-- The pending batch is the encoding of a drain. -/
theorem pending_short {bytes : ByteArray} (reached : (system setting).Reachable state)
    (short : ∀ drained ∈ state.drains, (setting.encode drained.batch).size < 2 ^ 31)
    (pending : state.metricBatch = some bytes) : bytes.size < 2 ^ 31 := by
  have copies := (kept reached).copies
  have member : bytes ∈ state.drains.map fun drained => setting.encode drained.batch := by
    rw [← copies, pending]
    exact List.mem_append_right _ (List.mem_singleton.mpr rfl)
  obtain ⟨drained, there, rfl⟩ := List.mem_map.mp member
  exact short drained there

/-- The batch a writing call finds. -/
theorem pending_of_writing (reached : (system setting).Reachable state) {thread : Thread}
    {buffer : Buffer} (there : state.phase thread = .writing buffer) :
    ∃ bytes, state.metricBatch = some bytes := by
  have full := (locked reached).fits thread
  rw [there] at full
  exact Option.isSome_iff_exists.mp full

end Retry

/-- What was returned as a success is among the batches copied. -/
structure Delivered (state : Retrieval Double) : Prop where
  returned : ∀ thread written, state.phase thread = .returned written → written.result = .ok () →
    written.bytes ∈ state.copied ∧ written.length = some (UInt32.ofNat written.bytes.size) ∧
      written.bytes.size < 2 ^ 31
  finished : ∀ thread bytes, state.loop thread = .finished bytes → bytes ∈ state.copied

section Delivery

/-- A step to a phase that is no success. -/
theorem Delivered.move (delivered : state.Delivered) {next : Retrieval Double} {thread : Thread}
    {phase : Phase Double} (phases : next.phase = Function.update state.phase thread phase)
    (copied : next.copied = state.copied) (loop : next.loop = state.loop)
    (failed : ∀ written, phase = .returned written → written.result ≠ .ok ()) :
    next.Delivered := by
  constructor
  · intro other written there done
    by_cases same : other = thread
    · rw [same, phases, Function.update_self] at there
      exact absurd done (failed written there)
    · rw [phases, Function.update_of_ne same] at there
      rw [copied]
      exact delivered.returned other written there done
  · intro other bytes there
    rw [loop] at there
    rw [copied]
    exact delivered.finished other bytes there

/-- A step of the loop that does not finish it. -/
theorem Delivered.turn (delivered : state.Delivered) {thread : Thread} {loop : Loop}
    (finished : ∀ bytes, loop = .finished bytes → bytes ∈ state.copied) :
    (state.setLoop thread loop).Delivered := by
  refine ⟨delivered.returned, ?_⟩
  intro other bytes there
  by_cases same : other = thread
  · rw [same, setLoop] at there
    simp only [Function.update_self] at there
    exact finished bytes there
  · simp only [setLoop, Function.update_of_ne same] at there
    exact delivered.finished other bytes there

theorem Delivered.write (delivered : state.Delivered) {thread : Thread} {buffer : Buffer}
    {bytes : ByteArray} (pending : state.metricBatch = some bytes) (short : bytes.size < 2 ^ 31) :
    (effect setting state (.write thread buffer)).Delivered := by
  rw [effect_write pending]
  constructor
  · intro other written there done
    by_cases same : other = thread
    · simp only [same, setPhase_same, Phase.returned.injEq] at there
      obtain ⟨whole, length⟩ := writeOut_ok (by rw [there]; exact done)
      rw [there] at whole length
      simp only [there, done, ↓reduceIte, whole]
      exact ⟨List.mem_append_right _ (List.mem_singleton.mpr rfl), length, short⟩
    · simp only [setPhase_other same] at there
      obtain ⟨copied, rest⟩ := delivered.returned other written there done
      exact ⟨List.mem_append_left _ copied, rest⟩
  · intro other given there
    exact List.mem_append_left _ (delivered.finished other given there)

theorem Delivered.next (delivered : state.Delivered) {thread : Thread} {written : Written}
    (there : state.phase thread = .returned written) (cap : Int32) (retries : Nat) :
    (state.afterCall thread written cap retries).Delivered := by
  simp only [afterCall]
  split
  · split
    · refine Delivered.move (delivered.turn ?_) rfl rfl rfl ?_
      · exact fun bytes done => by cases done
      · exact fun given same => by cases same
    · exact delivered.turn fun bytes done => by cases done
  · split
    · exact delivered.turn fun bytes done => by cases done
    · rename_i ok
      apply delivered.turn
      intro bytes finished
      obtain ⟨copied, length, short⟩ :=
        delivered.returned thread written there (status_ok.mp (not_not.mp ok))
      rw [← Loop.finished.inj finished, length, Option.getD_some, toNatClampNeg_size short,
        ByteArray.extract_zero_size]
      exact copied

/-- Every success was copied, if batches are short. -/
theorem delivered (reached : (system setting).Reachable state)
    (short : ∀ drained ∈ state.drains, (setting.encode drained.batch).size < 2 ^ 31) :
    state.Delivered := by
  have invariant : (system setting).Invariant fun state =>
      (∀ drained ∈ state.drains, (setting.encode drained.batch).size < 2 ^ 31) →
        state.Delivered := by
    constructor
    · intro _
      constructor
      · exact fun thread written there => by cases there
      · exact fun thread bytes there => by cases there
    intro state action reached before ready short
    have earlier : ∀ drained ∈ state.drains, (setting.encode drained.batch).size < 2 ^ 31 :=
      fun drained member => short drained ((prefix_step action ready).1.subset member)
    have holds := before earlier
    cases action with
    | create kind params => exact ⟨holds.returned, holds.finished⟩
    | record sample => exact ⟨holds.returned, holds.finished⟩
    | log record => exact ⟨holds.returned, holds.finished⟩
    | call thread buffer => exact holds.move rfl rfl rfl fun written same => by cases same
    | resolve thread buffer refusal =>
        cases refusal with
        | none => exact holds.move rfl rfl rfl fun written same => by cases same
        | some error =>
            refine holds.move rfl rfl rfl ?_
            intro written same
            rw [← Phase.returned.inj same]
            exact fun done => by cases done
    | lock thread buffer =>
        refine holds.move rfl rfl rfl ?_
        intro written
        split <;> exact fun same => by cases same
    | drain thread buffer =>
        obtain ⟨batch, drained, _⟩ := Ledger.drain_spec (Ledger.kept (ledger_reachable reached)).1
        simp only [system, effect, drained]
        split
        · exact holds.move rfl rfl rfl fun written same => by cases same
        · exact holds.move rfl rfl rfl fun written same => by cases same
    | fetch thread buffer metrics => exact holds.move rfl rfl rfl fun written same => by cases same
    | write thread buffer =>
        obtain ⟨bytes, pending⟩ := pending_of_writing reached ready
        have written : (effect setting state (.write thread buffer)).Delivered :=
          holds.write pending (pending_short reached earlier pending)
        exact written
    | retrieveMetrics thread =>
        refine Delivered.move (holds.turn ?_) rfl rfl rfl ?_
        · exact fun bytes done => by cases done
        · exact fun given same => by cases same
    | next thread written cap retries => exact holds.next ready.1 cap retries
  exact invariant.reachable reached short

end Delivery

end KtBridge.Metrics.Retrieval
