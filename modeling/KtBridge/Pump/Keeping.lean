import KtBridge.Foundation.Entries
import KtBridge.Pump.Custody

/-! # Every continuation is kept until it is done

In undisputed runs a continuation is kept in one place until it is resumed or found
cancelled, so nobody resumes it twice. The invariant rests on what a step may do to
the keeping of continuations, stated once in `Moves`.
-/

namespace KtBridge.Pump

open Foundation

/-- Keeping is exclusive, what is kept may be resumed, and a continuation nobody keeps
is done. -/
structure State.Kept (state : State) : Prop where
  exclusive : Exclusive state.holding
  resumable : ∀ call, Held state.holding call → (state.continuation call).resumable
  accounted : ∀ call < state.entered, state.continuation call = .active →
    Held state.holding call
  known : ∀ call, Held state.holding call → call < state.entered
  outside : ∀ call, state.phase call = .outside ↔ state.entered ≤ call
  fits : state.entered ≤ 2 ^ 64
  keyed : ∀ id call, state.pending.lookup id = some call → requestId call = id
  retired : ∀ call thrown, state.phase call = .retired thrown false →
    state.pending.lookup (requestId call) = none
  clear : state.clashes = []

/-- What a step may do to the keeping of the calls there are. -/
structure Moves (state next : State) : Prop where
  exclusive : Exclusive next.holding
  held : ∀ call, Held next.holding call → Held state.holding call ∧
    (next.continuation call = state.continuation call ∨ next.continuation call = .cancelled)
  kept : ∀ call, Held state.holding call → Held next.holding call ∨
    next.continuation call ≠ .active
  done : ∀ call, state.continuation call ≠ .active → next.continuation call ≠ .active
  entered : next.entered = state.entered
  outside : ∀ call, next.phase call = .outside ↔ state.phase call = .outside
  keyed : ∀ id call, next.pending.lookup id = some call → requestId call = id
  retired : ∀ call thrown, next.phase call = .retired thrown false →
    next.pending.lookup (requestId call) = none
  clear : next.clashes = state.clashes

theorem State.Kept.moves {state next : State} (sound : state.Kept) (moves : Moves state next) :
    next.Kept where
  exclusive := moves.exclusive
  resumable := by
    intro call held
    obtain ⟨before, same | cancelled⟩ := moves.held call held
    · rw [same]
      exact sound.resumable call before
    · rw [cancelled]
      rfl
  accounted := by
    intro call inside active
    rw [moves.entered] at inside
    by_cases before : state.continuation call = .active
    · exact (moves.kept call (sound.accounted call inside before)).resolve_right
        (fun done => done active)
    · exact absurd active (moves.done call before)
  known := by
    intro call held
    rw [moves.entered]
    exact sound.known call (moves.held call held).1
  outside := by
    intro call
    rw [moves.outside, moves.entered]
    exact sound.outside call
  fits := by
    rw [moves.entered]
    exact sound.fits
  keyed := moves.keyed
  retired := moves.retired
  clear := by
    rw [moves.clear]
    exact sound.clear

/-- A phase is left for another one inside the call. -/
theorem outside_update {phase : Call → Phase} {call : Call} {next : Phase}
    (inside : phase call ≠ .outside) (target : next ≠ .outside) (other : Call) :
    Function.update phase call next other = .outside ↔ phase other = .outside := by
  by_cases here : other = call
  · subst here
    simp only [Function.update_self, inside, target]
  · rw [Function.update_of_ne here]

namespace Moves

variable {state next : State}

/-- Continuations stay as they are, and at most change hands. -/
theorem of_transfer (sound : state.Kept) {source target : Place}
    (transfer : Transfer state.holding next.holding source target)
    (continuation : next.continuation = state.continuation) (entered : next.entered = state.entered)
    (outside : ∀ call, next.phase call = .outside ↔ state.phase call = .outside)
    (keyed : ∀ id call, next.pending.lookup id = some call → requestId call = id)
    (retired : ∀ call thrown, next.phase call = .retired thrown false →
      next.pending.lookup (requestId call) = none)
    (clear : next.clashes = state.clashes) : Moves state next where
  exclusive := transfer.exclusive sound.exclusive
  held := fun call held => ⟨(transfer.held_iff call).mp held, Or.inl (by rw [continuation])⟩
  kept := fun call held => Or.inl ((transfer.held_iff call).mpr held)
  done := fun call => by
    rw [continuation]
    exact id
  entered := entered
  outside := outside
  keyed := keyed
  retired := retired
  clear := clear

/-- Nobody takes or leaves a continuation. -/
theorem of_same (sound : state.Kept) (holding : next.holding = state.holding)
    (continuation : next.continuation = state.continuation) (entered : next.entered = state.entered)
    (outside : ∀ call, next.phase call = .outside ↔ state.phase call = .outside)
    (pending : ∀ id call, next.pending.lookup id = some call → state.pending.lookup id = some call)
    (retired : ∀ call thrown, next.phase call = .retired thrown false →
      next.pending.lookup (requestId call) = none)
    (clear : next.clashes = state.clashes) : Moves state next where
  exclusive := by
    rw [holding]
    exact sound.exclusive
  held := fun call held => by
    rw [holding] at held
    exact ⟨held, Or.inl (by rw [continuation])⟩
  kept := fun call held => by
    rw [holding]
    exact Or.inl held
  done := fun call => by
    rw [continuation]
    exact id
  entered := entered
  outside := outside
  keyed := fun id call found => sound.keyed id call (pending id call found)
  retired := retired
  clear := clear

/-- The pump thread goes on, and the shared state stays. -/
theorem of_pump (sound : state.Kept) (phase : next.phase = state.phase)
    (pending : next.pending = state.pending) (held : next.pump.held = state.pump.held)
    (continuation : next.continuation = state.continuation)
    (entered : next.entered = state.entered) (clashes : next.clashes = state.clashes) :
    Moves state next := by
  apply of_same sound _ continuation entered _ _ _ clashes
  · simp only [State.holding, phase, pending]
    exact custody_pump held
  · intro call
    rw [phase]
  · intro id call
    rw [pending]
    exact fun found => found
  · rw [phase, pending]
    exact sound.retired

/-- A caller goes on without its continuation changing hands. -/
theorem of_phase (sound : state.Kept) {call : Call} (phase : Phase)
    (inside : state.phase call ≠ .outside) (same : phase.keeps = (state.phase call).keeps)
    (target : phase ≠ .outside) (found : ∀ thrown, phase ≠ .retired thrown false) :
    Moves state (state.setPhase call phase) := by
  have holding : (state.setPhase call phase).holding = state.holding := custody_phase same
  apply of_same sound holding rfl rfl (outside_update inside target) (fun _ _ => id) _ rfl
  intro other thrown there
  by_cases here : other = call
  · subst here
    simp only [State.setPhase, Function.update_self] at there
    exact absurd there (found thrown)
  · simp only [State.setPhase, Function.update_of_ne here] at there
    exact sound.retired other thrown there

/-- The keeper of a continuation is done with it, and so is the continuation. -/
theorem of_release (sound : state.Kept) {call : Call}
    (released : Exclusive next.holding ∧
      ∀ other, Held next.holding other ↔ Held state.holding other ∧ other ≠ call)
    (finished : next.continuation call ≠ .active)
    (continuation : ∀ other, other ≠ call → next.continuation other = state.continuation other)
    (entered : next.entered = state.entered)
    (outside : ∀ call, next.phase call = .outside ↔ state.phase call = .outside)
    (pending : next.pending = state.pending)
    (retired : ∀ call thrown, next.phase call = .retired thrown false →
      state.phase call = .retired thrown false)
    (clear : next.clashes = state.clashes) : Moves state next where
  exclusive := released.1
  held := by
    intro other held
    obtain ⟨before, differs⟩ := (released.2 other).mp held
    exact ⟨before, Or.inl (continuation other differs)⟩
  kept := by
    intro other held
    by_cases same : other = call
    · right
      rw [same]
      exact finished
    · left
      exact (released.2 other).mpr ⟨held, same⟩
  done := by
    intro other before
    by_cases same : other = call
    · rw [same]
      exact finished
    · rw [continuation other same]
      exact before
  entered := entered
  outside := outside
  keyed := by
    rw [pending]
    exact sound.keyed
  retired := by
    intro other thrown there
    rw [pending]
    exact sound.retired other thrown (retired other thrown there)
  clear := clear

/-- A continuation is cancelled, or the coroutine behind a resumed one goes on. -/
theorem of_continuation (sound : state.Kept) {call : Call} (value : Continuation)
    (finished : value ≠ .active) (unheld : value = .cancelled ∨ ¬ Held state.holding call)
    (holding : next.holding = state.holding)
    (continuation : next.continuation = Function.update state.continuation call value)
    (entered : next.entered = state.entered) (phase : next.phase = state.phase)
    (pending : next.pending = state.pending) (clear : next.clashes = state.clashes) :
    Moves state next where
  exclusive := by
    rw [holding]
    exact sound.exclusive
  held := by
    intro other held
    rw [holding] at held
    refine ⟨held, ?_⟩
    rw [continuation]
    by_cases same : other = call
    · subst same
      rw [Function.update_self]
      exact Or.inr (unheld.resolve_right (fun absent => absent held))
    · left
      rw [Function.update_of_ne same]
  kept := by
    intro other held
    rw [holding]
    exact Or.inl held
  done := by
    intro other before
    rw [continuation]
    by_cases same : other = call
    · subst same
      rw [Function.update_self]
      exact finished
    · rw [Function.update_of_ne same]
      exact before
  entered := entered
  outside := by
    intro other
    rw [phase]
  keyed := by
    rw [pending]
    exact sound.keyed
  retired := by
    rw [pending, phase]
    exact sound.retired
  clear := clear

end Moves

namespace State

variable (state : State) (call : Call) (result : Resumption)

@[simp] theorem resume_phase : (state.resume call result).phase = state.phase := by
  unfold resume
  split <;> rfl

@[simp] theorem resume_pending : (state.resume call result).pending = state.pending := by
  unfold resume
  split <;> rfl

@[simp] theorem resume_running : (state.resume call result).running = state.running := by
  unfold resume
  split <;> rfl

@[simp] theorem resume_pump : (state.resume call result).pump = state.pump := by
  unfold resume
  split <;> rfl

@[simp] theorem resume_entered : (state.resume call result).entered = state.entered := by
  unfold resume
  split <;> rfl

@[simp] theorem resume_pushed : (state.resume call result).pushed = state.pushed := by
  unfold resume
  split <;> rfl

@[simp] theorem resume_released : (state.resume call result).released = state.released := by
  unfold resume
  split <;> rfl

@[simp] theorem resume_dead : (state.resume call result).dead = state.dead := by
  unfold resume
  split <;> rfl

@[simp] theorem resume_pollerFrees :
    (state.resume call result).pollerFrees = state.pollerFrees := by
  unfold resume
  split <;> rfl

variable {state call result}

/-- Resuming a continuation leaves the others. -/
theorem resume_others {other : Call} (differs : other ≠ call) :
    (state.resume call result).continuation other = state.continuation other := by
  unfold resume
  split
  · exact Function.update_of_ne differs ..
  · rfl
  · rfl

variable (result)

/-- An accepted resumption leaves the continuation done, and nothing else changed. -/
theorem resume_spec (resumable : (state.continuation call).resumable) :
    (state.resume call result).continuation call ≠ .active ∧
      (∀ other, other ≠ call →
        (state.resume call result).continuation other = state.continuation other) ∧
      (state.resume call result).clashes = state.clashes := by
  unfold resume
  cases was : state.continuation call with
  | active =>
      refine ⟨?_, ?_, rfl⟩
      · simp only [Function.update_self]
        simp
      · intro other differs
        exact Function.update_of_ne differs _ _
  | cancelled =>
      refine ⟨?_, fun _ _ => rfl, rfl⟩
      simp only [was]
      simp
  | _ =>
      rw [was] at resumable
      cases resumable

end State

namespace State.Kept

variable {state : State}

/-- A call past its start is one of those that drew an id. -/
theorem inside (kept : state.Kept) {call : Call} {phase : Phase} (at_ : state.phase call = phase)
    (entered : phase ≠ .outside) : state.phase call ≠ .outside ∧ call < state.entered := by
  have notOutside : state.phase call ≠ .outside := by
    rw [at_]
    exact entered
  refine ⟨notOutside, ?_⟩
  by_contra beyond
  exact notOutside ((kept.outside call).mpr (Nat.le_of_not_lt beyond))

/-- What the map has under a call's id is that call's continuation. -/
theorem lookup_requestId (kept : state.Kept) {call other : Call} (inside : call < state.entered)
    (found : state.pending.lookup (requestId call) = some other) : other = call := by
  have known : other < state.entered := by
    apply kept.known
    refine ⟨.entry (requestId call), ?_⟩
    simp only [State.holding, custody, found, Option.toList_some, List.mem_singleton]
  exact requestId_inj (known.trans_le kept.fits) (inside.trans_le kept.fits)
    (kept.keyed _ _ found)

/-- A new call keeps its own continuation. -/
theorem enter (kept : state.Kept) (fits : state.entered < 2 ^ 64) :
    (effect state (.enter state.entered)).Kept := by
  have outside : state.phase state.entered = .outside := (kept.outside _).mpr le_rfl
  have fresh : ¬ Held state.holding state.entered := fun held =>
    absurd (kept.known _ held) (lt_irrefl _)
  have acquires : Acquires state.holding (effect state (.enter state.entered)).holding
      (.caller state.entered) state.entered := by
    refine ⟨fresh, ?_, ?_⟩
    · simp [State.holding, custody, effect, State.setPhase, outside, Phase.keeps]
    · intro place elsewhere
      cases place with
      | caller other =>
          have differs : other ≠ state.entered := fun same => elsewhere (congrArg Place.caller same)
          simp only [State.holding, custody, effect, State.setPhase,
            Function.update_of_ne differs]
      | _ => rfl
  have held : ∀ call, Held (effect state (.enter state.entered)).holding call →
      Held state.holding call ∨ call = state.entered := by
    intro call held
    obtain ⟨place, there⟩ := held
    rcases (acquires.mem_iff place call).mp there with before | ⟨_, same⟩
    · exact Or.inl ⟨place, before⟩
    · exact Or.inr same
  have still : ∀ call, Held state.holding call ∨ call = state.entered →
      Held (effect state (.enter state.entered)).holding call := by
    intro call which
    rcases which with ⟨place, before⟩ | same
    · exact ⟨place, (acquires.mem_iff place call).mpr (Or.inl before)⟩
    · exact ⟨_, (acquires.mem_iff _ call).mpr (Or.inr ⟨rfl, same⟩)⟩
  have older : ∀ call, call ≠ state.entered →
      (effect state (.enter state.entered)).continuation call = state.continuation call :=
    fun call differs => Function.update_of_ne differs _ _
  constructor
  · exact acquires.exclusive kept.exclusive
  · intro call now
    by_cases new : call = state.entered
    · subst new
      simp only [effect, Function.update_self, Continuation.resumable]
    · rw [older call new]
      exact kept.resumable call ((held call now).resolve_right new)
  · intro call inside active
    by_cases new : call = state.entered
    · exact still call (Or.inr new)
    · rw [older call new] at active
      have before : call < state.entered := lt_of_le_of_ne (Nat.le_of_lt_succ inside) new
      exact still call (Or.inl (kept.accounted call before active))
  · intro call now
    rcases held call now with before | same
    · exact (kept.known call before).trans (Nat.lt_succ_self _)
    · rw [same]
      exact Nat.lt_succ_self _
  · intro call
    by_cases new : call = state.entered
    · subst new
      simp [effect, State.setPhase]
    · simp only [effect, State.setPhase, Function.update_of_ne new, kept.outside call]
      exact ⟨fun beyond => Nat.lt_of_le_of_ne beyond (Ne.symm new), Nat.le_of_succ_le⟩
  · exact fits
  · exact kept.keyed
  · intro call thrown there
    by_cases new : call = state.entered
    · subst new
      simp [effect, State.setPhase] at there
    · simp only [effect, State.setPhase, Function.update_of_ne new] at there
      exact kept.retired call thrown there
  · exact kept.clear

/-- A caller puts its continuation into the map. -/
theorem store (kept : state.Kept) {call : Call} (ready : guard state (.store call)) :
    Moves state (effect state (.store call)) := by
  have here : state.phase call = .entered := ready
  obtain ⟨notOutside, inside⟩ := kept.inside here (by simp)
  have keeps : (state.phase call).keeps := by
    rw [here]
    rfl
  have absent : state.pending.lookup (requestId call) = none := by
    cases found : state.pending.lookup (requestId call) with
    | none => rfl
    | some other =>
        obtain rfl := kept.lookup_requestId inside found
        have twice := kept.exclusive.single (.caller other) (.entry (requestId other)) other
          (by simp [State.holding, custody, keeps]) (by simp [State.holding, custody, found])
        cases twice
  have apart : ∀ other, other < state.entered → other ≠ call →
      requestId other ≠ requestId call := by
    intro other known differs same
    exact differs (requestId_inj (known.trans_le kept.fits) (inside.trans_le kept.fits) same)
  refine Moves.of_transfer kept (transfer_store keeps absent rfl) rfl rfl
    (outside_update notOutside (by simp)) ?_ ?_ rfl
  · intro id other found
    by_cases same : id = requestId call
    · subst same
      simp only [effect, AList.lookup_insert, Option.some.injEq] at found
      rw [found]
    · simp only [effect, AList.lookup_insert_ne same] at found
      exact kept.keyed id other found
  · intro other thrown there
    by_cases same : other = call
    · subst same
      simp [effect, State.setPhase] at there
    · simp only [effect, State.setPhase, Function.update_of_ne same] at there
      have known := (kept.inside there (by simp)).2
      simp only [effect, AList.lookup_insert_ne (apart other known same)]
      exact kept.retired other thrown there

/-- A phase other than an unsuccessful removal leaves those there were. -/
theorem retired_update (kept : state.Kept) {call : Call} {next : Phase}
    {pending : AList fun _ : UInt64 => Call}
    (unlike : ∀ thrown, next = .retired thrown false → pending.lookup (requestId call) = none)
    (fewer : ∀ id other, pending.lookup id = some other → state.pending.lookup id = some other)
    (other : Call) (thrown : Throwable)
    (there : Function.update state.phase call next other = .retired thrown false) :
    pending.lookup (requestId other) = none := by
  by_cases same : other = call
  · subst same
    rw [Function.update_self] at there
    exact unlike thrown there
  · rw [Function.update_of_ne same] at there
    have before := kept.retired other thrown there
    cases found : pending.lookup (requestId other) with
    | none => rfl
    | some value =>
        rw [fewer _ _ found] at before
        cases before

/-- The caller of a request refused by the stopped pump. -/
theorem withdraw (kept : state.Kept) {call : Call} (ready : guard state (.withdraw call)) :
    Moves state (effect state (.withdraw call)) := by
  have here : state.phase call = .refused := ready
  obtain ⟨notOutside, inside⟩ := kept.inside here (by simp)
  have lacks : (state.phase call).keeps = false := by
    rw [here]
    rfl
  by_cases present : requestId call ∈ state.pending
  · simp only [effect, present, ↓reduceIte]
    obtain ⟨other, found⟩ := Option.isSome_iff_exists.mp (AList.lookup_isSome.mpr present)
    obtain rfl := kept.lookup_requestId inside found
    refine Moves.of_transfer kept (transfer_withdraw found lacks rfl) rfl rfl
      (outside_update notOutside (by simp)) ?_ (kept.retired_update (by simp) fun _ _ => lookup_of_erase) rfl
    exact fun id other there => kept.keyed id other (lookup_of_erase there)
  · simp only [effect, present, ↓reduceIte]
    exact Moves.of_phase kept .left notOutside lacks.symm (by simp) (fun _ => (by simp))

/-- The caller of a `start` that threw. -/
theorem retire (kept : state.Kept) {call : Call} {thrown : Throwable}
    (ready : guard state (.retire call thrown)) :
    Moves state (effect state (.retire call thrown)) := by
  have here : state.phase call = .threw thrown := ready
  obtain ⟨notOutside, inside⟩ := kept.inside here (by simp)
  have lacks : (state.phase call).keeps = false := by
    rw [here]
    rfl
  by_cases present : requestId call ∈ state.pending
  · simp only [effect, present, decide_true]
    obtain ⟨other, found⟩ := Option.isSome_iff_exists.mp (AList.lookup_isSome.mpr present)
    obtain rfl := kept.lookup_requestId inside found
    refine Moves.of_transfer kept (transfer_withdraw found lacks rfl) rfl rfl
      (outside_update notOutside (by simp)) ?_ (kept.retired_update ?_ fun _ _ => lookup_of_erase) rfl
    · exact fun id other there => kept.keyed id other (lookup_of_erase there)
    · intro _ _
      exact AList.lookup_erase ..
  · have absent := AList.lookup_eq_none.mpr present
    simp only [effect, present, decide_false]
    refine Moves.of_same kept ?_ rfl rfl (outside_update notOutside (by simp))
      (fun _ _ => lookup_of_erase) (kept.retired_update ?_ fun _ _ => lookup_of_erase) rfl
    · exact (custody_erase_absent absent).trans (custody_phase lacks.symm)
    · intro _ _
      exact AList.lookup_erase ..

/-- A continuation already resumed is nobody's. -/
theorem not_held (kept : state.Kept) {call : Call} {result : Resumption}
    (resumed : state.continuation call = .resumed result) : ¬ Held state.holding call := by
  intro held
  have resumable := kept.resumable call held
  rw [resumed] at resumable
  cases resumable

/-- A caller that lost its continuation finds it active only if the pump thread has it. -/
theorem readActive (kept : state.Kept) {call : Call} {thrown : Throwable} {found : Bool}
    (ready : guard state (.readActive call thrown found))
    (undisputed : Undisputed state (.readActive call thrown found)) :
    Moves state (effect state (.readActive call thrown found)) := by
  have here : state.phase call = .retired thrown found := ready
  obtain ⟨notOutside, inside⟩ := kept.inside here (by simp)
  by_cases active : state.continuation call = .active
  · have keeps : found = true := by
      by_contra lost
      obtain rfl : found = false := Bool.eq_false_of_not_eq_true lost
      obtain ⟨place, there⟩ := kept.accounted call inside active
      cases place with
      | caller other =>
          simp only [State.holding, custody] at there
          split at there
          · rename_i keeping
            obtain rfl := List.mem_singleton.mp there
            rw [here] at keeping
            cases keeping
          · cases there
      | entry id =>
          simp only [State.holding, custody, Option.mem_toList] at there
          have absent := kept.retired call thrown here
          rw [kept.keyed id call there, there] at absent
          cases absent
      | pump =>
          simp only [State.holding, custody, Option.mem_toList] at there
          exact undisputed active there
    subst keeps
    simp only [effect, active, ↓reduceIte]
    refine Moves.of_phase kept (.raising thrown) notOutside ?_ (by simp) (fun _ => (by simp))
    rw [here]
    rfl
  · simp only [effect, active, ↓reduceIte]
    cases found with
    | false =>
        refine Moves.of_phase kept .left notOutside ?_ (by simp) (fun _ => (by simp))
        rw [here]
        rfl
    | true =>
        have keeps : (state.phase call).keeps := by
          rw [here]
          rfl
        refine Moves.of_release kept (release_caller keeps rfl kept.exclusive) active
          (fun _ _ => rfl) rfl (outside_update notOutside (by simp)) rfl ?_ rfl
        intro other thrown there
        by_cases same : other = call
        · subst same
          simp [State.setPhase] at there
        · simpa only [State.setPhase, Function.update_of_ne same] using there

/-- A caller that keeps its continuation fails it. -/
theorem resumeCaller (kept : state.Kept) {call : Call} {phase : Phase} (result : Resumption)
    (here : state.phase call = phase) (keeps : phase.keeps) (entered : phase ≠ .outside) :
    Moves state ((state.resume call result).setPhase call .left) := by
  obtain ⟨notOutside, inside⟩ := kept.inside here entered
  have keeping : (state.phase call).keeps := by
    rw [here]
    exact keeps
  have held : Held state.holding call := by
    refine ⟨.caller call, ?_⟩
    simp [State.holding, custody, keeping]
  obtain ⟨finished, others, clear⟩ := State.resume_spec result (kept.resumable call held)
  have holding : ((state.resume call result).setPhase call .left).holding =
      custody (Function.update state.phase call .left) state.pending state.pump := by
    simp only [State.holding, State.setPhase, State.resume_phase, State.resume_pending,
      State.resume_pump]
  refine Moves.of_release kept ?_ finished others (State.resume_entered ..) ?_
    (State.resume_pending ..) ?_ clear
  · rw [holding]
    exact release_caller keeping rfl kept.exclusive
  · simp only [State.setPhase, State.resume_phase]
    exact outside_update notOutside (by simp)
  · intro other thrown there
    simp only [State.setPhase, State.resume_phase] at there
    by_cases same : other = call
    · subst same
      rw [Function.update_self] at there
      cases there
    · rwa [Function.update_of_ne same] at there

/-- The pump thread is done with the continuation it took. -/
theorem resumePump (kept : state.Kept) {call : Call} {next : State} (result : Resumption)
    (keeps : state.pump.held = some call)
    (after : next.pump.held = none) (phase : next.phase = state.phase)
    (pending : next.pending = state.pending) (entered : next.entered = state.entered)
    (continuation : next.continuation = (state.resume call result).continuation)
    (clashes : next.clashes = (state.resume call result).clashes) : Moves state next := by
  have held : Held state.holding call := by
    refine ⟨.pump, ?_⟩
    simp only [State.holding, custody, keeps, Option.toList_some, List.mem_singleton]
  obtain ⟨finished, others, clear⟩ := State.resume_spec result (kept.resumable call held)
  rw [← continuation] at finished others
  refine Moves.of_release kept ?_ finished others entered ?_ pending ?_ (clashes.trans clear)
  · simp only [State.holding, phase, pending]
    exact release_pump keeps after kept.exclusive
  · intro other
    rw [phase]
  · rw [phase]
    exact fun _ _ => id

/-- The pump thread may resume the continuation it took. -/
theorem resumable_held (kept : state.Kept) {call : Call} (keeps : state.pump.held = some call) :
    (state.continuation call).resumable := by
  apply kept.resumable
  refine ⟨.pump, ?_⟩
  simp only [State.holding, custody, keeps, Option.toList_some, List.mem_singleton]

/-- The pump thread takes a continuation out of the map. -/
theorem take (kept : state.Kept) {call : Call} {id : UInt64} {pump : PumpPhase}
    (found : state.pending.lookup id = some call) (lacks : state.pump.held = none)
    (takes : pump.held = some call) :
    Moves state { state with pending := state.pending.erase id, pump := pump } := by
  refine Moves.of_transfer kept (transfer_take found lacks takes) rfl rfl (fun _ => Iff.rfl) ?_ ?_
    rfl
  · exact fun other value there => kept.keyed other value (lookup_of_erase there)
  · intro other thrown there
    have before := kept.retired other thrown there
    by_cases same : requestId other = id
    · rw [same]
      exact AList.lookup_erase ..
    · simp only [AList.lookup_erase_ne same]
      exact before

/-- A completion is handed on, or its continuation taken. -/
theorem dispatch (kept : state.Kept) {completion : Completion} {rest : List Completion}
    (ready : guard state (.dispatch completion rest)) :
    Moves state (effect state (.dispatch completion rest)) := by
  have here : state.pump = .dispatching (completion :: rest) := ready
  have lacks : state.pump.held = none := by
    rw [here]
    rfl
  by_cases event : completion.reqId = 0
  · simp only [effect, event, ↓reduceIte]
    exact Moves.of_pump kept rfl rfl lacks.symm rfl rfl rfl
  · cases found : state.pending.lookup completion.reqId with
    | none =>
        simp only [effect, event, ↓reduceIte, found]
        exact Moves.of_pump kept rfl rfl lacks.symm rfl rfl rfl
    | some call =>
        simp only [effect, event, ↓reduceIte, found]
        exact kept.take found lacks rfl

/-- A straggler is looked up, and its continuation taken. -/
theorem failNext (kept : state.Kept) {id : UInt64} {rest : List UInt64}
    (ready : guard state (.failNext id rest)) : Moves state (effect state (.failNext id rest)) := by
  have here : state.pump = .failing (id :: rest) := ready
  have lacks : state.pump.held = none := by
    rw [here]
    rfl
  cases found : state.pending.lookup id with
  | none =>
      simp only [effect, found]
      exact Moves.of_pump kept rfl rfl lacks.symm rfl rfl rfl
  | some call =>
      simp only [effect, found]
      exact kept.take found lacks rfl

/-- A straggler found cancelled is passed over. -/
theorem failActive (kept : state.Kept) {call : Call} {id : UInt64} {rest : List UInt64}
    (ready : guard state (.failActive call id rest)) :
    Moves state (effect state (.failActive call id rest)) := by
  have here : state.pump = .withdrew call id rest := ready
  have keeps : state.pump.held = some call := by
    rw [here]
    rfl
  by_cases active : state.continuation call = .active
  · simp only [effect, active, ↓reduceIte]
    exact Moves.of_pump kept rfl rfl keeps.symm rfl rfl rfl
  · simp only [effect, active, ↓reduceIte]
    exact Moves.of_release kept (release_pump keeps rfl kept.exclusive) active (fun _ _ => rfl)
      rfl (fun _ => Iff.rfl) rfl (fun _ _ there => there) rfl

end State.Kept

/-- Undisputed steps keep the invariant. -/
theorem kept_step {state : State} {action : Action} (kept : state.Kept)
    (ready : guard state action) (undisputed : Undisputed state action) :
    (effect state action).Kept := by
  cases action with
  | enter call =>
      obtain rfl := ready
      exact kept.enter undisputed
  | store call => exact kept.moves (kept.store ready)
  | readDead call =>
      have here : state.phase call = .stored := ready
      apply kept.moves
      apply Moves.of_phase kept _ (kept.inside ready (by simp)).1
      · rw [here]
        split <;> rfl
      · split <;> simp
      · intro thrown
        split <;> simp
  | readRunning call =>
      have here : state.phase call = .checking := ready
      apply kept.moves
      apply Moves.of_phase kept _ (kept.inside ready (by simp)).1
      · rw [here]
        split <;> rfl
      · split <;> simp
      · intro thrown
        split <;> simp
  | withdraw call => exact kept.moves (kept.withdraw ready)
  | refuse call => exact kept.moves (kept.resumeCaller _ ready rfl (by simp))
  | startReturns call =>
      have here : state.phase call = .starting := ready
      apply kept.moves
      refine Moves.of_phase kept .started (kept.inside ready (by simp)).1 ?_ (by simp)
        (fun _ => (by simp))
      rw [here]
      rfl
  | startThrows call thrown =>
      have here : state.phase call = .starting := ready
      apply kept.moves
      refine Moves.of_phase kept (.threw thrown) (kept.inside ready (by simp)).1 ?_ (by simp)
        (fun _ => (by simp))
      rw [here]
      rfl
  | retire call thrown => exact kept.moves (kept.retire ready)
  | readActive call thrown found => exact kept.moves (kept.readActive ready undisputed)
  | raise call thrown => exact kept.moves (kept.resumeCaller _ ready rfl (by simp))
  | invokeOnCancellation call =>
      have here : state.phase call = .started := ready
      apply kept.moves
      refine Moves.of_phase kept .left (kept.inside ready (by simp)).1 ?_ (by simp)
        (fun _ => (by simp))
      rw [here]
      rfl
  | cancel call =>
      apply kept.moves
      exact Moves.of_continuation kept .cancelled (by simp) (Or.inl rfl) rfl rfl rfl rfl rfl rfl
  | receive call result =>
      apply kept.moves
      refine Moves.of_continuation kept (.received result) (by simp) (Or.inr ?_) rfl rfl rfl rfl rfl rfl
      exact kept.not_held ready
  | revoke call completion =>
      apply kept.moves
      refine Moves.of_continuation kept (.revoked completion) (by simp) (Or.inr ?_) rfl rfl rfl rfl rfl rfl
      exact kept.not_held ready
  | close => exact kept.moves (Moves.of_pump kept rfl rfl rfl rfl rfl rfl)
  | readTimeout =>
      apply kept.moves
      refine Moves.of_pump kept rfl rfl ?_ rfl rfl rfl
      rw [show state.pump = .looping from ready]
      rfl
  | poll timeoutMillis rc batch =>
      apply kept.moves
      refine Moves.of_pump kept rfl rfl ?_ rfl rfl rfl
      rw [show state.pump = .polling timeoutMillis from ready.1]
      simp only [effect]
      split <;> rfl
  | readSize batch =>
      apply kept.moves
      refine Moves.of_pump kept rfl rfl ?_ rfl rfl rfl
      rw [show state.pump = .polled batch from ready]
      simp only [effect]
      split <;> rfl
  | repeatLoop =>
      apply kept.moves
      refine Moves.of_pump kept rfl rfl ?_ rfl rfl rfl
      rw [show state.pump = .dispatching [] from ready]
      rfl
  | throw =>
      apply kept.moves
      refine Moves.of_pump kept rfl rfl ?_ rfl rfl rfl
      have lacks : state.pump.held = none := by
        have looping : state.pump.inLoop := ready
        cases here : state.pump <;> rw [here] at looping <;> first | rfl | cases looping
      exact lacks.symm
  | dispatch completion rest => exact kept.moves (kept.dispatch ready)
  | resume call completion rest =>
      have keeps : state.pump.held = some call := by
        rw [show state.pump = .taken call completion rest from ready]
        rfl
      apply kept.moves
      refine kept.resumePump (.value completion) keeps ?_ (State.resume_phase ..)
        (State.resume_pending ..) (State.resume_entered ..) rfl rfl
      simp only [effect, kept.resumable_held keeps, ↓reduceIte, PumpPhase.held]
  | setDead =>
      apply kept.moves
      refine Moves.of_pump kept rfl rfl ?_ rfl rfl rfl
      rw [show state.pump = .exiting from ready]
      rfl
  | countKeys size =>
      apply kept.moves
      refine Moves.of_pump kept rfl rfl ?_ rfl rfl rfl
      rw [show state.pump = .dying from ready]
      rfl
  | listKeys size seen stragglers =>
      apply kept.moves
      refine Moves.of_pump kept rfl rfl ?_ rfl rfl rfl
      rw [show state.pump = .listing size seen from ready.1]
      rfl
  | findNone size seen =>
      apply kept.moves
      refine Moves.of_pump kept rfl rfl ?_ rfl rfl rfl
      rw [show state.pump = .listing size seen from ready.1]
      rfl
  | failNext id rest => exact kept.moves (kept.failNext ready)
  | failActive call id rest => exact kept.moves (kept.failActive ready)
  | failResume call id rest =>
      have keeps : state.pump.held = some call := by
        rw [show state.pump = .raising call id rest from ready]
        rfl
      apply kept.moves
      refine kept.resumePump (.exception (notCompleted id)) keeps ?_ (State.resume_phase ..)
        (State.resume_pending ..) (State.resume_entered ..) rfl rfl
      simp only [effect, kept.resumable_held keeps, ↓reduceIte, PumpPhase.held]
  | failDone =>
      apply kept.moves
      refine Moves.of_pump kept rfl rfl ?_ rfl rfl rfl
      rw [show state.pump = .failing [] from ready]
      rfl
  | pollerFree =>
      apply kept.moves
      refine Moves.of_pump kept rfl rfl ?_ rfl rfl rfl
      rw [show state.pump = .freeing from ready]
      rfl

end KtBridge.Pump
