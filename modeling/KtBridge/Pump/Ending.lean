import KtBridge.Pump.Closing

/-! # How the pump ends

In uncontended runs no resumption throws, the pump thread reaches `pollerFree` once it
has left its loop, and by then nobody is left in the map for good. A caller that looks
at its continuation while the pump thread keeps it breaks all of this, and so does one
that takes the last key out between the count and the iterator of a list of one key.
-/

namespace KtBridge.Pump

open Foundation

/-- The caller a step belongs to. -/
def Action.caller : Action → Option Call
  | .enter call => some call
  | .store call => some call
  | .readDead call => some call
  | .readRunning call => some call
  | .withdraw call => some call
  | .refuse call => some call
  | .startReturns call => some call
  | .startThrows call _ => some call
  | .retire call _ => some call
  | .readActive call _ _ => some call
  | .raise call _ => some call
  | .invokeOnCancellation call => some call
  | _ => none

/-- The steps of the pump thread's `finally` block. -/
def Action.closing : Action → Bool
  | .setDead => true
  | .countKeys _ => true
  | .listKeys _ _ _ => true
  | .findNone _ _ => true
  | .failNext _ _ => true
  | .failActive _ _ _ => true
  | .failResume _ _ _ => true
  | .failDone => true
  | .pollerFree => true
  | _ => false

/-- The caller's own steps, with nobody else's, get its continuation done. -/
def FailsItself (state : State) (call : Call) : Prop :=
  ∃ trace, (∀ action ∈ trace, action.caller = some call) ∧ machine.Runs state trace ∧
    (machine.after state trace).continuation call ≠ .active

namespace FailsItself

variable {state : State} {call : Call}

theorem of_done (done : state.continuation call ≠ .active) : FailsItself state call :=
  ⟨[], nofun, trivial, done⟩

theorem cons (action : Action) (own : action.caller = some call) (ready : guard state action)
    (rest : FailsItself (effect state action) call) : FailsItself state call := by
  obtain ⟨trace, owned, runs, done⟩ := rest
  refine ⟨action :: trace, ?_, ⟨ready, runs⟩, done⟩
  intro other member
  rcases List.mem_cons.mp member with same | later
  · rw [same]
    exact own
  · exact owned other later

/-- A resumption leaves no continuation active. -/
theorem resumed (state : State) (call : Call) (result : Resumption) :
    (state.resume call result).continuation call ≠ .active := by
  unfold State.resume
  cases was : state.continuation call <;> simp [was]

theorem of_withdrawn (here : state.phase call = .withdrawn) : FailsItself state call :=
  cons (.refuse call) rfl here (of_done (resumed state call _))

theorem of_raising {thrown : Throwable} (here : state.phase call = .raising thrown) :
    FailsItself state call :=
  cons (.raise call thrown) rfl here (of_done (resumed state call _))

theorem of_retired {thrown : Throwable} {found : Bool}
    (here : state.phase call = .retired thrown found) : FailsItself state call := by
  by_cases active : state.continuation call = .active
  · apply cons (.readActive call thrown found) rfl here
    refine @of_raising _ call thrown ?_
    simp [effect, State.setPhase, active]
  · exact of_done active

theorem of_refused (here : state.phase call = .refused)
    (present : requestId call ∈ state.pending) : FailsItself state call := by
  apply cons (.withdraw call) rfl here
  apply of_withdrawn
  simp [effect, State.setPhase, present]

theorem of_stored (here : state.phase call = .stored) (present : requestId call ∈ state.pending)
    (dead : state.dead) : FailsItself state call := by
  apply cons (.readDead call) rfl here
  apply of_refused
  · simp [effect, State.setPhase, dead]
  · exact present

theorem of_checking (here : state.phase call = .checking)
    (present : requestId call ∈ state.pending) (stopped : state.running = false) :
    FailsItself state call := by
  apply cons (.readRunning call) rfl here
  apply of_refused
  · simp [effect, State.setPhase, stopped]
  · exact present

theorem of_threw {thrown : Throwable} (here : state.phase call = .threw thrown) :
    FailsItself state call := by
  apply cons (.retire call thrown) rfl here
  exact of_retired (Function.update_self ..)

/-- Whoever will take its own id out of the map fails itself. -/
theorem of_withdraws (withdraws : state.withdraws call) (dead : state.dead)
    (present : requestId call ∈ state.pending) : FailsItself state call := by
  cases here : state.phase call with
  | stored => exact of_stored here present dead
  | checking =>
      rw [State.withdraws, here] at withdraws
      exact of_checking here present (Bool.not_eq_true' _ ▸ withdraws)
  | refused => exact of_refused here present
  | threw thrown => exact of_threw here
  | _ =>
      rw [State.withdraws, here] at withdraws
      cases withdraws

theorem of_entered (here : state.phase call = .entered) (dead : state.dead) :
    FailsItself state call := by
  apply cons (.store call) rfl here
  apply of_stored
  · simp [effect, State.setPhase]
  · simp [effect]
  · exact dead

end FailsItself

/-- The pump thread's own steps get it to `pollerFree`. -/
def Closes (state : State) : Prop :=
  ∃ trace, (∀ action ∈ trace, action.closing) ∧ machine.Runs state trace ∧
    (machine.after state trace).pump = .terminated ∧ (machine.after state trace).pollerFrees = 1

namespace Closes

variable {state : State}

theorem cons {action : Action} (kept : state.Kept) (closing : state.Closing)
    (own : action.closing) (ready : guard state action) (findable : Findable state action)
    (rest : (effect state action).Kept → (effect state action).Closing →
      Closes (effect state action)) : Closes state := by
  have undisputed : Undisputed state action := by
    cases action <;> trivial
  obtain ⟨trace, owned, runs, ends⟩ :=
    rest (kept_step kept ready undisputed) (closing_step kept closing ready findable)
  refine ⟨action :: trace, ?_, ⟨ready, runs⟩, ends⟩
  intro other member
  rcases List.mem_cons.mp member with same | later
  · rw [same]
    exact own
  · exact owned other later

theorem of_terminated (closing : state.Closing) (here : state.pump = .terminated) :
    Closes state := by
  refine ⟨[], nofun, trivial, here, ?_⟩
  have freed := closing.freed
  rw [if_pos here] at freed
  exact freed

theorem of_freeing (kept : state.Kept) (closing : state.Closing) (here : state.pump = .freeing) :
    Closes state :=
  @cons state .pollerFree kept closing rfl here trivial fun _ closing => of_terminated closing rfl

/-- A straggler about to be resumed, when the ones after it are failed. -/
theorem of_raising {call : Call} {id : UInt64} {rest : List UInt64}
    (later : ∀ state : State, state.Kept → state.Closing → state.pump = .failing rest → Closes state)
    (kept : state.Kept) (closing : state.Closing) (here : state.pump = .raising call id rest) :
    Closes state := by
  have resumable := kept.resumable_held (show state.pump.held = some call by rw [here]; rfl)
  apply @cons state (.failResume call id rest) kept closing rfl here trivial
  intro kept closing
  apply later _ kept closing
  simp only [effect, resumable, ↓reduceIte]

/-- A straggler taken out of the map, when the ones after it are failed. -/
theorem of_withdrew {call : Call} {id : UInt64} {rest : List UInt64}
    (later : ∀ state : State, state.Kept → state.Closing → state.pump = .failing rest → Closes state)
    (kept : state.Kept) (closing : state.Closing) (here : state.pump = .withdrew call id rest) :
    Closes state := by
  apply @cons state (.failActive call id rest) kept closing rfl here trivial
  intro kept closing
  by_cases active : state.continuation call = .active
  · refine @of_raising _ call id rest later kept closing ?_
    simp only [effect, active, ↓reduceIte]
  · apply later _ kept closing
    simp only [effect, active, ↓reduceIte]

theorem of_failing (rest : List UInt64) : ∀ state : State, state.Kept → state.Closing →
    state.pump = .failing rest → Closes state := by
  induction rest with
  | nil =>
      intro state kept closing here
      exact @cons state .failDone kept closing rfl here trivial fun kept closing =>
        of_freeing kept closing rfl
  | cons id rest ih =>
      intro state kept closing here
      apply @cons state (.failNext id rest) kept closing rfl here trivial
      intro kept closing
      cases found : state.pending.lookup id with
      | none =>
          apply ih _ kept closing
          simp only [effect, found]
      | some call =>
          refine @of_withdrew _ call id rest ih kept closing ?_
          simp only [effect, found]

/-- The iterator finds a key where it is asked for one. -/
theorem of_listing {size : Nat} {seen : Finset UInt64} (kept : state.Kept)
    (closing : state.Closing) (here : state.pump = .listing size seen) : Closes state := by
  have finds : ¬ FindsNone size (seen ∩ state.keys) := by
    rintro ⟨rfl, none⟩
    have finds := closing.finds
    unfold State.StillFinds at finds
    rw [here] at finds
    exact finds none.subset
  obtain ⟨stragglers, lists⟩ := exists_lists Finset.inter_subset_right finds
  exact @cons state (.listKeys size seen stragglers) kept closing rfl ⟨here, lists⟩ trivial
    fun kept closing => of_failing _ _ kept closing rfl

theorem of_dying (kept : state.Kept) (closing : state.Closing) (here : state.pump = .dying) :
    Closes state := by
  refine @cons state (.countKeys state.keys.card) kept closing rfl here ?_
    fun kept closing => of_listing kept closing rfl
  intro one none
  rw [none] at one
  cases one

/-- Past its loop the pump thread gets to its end. -/
theorem of_leftLoop (kept : state.Kept) (closing : state.Closing) (left : state.pump.leftLoop) :
    Closes state := by
  cases here : state.pump with
  | exiting =>
      exact @cons state .setDead kept closing rfl here trivial fun kept closing =>
        of_dying kept closing rfl
  | dying => exact of_dying kept closing here
  | listing size seen => exact of_listing kept closing here
  | failing rest => exact of_failing rest state kept closing here
  | withdrew call id rest => exact of_withdrew (of_failing rest) kept closing here
  | raising call id rest => exact of_raising (of_failing rest) kept closing here
  | freeing => exact of_freeing kept closing here
  | terminated => exact of_terminated closing here
  | crashed => exact absurd here closing.unthrown
  | _ =>
      rw [here] at left
      cases left

end Closes

/-- What the pump owes its callers, in one state: no resumption was attempted on a
continuation already resumed; `failPending` did not throw; the poller is freed at the
end of the thread, and once out of its loop the thread gets there; when it is gone, a
call is done or about to be failed by its own caller, and the map holds only calls that
their callers are about to take out. -/
structure State.Orderly (state : State) : Prop where
  once : state.clashes = []
  unthrown : state.pump ≠ .crashed
  freed : state.pollerFrees = if state.pump = .terminated then 1 else 0
  closes : state.pump.leftLoop → Closes state
  settled : state.pump = .terminated → ∀ call < state.entered,
    state.continuation call ≠ .active ∨ FailsItself state call
  emptied : state.pump = .terminated → ∀ id call, state.pending.lookup id = some call →
    requestId call = id ∧ state.withdraws call ∧ FailsItself state call

/-- Whoever keeps a continuation when the pump thread is gone is its caller. -/
theorem failsItself_of_held {state : State} (kept : state.Kept) (closing : state.Closing)
    (swept : state.Swept) (gone : state.pump = .terminated) {call : Call} (held : Held state.holding call) :
    FailsItself state call := by
  have dead : state.dead := by
    rw [closing.dead, gone]
    rfl
  obtain ⟨place, there⟩ := held
  cases place with
  | caller other =>
      simp only [State.holding, custody] at there
      split at there
      · rename_i keeps
        obtain rfl := List.mem_singleton.mp there
        cases here : state.phase call with
        | entered => exact FailsItself.of_entered here dead
        | withdrawn => exact FailsItself.of_withdrawn here
        | retired thrown found => exact FailsItself.of_retired here
        | raising thrown => exact FailsItself.of_raising here
        | _ =>
            rw [here] at keeps
            cases keeps
      · cases there
  | entry id =>
      simp only [State.holding, custody, Option.mem_toList] at there
      obtain rfl := kept.keyed id call there
      have present : requestId call ∈ state.pending := AList.lookup_isSome.mp (by rw [there]; rfl)
      have listed : state.pump.stragglers = some ∅ := by
        rw [gone]
        rfl
      exact FailsItself.of_withdraws
        ((swept ∅ listed _ call there).resolve_left (Finset.notMem_empty _)) dead present
  | pump =>
      simp only [State.holding, custody, gone, PumpPhase.held, Option.toList_none] at there
      cases there

/-- In every uncontended run the pump is orderly throughout. -/
theorem orderly (state : State) (reached : uncontended.Reachable state) : state.Orderly := by
  obtain ⟨kept, closing, swept⟩ := kept_and_swept reached
  refine ⟨kept.clear, closing.unthrown, closing.freed, Closes.of_leftLoop kept closing, ?_, ?_⟩
  · intro gone call inside
    by_cases active : state.continuation call = .active
    · right
      exact failsItself_of_held kept closing swept gone (kept.accounted call inside active)
    · exact Or.inl active
  · intro gone id call found
    have held : Held state.holding call := by
      refine ⟨.entry id, ?_⟩
      simp only [State.holding, custody, found, Option.toList_some, List.mem_singleton]
    have listed : state.pump.stragglers = some ∅ := by
      rw [gone]
      rfl
    refine ⟨kept.keyed id call found, ?_, failsItself_of_held kept closing swept gone held⟩
    exact (swept ∅ listed id call found).resolve_left (Finset.notMem_empty id)

/-- A runtime that is shutting down refuses to start anything. -/
def refusedStart : Throwable := .bridge ⟨ktErrShutdown, "runtime is shutting down"⟩

/-- The first call is answered, the second fails to start, the third is left to the pump
thread when it ends. -/
def orderlyTrace : List Action :=
  [.enter 0, .store 0, .readDead 0, .readRunning 0, .startReturns 0, .invokeOnCancellation 0,
    .readTimeout, .poll 250 ktOk [⟨1, 0, ktOk, ByteArray.empty, 0, 0⟩],
    .readSize [⟨1, 0, ktOk, ByteArray.empty, 0, 0⟩],
    .dispatch ⟨1, 0, ktOk, ByteArray.empty, 0, 0⟩ [],
    .resume 0 ⟨1, 0, ktOk, ByteArray.empty, 0, 0⟩ [], .repeatLoop,
    .enter 1, .store 1, .readDead 1, .readRunning 1, .startThrows 1 refusedStart,
    .retire 1 refusedStart, .readActive 1 refusedStart true, .raise 1 refusedStart,
    .enter 2, .store 2, .readDead 2, .readRunning 2, .startReturns 2, .invokeOnCancellation 2,
    .close, .readTimeout, .poll 0 ktOk [], .readSize [], .setDead, .countKeys 1,
    .listKeys 1 {3} [3], .failNext 3 [], .failActive 2 3 [], .failResume 2 3 [], .failDone, .pollerFree]

set_option maxRecDepth 4000 in
theorem orderly_of_closed :
    (uncontended.after start orderlyTrace).pump = .terminated ∧
      (uncontended.after start orderlyTrace).Orderly :=
  ⟨by decide, orderly _ (GuardedSystem.Reachable.start.run (show uncontended.Runs start orderlyTrace
    by decide))⟩

/-- While the runtime closes, the first call fails to start just as the pump thread has
taken its continuation to fail it. -/
def contendedTrace : List Action :=
  [.enter 0, .store 0, .readDead 0, .readRunning 0,
    .enter 1, .store 1, .readDead 1, .readRunning 1, .startReturns 1, .invokeOnCancellation 1,
    .close, .readTimeout, .poll 0 ktOk [], .readSize [], .setDead, .countKeys 2,
    .listKeys 2 {2, 1} [1, 2], .failNext 1 [2], .failActive 0 1 [2],
    .startThrows 0 refusedStart, .retire 0 refusedStart, .readActive 0 refusedStart false,
    .raise 0 refusedStart, .failResume 0 1 [2]]

set_option maxRecDepth 4000 in
/-- The pump thread dies in `failPending`, and the second call stays suspended. -/
theorem contended_run :
    machine.Runs start contendedTrace ∧
      (machine.after start contendedTrace).pump = .crashed ∧
      (machine.after start contendedTrace).pollerFrees = 0 ∧
      (machine.after start contendedTrace).pending.lookup 2 = some 1 ∧
      (machine.after start contendedTrace).continuation 1 = .active := by
  decide

/-- Without the condition the pump is not orderly. -/
theorem not_orderly_contended : ¬ ∀ state, machine.Reachable state → state.Orderly := by
  intro always
  have reached := GuardedSystem.Reachable.start.run contended_run.1
  exact (always _ reached).unthrown contended_run.2.1

/-- Where a caller looks at an active continuation that the pump thread keeps, a run goes
on to resume it twice. -/
theorem disputed_clashes {state : State} {call : Call} {thrown : Throwable} {found : Bool}
    (ready : guard state (.readActive call thrown found))
    (disputed : ¬ Undisputed state (.readActive call thrown found)) :
    ∃ trace, machine.Runs state (.readActive call thrown found :: trace) ∧
      call ∈ (machine.after state (.readActive call thrown found :: trace)).clashes := by
  have here : state.phase call = .retired thrown found := ready
  obtain ⟨active, keeps⟩ : state.continuation call = .active ∧ state.pump.held = some call := by
    simpa [Undisputed] using disputed
  cases pump : state.pump with
  | taken owner completion rest =>
      rw [pump] at keeps
      obtain rfl := Option.some.inj keeps
      refine ⟨[.raise owner thrown, .resume owner completion rest], ?_, ?_⟩ <;>
        simp [GuardedSystem.Runs, GuardedSystem.after, machine, guard, effect, State.setPhase,
          State.resume, here, active, pump]
  | withdrew owner id rest =>
      rw [pump] at keeps
      obtain rfl := Option.some.inj keeps
      refine ⟨[.failActive owner id rest, .raise owner thrown, .failResume owner id rest], ?_, ?_⟩ <;>
        simp [GuardedSystem.Runs, GuardedSystem.after, machine, guard, effect, State.setPhase,
          State.resume, here, active, pump]
  | raising owner id rest =>
      rw [pump] at keeps
      obtain rfl := Option.some.inj keeps
      refine ⟨[.raise owner thrown, .failResume owner id rest], ?_, ?_⟩ <;>
        simp [GuardedSystem.Runs, GuardedSystem.after, machine, guard, effect, State.setPhase,
          State.resume, here, active, pump]
  | _ =>
      rw [pump] at keeps
      cases keeps

/-- Where the iterator may be left nothing to find, `failPending` may throw next. -/
theorem unfindable_throws {state : State} {action : Action} (ready : guard state action)
    (missing : ¬ Findable state action) :
    ∃ seen, guard (effect state action) (.findNone 1 seen) ∧
      (effect (effect state action) (.findNone 1 seen)).pump = .crashed := by
  -- Taking out the last of the keys seen leaves none of them.
  have last : ∀ {id : UInt64} {next : State}, ¬ state.StillFinds {id} →
      next.pump = state.pump → (∀ other ∈ next.keys, other ∈ state.keys ∧ other ≠ id) →
      ∃ seen, guard next (.findNone 1 seen) := by
    intro id next lost pump keys
    unfold State.StillFinds at lost
    split at lost
    · next seen here =>
        refine ⟨seen, pump.trans here, rfl, ?_⟩
        refine Finset.eq_empty_of_forall_notMem fun other there => ?_
        obtain ⟨wasSeen, inside⟩ := Finset.mem_inter.mp there
        obtain ⟨before, apart⟩ := keys other inside
        exact apart (Finset.mem_singleton.mp
          (not_not.mp lost (Finset.mem_inter.mpr ⟨wasSeen, before⟩)))
    · exact absurd trivial lost
  have erased : ∀ {call : Call} {next : State},
      next.pending = state.pending.erase (requestId call) →
      ∀ other ∈ next.keys, other ∈ state.keys ∧ other ≠ requestId call := by
    intro call next pending other there
    obtain ⟨owner, found⟩ := State.mem_keys.mp there
    rw [pending] at found
    exact ⟨State.mem_keys.mpr ⟨owner, lookup_of_erase found⟩, ne_of_erase found⟩
  cases action with
  | countKeys size =>
      obtain ⟨rfl, none⟩ : size = 1 ∧ state.keys = ∅ := by
        simpa [Findable] using missing
      refine ⟨state.keys, ⟨rfl, rfl, ?_⟩, rfl⟩
      rw [none, Finset.empty_inter]
  | withdraw call =>
      have pump : (effect state (.withdraw call)).pump = state.pump := by
        simp only [effect]
        split <;> rfl
      have keys : ∀ other ∈ (effect state (.withdraw call)).keys,
          other ∈ state.keys ∧ other ≠ requestId call := by
        by_cases present : requestId call ∈ state.pending
        · simp only [effect, present, ↓reduceIte]
          exact erased rfl
        · simp only [effect, present, ↓reduceIte]
          intro other there
          refine ⟨there, ?_⟩
          rintro rfl
          exact present (AList.mem_keys.mpr (List.mem_toFinset.mp there))
      obtain ⟨seen, throws⟩ := last missing pump keys
      exact ⟨seen, throws, rfl⟩
  | retire call thrown =>
      have pump : (effect state (.retire call thrown)).pump = state.pump := rfl
      have keys : ∀ other ∈ (effect state (.retire call thrown)).keys,
          other ∈ state.keys ∧ other ≠ requestId call := erased rfl
      obtain ⟨seen, throws⟩ := last missing pump keys
      exact ⟨seen, throws, rfl⟩
  | _ => exact absurd trivial missing

/-- What is due stays due while the pump thread fails one other id and ends. -/
private theorem strands {state : State} {id : UInt64} (due : id ∈ state.due)
    (listed : List UInt64) (one : listed = [] ∨ ∃ other, other ≠ id ∧ listed = [other])
    (here : state.pump = .failing listed) :
    ∃ trace, machine.Runs state trace ∧ (machine.after state trace).pump = .terminated ∧
      id ∈ (machine.after state trace).due := by
  have ends : ∀ {state : State}, id ∈ state.due → state.pump = .failing [] →
      ∃ trace, machine.Runs state trace ∧ (machine.after state trace).pump = .terminated ∧
        id ∈ (machine.after state trace).due := by
    intro state due here
    exact ⟨[.failDone, .pollerFree], ⟨here, rfl, trivial⟩, rfl, due⟩
  have cons : ∀ {state : State} (action : Action), guard state action →
      (∃ trace, machine.Runs (effect state action) trace ∧
        (machine.after (effect state action) trace).pump = .terminated ∧
        id ∈ (machine.after (effect state action) trace).due) →
      ∃ trace, machine.Runs state trace ∧ (machine.after state trace).pump = .terminated ∧
        id ∈ (machine.after state trace).due := by
    rintro state action ready ⟨trace, runs, ended⟩
    exact ⟨action :: trace, ⟨ready, runs⟩, ended⟩
  obtain rfl | ⟨other, apart, rfl⟩ := one
  · exact ends due here
  · obtain ⟨call, found, busy⟩ := State.mem_due.mp due
    refine cons (.failNext other []) here ?_
    cases taken : state.pending.lookup other with
    | none =>
        simp only [effect, taken]
        exact ends (State.mem_due.mpr ⟨call, found, busy⟩) rfl
    | some owner =>
        simp only [effect, taken]
        have still : (state.pending.erase other).lookup id = some call :=
          (AList.lookup_erase_ne apart.symm).trans found
        refine cons (.failActive owner other []) rfl ?_
        by_cases active : state.continuation owner = .active
        · simp only [effect, active, ↓reduceIte]
          refine cons (.failResume owner other []) rfl (ends (State.mem_due.mpr ⟨call, ?_, ?_⟩) ?_)
          · simpa only [effect, State.resume_pending] using still
          · simpa only [effect, State.withdraws, State.resume_phase, State.resume_running] using busy
          · simp [effect, active, Continuation.resumable]
        · simp only [effect, active, ↓reduceIte]
          exact ends (State.mem_due.mpr ⟨call, still, busy⟩) rfl

/-- Where a due id may be passed over, a run of the pump thread ends with it in the map. -/
theorem uncounted_strands {state : State} {action : Action} (ready : guard state action)
    (missed : ¬ Counted state action) :
    ∃ trace id, machine.Runs state trace ∧ (machine.after state trace).pump = .terminated ∧
      id ∈ (machine.after state trace).due := by
  cases action with
  | countKeys size =>
      obtain ⟨rfl, some_⟩ : size = 0 ∧ state.due ≠ [] := by
        simpa [Counted] using missed
      obtain ⟨id, due⟩ := List.exists_mem_of_ne_nil _ some_
      have here : state.pump = .dying := ready
      obtain ⟨trace, runs, ended⟩ := @strands
        (effect (effect state (.countKeys 0)) (.listKeys 0 state.keys [])) id due [] (Or.inl rfl) rfl
      exact ⟨.countKeys 0 :: .listKeys 0 state.keys [] :: trace, id,
        ⟨here, ⟨rfl, rfl⟩, runs⟩, ended⟩
  | listKeys size seen stragglers =>
      obtain ⟨rfl, id, due, other, there, apart⟩ : size = 1 ∧ ∃ id ∈ state.due,
          ∃ other ∈ state.keys, other ≠ id := by
        simp only [Counted, State.DueAlone, Classical.not_imp, not_forall] at missed
        obtain ⟨one, id, due, several⟩ := missed
        refine ⟨one, id, due, ?_⟩
        by_contra alone
        refine several (List.perm_singleton.mp ?_)
        refine (List.perm_ext_iff_of_nodup state.pending.nodupKeys (List.nodup_singleton id)).mpr
          fun other => ?_
        rw [List.mem_singleton]
        constructor
        · intro there
          by_contra apart
          exact alone ⟨other, List.mem_toFinset.mpr there, apart⟩
        · rintro rfl
          exact (List.mem_filter.mp due).1
      obtain ⟨trace, runs, ended⟩ := @strands (effect state (.listKeys 1 seen [other])) id due
        [other] (Or.inr ⟨other, apart, rfl⟩) rfl
      refine ⟨.listKeys 1 seen [other] :: trace, id, ⟨⟨ready.1, rfl, ?_⟩, runs⟩, ended⟩
      intro item same
      rwa [List.mem_singleton.mp same]
  | _ => exact absurd trivial missed

end KtBridge.Pump
