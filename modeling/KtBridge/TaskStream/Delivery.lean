import KtBridge.TaskStream.Machine

/-! # Every task is received once, and no wakeup is lost

The queue and the wakeups travel separately. Whenever a task is queued in an open
stream, the token is in the channel or somebody is about to offer or look again
(`State.Sound.offered`): each step that takes a wakeup leaves its receiver with
such a step before it, cancelled or not. Together with the order of the queue this
gives `tasks_are_received_once`.
-/

namespace KtBridge.TaskStream

open Foundation Pump

/-- The tasks taken, the calls that have them, and what is on its way to a receiver. -/
structure State.Sound (state : State) : Prop where
  ordered : state.taken.map Prod.snd ++ state.tasks = state.sent
  owned : ∀ call, (state.taken.filter fun entry => entry.1 = call).map Prod.snd =
    (state.phase call).task.toList
  waiting : ∀ call, call ∈ state.waiters → state.phase call = .parked
  distinct : state.waiters.Nodup
  offered : state.tasks ≠ [] → state.closedWith = none →
    state.token ∨ state.sender = .offering ∨ ∃ call, (state.phase call).pending
  flagged : state.closedWith ≠ none → state.closed
  closing : ∀ cause, state.sender = .closing cause → state.closed
  unsending : state.closed → state.sender ≠ .offering
  told : ∀ call cause, (state.phase call).told = some cause → state.closedWith = some cause
  ended : ∀ call cause, state.phase call = .ended cause → state.tasks = []

theorem sound_start : start.Sound where
  ordered := rfl
  owned := fun _ => rfl
  waiting := fun _ impossible => by cases impossible
  distinct := List.nodup_nil
  offered := fun full => absurd rfl full
  flagged := fun closed => absurd rfl closed
  closing := fun _ impossible => by cases impossible
  unsending := fun closed => by cases closed
  told := fun _ _ impossible => by cases impossible
  ended := fun _ _ _ => rfl

variable {state : State}

namespace State.Sound

variable {call : Receive}

/-- A call that is not parked does not wait. -/
theorem not_waiting (sound : state.Sound) (unparked : state.phase call ≠ .parked) :
    call ∉ state.waiters :=
  fun waits => unparked (sound.waiting call waits)

/-- The pending steps of the others remain when one call moves on. -/
theorem pending_update {phase : Phase} (idle : (state.phase call).pending = false)
    (others : ∃ other, (state.phase other).pending) :
    ∃ other, (Function.update state.phase call phase other).pending := by
  obtain ⟨other, pending⟩ := others
  refine ⟨other, ?_⟩
  rw [Function.update_of_ne]
  · exact pending
  · intro same
    rw [same, idle] at pending
    cases pending

/-- A call moves on with the task it has, if it has one. -/
theorem move (sound : state.Sound) {phase : Phase} (task : phase.task = (state.phase call).task)
    (unparked : state.phase call ≠ .parked)
    (told : ∀ cause, phase.told = some cause → state.closedWith = some cause)
    (ended : ∀ cause, phase = .ended cause → state.tasks = [])
    (offered : state.tasks ≠ [] → state.closedWith = none → state.token ∨
      state.sender = .offering ∨ ∃ other, (Function.update state.phase call phase other).pending) :
    (state.setPhase call phase).Sound := by
  refine ⟨sound.ordered, ?_, ?_, sound.distinct, offered, sound.flagged, sound.closing,
    sound.unsending, ?_, ?_⟩
  · intro other
    simp only [setPhase, Function.update_apply]
    split
    · next same =>
        rw [same, task]
        exact sound.owned call
    · exact sound.owned other
  · intro other waits
    have different : other ≠ call := by
      intro same
      exact sound.not_waiting unparked (same ▸ waits)
    simp only [setPhase, Function.update_of_ne different]
    exact sound.waiting other waits
  · intro other cause
    simp only [setPhase, Function.update_apply]
    split
    · exact told cause
    · exact sound.told other cause
  · intro other cause
    simp only [setPhase, Function.update_apply]
    split
    · exact ended cause
    · exact sound.ended other cause

/-- A call that owes nobody a step moves on without a task. -/
theorem pass_on (sound : state.Sound) {phase : Phase} (none_ : (state.phase call).task = none)
    (task : phase.task = none) (unparked : state.phase call ≠ .parked)
    (told : phase.told = none) (idle : (state.phase call).pending = false) :
    (state.setPhase call phase).Sound := by
  apply sound.move (task.trans none_.symm) unparked
  · intro cause knows
    rw [told] at knows
    cases knows
  · intro cause same
    rw [same] at told
    cases told
  · intro full opened
    exact (sound.offered full opened).imp_right (Or.imp_right (pending_update idle))

/-- A call moves on to a step that is pending for the others. -/
theorem take_on (sound : state.Sound) {phase : Phase} (task : phase.task = (state.phase call).task)
    (unparked : state.phase call ≠ .parked)
    (told : ∀ cause, phase.told = some cause → state.closedWith = some cause)
    (pending : phase.pending) : (state.setPhase call phase).Sound := by
  apply sound.move task unparked told
  · intro cause same
    rw [same] at pending
    cases pending
  · intro _ _
    refine Or.inr (Or.inr ⟨call, ?_⟩)
    rw [Function.update_self]
    exact pending

/-- A call takes the head of the queue. -/
theorem taken (sound : state.Sound) {phase : Phase} {task : ByteArray} {rest : List ByteArray}
    (queued : state.tasks = task :: rest) (empty : (state.phase call).task = none)
    (unparked : state.phase call ≠ .parked) (has : phase.task = some task)
    (offered : state.closedWith = none → phase.pending) :
    { state.setPhase call phase with
      tasks := rest
      taken := state.taken ++ [(call, task)] : State }.Sound := by
  have untold : phase.told = none := by
    cases phase <;> first | rfl | cases has
  refine ⟨?_, ?_, ?_, sound.distinct, ?_, sound.flagged, sound.closing, sound.unsending, ?_, ?_⟩
  · have ordered := sound.ordered
    rw [queued] at ordered
    simp only [List.map_append, List.map_cons, List.map_nil, List.append_assoc,
      List.singleton_append]
    exact ordered
  · intro other
    have owned := sound.owned other
    by_cases same : other = call
    · subst same
      rw [empty] at owned
      simp only [setPhase, Function.update_self, has, List.filter_append, List.map_append, owned]
      simp
    · simp only [setPhase, Function.update_of_ne same, List.filter_append, List.map_append, owned]
      simp [Ne.symm same]
  · intro other waits
    have different : other ≠ call := by
      intro same
      exact sound.not_waiting unparked (same ▸ waits)
    simp only [setPhase, Function.update_of_ne different]
    exact sound.waiting other waits
  · intro _ opened
    refine Or.inr (Or.inr ⟨call, ?_⟩)
    simp only [setPhase, Function.update_self]
    exact offered opened
  · intro other cause
    simp only [setPhase, Function.update_apply]
    split
    · rw [untold]
      intro impossible
      cases impossible
    · exact sound.told other cause
  · intro other cause
    simp only [setPhase, Function.update_apply]
    split
    · intro same
      rw [same] at untold
      cases untold
    · intro ending
      have empty := sound.ended other cause ending
      rw [queued] at empty
      cases empty

/-- A wakeup is left in the channel or handed to a parked call. -/
theorem trySend (sound : state.Sound) :
    state.trySend.Sound ∧
      (state.closedWith = none → state.trySend.token ∨
        ∃ other, state.phase other = .parked ∧ state.trySend.phase other = .resumed .element) ∧
      ∀ other, state.phase other ≠ .parked → state.trySend.phase other = state.phase other := by
  unfold State.trySend
  split
  · next cause closed => exact ⟨sound, fun opened => by simp [closed] at opened, fun _ _ => rfl⟩
  · next first rest opened waiters =>
      have parked : state.phase first = .parked :=
        sound.waiting first (by rw [waiters]; exact List.mem_cons_self)
      have distinct := sound.distinct
      rw [waiters, List.nodup_cons] at distinct
      refine ⟨⟨sound.ordered, ?_, ?_, distinct.2, ?_, sound.flagged, sound.closing,
        sound.unsending, ?_, ?_⟩, ?_, ?_⟩
      · intro other
        simp only [setPhase, Function.update_apply]
        split
        · next same =>
            have owned := sound.owned first
            rw [parked] at owned
            rw [same]
            exact owned
        · exact sound.owned other
      · intro other waits
        have different : other ≠ first := fun same => distinct.1 (same ▸ waits)
        simp only [setPhase, Function.update_of_ne different]
        exact sound.waiting other (by rw [waiters]; exact List.mem_cons_of_mem _ waits)
      · intro _ _
        refine Or.inr (Or.inr ⟨first, ?_⟩)
        simp only [setPhase, Function.update_self]
        rfl
      · intro other cause
        simp only [setPhase, Function.update_apply]
        split
        · intro impossible
          cases impossible
        · exact sound.told other cause
      · intro other cause
        simp only [setPhase, Function.update_apply]
        split
        · intro impossible
          cases impossible
        · exact sound.ended other cause
      · intro _
        exact Or.inr ⟨first, parked, Function.update_self ..⟩
      · intro other unparked
        apply Function.update_of_ne
        intro same
        exact unparked (same ▸ parked)
  · next opened waiters =>
      refine ⟨⟨sound.ordered, sound.owned, sound.waiting, sound.distinct, ?_, sound.flagged,
        sound.closing, sound.unsending, sound.told, sound.ended⟩, fun _ => Or.inl rfl, fun _ _ => rfl⟩
      exact fun _ _ => Or.inl rfl

/-- A call offers a wakeup and moves on. -/
theorem trySend_move (sound : state.Sound) {phase : Phase}
    (task : phase.task = (state.phase call).task) (unparked : state.phase call ≠ .parked)
    (told : ∀ cause, phase.told = some cause → state.closedWith = some cause)
    (unended : ∀ cause, phase ≠ .ended cause) : (state.trySend.setPhase call phase).Sound := by
  obtain ⟨sent, woken, others⟩ := sound.trySend
  have same : state.trySend.phase call = state.phase call := others call unparked
  have channel : state.trySend.closedWith = state.closedWith := by
    unfold State.trySend
    split <;> rfl
  apply sent.move
  · rw [same]
    exact task
  · rw [same]
    exact unparked
  · rw [channel]
    exact told
  · exact fun cause ending => absurd ending (unended cause)
  · intro _ opened
    rw [channel] at opened
    rcases woken opened with token | ⟨other, parked, resumed⟩
    · exact Or.inl token
    · refine Or.inr (Or.inr ⟨other, ?_⟩)
      have different : other ≠ call := by
        intro one
        exact unparked (one ▸ parked)
      rw [Function.update_of_ne different, resumed]
      rfl

end State.Sound

/-- Every step of the sender, of a coroutine and of a receiver keeps the stream sound. -/
theorem sound_step {state : State} {action : Action} (sound : state.Sound)
    (ready : guard state action) : (effect state action).Sound := by
  cases action with
  | send task =>
      simp only [effect]
      split
      · exact sound
      · next opened =>
          have unended : ∀ call cause, state.phase call ≠ .ended cause := by
            intro call cause ending
            have channel := sound.told call cause (by rw [ending]; rfl)
            exact opened (sound.flagged (by rw [channel]; simp))
          refine ⟨?_, sound.owned, sound.waiting, sound.distinct, ?_, sound.flagged, ?_, ?_,
            sound.told, ?_⟩
          · rw [← sound.ordered, List.append_assoc]
          · exact fun _ _ => Or.inr (Or.inl rfl)
          · exact fun _ impossible => by cases impossible
          · exact fun closed => absurd closed opened
          · exact fun call cause ending => absurd ending (unended call cause)
  | offer =>
      obtain ⟨sent, woken, _⟩ := sound.trySend
      have channel : state.trySend.closedWith = state.closedWith := by
        unfold State.trySend
        split <;> rfl
      refine ⟨sent.ordered, sent.owned, sent.waiting, sent.distinct, ?_, sent.flagged, ?_, ?_,
        sent.told, sent.ended⟩
      · intro _ opened
        rcases woken (channel ▸ opened) with token | ⟨other, _, resumed⟩
        · exact Or.inl token
        · refine Or.inr (Or.inr ⟨other, ?_⟩)
          rw [show (effect state .offer).phase other = _ from resumed]
          rfl
      · exact fun _ impossible => by cases impossible
      · exact fun _ impossible => by cases impossible
  | close cause =>
      have idle : state.sender = .idle := ready
      refine ⟨sound.ordered, sound.owned, sound.waiting, sound.distinct, ?_, fun _ => rfl,
        fun _ _ => rfl, ?_, sound.told, sound.ended⟩
      · intro full opened
        rcases sound.offered full opened with token | offering | pending
        · exact Or.inl token
        · rw [idle] at offering
          cases offering
        · exact Or.inr (Or.inr pending)
      · exact fun _ impossible => by cases impossible
  | closeChannel cause =>
      have closing : state.sender = .closing cause := ready
      have idle : SenderPhase.idle ≠ .offering := by simp
      have unclosing : ∀ known, SenderPhase.idle = .closing known → state.closed := by simp
      simp only [effect, State.closeChannel]
      split
      · next first already =>
          refine ⟨sound.ordered, sound.owned, sound.waiting, sound.distinct, ?_, sound.flagged,
            unclosing, fun _ => idle, sound.told, sound.ended⟩
          intro _ opened
          rw [already] at opened
          cases opened
      · next opened =>
          have flagged := sound.closing cause closing
          refine ⟨sound.ordered, ?_, by simp, List.nodup_nil, by simp, fun _ => flagged,
            unclosing, fun _ => idle, ?_, ?_⟩
          · intro call
            by_cases waits : call ∈ state.waiters
            · have owned := sound.owned call
              rw [sound.waiting call waits] at owned
              simp only [waits, ↓reduceIte]
              exact owned
            · simp only [waits, ↓reduceIte]
              exact sound.owned call
          · intro call known
            by_cases waits : call ∈ state.waiters
            · simp only [waits, ↓reduceIte]
              intro same
              cases same
              rfl
            · simp only [waits, ↓reduceIte]
              intro same
              have before := sound.told call known same
              rw [opened] at before
              cases before
          · intro call known
            by_cases waits : call ∈ state.waiters
            · simp only [waits, ↓reduceIte]
              intro impossible
              cases impossible
            · simp only [waits, ↓reduceIte]
              exact sound.ended call known
  | call call =>
      have idle : state.phase call = .idle := ready
      apply sound.pass_on <;> simp [idle, Phase.task, Phase.told, Phase.pending]
  | cancel call =>
      exact ⟨sound.ordered, sound.owned, sound.waiting, sound.distinct, sound.offered,
        sound.flagged, sound.closing, sound.unsending, sound.told, sound.ended⟩
  | ensureActive call =>
      have starting : state.phase call = .starting := ready
      apply sound.pass_on
      · rw [starting]
        rfl
      · split <;> rfl
      · rw [starting]
        simp
      · split <;> rfl
      · rw [starting]
        rfl
  | poll call =>
      have polling : state.phase call = .polling := ready
      simp only [effect, State.poll]
      split
      · next task rest queued =>
          exact sound.taken queued (by rw [polling]; rfl) (by rw [polling]; simp) rfl (fun _ => rfl)
      · apply sound.pass_on <;> simp [polling, Phase.task, Phase.told, Phase.pending]
  | look call task =>
      have polled : state.phase call = .polled task := ready
      simp only [effect]
      split
      · next empty =>
          apply sound.move
          · rw [polled]
            rfl
          · rw [polled]
            simp
          · exact fun _ impossible => by cases impossible
          · exact fun _ impossible => by cases impossible
          · exact fun full => absurd empty full
      · apply sound.take_on
        · rw [polled]
          rfl
        · rw [polled]
          simp
        · exact fun _ impossible => by cases impossible
        · rfl
  | pass call task =>
      have passing : state.phase call = .passing task := ready
      apply sound.trySend_move
      · rw [passing]
        rfl
      · rw [passing]
        simp
      · exact fun _ impossible => by cases impossible
      · exact fun _ impossible => by cases impossible
  | receive call =>
      have receiving : state.phase call = .receiving := ready
      have empty : Phase.task .receiving = none := rfl
      simp only [effect]
      split
      · have taken : (state.setPhase call (.woken .element)).Sound := by
          apply sound.take_on
          · rw [receiving]
            rfl
          · rw [receiving]
            simp
          · exact fun _ impossible => by cases impossible
          · rfl
        refine ⟨taken.ordered, taken.owned, taken.waiting, taken.distinct, ?_, taken.flagged,
          taken.closing, taken.unsending, taken.told, taken.ended⟩
        intro _ _
        refine Or.inr (Or.inr ⟨call, ?_⟩)
        simp only [State.setPhase, Function.update_self]
        rfl
      · split
        · next cause closed =>
            apply sound.take_on
            · rw [receiving]
              rfl
            · rw [receiving]
              simp
            · intro known same
              cases same
              exact closed
            · rfl
        · next opened =>
            have parked : (state.setPhase call .parked).Sound := by
              apply sound.pass_on <;> simp [receiving, Phase.task, Phase.told, Phase.pending]
            refine ⟨parked.ordered, parked.owned, ?_, ?_, parked.offered, parked.flagged,
              parked.closing, parked.unsending, parked.told, parked.ended⟩
            · intro other waits
              rcases List.mem_append.mp waits with waits | waits
              · exact parked.waiting other waits
              · rw [List.mem_singleton.mp waits]
                exact Function.update_self ..
            · apply List.Nodup.append sound.distinct (List.nodup_singleton call)
              intro other waits same
              rw [List.mem_singleton.mp same] at waits
              exact sound.not_waiting (by rw [receiving]; simp) waits
  | unpark call =>
      obtain ⟨parked, _⟩ := ready
      refine ⟨sound.ordered, ?_, ?_, sound.distinct.erase call, ?_, sound.flagged, sound.closing,
        sound.unsending, ?_, ?_⟩
      · intro other
        have owned := sound.owned other
        simp only [effect, State.setPhase, Function.update_apply]
        split
        · next same =>
            rw [same, parked] at owned
            rw [same]
            exact owned
        · exact owned
      · intro other waits
        obtain ⟨different, waited⟩ := (List.Nodup.mem_erase_iff sound.distinct).mp waits
        simp only [effect, State.setPhase, Function.update_of_ne different]
        exact sound.waiting other waited
      · intro _ _
        refine Or.inr (Or.inr ⟨call, ?_⟩)
        simp only [effect, State.setPhase, Function.update_self]
        rfl
      · intro other cause
        simp only [effect, State.setPhase, Function.update_apply]
        split
        · exact fun impossible => by cases impossible
        · exact sound.told other cause
      · intro other cause
        simp only [effect, State.setPhase, Function.update_apply]
        split
        · exact fun impossible => by cases impossible
        · exact sound.ended other cause
  | dispatch call wakeup lost =>
      obtain ⟨resumed, _⟩ := ready
      apply sound.take_on
      · rw [resumed]
        rfl
      · rw [resumed]
        simp
      · intro cause knows
        apply sound.told call
        rw [resumed]
        cases lost with
        | true => cases knows
        | false =>
            cases wakeup with
            | closed known => exact knows
            | _ => cases knows
      · rfl
  | lookAgain call wakeup =>
      have woken : state.phase call = .woken wakeup := ready
      have told : ∀ cause, (Phase.woken wakeup).told = some cause →
          state.closedWith = some cause := fun cause knows => sound.told call cause (woken ▸ knows)
      simp only [effect]
      split
      · next empty =>
          apply sound.move
          · rw [woken]
            cases wakeup <;> rfl
          · rw [woken]
            simp
          · intro cause knows
            apply told
            cases wakeup with
            | closed _ => exact knows
            | _ => cases knows
          · exact fun _ _ => empty
          · exact fun full => absurd empty full
      · apply sound.take_on
        · rw [woken]
          rfl
        · rw [woken]
          simp
        · intro cause knows
          apply told
          cases wakeup with
          | closed _ => exact knows
          | _ => cases knows
        · rfl
  | repass call wakeup =>
      have repassing : state.phase call = .repassing wakeup := ready
      apply sound.trySend_move
      · rw [repassing]
        cases wakeup <;> rfl
      · rw [repassing]
        simp
      · intro cause knows
        apply sound.told call
        rw [repassing]
        cases wakeup with
        | closed _ => exact knows
        | _ => cases knows
      · intro cause ending
        cases wakeup <;> cases ending
  | drain call cause =>
      have draining : state.phase call = .draining cause := ready
      have channel := sound.told call cause (by rw [draining]; rfl)
      simp only [effect, State.poll]
      split
      · next task rest queued =>
          refine sound.taken queued (by rw [draining]; rfl) (by rw [draining]; simp) rfl ?_
          intro opened
          rw [channel] at opened
          cases opened
      · next empty =>
          apply sound.move
          · rw [draining]
            rfl
          · rw [draining]
            simp
          · intro known same
            cases same
            exact channel
          · exact fun _ _ => empty
          · exact fun full => absurd empty full

theorem sound_invariant : machine.Invariant State.Sound where
  start := sound_start
  step := fun _ _ _ sound ready => sound_step sound ready

/-- No step takes a task back. -/
theorem taken_grows (state : State) (action : Action) :
    ∃ more, (effect state action).taken = state.taken ++ more := by
  have trySend : state.trySend.taken = state.taken := by
    unfold State.trySend
    split <;> rfl
  have poll : ∀ call found empty, ∃ more, (state.poll call found empty).taken =
      state.taken ++ more := by
    intro call found empty
    unfold State.poll
    split
    · exact ⟨_, rfl⟩
    · exact ⟨[], (List.append_nil _).symm⟩
  have none_ : ∀ next : State, next.taken = state.taken → ∃ more, next.taken = state.taken ++ more :=
    fun next same => ⟨[], same.trans (List.append_nil _).symm⟩
  cases action with
  | send task =>
      apply none_
      simp only [effect]
      split <;> rfl
  | offer => exact none_ _ trySend
  | closeChannel cause =>
      apply none_
      simp only [effect, State.closeChannel]
      split <;> rfl
  | poll call => exact poll call _ _
  | pass call task => exact none_ _ trySend
  | receive call =>
      apply none_
      simp only [effect]
      split
      · rfl
      · split <;> rfl
  | repass call wakeup => exact none_ _ trySend
  | drain call cause => exact poll call _ _
  | _ => exact none_ _ rfl

/-- What a call took, it has. -/
theorem State.Sound.mem_taken (sound : state.Sound) {call : Receive} {task : ByteArray} :
    (call, task) ∈ state.taken ↔ (state.phase call).task = some task := by
  have own : task ∈ (state.taken.filter fun entry => entry.1 = call).map Prod.snd ↔
      (call, task) ∈ state.taken := by
    rw [List.mem_map]
    constructor
    · intro found
      obtain ⟨⟨taker, _⟩, present, rfl⟩ := found
      obtain ⟨taken, same⟩ := List.mem_filter.mp present
      obtain rfl : taker = call := of_decide_eq_true same
      exact taken
    · intro taken
      exact ⟨(call, task), List.mem_filter.mpr ⟨taken, decide_eq_true rfl⟩, rfl⟩
  rw [← own, sound.owned call, Option.mem_toList]

/-- A call takes at most one task. -/
theorem State.Sound.nodup_takers (sound : state.Sound) : (state.taken.map Prod.fst).Nodup := by
  apply List.nodup_iff_count_le_one.mpr
  intro call
  have single : ((state.taken.filter fun entry => entry.1 = call).map Prod.snd).length ≤ 1 := by
    rw [sound.owned call]
    cases (state.phase call).task <;> simp
  rw [List.length_map] at single
  rw [List.count_eq_countP, List.countP_map, List.countP_eq_length_filter]
  exact single

/-- A call keeps the task it took. -/
theorem task_kept {state : State} (reached : machine.Reachable state) {call : Receive}
    {task : ByteArray} (has : (state.phase call).task = some task) {trace : List Action}
    (runs : machine.Runs state trace) : ((machine.after state trace).phase call).task = some task := by
  refine @GuardedSystem.Reachable.keeps _ _ _ (fun state => (state.phase call).task = some task) _
    reached ?_ has trace runs
  intro state action reached has ready
  have sound := sound_invariant.reachable reached
  obtain ⟨more, grown⟩ := taken_grows state action
  apply (sound_step sound ready).mem_taken.mp
  rw [grown]
  exact List.mem_append_left _ (sound.mem_taken.mpr has)

/-- A call that took a task can return it. -/
theorem task_returned {state : State} {call : Receive} {task : ByteArray}
    (has : (state.phase call).task = some task) :
    ∃ trace, machine.Runs state trace ∧ (machine.after state trace).phase call = .returned task := by
  have passes : ∀ state : State, state.phase call = .passing task →
      ∃ trace, machine.Runs state trace ∧
        (machine.after state trace).phase call = .returned task := by
    intro state passing
    exact ⟨[.pass call task], ⟨passing, trivial⟩, Function.update_self ..⟩
  cases phase : state.phase call with
  | polled taken =>
      rw [phase] at has
      obtain rfl : taken = task := Option.some.inj has
      by_cases empty : state.tasks = []
      · refine ⟨[.look call taken], ⟨phase, trivial⟩, ?_⟩
        simp [machine, effect, State.setPhase, empty]
      · obtain ⟨trace, runs, returned⟩ := passes (effect state (.look call taken)) (by
          simp [effect, State.setPhase, empty])
        exact ⟨.look call taken :: trace, ⟨phase, runs⟩, returned⟩
  | passing taken =>
      rw [phase] at has
      obtain rfl : taken = task := Option.some.inj has
      exact passes state phase
  | returned taken =>
      rw [phase] at has
      obtain rfl : taken = task := Option.some.inj has
      exact ⟨[], trivial, phase⟩
  | _ =>
      rw [phase] at has
      cases has

/-- In every reachable state: the tasks sent are those taken, in the order they were
taken, and then those queued; every task taken is held by exactly one call, which keeps
it and can return it; a cancelled call has none; no receiver is parked on a queued task
that nobody will offer or look for; and nobody was told of the end while a task is
queued. -/
theorem tasks_are_received_once (state : State) (reached : machine.Reachable state) :
    state.taken.map Prod.snd ++ state.tasks = state.sent ∧
      (state.taken.map Prod.fst).Nodup ∧
      (∀ call task, (call, task) ∈ state.taken ↔ (state.phase call).task = some task) ∧
      (∀ call task, (state.phase call).task = some task →
        (∀ trace, machine.Runs state trace →
          ((machine.after state trace).phase call).task = some task) ∧
        ∃ trace, machine.Runs state trace ∧
          (machine.after state trace).phase call = .returned task) ∧
      (∀ call, state.phase call = .cancelled → ∀ task, (call, task) ∉ state.taken) ∧
      ¬ (state.tasks ≠ [] ∧ state.closedWith = none ∧ state.token = false ∧
        state.sender ≠ .offering ∧ (∀ call, (state.phase call).pending = false) ∧
        ∃ call, state.phase call = .parked) ∧
      ∀ call cause, state.phase call = .ended cause → state.tasks = [] := by
  have sound := sound_invariant.reachable reached
  refine ⟨sound.ordered, sound.nodup_takers, fun _ _ => sound.mem_taken, ?_, ?_, ?_, sound.ended⟩
  · intro call task has
    exact ⟨fun _ runs => task_kept reached has runs, task_returned has⟩
  · intro call cancelled task taken
    have has := sound.mem_taken.mp taken
    rw [cancelled] at has
    cases has
  · intro lost
    obtain ⟨full, opened, untokened, unsent, nobody, _⟩ := lost
    rcases sound.offered full opened with token | offering | ⟨call, pending⟩
    · rw [untokened] at token
      cases token
    · exact unsent offering
    · rw [nobody call] at pending
      cases pending

/-- Two receivers park; the first is woken and cancelled, and passes its wakeup on. -/
def passedOn : List Action :=
  [.call 0, .ensureActive 0, .poll 0, .receive 0, .call 1, .ensureActive 1, .poll 1, .receive 1,
    .send ⟨#[42]⟩, .offer, .cancel 0, .dispatch 0 .element true, .lookAgain 0 .cancelled,
    .repass 0 .cancelled, .dispatch 1 .element false, .lookAgain 1 .element, .repass 1 .element,
    .ensureActive 1, .poll 1, .look 1 ⟨#[42]⟩]

theorem tasks_are_received_once_passed_on :
    (1, ⟨#[42]⟩) ∈ (machine.after start passedOn).taken :=
  ((tasks_are_received_once (machine.after start passedOn)
    (GuardedSystem.reachable_iff.mpr ⟨passedOn, by decide +kernel, rfl⟩)).2.2.1 1 ⟨#[42]⟩).mpr
      (by decide +kernel)

end KtBridge.TaskStream
