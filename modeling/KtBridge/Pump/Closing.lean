import KtBridge.Pump.Keeping

/-! # What the pump thread leaves behind

Once out of its loop the pump thread fails whoever it lists. Where the iterator of a list
of one key is left something to find, it gets past the listing; where no due id is passed
over, what stays in the map is taken out by the callers.
-/

namespace KtBridge.Pump

open Foundation

namespace PumpPhase

/-- Past the point where `dead` is set. -/
def isDead : PumpPhase → Bool
  | dying => true
  | listing _ _ => true
  | failing _ => true
  | withdrew _ _ _ => true
  | raising _ _ _ => true
  | freeing => true
  | terminated => true
  | crashed => true
  | _ => false

/-- In the `finally` block or past it. -/
def leftLoop (pump : PumpPhase) : Bool := pump = exiting || pump.isDead

/-- The ids still to be failed, once the keys are counted. -/
def stragglers : PumpPhase → Option (Finset UInt64)
  | listing size seen => some (if size = 0 then ∅ else seen)
  | failing rest => some rest.toFinset
  | withdrew _ _ rest => some rest.toFinset
  | raising _ _ rest => some rest.toFinset
  | freeing => some ∅
  | terminated => some ∅
  | _ => none

theorem isDead_of_stragglers {pump : PumpPhase} {rest : Finset UInt64}
    (listed : pump.stragglers = some rest) : pump.isDead := by
  cases pump <;> first | rfl | cases listed

end PumpPhase

namespace State

variable {state next : State}

theorem mem_keys {id : UInt64} : id ∈ state.keys ↔ ∃ call, state.pending.lookup id = some call := by
  rw [keys, List.mem_toFinset, ← AList.mem_keys, ← AList.lookup_isSome, Option.isSome_iff_exists]

theorem mem_due {id : UInt64} :
    id ∈ state.due ↔
      ∃ call, state.pending.lookup id = some call ∧ state.withdraws call = false := by
  rw [due, List.mem_filter, ← List.mem_toFinset, ← keys, mem_keys]
  constructor
  · rintro ⟨⟨call, found⟩, due⟩
    rw [found] at due
    exact ⟨call, found, by simpa using due⟩
  · rintro ⟨call, found, busy⟩
    refine ⟨⟨call, found⟩, ?_⟩
    rw [found]
    simpa using busy

theorem withdraws_at {call : Call} {phase : Phase} (here : state.phase call = phase) :
    state.withdraws call = phase.withdraws state.running := by
  rw [withdraws, here]

/-- Elsewhere than at a list of one key there is nothing to find. -/
theorem StillFinds.of_elsewhere {gone : Finset UInt64}
    (elsewhere : ∀ seen, state.pump ≠ .listing 1 seen) : state.StillFinds gone := by
  unfold StillFinds
  split
  · next seen here => exact absurd here (elsewhere seen)
  · trivial

/-- A step that takes nothing but some ids out of the map. -/
theorem StillFinds.step {gone : Finset UInt64} (finds : state.StillFinds gone)
    (pump : next.pump = state.pump) (keys : ∀ id ∈ state.keys, id ∈ next.keys ∨ id ∈ gone) :
    next.StillFinds ∅ := by
  unfold StillFinds at finds ⊢
  rw [pump]
  split
  · next seen here =>
      rw [here] at finds
      intro none
      refine finds fun id there => ?_
      obtain ⟨wasSeen, inside⟩ := Finset.mem_inter.mp there
      refine (keys id inside).resolve_left fun still => ?_
      exact absurd (none (Finset.mem_inter.mpr ⟨wasSeen, still⟩)) (Finset.notMem_empty id)
  · trivial

end State

/-- What the end of the pump thread has reached. -/
structure State.Closing (state : State) : Prop where
  dead : state.dead = state.pump.isDead
  freed : state.pollerFrees = if state.pump = .terminated then 1 else 0
  finds : state.StillFinds ∅
  unthrown : state.pump ≠ .crashed

namespace State.Closing

variable {state next : State}

/-- A step that leaves the pump thread where it is. -/
theorem of_caller (closing : state.Closing) (dead : next.dead = state.dead)
    (freed : next.pollerFrees = state.pollerFrees) (pump : next.pump = state.pump)
    (keys : ∀ id ∈ state.keys, id ∈ next.keys) : next.Closing where
  dead := by
    rw [dead, pump]
    exact closing.dead
  freed := by
    rw [freed, pump]
    exact closing.freed
  finds := closing.finds.step pump fun id there => Or.inl (keys id there)
  unthrown := by
    rw [pump]
    exact closing.unthrown

/-- A caller takes its own id out of the map, and leaves the iterator something. -/
theorem of_erase (closing : state.Closing) {call : Call} (dead : next.dead = state.dead)
    (freed : next.pollerFrees = state.pollerFrees) (pump : next.pump = state.pump)
    (pending : next.pending = state.pending.erase (requestId call))
    (finds : state.StillFinds {requestId call}) : next.Closing where
  dead := by
    rw [dead, pump]
    exact closing.dead
  freed := by
    rw [freed, pump]
    exact closing.freed
  finds := by
    refine finds.step pump fun id there => ?_
    by_cases same : id = requestId call
    · exact Or.inr (Finset.mem_singleton.mpr same)
    · obtain ⟨owner, found⟩ := mem_keys.mp there
      refine Or.inl (mem_keys.mpr ⟨owner, ?_⟩)
      rw [pending, AList.lookup_erase_ne same]
      exact found
  unthrown := by
    rw [pump]
    exact closing.unthrown

/-- A step of the pump thread before `dead` is set. -/
theorem of_loop (closing : state.Closing) (before : state.pump.isDead = false)
    (after : next.pump.isDead = false) (dead : next.dead = state.dead)
    (freed : next.pollerFrees = state.pollerFrees) : next.Closing where
  dead := by
    rw [dead, after, ← before]
    exact closing.dead
  freed := by
    have notBefore : state.pump ≠ .terminated := by
      intro same
      rw [same] at before
      cases before
    have notAfter : next.pump ≠ .terminated := by
      intro same
      rw [same] at after
      cases after
    rw [freed, closing.freed, if_neg notBefore, if_neg notAfter]
  finds := by
    refine .of_elsewhere fun seen same => ?_
    rw [same] at after
    cases after
  unthrown := by
    intro same
    rw [same] at after
    cases after

/-- A step of the pump thread after `dead` is set, to somewhere before its end. -/
theorem of_closing (closing : state.Closing) (before : state.pump.isDead)
    (after : next.pump.isDead) (unfinished : state.pump ≠ .terminated)
    (finishing : next.pump ≠ .terminated) (dead : next.dead = state.dead)
    (freed : next.pollerFrees = state.pollerFrees) (finds : next.StillFinds ∅)
    (unthrown : next.pump ≠ .crashed) : next.Closing where
  dead := by
    rw [dead, closing.dead, before, after]
  freed := by
    rw [freed, closing.freed, if_neg unfinished, if_neg finishing]
  finds := finds
  unthrown := unthrown

/-- A step of a caller on nothing but its phase. -/
theorem of_phase (closing : state.Closing) (call : Call) (phase : Phase) :
    (state.setPhase call phase).Closing :=
  closing.of_caller rfl rfl rfl fun _ => id

/-- A resumption is nothing to the end of the pump. -/
theorem resume (closing : state.Closing) (call : Call) (result : Resumption) :
    (state.resume call result).Closing := by
  refine closing.of_caller (State.resume_dead ..) (State.resume_pollerFrees ..)
    (State.resume_pump ..) fun id there => ?_
  rwa [State.keys, State.resume_pending]

end State.Closing

/-- Every step that leaves the iterator something to find keeps the closing on its way. -/
theorem closing_step {state : State} {action : Action} (kept : state.Kept)
    (closing : state.Closing) (ready : guard state action) (findable : Findable state action) :
    (effect state action).Closing := by
  cases action with
  | enter call => exact closing.of_caller rfl rfl rfl fun _ => id
  | store call =>
      refine closing.of_caller rfl rfl rfl fun id there => ?_
      obtain ⟨owner, found⟩ := State.mem_keys.mp there
      by_cases same : id = requestId call
      · exact State.mem_keys.mpr ⟨call, by rw [same]; exact AList.lookup_insert ..⟩
      · exact State.mem_keys.mpr ⟨owner, (AList.lookup_insert_ne same).trans found⟩
  | readDead call => exact closing.of_phase call _
  | readRunning call => exact closing.of_phase call _
  | withdraw call =>
      by_cases present : requestId call ∈ state.pending
      · simp only [effect, present, ↓reduceIte]
        exact closing.of_erase rfl rfl rfl rfl findable
      · simp only [effect, present, ↓reduceIte]
        exact closing.of_phase call _
  | refuse call => exact (closing.resume call _).of_phase call _
  | startReturns call => exact closing.of_phase call _
  | startThrows call thrown => exact closing.of_phase call _
  | retire call thrown => exact closing.of_erase rfl rfl rfl rfl findable
  | readActive call thrown found => exact closing.of_phase call _
  | raise call thrown => exact (closing.resume call _).of_phase call _
  | invokeOnCancellation call => exact closing.of_phase call _
  | cancel call => exact closing.of_caller rfl rfl rfl fun _ => id
  | receive call result => exact closing.of_caller rfl rfl rfl fun _ => id
  | revoke call completion => exact closing.of_caller rfl rfl rfl fun _ => id
  | close => exact closing.of_caller rfl rfl rfl fun _ => id
  | readTimeout =>
      refine closing.of_loop ?_ rfl rfl rfl
      rw [show state.pump = .looping from ready]
      rfl
  | poll timeoutMillis rc batch =>
      refine closing.of_loop ?_ ?_ rfl rfl
      · rw [show state.pump = .polling timeoutMillis from ready.1]
        rfl
      · simp only [effect]
        split <;> rfl
  | readSize batch =>
      refine closing.of_loop ?_ ?_ rfl rfl
      · rw [show state.pump = .polled batch from ready]
        rfl
      · simp only [effect]
        split <;> rfl
  | repeatLoop =>
      refine closing.of_loop ?_ rfl rfl rfl
      rw [show state.pump = .dispatching [] from ready]
      rfl
  | throw =>
      refine closing.of_loop ?_ rfl rfl rfl
      have looping : state.pump.inLoop := ready
      cases here : state.pump <;> rw [here] at looping <;> first | rfl | cases looping
  | dispatch completion rest =>
      have before : state.pump.isDead = false := by
        rw [show state.pump = .dispatching (completion :: rest) from ready]
        rfl
      refine closing.of_loop before ?_ ?_ ?_
      all_goals
        by_cases event : completion.reqId = 0
        · simp only [effect, event, ↓reduceIte, PumpPhase.isDead]
        · cases found : state.pending.lookup completion.reqId <;>
            simp only [effect, event, ↓reduceIte, found, PumpPhase.isDead]
  | resume call completion rest =>
      refine closing.of_loop ?_ ?_ (State.resume_dead ..) (State.resume_pollerFrees ..)
      · rw [show state.pump = .taken call completion rest from ready]
        rfl
      · simp only [effect]
        split <;> rfl
  | setDead =>
      have here : state.pump = .exiting := ready
      refine ⟨rfl, ?_, .of_elsewhere (by simp [effect]), (by simp [effect])⟩
      have freed := closing.freed
      rw [here] at freed
      exact freed
  | countKeys size =>
      have here : state.pump = .dying := ready
      refine closing.of_closing (by rw [here]; rfl) rfl (by rw [here]; simp) (by simp [effect])
        rfl rfl ?_ (by simp [effect])
      by_cases one : size = 1
      · subst one
        intro none
        have keys : state.keys ∩ state.keys ⊆ ∅ := none
        rw [Finset.inter_self] at keys
        exact findable rfl (Finset.subset_empty.mp keys)
      · refine .of_elsewhere fun seen same => one ?_
        exact (PumpPhase.listing.inj same).1
  | listKeys size seen stragglers =>
      have here : state.pump = .listing size seen := ready.1
      exact closing.of_closing (by rw [here]; rfl) rfl (by rw [here]; simp) (by simp [effect])
        rfl rfl (.of_elsewhere (by simp [effect])) (by simp [effect])
  | findNone size seen =>
      obtain ⟨here, rfl, none⟩ := ready
      have finds := closing.finds
      unfold State.StillFinds at finds
      rw [here] at finds
      exact absurd none.subset finds
  | failNext id rest =>
      have here : state.pump = .failing (id :: rest) := ready
      cases found : state.pending.lookup id <;> simp only [effect, found] <;>
        exact closing.of_closing (by rw [here]; rfl) rfl (by rw [here]; simp) (by simp) rfl rfl
          (.of_elsewhere (by simp)) (by simp)
  | failActive call id rest =>
      have here : state.pump = .withdrew call id rest := ready
      by_cases active : state.continuation call = .active <;>
        simp only [effect, active, ↓reduceIte] <;>
        exact closing.of_closing (by rw [here]; rfl) rfl (by rw [here]; simp) (by simp) rfl rfl
          (.of_elsewhere (by simp)) (by simp)
  | failResume call id rest =>
      have here : state.pump = .raising call id rest := ready
      have resumable := kept.resumable_held (show state.pump.held = some call by rw [here]; rfl)
      have pump : (effect state (.failResume call id rest)).pump = .failing rest := by
        simp only [effect, resumable, ↓reduceIte]
      exact closing.of_closing (by rw [here]; rfl) (by rw [pump]; rfl) (by rw [here]; simp)
        (by rw [pump]; simp) (State.resume_dead ..) (State.resume_pollerFrees ..)
        (.of_elsewhere (by rw [pump]; simp)) (by rw [pump]; simp)
  | failDone =>
      have here : state.pump = .failing [] := ready
      exact closing.of_closing (by rw [here]; rfl) rfl (by rw [here]; simp) (by simp [effect])
        rfl rfl (.of_elsewhere (by simp [effect])) (by simp [effect])
  | pollerFree =>
      have here : state.pump = .freeing := ready
      have freed := closing.freed
      have dead := closing.dead
      rw [here] at freed dead
      refine ⟨dead, ?_, .of_elsewhere (by simp [effect]), (by simp [effect])⟩
      simp only [effect, freed]
      rfl

/-- What is in the map while the pump thread ends is still to be failed by it, or will be
taken out by its caller. -/
def State.Swept (state : State) : Prop :=
  ∀ rest, state.pump.stragglers = some rest →
    ∀ id call, state.pending.lookup id = some call → id ∈ rest ∨ state.withdraws call

namespace State.Swept

variable {state next : State}

/-- Before the keys are counted nothing is owed. -/
theorem of_uncounted (none : state.pump.stragglers = none) : state.Swept := by
  intro rest listed
  rw [none] at listed
  cases listed

/-- A step of the pump thread in its loop. -/
theorem of_loop (alive : state.pump.isDead = false) : state.Swept := by
  intro rest listed
  rw [PumpPhase.isDead_of_stragglers listed] at alive
  cases alive

/-- A step that leaves the pump thread where it is. -/
theorem of_caller (swept : state.Swept) (pump : next.pump = state.pump)
    (entries : ∀ id call, next.pending.lookup id = some call →
      next.withdraws call ∨
        state.pending.lookup id = some call ∧ (state.withdraws call → next.withdraws call)) :
    next.Swept := by
  intro rest listed id call found
  rw [pump] at listed
  rcases entries id call found with withdraws | ⟨before, still⟩
  · exact Or.inr withdraws
  · exact (swept rest listed id call before).imp_right still

/-- A caller goes on from a point where it does not take its id out. -/
theorem of_phase (swept : state.Swept) {call : Call} (busy : state.withdraws call = false)
    (phase : Phase) (pump : next.pump = state.pump) (running : next.running = state.running)
    (phases : next.phase = Function.update state.phase call phase)
    (pending : ∀ id other, next.pending.lookup id = some other →
      state.pending.lookup id = some other) : next.Swept := by
  refine swept.of_caller pump fun id other found => Or.inr ⟨pending id other found, ?_⟩
  intro withdraws
  have differs : other ≠ call := by
    rintro rfl
    rw [busy] at withdraws
    cases withdraws
  rw [State.withdraws] at withdraws ⊢
  rwa [phases, Function.update_of_ne differs, running]

/-- A caller comes to a point from where it will take its id out. -/
theorem of_withdrawing (swept : state.Swept) {call : Call} {phase : Phase}
    (withdraws : phase.withdraws state.running = true) (pump : next.pump = state.pump)
    (running : next.running = state.running)
    (phases : next.phase = Function.update state.phase call phase)
    (pending : ∀ id other, next.pending.lookup id = some other →
      state.pending.lookup id = some other ∨ other = call) : next.Swept := by
  refine swept.of_caller pump fun id other found => ?_
  by_cases same : other = call
  · refine Or.inl ?_
    rw [withdraws_at (by rw [phases, same, Function.update_self]), running]
    exact withdraws
  · refine Or.inr ⟨(pending id other found).resolve_right same, fun before => ?_⟩
    rw [State.withdraws] at before ⊢
    rwa [phases, Function.update_of_ne same, running]

/-- A caller that takes its own id out of the map. -/
theorem of_erase (swept : state.Swept) (kept : state.Kept) {call : Call} (phase : Phase)
    (pump : next.pump = state.pump) (running : next.running = state.running)
    (phases : next.phase = Function.update state.phase call phase)
    (pending : ∀ id other, next.pending.lookup id = some other →
      state.pending.lookup id = some other ∧ id ≠ requestId call) : next.Swept := by
  refine swept.of_caller pump fun id other found => Or.inr ?_
  obtain ⟨before, apart⟩ := pending id other found
  have differs : other ≠ call := by
    rintro rfl
    exact apart (kept.keyed id other before).symm
  refine ⟨before, fun withdraws => ?_⟩
  rw [State.withdraws] at withdraws ⊢
  rwa [phases, Function.update_of_ne differs, running]

/-- A step of the pump thread over the stragglers. -/
theorem of_stragglers (swept : state.Swept) {rest : Finset UInt64}
    (listed : state.pump.stragglers = some rest) (phase : next.phase = state.phase)
    (running : next.running = state.running)
    (entries : ∀ id call, next.pending.lookup id = some call →
      state.pending.lookup id = some call ∧
        ∀ left, next.pump.stragglers = some left → id ∈ rest → id ∈ left) : next.Swept := by
  intro left remaining id call found
  obtain ⟨before, still⟩ := entries id call found
  refine (swept rest listed id call before).imp (still left remaining) ?_
  rw [State.withdraws, State.withdraws, phase, running]
  exact fun withdraws => withdraws

end State.Swept

/-- Every counted step keeps account of what is left in the map. -/
theorem swept_step {state : State} {action : Action} (kept : state.Kept)
    (closing : state.Closing) (swept : state.Swept) (ready : guard state action)
    (counted : Counted state action) : (effect state action).Swept := by
  cases action with
  | enter call =>
      have outside : state.phase call = .outside := (kept.outside call).mpr (ge_of_eq ready)
      exact swept.of_phase (State.withdraws_at outside) .entered rfl rfl rfl fun _ _ => id
  | store call =>
      exact swept.of_withdrawing rfl rfl rfl rfl fun id other found =>
        (lookup_of_insert found).imp_right And.right
  | readDead call =>
      by_cases dead : state.dead
      · refine swept.of_withdrawing ?_ rfl rfl rfl fun _ _ => Or.inl
        rw [if_pos dead]
        rfl
      · refine .of_loop ?_
        have alive := closing.dead
        rw [Bool.eq_false_of_not_eq_true dead] at alive
        exact alive.symm
  | readRunning call =>
      have here : state.phase call = .checking := ready
      by_cases running : state.running
      · refine swept.of_phase ?_ _ rfl rfl rfl fun _ _ => id
        rw [State.withdraws_at here, running]
        rfl
      · refine swept.of_withdrawing ?_ rfl rfl rfl fun _ _ => Or.inl
        rw [if_neg running]
        rfl
  | withdraw call =>
      by_cases present : requestId call ∈ state.pending
      · simp only [effect, present, ↓reduceIte]
        exact swept.of_erase kept .withdrawn rfl rfl rfl fun id other found =>
          ⟨lookup_of_erase found, ne_of_erase found⟩
      · simp only [effect, present, ↓reduceIte]
        refine swept.of_erase kept .left rfl rfl rfl fun id other found => ⟨found, ?_⟩
        rintro rfl
        cases (AList.lookup_eq_none.mpr present).symm.trans found
  | refuse call =>
      exact swept.of_phase (State.withdraws_at ready) .left (State.resume_pump ..)
        (State.resume_running ..) (by simp only [effect, State.setPhase, State.resume_phase])
        fun _ _ found => (congrArg (AList.lookup _) (State.resume_pending ..)).symm.trans found
  | startReturns call =>
      exact swept.of_phase (State.withdraws_at ready) _ rfl rfl rfl fun _ _ => id
  | startThrows call thrown =>
      exact swept.of_phase (State.withdraws_at ready) _ rfl rfl rfl fun _ _ => id
  | retire call thrown =>
      exact swept.of_erase kept _ rfl rfl rfl fun id other found =>
        ⟨lookup_of_erase found, ne_of_erase found⟩
  | readActive call thrown found =>
      exact swept.of_phase (State.withdraws_at ready) _ rfl rfl rfl fun _ _ => id
  | raise call thrown =>
      exact swept.of_phase (State.withdraws_at ready) .left (State.resume_pump ..)
        (State.resume_running ..) (by simp only [effect, State.setPhase, State.resume_phase])
        fun _ _ found => (congrArg (AList.lookup _) (State.resume_pending ..)).symm.trans found
  | invokeOnCancellation call =>
      exact swept.of_phase (State.withdraws_at ready) _ rfl rfl rfl fun _ _ => id
  | cancel call => exact swept.of_caller rfl fun _ _ found => Or.inr ⟨found, id⟩
  | receive call result => exact swept.of_caller rfl fun _ _ found => Or.inr ⟨found, id⟩
  | revoke call completion => exact swept.of_caller rfl fun _ _ found => Or.inr ⟨found, id⟩
  | close =>
      refine swept.of_caller rfl fun id other found => Or.inr ⟨found, fun withdraws => ?_⟩
      exact Phase.withdraws_of_stopped withdraws
  | setDead => exact .of_uncounted rfl
  | countKeys size =>
      intro rest listed id call found
      obtain rfl := Option.some.inj listed
      have there : id ∈ state.keys := State.mem_keys.mpr ⟨call, found⟩
      by_cases none : size = 0
      · right
        by_contra busy
        have due : id ∈ state.due :=
          State.mem_due.mpr ⟨call, found, Bool.eq_false_of_not_eq_true busy⟩
        rw [counted none] at due
        cases due
      · left
        rwa [if_neg none]
  | listKeys size seen stragglers =>
      intro rest listed id call found
      obtain ⟨here, lists⟩ := ready
      obtain rfl := Option.some.inj listed
      have there : id ∈ state.keys := State.mem_keys.mpr ⟨call, found⟩
      by_cases withdraws : state.withdraws call
      · exact Or.inr withdraws
      · have due := State.mem_due.mpr ⟨call, found, Bool.eq_false_of_not_eq_true withdraws⟩
        have was := (swept (if size = 0 then ∅ else seen) (by rw [here]; rfl) id call
          found).resolve_right withdraws
        have some_ : size ≠ 0 := by
          intro none
          rw [if_pos none] at was
          exact absurd was (Finset.notMem_empty id)
        rw [if_neg some_] at was
        refine Or.inl (List.mem_toFinset.mpr
          (lists.mem_of_stayed (Finset.mem_inter.mpr ⟨was, there⟩) some_
            fun one other inside => ?_))
        rw [State.keys, counted one id due, List.mem_toFinset] at inside
        exact List.mem_singleton.mp inside
  | findNone size seen => exact .of_uncounted rfl
  | failNext id rest =>
      have listed : state.pump.stragglers = some (id :: rest).toFinset := by
        rw [show state.pump = .failing (id :: rest) from ready]
        rfl
      have passes : ∀ {other : UInt64}, other ≠ id → other ∈ (id :: rest).toFinset →
          other ∈ rest.toFinset := by
        intro other differs waiting
        rw [List.mem_toFinset] at waiting ⊢
        exact (List.mem_cons.mp waiting).resolve_left differs
      cases found : state.pending.lookup id with
      | none =>
          simp only [effect, found]
          refine swept.of_stragglers listed rfl rfl fun other call there => ⟨there, ?_⟩
          intro left remaining waiting
          obtain rfl := Option.some.inj remaining
          refine passes ?_ waiting
          rintro rfl
          cases found.symm.trans there
      | some owner =>
          simp only [effect, found]
          refine swept.of_stragglers listed rfl rfl fun other call there =>
            ⟨lookup_of_erase there, ?_⟩
          intro left remaining waiting
          obtain rfl := Option.some.inj remaining
          exact passes (ne_of_erase there) waiting
  | failActive call id rest =>
      have listed : state.pump.stragglers = some rest.toFinset := by
        rw [show state.pump = .withdrew call id rest from ready]
        rfl
      by_cases active : state.continuation call = .active <;>
        simp only [effect, active, ↓reduceIte] <;>
        exact swept.of_stragglers listed rfl rfl fun other value there =>
          ⟨there, fun left remaining waiting => Option.some.inj remaining ▸ waiting⟩
  | failResume call id rest =>
      have here : state.pump = .raising call id rest := ready
      have listed : state.pump.stragglers = some rest.toFinset := by
        rw [here]
        rfl
      have resumable := kept.resumable_held (show state.pump.held = some call by rw [here]; rfl)
      have pump : (effect state (.failResume call id rest)).pump = .failing rest := by
        simp only [effect, resumable, ↓reduceIte]
      refine swept.of_stragglers listed (State.resume_phase ..) (State.resume_running ..)
        fun other value there =>
          ⟨(congrArg (AList.lookup other) (State.resume_pending ..)).symm.trans there, ?_⟩
      intro left remaining waiting
      rw [pump] at remaining
      exact Option.some.inj remaining ▸ waiting
  | failDone =>
      have listed : state.pump.stragglers = some ∅ := by
        rw [show state.pump = .failing [] from ready]
        rfl
      exact swept.of_stragglers listed rfl rfl fun other value there =>
        ⟨there, fun left remaining waiting => Option.some.inj remaining ▸ waiting⟩
  | pollerFree =>
      have listed : state.pump.stragglers = some ∅ := by
        rw [show state.pump = .freeing from ready]
        rfl
      exact swept.of_stragglers listed rfl rfl fun other value there =>
        ⟨there, fun left remaining waiting => Option.some.inj remaining ▸ waiting⟩
  | readTimeout => exact .of_loop rfl
  | poll timeoutMillis rc batch =>
      refine .of_loop ?_
      simp only [effect]
      split <;> rfl
  | readSize batch =>
      refine .of_loop ?_
      simp only [effect]
      split <;> rfl
  | repeatLoop => exact .of_loop rfl
  | throw => exact .of_loop rfl
  | dispatch completion rest =>
      refine .of_loop ?_
      by_cases event : completion.reqId = 0
      · simp only [effect, event, ↓reduceIte, PumpPhase.isDead]
      · cases found : state.pending.lookup completion.reqId <;>
          simp only [effect, event, ↓reduceIte, found, PumpPhase.isDead]
  | resume call completion rest =>
      refine .of_loop ?_
      simp only [effect]
      split <;> rfl

theorem kept_start : start.Kept := by
  have nobody : ∀ call, ¬ Held start.holding call := by
    intro call held
    obtain ⟨place, there⟩ := held
    cases place <;> cases there
  refine ⟨⟨fun place => ?_, fun first second call there => ?_⟩, fun call held => ?_, nofun,
    fun call held => ?_, fun _ => iff_of_true rfl (Nat.zero_le _), Nat.zero_le _, nofun, nofun, rfl⟩
  · cases place <;> exact List.nodup_nil
  · exact absurd ⟨first, there⟩ (nobody call)
  · exact absurd held (nobody call)
  · exact absurd held (nobody call)

theorem closing_start : start.Closing := ⟨rfl, rfl, trivial, nofun⟩

/-- The three invariants hold in every uncontended run. -/
theorem kept_and_swept {state : State} (reached : uncontended.Reachable state) :
    state.Kept ∧ state.Closing ∧ state.Swept := by
  have invariant : uncontended.Invariant fun state => state.Kept ∧ state.Closing ∧ state.Swept := by
    refine ⟨⟨kept_start, closing_start, .of_uncounted rfl⟩, ?_⟩
    rintro state action _ ⟨kept, closing, swept⟩ ⟨ready, uncontended⟩
    exact ⟨kept_step kept ready uncontended.undisputed,
      closing_step kept closing ready uncontended.findable,
      swept_step kept closing swept ready uncontended.counted⟩
  exact invariant.reachable reached

end KtBridge.Pump
