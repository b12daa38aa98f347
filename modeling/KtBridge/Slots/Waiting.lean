import KtBridge.Slots.Ramp

/-! # What a parked reservation waits for

A refused call of `reserve_slot` is woken by a drop, by an update, or by its ramp timer.
Whatever else refused it stays so until a drop or an update begins, which then notifies
it. But a call refused for the ramp reads the clock again for its wait: if the ramp has
run out in between, the timer is not armed, and the call parks although a reservation
would be granted (`timer_is_not_armed`). With the ramp still running there, every call
parked without a timer is rightly held back (`parked_calls_are_held_back`).
-/

namespace KtBridge.Slots

open Foundation

namespace JvmSlots

variable {slots : JvmSlots} {kind : SlotKind} {supplier : Supplier} {queue : Bool} {allowed : UInt32}

/-- A reservation is refused, and the passing of time does not change it. -/
def Blocked (slots : JvmSlots) (kind : SlotKind) (supplier : Supplier) (queue : Bool)
    (allowed : UInt32) : Prop :=
  slots.noRoom supplier queue ≠ none ∨
    slots.required supplier queue = false ∧ allows allowed kind = false

theorem Blocked.refused (blocked : slots.Blocked kind supplier queue allowed) (now : Nat) :
    slots.refusal kind supplier queue allowed now ≠ none := by
  unfold refusal
  rcases blocked with full | ⟨optional, pressure⟩
  · cases room : slots.noRoom supplier queue with
    | none => exact absurd room full
    | some refused => exact Option.some_ne_none _
  · cases room : slots.noRoom supplier queue with
    | none => simp [optional, pressure]
    | some refused => exact Option.some_ne_none _

/-- A grant to another reservation makes no room. -/
theorem noRoom_issue (other : Bool) (full : slots.noRoom supplier queue ≠ none) :
    slots.noRoom (supplier.issue other) queue ≠ none := by
  unfold noRoom at full ⊢
  rw [Supplier.total_issue]
  split at full
  · next above =>
    rw [if_pos (by omega)]
    exact Option.some_ne_none _
  · split at full
    · next last =>
      -- Whoever got the last slot, the supplier is full now.
      rw [if_pos (by omega)]
      exact Option.some_ne_none _
    · exact absurd rfl full

theorem Blocked.issue (blocked : slots.Blocked kind supplier queue allowed) (other : Bool) :
    slots.Blocked kind (supplier.issue other) queue allowed :=
  blocked.imp (noRoom_issue other) fun ⟨optional, pressure⟩ =>
    ⟨required_issue other optional, pressure⟩

end JvmSlots

variable (slots : SlotKind → JvmSlots)

/-- A refused call that no timer is going to wake. -/
def Phase.keptBack : Phase → Bool
  | .refused refusal => refusal ≠ .ramp
  | .parked timer => timer = none
  | _ => false

/-- Since no drop and no update began, what refused a call still does. -/
def State.KeptBack (state : State) : Prop :=
  ∀ (place : Nat) (call : Reservation), state.calls[place]? = some call → call.phase.keptBack →
    place ∈ state.fresh call.kind →
    (slots call.kind).Blocked call.kind (state.supplier call.kind) (queueOf slots call) state.allowed

/-- A call refused for the ramp computes its wait while the ramp still runs. -/
def RampRunning (state : State) : Action → Prop
  | .wait _ call .ramp =>
      (state.supplier call.kind).elapsed state.now < (slots call.kind).ramp
  | _ => True

variable {slots} {state : State} {place : Nat} {call : Reservation} {old new : Phase}

namespace State.KeptBack

/-- One reservation moves on; the others stay refused as they were. -/
theorem change (kept : state.KeptBack slots) (next : State) (moved : Reservation)
    (here : state.At place call old) (calls : next.calls = state.calls.set place moved)
    (allowed : next.allowed = state.allowed)
    (fresh : ∀ kind other, other ≠ place → other ∈ next.fresh kind → other ∈ state.fresh kind)
    (still : ∀ kind queue, (∃ other, other ∈ next.fresh kind ∧ other ≠ place) →
      (slots kind).Blocked kind (state.supplier kind) queue state.allowed →
      (slots kind).Blocked kind (next.supplier kind) queue state.allowed)
    (own : moved.phase.keptBack → place ∈ next.fresh moved.kind →
      (slots moved.kind).Blocked moved.kind (next.supplier moved.kind) (queueOf slots moved)
        state.allowed) :
    next.KeptBack slots := by
  intro other current
  rw [calls, getElem?_change here.1, allowed]
  split
  · next same =>
    intro taken
    obtain rfl := Option.some.inj taken
    rw [same]
    exact own
  · next different =>
    intro taken back member
    apply still _ _ ⟨other, member, different⟩
    exact kept other current taken back (fresh _ other different member)

/-- A reservation moves on, and is not kept back. -/
theorem pass (kept : state.KeptBack slots) (new : Phase) (here : state.At place call old)
    (free : new.keptBack = false) : (state.move place call new).KeptBack slots := by
  apply kept.change (state.move place call new) { call with phase := new } here rfl rfl
    (fun _ _ _ member => member) (fun _ _ _ blocked => blocked)
  intro back
  rw [free] at back
  cases back

/-- A refusal for anything but the ramp keeps the call back. -/
theorem refuse (kept : state.KeptBack slots) (here : state.At place call old) (refusal : Refusal)
    (blocked : refusal ≠ .ramp → (slots call.kind).Blocked call.kind (state.supplier call.kind)
      (queueOf slots call) state.allowed) :
    (state.refuse place call refusal).KeptBack slots := by
  apply kept.change (state.refuse place call refusal) { call with phase := call.refuse refusal } here
    rfl rfl _ (fun _ _ _ blocked => blocked)
  · intro back _
    apply blocked
    rintro rfl
    simp only [Reservation.refuse] at back
    split at back <;> cases back
  · intro kind other different member
    simp only [State.refuse, Function.update_apply] at member
    split at member
    · next same =>
        rw [same]
        exact (List.mem_cons.mp member).resolve_left different
    · exact member

theorem notifyWaiters (kept : state.KeptBack slots) : state.notifyWaiters.KeptBack slots := by
  intro other current taken
  simp only [State.notifyWaiters, List.getElem?_map, Option.map_eq_some_iff] at taken
  obtain ⟨before, taken, rfl⟩ := taken
  exact kept other before taken

theorem join (kept : state.KeptBack slots) (next : State) (kind : SlotKind)
    (isSticky blocking : Bool)
    (joined : next.calls = state.calls ++ [Reservation.new kind isSticky blocking])
    (supplier : next.supplier = state.supplier) (allowed : next.allowed = state.allowed)
    (fresh : next.fresh = state.fresh) : next.KeptBack slots := by
  intro other current
  rw [joined, supplier, allowed, fresh, List.getElem?_append]
  split
  · exact kept other current
  · intro taken back
    have new := List.mem_singleton.mp (List.mem_of_getElem? taken)
    rw [new] at back
    cases blocking <;> cases back

/-- The call parks: without a timer only if it is kept back. -/
theorem wait (kept : state.KeptBack slots) {refusal : Refusal}
    (here : state.At place call (.refused refusal))
    (running : RampRunning slots state (.wait place call refusal)) :
    (effect slots state (.wait place call refusal)).KeptBack slots := by
  apply kept.change (effect slots state (.wait place call refusal)) { call with phase := _ } here rfl
    rfl (fun _ _ _ member => member) (fun _ _ _ blocked => blocked)
  intro back member
  obtain ⟨taken, phase⟩ := here
  apply kept place call taken _ member
  rw [phase]
  simp only [Phase.keptBack, decide_eq_true_eq] at back ⊢
  rintro rfl
  -- A call refused for the ramp has its timer armed.
  have ticking : (state.supplier call.kind).elapsed state.now < (slots call.kind).ramp := running
  rw [if_neg (by omega)] at back
  cases back

theorem step (kept : state.KeptBack slots) (decided : state.Decided slots) (action : Action)
    (ready : (machine slots).guard state action) (running : RampRunning slots state action) :
    ((machine slots).effect state action).KeptBack slots := by
  cases action with
  | advance by_ => exact kept
  | update allowed =>
      intro other current _ _ member
      cases member
  | announce => exact kept.notifyWaiters
  | reserveSlot kind isSticky => exact kept.join _ kind isSticky true rfl rfl rfl rfl
  | tryReserveSlot kind isSticky => exact kept.join _ kind isSticky false rfl rfl rfl rfl
  | register place call =>
      exact kept.change (effect slots state (.register place call))
        { call with notified := false, phase := .locking } ready rfl rfl
        (fun _ _ _ member => member) (fun _ _ _ blocked => blocked)
        (fun impossible => by cases impossible)
  | lock place call => exact kept.pass .testing ready.1 rfl
  | test place call =>
      simp only [machine, effect]
      split
      · next refusal full =>
          apply kept.refuse ready
          intro _
          left
          rw [full]
          exact Option.some_ne_none _
      · split
        · exact kept.pass _ ready rfl
        · exact kept.pass _ ready rfl
  | readGate place call =>
      obtain ⟨-, optional⟩ := decided.at_ ready
      simp only [machine, effect]
      split
      · exact kept.pass _ ready rfl
      · next pressure =>
          apply kept.refuse ready
          intro _
          exact Or.inr ⟨optional, Bool.eq_false_iff.mpr pressure⟩
  | readClock place call allowed =>
      simp only [machine, effect]
      split
      · exact kept.refuse ready _ fun other => absurd rfl other
      · exact kept.pass _ ready rfl
  | issue place call decision =>
      apply kept.change (effect slots state (.issue place call decision))
        { call with phase := .counting decision } ready rfl rfl (fun _ _ _ member => member) _
        (fun impossible => by cases impossible)
      intro kind queue _ blocked
      simp only [effect, State.setSupplier, Function.update_apply]
      split
      · next same =>
          rw [← same]
          exact blocked.issue _
      · exact blocked
  | reserve place call decision => exact kept.pass (.stamping decision) ready rfl
  | stamp place call decision =>
      apply kept.change (effect slots state (.stamp place call decision))
        { call with phase := if call.blocking then .returning else .live } ready rfl rfl
        (fun _ _ _ member => member)
      · intro kind queue _ blocked
        simp only [effect, State.setSupplier, State.setHolder, State.move,
          Function.update_apply]
        split
        · next same =>
            rw [← same]
            exact blocked
        · exact blocked
      · intro back
        simp only at back
        split at back <;> cases back
  | finish place call => exact kept.pass .live ready rfl
  | wait place call refusal => exact kept.wait ready.1 running
  | wake place call timer => exact kept.pass _ ready.1 rfl
  | cancel place call timer => exact kept.pass .finished ready rfl
  | drop place call =>
      apply kept.change (effect slots state (.drop place call)) { call with phase := .unreserving }
        ready.1 rfl rfl _ _
        (fun impossible => by cases impossible)
      · intro kind other _ member
        simp only [effect, Function.update_apply] at member
        split at member
        · cases member
        · exact member
      · intro kind queue some_ blocked
        obtain ⟨other, member, -⟩ := some_
        simp only [effect, Function.update_apply] at member
        split at member
        · cases member
        · next different =>
            simp only [effect, State.setSupplier, Function.update_of_ne different]
            exact blocked
  | unreserve place call => exact kept.pass .notifying ready rfl
  | notify place call => exact (kept.pass .finished ready rfl).notifyWaiters

end State.KeptBack

/-! ## Drops and updates are heard -/

/-- A permit that was taken back, and about whose slot nobody was notified yet. -/
def Phase.dropping : Phase → Bool
  | .unreserving | .notifying => true
  | _ => false

/-- A refused call of `reserve_slot`, parked or about to. -/
def Phase.asleep : Phase → Bool
  | .refused _ | .parked _ => true
  | _ => false

/-- A drop of the kind or an update has begun, and is going to notify. -/
def State.Announced (state : State) (kind : SlotKind) : Prop :=
  0 < state.announcing ∨ ∃ (place : Nat) (call : Reservation), state.calls[place]? = some call ∧
    call.kind = kind ∧ call.phase.dropping

/-- A refused call has not missed anything: a drop or an update since then has notified it,
or is going to. -/
def State.Heard (state : State) : Prop :=
  ∀ (place : Nat) (call : Reservation), state.calls[place]? = some call → call.phase.asleep →
    place ∈ state.fresh call.kind ∨ call.notified ∨ state.Announced call.kind

namespace State

/-- A drop under way stays under way while reservations move. -/
theorem Announced.change {kind : SlotKind} (announced : state.Announced kind) (next : State)
    (moved : Reservation) (here : state.At place call old)
    (calls : next.calls = state.calls.set place moved) (same : moved.kind = call.kind)
    (announcing : state.announcing ≤ next.announcing)
    (dropping : old.dropping → moved.phase.dropping) : next.Announced kind := by
  rcases announced with update | ⟨other, current, taken, of_kind, drops⟩
  · exact Or.inl (update.trans_le announcing)
  · right
    by_cases own : other = place
    · subst own
      obtain rfl := Option.some.inj (taken.symm.trans here.1)
      refine ⟨other, moved, ?_, same.trans of_kind, dropping (here.2 ▸ drops)⟩
      rw [calls, getElem?_change here.1, if_pos rfl]
    · refine ⟨other, current, ?_, of_kind, drops⟩
      rw [calls, getElem?_change here.1, if_neg own]
      exact taken

namespace Heard

/-- One reservation moves on, and no drop or update ends. -/
theorem change (heard : state.Heard) (next : State) (moved : Reservation)
    (here : state.At place call old) (calls : next.calls = state.calls.set place moved)
    (same : moved.kind = call.kind) (announcing : next.announcing = state.announcing)
    (dropping : old.dropping → moved.phase.dropping)
    (fresh : ∀ kind other, other ∈ state.fresh kind → other ∈ next.fresh kind ∨ next.Announced kind)
    (own : moved.phase.asleep → place ∈ next.fresh call.kind ∨
      old.asleep ∧ moved.notified = call.notified) : next.Heard := by
  have keep : ∀ other current, state.calls[other]? = some current → current.phase.asleep →
      other ∈ next.fresh current.kind ∨ current.notified ∨ next.Announced current.kind := by
    intro other current taken asleep
    rcases heard other current taken asleep with member | notified | announced
    · rcases fresh _ other member with still | announced
      · exact Or.inl still
      · exact Or.inr (Or.inr announced)
    · exact Or.inr (Or.inl notified)
    · exact Or.inr (Or.inr (announced.change next moved here calls same announcing.ge dropping))
  intro other current
  rw [calls, getElem?_change here.1]
  split
  · next at_ =>
    intro taken asleep
    obtain rfl := Option.some.inj taken
    rw [at_, same]
    rcases own asleep with member | ⟨was, notified⟩
    · exact Or.inl member
    · rw [notified]
      exact keep place call here.1 (here.2 ▸ was)
  · exact keep other current

/-- A reservation that is not refused moves on. -/
theorem pass (heard : state.Heard) (new : Phase) (here : state.At place call old)
    (awake : new.asleep = false) (dropping : old.dropping → new.dropping) :
    (state.move place call new).Heard := by
  apply heard.change (state.move place call new) { call with phase := new } here rfl rfl rfl dropping
    (fun _ _ member => Or.inl member)
  intro asleep
  rw [awake] at asleep
  cases asleep

/-- A refused call is fresh. -/
theorem refuse (heard : state.Heard) (here : state.At place call old) (refusal : Refusal)
    (locked : old.locked) : (state.refuse place call refusal).Heard := by
  have held : old.dropping = false := by
    cases old <;> first | rfl | cases locked
  apply heard.change (state.refuse place call refusal) { call with phase := call.refuse refusal } here
    rfl rfl rfl
  · intro drops
    rw [held] at drops
    cases drops
  · intro kind other member
    left
    simp only [State.refuse, Function.update_apply]
    split
    · next same => exact List.mem_cons_of_mem _ (same ▸ member)
    · exact member
  · intro _
    left
    simp only [State.refuse, Function.update_self]
    exact List.mem_cons_self ..

/-- Everybody is notified. -/
theorem notifyWaiters (state next : State) (calls : next.calls = state.notifyWaiters.calls) :
    next.Heard := by
  intro other current taken _
  rw [calls] at taken
  simp only [State.notifyWaiters, List.getElem?_map, Option.map_eq_some_iff] at taken
  obtain ⟨before, taken, rfl⟩ := taken
  exact Or.inr (Or.inl rfl)

theorem join (heard : state.Heard) (next : State) (kind : SlotKind) (isSticky blocking : Bool)
    (joined : next.calls = state.calls ++ [Reservation.new kind isSticky blocking])
    (fresh : next.fresh = state.fresh) (announcing : next.announcing = state.announcing) :
    next.Heard := by
  intro other current
  rw [joined, fresh, List.getElem?_append]
  split
  · next inside =>
    intro taken asleep
    refine (heard other current taken asleep).imp_right (Or.imp_right ?_)
    rintro (update | ⟨third, dropped, there, of_kind, drops⟩)
    · exact Or.inl (announcing ▸ update)
    · refine Or.inr ⟨third, dropped, ?_, of_kind, drops⟩
      rw [joined, List.getElem?_append_left (place_lt there)]
      exact there
  · intro taken asleep
    have new := List.mem_singleton.mp (List.mem_of_getElem? taken)
    rw [new] at asleep
    cases blocking <;> cases asleep

theorem step (heard : state.Heard) (action : Action) (ready : (machine slots).guard state action) :
    ((machine slots).effect state action).Heard := by
  cases action with
  | advance by_ => exact heard
  | update allowed => exact fun _ _ _ _ => Or.inr (Or.inr (Or.inl (Nat.succ_pos _)))
  | announce => exact notifyWaiters state _ rfl
  | reserveSlot kind isSticky => exact heard.join _ kind isSticky true rfl rfl rfl
  | tryReserveSlot kind isSticky => exact heard.join _ kind isSticky false rfl rfl rfl
  | register place call =>
      exact heard.change (effect slots state (.register place call))
        { call with notified := false, phase := .locking } ready rfl rfl rfl
        (fun impossible => by cases impossible) (fun _ _ member => Or.inl member)
        (fun impossible => by cases impossible)
  | lock place call =>
      exact heard.pass .testing ready.1 rfl (fun impossible => by cases impossible)
  | test place call =>
      simp only [machine, effect]
      split
      · exact heard.refuse ready _ rfl
      · split
        · exact heard.pass _ ready rfl (fun impossible => by cases impossible)
        · exact heard.pass _ ready rfl (fun impossible => by cases impossible)
  | readGate place call =>
      simp only [machine, effect]
      split
      · exact heard.pass _ ready rfl (fun impossible => by cases impossible)
      · exact heard.refuse ready _ rfl
  | readClock place call allowed =>
      simp only [machine, effect]
      split
      · exact heard.refuse ready _ rfl
      · exact heard.pass _ ready rfl (fun impossible => by cases impossible)
  | issue place call decision =>
      exact heard.pass (.counting decision) ready rfl (fun impossible => by cases impossible)
  | reserve place call decision =>
      exact heard.pass (.stamping decision) ready rfl (fun impossible => by cases impossible)
  | stamp place call decision =>
      exact heard.pass (if call.blocking then .returning else .live) ready (by split <;> rfl)
        (fun impossible => by cases impossible)
  | finish place call => exact heard.pass .live ready rfl (fun impossible => by cases impossible)
  | wait place call refusal =>
      exact heard.change (effect slots state (.wait place call refusal)) { call with phase := _ }
        ready.1 rfl rfl rfl (fun impossible => by cases impossible)
        (fun _ _ member => Or.inl member) (fun _ => Or.inr ⟨rfl, rfl⟩)
  | wake place call timer =>
      exact heard.pass _ ready.1 rfl (fun impossible => by cases impossible)
  | cancel place call timer =>
      exact heard.pass .finished ready rfl (fun impossible => by cases impossible)
  | drop place call =>
      apply heard.change (effect slots state (.drop place call)) { call with phase := .unreserving }
        ready.1 rfl rfl rfl (fun impossible => by cases impossible) _
        (fun impossible => by cases impossible)
      intro kind other member
      simp only [effect, Function.update_apply]
      split
      · next same =>
          right
          refine Or.inr ⟨place, { call with phase := .unreserving }, ?_, same.symm, rfl⟩
          exact List.getElem?_set_self (place_lt ready.1.1)
      · exact Or.inl member
  | unreserve place call => exact heard.pass .notifying ready rfl (fun _ => rfl)
  | notify place call => exact notifyWaiters (state.move place call .finished) _ rfl

end Heard

end State

theorem heard_invariant : (machine slots).Invariant State.Heard where
  start := fun _ _ impossible => by cases impossible
  step := fun _ action _ heard ready => heard.step action ready

theorem keptBack_invariant :
    ((machine slots).restrict (RampRunning slots)).Invariant (State.KeptBack slots) where
  start := fun _ _ impossible => by cases impossible
  step := fun _ action reached kept ready =>
    kept.step (decided_invariant.reachable reached.of_restrict) action ready.1 ready.2

/-- Every parked call waits for something that is going to happen, or is told. -/
structure State.HeldBack (slots : SlotKind → JvmSlots) (state : State) : Prop where
  /-- Parked without a timer, a call would be refused, until a drop of its kind or an update
  begins. -/
  refused : ∀ place call, state.At place call (.parked none) → place ∈ state.fresh call.kind →
    (slots call.kind).refusal call.kind (state.supplier call.kind) (queueOf slots call)
      state.allowed state.now ≠ none
  /-- And from there on, the notification has come or is under way. -/
  heard : ∀ place call timer, state.At place call (.parked timer) → place ∉ state.fresh call.kind →
    call.notified ∨ state.Announced call.kind

/-- In every run in which a call refused for the ramp computes its wait while the ramp still
runs, a call parked without a timer is held back until the next drop or update. -/
theorem parked_calls_are_held_back (slots : SlotKind → JvmSlots) (trace : List Action)
    (runs : ((machine slots).restrict (RampRunning slots)).Runs start trace) :
    ((machine slots).after start trace).HeldBack slots := by
  have reached : ((machine slots).restrict (RampRunning slots)).Reachable
      ((machine slots).after start trace) := GuardedSystem.Reachable.start.run runs
  have kept := keptBack_invariant.reachable reached
  have heard := heard_invariant.reachable reached.of_restrict
  constructor
  · intro place call here member
    have blocked := kept place call here.1 (by rw [here.2]; rfl) member
    exact blocked.refused _
  · intro place call timer here gone
    exact (heard place call here.1 (by rw [here.2]; rfl)).resolve_left gone

/-- The ramp runs out between the two clock readings of one turn of the loop. -/
def rampRunsOut : List Action :=
  let activity (blocking notified : Bool) (phase : Phase) : Reservation :=
    { kind := .activity, isSticky := false, blocking := blocking, notified := notified, phase := phase }
  let first : Decision := { total := 0, held := 0, reading := none }
  [.tryReserveSlot .activity false, .lock 0 (activity false false .locking),
    .test 0 (activity false false .testing), .issue 0 (activity false false (.issuing first)) first,
    .reserve 0 (activity false false (.counting first)) first,
    .stamp 0 (activity false false (.stamping first)) first,
    .update 2, .announce, .advance 19,
    .reserveSlot .activity false, .register 1 (activity true false .registering),
    .lock 1 (activity true false .locking), .test 1 (activity true false .testing),
    .readGate 1 (activity true false .gating), .readClock 1 (activity true false (.timing 2)) 2,
    .advance 1,
    .wait 1 (activity true false (.refused .ramp)) .ramp]

/-- The call is parked without a timer and with nothing to wake it, and a reservation would
be granted. -/
theorem timer_is_not_armed :
    let slots : SlotKind → JvmSlots := fun _ =>
      { minimum := 1, maximum := 2, ramp := 20, sticky := false }
    let call : Reservation :=
      { kind := .activity, isSticky := false, blocking := true, notified := false
        phase := .parked none }
    let state := (machine slots).after start rampRunsOut
    (machine slots).Runs start rampRunsOut ∧ state.At 1 call (.parked none) ∧
      1 ∈ state.fresh .activity ∧ state.announcing = 0 ∧
      (slots .activity).refusal .activity (state.supplier .activity) (queueOf slots call)
        state.allowed state.now = none ∧
      ¬ state.HeldBack slots := by
  intro slots call state
  have runs : (machine slots).Runs start rampRunsOut := by decide +kernel
  have parked : state.At 1 call (.parked none) := by decide +kernel
  have member : 1 ∈ state.fresh .activity := by decide +kernel
  have granted : (slots .activity).refusal .activity (state.supplier .activity) (queueOf slots call)
      state.allowed state.now = none := by decide +kernel
  refine ⟨runs, parked, member, by decide +kernel, granted, ?_⟩
  intro held
  exact held.refused 1 call parked member granted

instance (state : State) (action : Action) : Decidable (RampRunning slots state action) :=
  decidable_of_iff
    ((match action with
      | .wait _ call .ramp =>
          decide ((state.supplier call.kind).elapsed state.now < (slots call.kind).ramp)
      | _ => true) = true)
    (by
      unfold RampRunning
      split
      · exact decide_eq_true_iff
      · exact iff_of_true rfl trivial)

instance (state : State) (action : Action) :
    Decidable (((machine slots).restrict (RampRunning slots)).guard state action) :=
  inferInstanceAs (Decidable (_ ∧ _))

/-- A supplier of at most two permits. -/
def twoPermits : SlotKind → JvmSlots :=
  fun _ => { minimum := 1, maximum := 2, ramp := 20, sticky := false }

/-- A call of `reserve_slot` for an activity. -/
def activityCall (phase : Phase) : Reservation where
  kind := .activity
  isSticky := false
  blocking := true
  notified := false
  phase := phase

/-- A call refused for the ramp waits with its timer, and is granted when it fires. -/
def rampWaitedFor : List Action :=
  let tried (phase : Phase) : Reservation := { activityCall phase with blocking := false }
  let first : Decision := { total := 0, held := 0, reading := none }
  let second : Decision := { total := 1, held := 1, reading := some (2, 20) }
  [.tryReserveSlot .activity false, .lock 0 (tried .locking), .test 0 (tried .testing),
    .issue 0 (tried (.issuing first)) first, .reserve 0 (tried (.counting first)) first,
    .stamp 0 (tried (.stamping first)) first, .update 2, .announce, .advance 19,
    .reserveSlot .activity false, .register 1 (activityCall .registering),
    .lock 1 (activityCall .locking), .test 1 (activityCall .testing),
    .readGate 1 (activityCall .gating), .readClock 1 (activityCall (.timing 2)) 2,
    .wait 1 (activityCall (.refused .ramp)) .ramp, .advance 1,
    .wake 1 (activityCall (.parked (some 20))) (some 20),
    .register 1 (activityCall .registering), .lock 1 (activityCall .locking),
    .test 1 (activityCall .testing), .readGate 1 (activityCall .gating),
    .readClock 1 (activityCall (.timing 2)) 2, .issue 1 (activityCall (.issuing second)) second,
    .reserve 1 (activityCall (.counting second)) second,
    .stamp 1 (activityCall (.stamping second)) second, .finish 1 (activityCall .returning)]

/-- A third call is refused for the maximum, and parks without a timer. -/
def thirdRefused : List Action :=
  [.advance 20, .reserveSlot .activity false, .register 2 (activityCall .registering),
    .lock 2 (activityCall .locking), .test 2 (activityCall .testing),
    .wait 2 (activityCall (.refused .full)) .full]

/-- After a wait for the ramp and a wait for room, the call parked without a timer would
be refused. -/
theorem parked_calls_are_held_back_full :
    ((machine twoPermits).restrict (RampRunning twoPermits)).Runs start
      (rampWaitedFor ++ thirdRefused) ∧
    (twoPermits .activity).refusal .activity
      (((machine twoPermits).after start (rampWaitedFor ++ thirdRefused)).supplier .activity)
      (queueOf twoPermits (activityCall (.parked none)))
      ((machine twoPermits).after start (rampWaitedFor ++ thirdRefused)).allowed
      ((machine twoPermits).after start (rampWaitedFor ++ thirdRefused)).now ≠ none := by
  have runs : ((machine twoPermits).restrict (RampRunning twoPermits)).Runs start
      (rampWaitedFor ++ thirdRefused) := by decide +kernel
  have held := parked_calls_are_held_back twoPermits (rampWaitedFor ++ thirdRefused) runs
  exact ⟨runs, held.refused 2 (activityCall (.parked none)) (by decide +kernel)
    (by decide +kernel)⟩

end KtBridge.Slots
