import KtBridge.Slots.Counters

/-! # Bounds and the ramp

What a reservation found under its supplier's mutex stays true until its grant
(`State.Decided`): the total stays below the maximum, and no other grant is stamped.
So the total never exceeds the maximum, and a grant that was not required saw its
admission bit set and the ramp run out since the grant before it.
-/

namespace KtBridge.Slots

open Foundation

/-- A decision was required, or saw the kind allowed and the ramp run out. -/
structure Decision.Fair (slots : JvmSlots) (kind : SlotKind) (last now : Nat)
    (decision : Decision) : Prop where
  required : decision.reading = none →
    decision.total < slots.minimum ∨ slots.sticky ∧ decision.held = 0
  throttled : ∀ allowed at_, decision.reading = some (allowed, at_) →
    allows allowed kind ∧ last + slots.ramp ≤ at_ ∧ at_ ≤ now

theorem Decision.Fair.later {slots : JvmSlots} {kind : SlotKind} {last now later : Nat}
    {decision : Decision} (fair : decision.Fair slots kind last now) (passed : now ≤ later) :
    decision.Fair slots kind last later where
  required := fair.required
  throttled := by
    intro allowed at_ read
    obtain ⟨allows, ramp, past⟩ := fair.throttled allowed at_ read
    exact ⟨allows, ramp, past.trans passed⟩

variable (slots : SlotKind → JvmSlots)

/-- What a reservation has found out so far holds of its supplier. -/
def Reservation.Decided (supplier : Supplier) (now : Nat) (call : Reservation) : Prop :=
  match call.phase with
  | .gating =>
      (slots call.kind).noRoom supplier (queueOf slots call) = none ∧
        (slots call.kind).required supplier (queueOf slots call) = false
  | .timing allowed =>
      (slots call.kind).noRoom supplier (queueOf slots call) = none ∧
        (slots call.kind).required supplier (queueOf slots call) = false ∧ allows allowed call.kind
  | .issuing decision =>
      (slots call.kind).noRoom supplier (queueOf slots call) = none ∧
        decision.total = supplier.total ∧ decision.held = supplier.issued (queueOf slots call) ∧
        decision.Fair (slots call.kind) call.kind supplier.lastIssued now
  | .counting decision | .stamping decision =>
      decision.Fair (slots call.kind) call.kind supplier.lastIssued now
  | _ => True

/-- The stamp of the latest grant; the supplier was made at zero. -/
def lastStamp : List Grant → Nat
  | [] => 0
  | grant :: _ => grant.stamp

/-- Every grant was fair after the one before it. -/
def Paced (slots : JvmSlots) (kind : SlotKind) : List Grant → Prop
  | [] => True
  | grant :: earlier =>
      grant.decision.Fair slots kind (lastStamp earlier) grant.stamp ∧ Paced slots kind earlier

/-- The bounds and the grants of every supplier, and what is found out so far. -/
structure State.Decided (state : State) : Prop where
  below : ∀ kind, (state.supplier kind).total ≤ (slots kind).maximum
  clock : ∀ kind, (state.supplier kind).lastIssued ≤ state.now
  stamped : ∀ kind, (state.supplier kind).lastIssued = lastStamp (state.grants kind)
  paced : ∀ kind, Paced (slots kind) kind (state.grants kind)
  found : ∀ (place : Nat) (call : Reservation), state.calls[place]? = some call →
    call.Decided slots (state.supplier call.kind) state.now

theorem decided_start : start.Decided slots where
  below := fun _ => Nat.zero_le _
  clock := fun _ => le_rfl
  stamped := fun _ => rfl
  paced := fun _ => trivial
  found := fun _ _ impossible => by cases impossible

variable {slots} {state : State} {place : Nat} {call : Reservation} {old new : Phase}

/-- Without the mutex nothing is found out yet. -/
theorem Reservation.decided_of_unlocked {supplier : Supplier} {now : Nat}
    (unlocked : call.phase.locked = false) : call.Decided slots supplier now := by
  unfold Reservation.Decided
  cases phase : call.phase <;> rw [phase] at unlocked <;> trivial

/-- What is found out stays found out while the time passes. -/
theorem Reservation.Decided.later {supplier : Supplier} {now later : Nat}
    (decided : call.Decided slots supplier now) (passed : now ≤ later) :
    call.Decided slots supplier later := by
  unfold Reservation.Decided at decided ⊢
  cases phase : call.phase with
  | issuing decision =>
      rw [phase] at decided
      exact ⟨decided.1, decided.2.1, decided.2.2.1, decided.2.2.2.later passed⟩
  | counting decision =>
      rw [phase] at decided
      exact decided.later passed
  | stamping decision =>
      rw [phase] at decided
      exact decided.later passed
  | _ =>
      rw [phase] at decided
      exact decided

namespace State.Decided

/-- What a reservation in a phase has found out. -/
theorem at_ (decided : state.Decided slots) (here : state.At place call old) :
    Reservation.Decided slots (state.supplier call.kind) state.now { call with phase := old } := by
  obtain ⟨taken, rfl⟩ := here
  exact decided.found place call taken

/-- One reservation moves on. Its supplier changes only while no other has the mutex. -/
theorem change (decided : state.Decided slots) (held : state.Held) (here : state.At place call old)
    (supplier : Supplier) (moved : Reservation) (kind : moved.kind = call.kind)
    (own : moved.Decided slots supplier state.now)
    (quiet : supplier = state.supplier call.kind ∨ state.holder call.kind = none ∨ old.locked)
    (other : Nat) (current : Reservation)
    (taken : (state.calls.set place moved)[other]? = some current) :
    current.Decided slots (Function.update state.supplier call.kind supplier current.kind)
      state.now := by
  rw [getElem?_change here.1] at taken
  split at taken
  · obtain rfl := Option.some.inj taken
    rw [kind, Function.update_self]
    exact own
  · next different =>
    rw [Function.update_apply]
    split
    · next same =>
      rcases quiet with quiet | quiet
      · rw [quiet, ← same]
        exact decided.found other current taken
      · apply Reservation.decided_of_unlocked
        by_contra locked
        have holds := held.holding other current taken (by simpa using locked)
        rw [same] at holds
        rcases quiet with free | locks
        · rw [free] at holds
          cases holds
        · exact different (Option.some.inj (holds.symm.trans (held.own here locks)))
    · exact decided.found other current taken

/-- A reservation moves on, and its supplier stays as it is. -/
theorem move (decided : state.Decided slots) (held : state.Held) (here : state.At place call old)
    (moved : Reservation) (kind : moved.kind = call.kind)
    (own : moved.Decided slots (state.supplier call.kind) state.now) :
    State.Decided slots { state with calls := state.calls.set place moved } where
  below := decided.below
  clock := decided.clock
  stamped := decided.stamped
  paced := decided.paced
  found := by
    intro other current taken
    have found := decided.change held here (state.supplier call.kind) moved kind own (Or.inl rfl)
      other current taken
    rwa [Function.update_eq_self] at found

/-- A reservation goes on with what it has found out. -/
theorem go (decided : state.Decided slots) (held : state.Held) (here : state.At place call old)
    (new : Phase)
    (own : Reservation.Decided slots (state.supplier call.kind) state.now { call with phase := new }) :
    (state.move place call new).Decided slots :=
  decided.move held here { call with phase := new } rfl own

/-- A refused reservation is done with its supplier. -/
theorem refuse (decided : state.Decided slots) (held : state.Held) (here : state.At place call old)
    (refusal : Refusal) : (state.refuse place call refusal).Decided slots := by
  have moved := decided.move held here { call with phase := call.refuse refusal } rfl (by
    apply Reservation.decided_of_unlocked
    simp only [Reservation.refuse]
    split <;> rfl)
  exact ⟨moved.below, moved.clock, moved.stamped, moved.paced, moved.found⟩

/-- A reservation moves on without the mutex. -/
theorem pass (decided : state.Decided slots) (held : state.Held) (here : state.At place call old)
    (new : Phase) (unlocked : new.locked = false) : (state.move place call new).Decided slots :=
  decided.go held here new (Reservation.decided_of_unlocked unlocked)

theorem notifyWaiters (decided : state.Decided slots) : state.notifyWaiters.Decided slots where
  below := decided.below
  clock := decided.clock
  stamped := decided.stamped
  paced := decided.paced
  found := by
    intro other current taken
    simp only [State.notifyWaiters, List.getElem?_map, Option.map_eq_some_iff] at taken
    obtain ⟨before, taken, rfl⟩ := taken
    exact decided.found other before taken

theorem join (decided : state.Decided slots) (next : State) (kind : SlotKind)
    (isSticky blocking : Bool)
    (joined : next.calls = state.calls ++ [Reservation.new kind isSticky blocking])
    (supplier : next.supplier = state.supplier) (now : next.now = state.now)
    (grants : next.grants = state.grants) : next.Decided slots where
  below := by rw [supplier]; exact decided.below
  clock := by rw [supplier, now]; exact decided.clock
  stamped := by rw [supplier, grants]; exact decided.stamped
  paced := by rw [grants]; exact decided.paced
  found := by
    intro other current
    rw [joined, supplier, now, List.getElem?_append]
    split
    · exact decided.found other current
    · intro taken
      have fresh := List.mem_singleton.mp (List.mem_of_getElem? taken)
      apply Reservation.decided_of_unlocked
      rw [fresh]
      cases blocking <;> rfl

/-- The supplier's counts change with one reservation, while no other has the mutex. -/
theorem setSupplier (decided : state.Decided slots) (held : state.Held)
    (here : state.At place call old) (new : Phase) (supplier : Supplier)
    (below : supplier.total ≤ (slots call.kind).maximum)
    (last : supplier.lastIssued = (state.supplier call.kind).lastIssued)
    (own : Reservation.Decided slots supplier state.now { call with phase := new })
    (quiet : state.holder call.kind = none ∨ old.locked) :
    ((state.move place call new).setSupplier call.kind supplier).Decided slots where
  below := by
    intro kind
    simp only [State.setSupplier, State.move, Function.update_apply]
    split
    · next same =>
        rw [same]
        exact below
    · exact decided.below kind
  clock := by
    intro kind
    simp only [State.setSupplier, State.move, Function.update_apply]
    split
    · next same =>
        rw [last]
        exact decided.clock call.kind
    · exact decided.clock kind
  stamped := by
    intro kind
    simp only [State.setSupplier, State.move, Function.update_apply]
    split
    · next same =>
        rw [last, same]
        exact decided.stamped call.kind
    · exact decided.stamped kind
  paced := decided.paced
  found := decided.change held here supplier { call with phase := new } rfl own (Or.inr quiet)

/-- The grant is stamped, and is fair after the one before. -/
theorem stamp (decided : state.Decided slots) (held : state.Held) {decision : Decision}
    (here : state.At place call (.stamping decision)) :
    (effect slots state (.stamp place call decision)).Decided slots := by
  have fair : decision.Fair (slots call.kind) call.kind (state.supplier call.kind).lastIssued
      state.now := decided.at_ here
  refine ⟨?_, ?_, ?_, ?_, ?_⟩
  · intro kind
    simp only [effect, State.setSupplier, State.setHolder, State.move, Function.update_apply]
    split
    · next same =>
        rw [same]
        exact decided.below call.kind
    · exact decided.below kind
  · intro kind
    simp only [effect, State.setSupplier, State.setHolder, State.move, Function.update_apply]
    split
    · exact le_rfl
    · exact decided.clock kind
  · intro kind
    simp only [effect, State.setSupplier, State.setHolder, State.move, Function.update_apply]
    split
    · rfl
    · exact decided.stamped kind
  · intro kind
    simp only [effect, Function.update_apply]
    split
    · next same =>
        subst same
        refine ⟨?_, decided.paced call.kind⟩
        rw [← decided.stamped]
        exact fair
    · exact decided.paced kind
  · exact decided.change held here _ _ rfl
      (Reservation.decided_of_unlocked (by simp only; split <;> rfl)) (Or.inr (Or.inr rfl))

theorem step (decided : state.Decided slots) (counted : state.Counted slots) (held : state.Held)
    (action : Action) (ready : (machine slots).guard state action) :
    ((machine slots).effect state action).Decided slots := by
  cases action with
  | advance by_ =>
      exact ⟨decided.below, fun kind => (decided.clock kind).trans (Nat.le_add_right ..),
        decided.stamped, decided.paced,
        fun place call taken => (decided.found place call taken).later (Nat.le_add_right ..)⟩
  | update allowed =>
      exact ⟨decided.below, decided.clock, decided.stamped, decided.paced, decided.found⟩
  | announce =>
      have moved := decided.notifyWaiters
      exact ⟨moved.below, moved.clock, moved.stamped, moved.paced, moved.found⟩
  | reserveSlot kind isSticky => exact decided.join _ kind isSticky true rfl rfl rfl rfl
  | tryReserveSlot kind isSticky => exact decided.join _ kind isSticky false rfl rfl rfl rfl
  | register place call =>
      exact decided.move held ready { call with notified := false, phase := .locking } rfl
        (Reservation.decided_of_unlocked rfl)
  | lock place call =>
      have moved := decided.move held ready.1 { call with phase := .testing } rfl trivial
      exact ⟨moved.below, moved.clock, moved.stamped, moved.paced, moved.found⟩
  | test place call =>
      simp only [machine, effect]
      split
      · exact decided.refuse held ready _
      · next room =>
          split
          · next required =>
              apply decided.go held ready
              refine ⟨room, rfl, rfl, ?_, fun _ _ impossible => by cases impossible⟩
              intro _
              simpa [JvmSlots.required] using required
          · next optional =>
              apply decided.go held ready
              exact ⟨room, Bool.not_eq_true _ ▸ optional⟩
  | readGate place call =>
      obtain ⟨room, optional⟩ := decided.at_ ready
      simp only [machine, effect]
      split
      · next allowed => exact decided.go held ready _ ⟨room, optional, allowed⟩
      · exact decided.refuse held ready _
  | readClock place call allowed =>
      obtain ⟨room, optional, allows⟩ := decided.at_ ready
      simp only [machine, effect]
      split
      · exact decided.refuse held ready _
      · next passed =>
          apply decided.go held ready
          refine ⟨room, rfl, rfl, fun impossible => (by cases impossible), ?_⟩
          intro word at_ read
          obtain ⟨rfl, rfl⟩ := Prod.mk.inj (Option.some.inj read)
          have clock := decided.clock call.kind
          have ramp : (state.supplier call.kind).lastIssued + (slots call.kind).ramp ≤ state.now := by
            rw [Supplier.elapsed] at passed
            omega
          exact ⟨allows, ramp, le_rfl⟩
  | issue place call decision =>
      obtain ⟨room, -, -, fair⟩ := decided.at_ ready
      apply decided.setSupplier held ready (.counting decision)
        ((state.supplier call.kind).issue (queueOf slots call)) _ rfl fair (Or.inr rfl)
      rw [Supplier.total_issue]
      exact JvmSlots.total_lt_of_room room
  | reserve place call decision =>
      have fair : decision.Fair (slots call.kind) call.kind (state.supplier call.kind).lastIssued
          state.now := decided.at_ ready
      have moved := decided.move held ready { call with phase := .stamping decision } rfl fair
      exact ⟨moved.below, moved.clock, moved.stamped, moved.paced, moved.found⟩
  | stamp place call decision => exact decided.stamp held ready
  | finish place call =>
      have moved := decided.pass held ready .live rfl
      exact ⟨moved.below, moved.clock, moved.stamped, moved.paced, moved.found⟩
  | wait place call refusal => exact decided.pass held ready.1 _ rfl
  | wake place call timer => exact decided.pass held ready.1 _ rfl
  | cancel place call timer =>
      have moved := decided.pass held ready .finished rfl
      exact ⟨moved.below, moved.clock, moved.stamped, moved.paced, moved.found⟩
  | drop place call =>
      have out : 0 < (state.supplier call.kind).issued (queueOf slots call) := by
        rw [counted.issued]
        exact tally_pos _ _ ready.1 (State.Counted.has_forQueue slots call) rfl
      have less := (state.supplier call.kind).total_release _ out
      have below := decided.below call.kind
      have moved := decided.setSupplier held ready.1 .unreserving
        ((state.supplier call.kind).release (queueOf slots call)) (by omega) rfl
        (Reservation.decided_of_unlocked rfl) (Or.inl ready.2)
      exact ⟨moved.below, moved.clock, moved.stamped, moved.paced, moved.found⟩
  | unreserve place call =>
      have moved := decided.pass held ready .notifying rfl
      exact ⟨moved.below, moved.clock, moved.stamped, moved.paced, moved.found⟩
  | notify place call => exact (decided.pass held ready .finished rfl).notifyWaiters

end State.Decided

theorem decided_invariant : (machine slots).Invariant (State.Decided slots) where
  start := decided_start slots
  step := fun _ action reached decided ready =>
    decided.step (counted_invariant.reachable reached) (held_invariant.reachable reached) action ready

/-! ## The counters and the grants of every run -/

/-- The permit is out: granted, and not dropped. -/
def Phase.out : Phase → Bool
  | .returning | .live => true
  | _ => false

/-- One of the two counts of the permit has changed, and the other has not yet. -/
def Phase.midStep : Phase → Bool
  | .counting _ | .stamping _ | .unreserving => true
  | _ => false

/-- No grant and no drop of the kind is between its steps. -/
def State.Quiet (state : State) (kind : SlotKind) : Prop :=
  ∀ call ∈ state.calls, call.kind = kind → call.phase.midStep = false

/-- A grant in a paced history was fair. -/
theorem Paced.fair {slots : JvmSlots} {kind : SlotKind} {later earlier : List Grant} {grant : Grant}
    (paced : Paced slots kind (later ++ grant :: earlier)) :
    grant.decision.Fair slots kind (lastStamp earlier) grant.stamp := by
  induction later with
  | nil => exact paced.1
  | cons first rest ih => exact ih paced.2

end KtBridge.Slots
