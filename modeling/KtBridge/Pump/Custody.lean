import KtBridge.Foundation.Custody
import KtBridge.Pump.Machine

/-! # Who may resume a continuation

A continuation is kept by its caller, by the map, or by the pump thread. Whoever
removes an id from the map takes its continuation over, and only the keeper resumes
it. The one step that does not go by this rule is the caller of a failed `start`, who
looks at `isActive` whether or not its own removal found the continuation. The list of
keys that the pump thread makes at its end may moreover miss one, or fail to be made.
-/

namespace KtBridge.Pump

open Foundation

/-- Whether the caller keeps its continuation at this point. -/
def Phase.keeps : Phase → Bool
  | entered => true
  | withdrawn => true
  | retired _ found => found
  | raising _ => true
  | _ => false

/-- The continuation the pump thread took out of the map and is not done with. -/
def PumpPhase.held : PumpPhase → Option Call
  | taken call _ _ => some call
  | withdrew call _ _ => some call
  | raising call _ _ => some call
  | _ => none

/-- A step that does not bring two threads to one continuation: ids are drawn once,
and the caller of a failed `start` finds its continuation active only while the pump
thread does not keep it. -/
def Undisputed (state : State) : Action → Prop
  | .enter _ => state.entered < 2 ^ 64
  | .readActive call _ _ => state.continuation call = .active → state.pump.held ≠ some call
  | _ => True

/-- Where one key was counted, another than these was in the map then, and still is. -/
def State.StillFinds (state : State) (gone : Finset UInt64) : Prop :=
  match state.pump with
  | .listing 1 seen => ¬ seen ∩ state.keys ⊆ gone
  | _ => True

/-- A step that leaves the iterator of a list of one key something to find: one key is
counted only where there is one, and no caller then takes the last of them out before
the iterator is asked for it. -/
def Findable (state : State) : Action → Prop
  | .countKeys size => size = 1 → state.keys ≠ ∅
  | .withdraw call => state.StillFinds {requestId call}
  | .retire call _ => state.StillFinds {requestId call}
  | _ => True

/-- Whether a caller in this phase will take its own id out of the map: it has yet to see
that the pump is stopped, or has seen it, or its `start` has thrown. -/
def Phase.withdraws (running : Bool) : Phase → Bool
  | stored => true
  | checking => !running
  | refused => true
  | threw _ => true
  | _ => false

/-- Whoever withdraws from a running pump withdraws from a stopped one. -/
theorem Phase.withdraws_of_stopped {running : Bool} {phase : Phase}
    (withdraws : phase.withdraws running = true) : phase.withdraws false = true := by
  cases phase <;> first | rfl | exact withdraws

/-- Whether the caller will. -/
def State.withdraws (state : State) (call : Call) : Bool :=
  (state.phase call).withdraws state.running

/-- The ids in the map that nobody but the pump thread will take out. -/
def State.due (state : State) : List UInt64 :=
  state.pending.keys.filter fun id => (state.pending.lookup id).any fun call =>
    !state.withdraws call

/-- A due id is alone in the map. -/
def State.DueAlone (state : State) : Prop := ∀ id ∈ state.due, state.pending.keys = [id]

/-- A step that does not pass over a due id: none is counted only where none is due, and
where one was counted a due id is alone in the map when the iterator is asked for one. -/
def Counted (state : State) : Action → Prop
  | .countKeys size => size = 0 → state.due = []
  | .listKeys size _ _ => size = 1 → state.DueAlone
  | _ => True

instance (state : State) (action : Action) : Decidable (Undisputed state action) :=
  decidable_of_iff
    ((match action with
      | .enter _ => decide (state.entered < 2 ^ 64)
      | .readActive call _ _ =>
          decide (state.continuation call = .active → state.pump.held ≠ some call)
      | _ => true) = true)
    (by
      cases action with
      | enter call => exact decide_eq_true_iff
      | readActive call thrown found => exact decide_eq_true_iff
      | _ => exact iff_of_true rfl trivial)

instance (state : State) (gone : Finset UInt64) : Decidable (state.StillFinds gone) := by
  unfold State.StillFinds
  split <;> infer_instance

instance (state : State) (action : Action) : Decidable (Findable state action) :=
  decidable_of_iff
    ((match action with
      | .countKeys size => decide (size = 1 → state.keys ≠ ∅)
      | .withdraw call => decide (state.StillFinds {requestId call})
      | .retire call _ => decide (state.StillFinds {requestId call})
      | _ => true) = true)
    (by
      cases action with
      | countKeys size => exact decide_eq_true_iff
      | withdraw call => exact decide_eq_true_iff
      | retire call thrown => exact decide_eq_true_iff
      | _ => exact iff_of_true rfl trivial)

instance (state : State) : Decidable state.DueAlone := List.decidableBAll _ _

instance (state : State) (action : Action) : Decidable (Counted state action) :=
  decidable_of_iff
    ((match action with
      | .countKeys size => decide (size = 0 → state.due = [])
      | .listKeys size _ _ => decide (size = 1 → state.DueAlone)
      | _ => true) = true)
    (by
      cases action with
      | countKeys size => exact decide_eq_true_iff
      | listKeys size seen stragglers => exact decide_eq_true_iff
      | _ => exact iff_of_true rfl trivial)

/-- A step that brings nobody into another's way while continuations are finished. -/
structure Uncontended (state : State) (action : Action) : Prop where
  undisputed : Undisputed state action
  findable : Findable state action
  counted : Counted state action

instance (state : State) (action : Action) : Decidable (Uncontended state action) :=
  decidable_of_iff (Undisputed state action ∧ Findable state action ∧ Counted state action)
    ⟨fun all => ⟨all.1, all.2.1, all.2.2⟩, fun all => ⟨all.1, all.2, all.3⟩⟩

/-- The runs whose steps are all uncontended. -/
def uncontended : GuardedSystem State Action := machine.restrict Uncontended

instance (state : State) (action : Action) : Decidable (uncontended.guard state action) :=
  inferInstanceAs (Decidable (guard state action ∧ Uncontended state action))

/-- Where a continuation may be kept. -/
inductive Place where
  | caller (call : Call)
  | entry (reqId : UInt64)
  | pump
  deriving DecidableEq

/-- The continuations in a place. -/
def custody (phase : Call → Phase) (pending : AList fun _ : UInt64 => Call) (pump : PumpPhase) :
    Place → List Call
  | .caller call => if (phase call).keeps then [call] else []
  | .entry id => (pending.lookup id).toList
  | .pump => pump.held.toList

def State.holding (state : State) : Place → List Call :=
  custody state.phase state.pending state.pump

/-- The first `2 ^ 64` ids are distinct. -/
theorem requestId_inj {first second : Nat} (firstFits : first < 2 ^ 64)
    (secondFits : second < 2 ^ 64) (same : requestId first = requestId second) :
    first = second := by
  have equal := congrArg UInt64.toNat same
  simp only [requestId, UInt64.toNat_ofNat'] at equal
  omega

section Moves

variable {phase : Call → Phase} {pending : AList fun _ : UInt64 => Call} {pump : PumpPhase}

/-- A caller that goes on without its continuation changing hands. -/
theorem custody_phase {call : Call} {next : Phase} (same : next.keeps = (phase call).keeps) :
    custody (Function.update phase call next) pending pump = custody phase pending pump := by
  funext place
  cases place with
  | caller other =>
      by_cases here : other = call
      · subst here
        simp only [custody, Function.update_self, same]
      · simp only [custody, Function.update_of_ne here]
  | _ => rfl

/-- The pump thread goes on without taking or leaving a continuation. -/
theorem custody_pump {next : PumpPhase} (same : next.held = pump.held) :
    custody phase pending next = custody phase pending pump := by
  funext place
  cases place with
  | pump => simp only [custody, same]
  | _ => rfl

/-- A caller puts its continuation into the map. -/
theorem transfer_store {call : Call} {id : UInt64} {next : Phase} (kept : (phase call).keeps)
    (absent : pending.lookup id = none) (given : next.keeps = false) :
    Transfer (custody phase pending pump)
      (custody (Function.update phase call next) (pending.insert id call) pump)
      (.caller call) (.entry id) := by
  apply Transfer.single call
  · intro same
    cases same
  · simp only [custody, kept, ↓reduceIte]
  · simp only [custody, absent, Option.toList_none]
  · simp only [custody, Function.update_self, given, Bool.false_eq_true, ↓reduceIte]
  · simp only [custody, AList.lookup_insert, Option.toList_some]
  · intro other notCaller notEntry
    cases other with
    | caller other =>
        have differs : other ≠ call := fun same => notCaller (congrArg Place.caller same)
        simp only [custody, Function.update_of_ne differs]
    | entry other =>
        have differs : other ≠ id := fun same => notEntry (congrArg Place.entry same)
        simp only [custody, AList.lookup_insert_ne differs]
    | pump => rfl

/-- A caller takes its continuation back out of the map. -/
theorem transfer_withdraw {call : Call} {id : UInt64} {next : Phase}
    (present : pending.lookup id = some call) (lacked : (phase call).keeps = false)
    (got : next.keeps) :
    Transfer (custody phase pending pump)
      (custody (Function.update phase call next) (pending.erase id) pump)
      (.entry id) (.caller call) := by
  apply Transfer.single call
  · intro same
    cases same
  · simp only [custody, present, Option.toList_some]
  · simp only [custody, lacked, Bool.false_eq_true, ↓reduceIte]
  · simp only [custody, AList.lookup_erase, Option.toList_none]
  · simp only [custody, Function.update_self, got, ↓reduceIte]
  · intro other notEntry notCaller
    cases other with
    | caller other =>
        have differs : other ≠ call := fun same => notCaller (congrArg Place.caller same)
        simp only [custody, Function.update_of_ne differs]
    | entry other =>
        have differs : other ≠ id := fun same => notEntry (congrArg Place.entry same)
        simp only [custody, AList.lookup_erase_ne differs]
    | pump => rfl

/-- The pump thread takes a continuation out of the map. -/
theorem transfer_take {call : Call} {id : UInt64} {next : PumpPhase}
    (present : pending.lookup id = some call) (lacked : pump.held = none)
    (got : next.held = some call) :
    Transfer (custody phase pending pump) (custody phase (pending.erase id) next)
      (.entry id) .pump := by
  apply Transfer.single call
  · intro same
    cases same
  · simp only [custody, present, Option.toList_some]
  · simp only [custody, lacked, Option.toList_none]
  · simp only [custody, AList.lookup_erase, Option.toList_none]
  · simp only [custody, got, Option.toList_some]
  · intro other notEntry notPump
    cases other with
    | caller other => rfl
    | entry other =>
        have differs : other ≠ id := fun same => notEntry (congrArg Place.entry same)
        simp only [custody, AList.lookup_erase_ne differs]
    | pump => exact absurd rfl notPump

/-- Removing an absent id changes nothing. -/
theorem custody_erase_absent {id : UInt64} (absent : pending.lookup id = none) :
    custody phase (pending.erase id) pump = custody phase pending pump := by
  funext place
  cases place with
  | entry other =>
      by_cases here : other = id
      · subst here
        simp only [custody, AList.lookup_erase, absent]
      · simp only [custody, AList.lookup_erase_ne here]
  | _ => rfl

/-- A caller is done with its continuation. -/
theorem release_caller {call : Call} {next : Phase} (kept : (phase call).keeps)
    (given : next.keeps = false) (exclusive : Exclusive (custody phase pending pump)) :
    Exclusive (custody (Function.update phase call next) pending pump) ∧
      ∀ other, Held (custody (Function.update phase call next) pending pump) other ↔
        Held (custody phase pending pump) other ∧ other ≠ call := by
  apply @Exclusive.release _ _ _ _ exclusive (.caller call)
  · simp only [custody, kept, ↓reduceIte]
  · simp only [custody, Function.update_self, given, Bool.false_eq_true, ↓reduceIte]
  · intro other elsewhere
    cases other with
    | caller other =>
        have differs : other ≠ call := fun same => elsewhere (congrArg Place.caller same)
        simp only [custody, Function.update_of_ne differs]
    | _ => rfl

/-- The pump thread is done with a continuation. -/
theorem release_pump {call : Call} {next : PumpPhase} (kept : pump.held = some call)
    (given : next.held = none) (exclusive : Exclusive (custody phase pending pump)) :
    Exclusive (custody phase pending next) ∧
      ∀ other, Held (custody phase pending next) other ↔
        Held (custody phase pending pump) other ∧ other ≠ call := by
  apply @Exclusive.release _ _ _ _ exclusive .pump
  · simp only [custody, kept, Option.toList_some]
  · simp only [custody, given, Option.toList_none]
  · intro other elsewhere
    cases other with
    | pump => exact absurd rfl elsewhere
    | _ => rfl

end Moves

end KtBridge.Pump
