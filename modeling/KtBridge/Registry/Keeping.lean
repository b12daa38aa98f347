import KtBridge.Registry.Machine

/-! # Who has the lock, and what is closed

What each call has in its hands: the lock, a registration, a server it knows to be closed. -/

namespace KtBridge.Registry

open Foundation

namespace Phase

/-- Whether the call has the lock of the records. -/
def inside : Phase → Bool
  | checking _ | rejecting _ | identifying _ | recording _ _ | writing _ _ | leaving _ _ => true
  | removing _ _ | rewriting _ _ | unlocking _ _ => true
  | _ => false

/-- The server that the call is registering. -/
def registers : Phase → Option Server
  | registering server | added server | checking server | rejecting server | identifying server =>
      some server
  | recording server _ | writing server _ | leaving server _ => some server
  | _ => none

/-- The server that the call is registering and has not recorded. -/
def unrecorded : Phase → Option Server
  | registering server | added server | checking server | rejecting server | identifying server =>
      some server
  | recording server _ => some server
  | _ => none

/-- The server that the call added and did not find open. -/
def unchecked : Phase → Option Server
  | added server | checking server | rejecting server => some server
  | _ => none

/-- The server that the call added and did not ask yet whether it is closed. -/
def fresh : Phase → Option Server
  | added server | checking server => some server
  | _ => none

/-- The server that the call found open and did not record. -/
def passed : Phase → Option Server
  | identifying server | recording server _ => some server
  | _ => none

/-- The server whose record the call is about to remove. -/
def clears : Phase → Option Server
  | unlisted server _ | removing server _ => some server
  | _ => none

/-- What the call recorded. -/
def recorded : Phase → Option (Server × ProcessRecord)
  | writing server record => some (server, record)
  | leaving server (some record) | registered server (some record) => some (server, record)
  | _ => none

/-- Whether the records changed since the file was written. -/
def dirty : Phase → Bool
  | writing _ _ | rewriting _ _ => true
  | _ => false

/-- Whether the call has neither the lock nor a server in its hands. -/
def outer : Phase → Bool
  | idle | closing _ _ | freeing _ _ | unregistering _ _ | counting _ | listing _ _ => true
  | sweeping _ | ending _ | stopping _ | freed _ | filtering _ _ _ | pruning _ _ => true
  | returned | thrown => true
  | _ => false

end Phase

theorem Reader.next_outer (reader : Reader) (servers : List Server) :
    (reader.next servers).outer = true := by
  cases reader <;> rfl

/-- The closed servers that are still to be unregistered after this one. -/
def Origin.rest : Origin → List Server
  | .prune _ rest => rest
  | _ => []

/-- The servers that the call knows to be closed. -/
def Phase.doomed : Phase → List Server
  | freeing server _ => [server]
  | unregistering server origin | unlisted server origin | removing server origin =>
      server :: origin.rest
  | rewriting server origin | unlocking server origin => server :: origin.rest
  | filtering _ _ chosen => chosen
  | pruning _ rest => rest
  | _ => []

namespace State

section Steps

variable {setting : Setting} {state next : State} {action : Action}

/-- What holds of every call after one call has moved. -/
theorem forall_update (Holds : Call → Phase → Prop) {call : Call} {phase : Phase}
    (moved : next.phase = Function.update state.phase call phase) (here : Holds call phase)
    (others : ∀ other, other ≠ call → Holds other (state.phase other)) :
    ∀ other, Holds other (next.phase other) := by
  intro other
  rw [moved]
  by_cases same : other = call
  · rwa [same, Function.update_self]
  · rw [Function.update_of_ne same]
    exact others other same

/-- A step of a call that has nothing in its hands, before or after. -/
structure Quiet (state next : State) : Prop where
  phases : ∀ call, next.phase call = state.phase call ∨
    (state.phase call).outer = true ∧ (next.phase call).outer = true
  live : next.live = state.live
  records : next.records = state.records
  file : next.file = state.file
  recordsLock : next.recordsLock = state.recordsLock
  registrar : next.registrar = state.registrar
  mutated : next.mutated = state.mutated

/-- The steps of closing, up to `unregister`. -/
def Action.outer : Action → Bool
  | .shutdown _ | .close _ _ | .skip _ _ _ | .shut _ _ _ | .free _ _ _ _ | .closeAll _ => true
  | .count _ _ _ | .list _ _ _ _ | .findNone _ _ _ | .sweep _ _ | .closeRuntime _ _ => true
  | .skipRuntime _ _ | .claim _ _ | .stop _ _ | .unregisterClosed _ _ => true
  | .filter _ _ _ _ | .prune _ _ _ => true
  | _ => false

theorem Quiet.of_update {call : Call} {before after : Phase} (ready : state.phase call = before)
    (moved : next.phase = Function.update state.phase call after) (outer : before.outer = true)
    (outer' : after.outer = true) (live : next.live = state.live)
    (records : next.records = state.records) (file : next.file = state.file)
    (recordsLock : next.recordsLock = state.recordsLock)
    (registrar : next.registrar = state.registrar) (mutated : next.mutated = state.mutated) :
    Quiet state next where
  phases := by
    intro other
    rw [moved]
    by_cases same : other = call
    · rw [same, Function.update_self, ready]
      exact .inr ⟨outer, outer'⟩
    · exact .inl (Function.update_of_ne same ..)
  live := live
  records := records
  file := file
  recordsLock := recordsLock
  registrar := registrar
  mutated := mutated

theorem afterClose_outer (server : Server) (rest : Option (List Server)) :
    (afterClose server rest).outer = true := by
  cases rest <;> rfl

theorem afterUnregister_outer (server : Server) (origin : Origin) :
    (afterUnregister server origin).outer = true := by
  cases origin with
  | close rest => exact afterClose_outer server rest
  | sweep rest => rfl
  | prune runtime rest => rfl

theorem quiet (ready : guard setting state action) (outer : Action.outer action = true) :
    Quiet state (effect setting state action) := by
  cases action with
  | shutdown server => exact ⟨fun _ => .inl rfl, rfl, rfl, rfl, rfl, rfl, rfl⟩
  | close call server => exact .of_update ready rfl rfl rfl rfl rfl rfl rfl rfl rfl
  | skip call server rest =>
      exact .of_update ready.1 rfl rfl (afterClose_outer server rest) rfl rfl rfl rfl rfl rfl
  | shut call server rest => exact .of_update ready.1 rfl rfl rfl rfl rfl rfl rfl rfl rfl
  | free call server rest threw =>
      cases threw with
      | false => exact .of_update ready rfl rfl rfl rfl rfl rfl rfl rfl rfl
      | true => cases rest <;> exact .of_update ready rfl rfl rfl rfl rfl rfl rfl rfl rfl
  | closeAll call => exact .of_update ready rfl rfl rfl rfl rfl rfl rfl rfl rfl
  | count call reader size => exact .of_update ready rfl rfl rfl rfl rfl rfl rfl rfl rfl
  | list call reader size servers =>
      exact .of_update ready.1 rfl rfl (reader.next_outer servers) rfl rfl rfl rfl rfl rfl
  | findNone call reader size => exact .of_update ready.1 rfl rfl rfl rfl rfl rfl rfl rfl rfl
  | sweep call rest => cases rest <;> exact .of_update ready rfl rfl rfl rfl rfl rfl rfl rfl rfl
  | closeRuntime call runtime => exact .of_update ready rfl rfl rfl rfl rfl rfl rfl rfl rfl
  | skipRuntime call runtime => exact .of_update ready.1 rfl rfl rfl rfl rfl rfl rfl rfl rfl
  | claim call runtime => exact .of_update ready.1 rfl rfl rfl rfl rfl rfl rfl rfl rfl
  | stop call runtime => exact .of_update ready rfl rfl rfl rfl rfl rfl rfl rfl rfl
  | unregisterClosed call runtime => exact .of_update ready rfl rfl rfl rfl rfl rfl rfl rfl rfl
  | filter call runtime pending chosen =>
      cases pending <;> exact .of_update ready rfl rfl rfl rfl rfl rfl rfl rfl rfl
  | prune call runtime rest =>
      cases rest <;> exact .of_update ready rfl rfl rfl rfl rfl rfl rfl rfl rfl
  | _ => cases outer

theorem remove_phase (setting : Setting) (state : State) (call : Call) (server : Server)
    (origin : Origin) :
    (effect setting state (.remove call server origin)).phase = Function.update state.phase call
      (if server ∈ state.records.map Prod.fst then .rewriting server origin
        else .unlocking server origin) := by
  simp only [effect]
  split <;> rfl

/-- A quiet step changes nothing that a call has in its hands. -/
theorem Quiet.same {Hand : Type} {hand : Phase → Hand} {empty : Hand} (step : Quiet state next)
    (nothing : ∀ phase : Phase, phase.outer = true → hand phase = empty) (call : Call) :
    hand (next.phase call) = hand (state.phase call) := by
  obtain same | ⟨before, after⟩ := step.phases call
  · rw [same]
  · rw [nothing _ before, nothing _ after]

/-- A closed server stays closed. -/
theorem isClosed_step (action : Action) (server : Server)
    (closed : state.isClosed setting server = true) :
    (effect setting state action).isClosed setting server = true := by
  have either := (Bool.or_eq_true _ _).mp closed
  cases action with
  | shut call other rest =>
      refine (Bool.or_eq_true _ _).mpr (either.imp_left fun before => ?_)
      by_cases same : server = other
      · simp [effect, same]
      · simpa [effect, setPhase, same] using before
  | stop call runtime =>
      refine (Bool.or_eq_true _ _).mpr (either.imp_right fun before => ?_)
      by_cases same : setting.runtimeOf server = runtime
      · simp [effect, same]
      · simpa [effect, setPhase, same] using before
  | identify call other record => cases record <;> exact closed
  | free call other rest threw =>
      cases threw with
      | false => exact closed
      | true => cases rest <;> exact closed
  | remove call other origin =>
      simp only [effect]
      split <;> exact closed
  | sweep call rest => cases rest <;> exact closed
  | filter call runtime pending chosen => cases pending <;> exact closed
  | prune call runtime rest => cases rest <;> exact closed
  | _ => exact closed

end Steps

/-! ## The lock -/

/-- The lock and the registrations belong to the calls that say so. -/
structure Locked (state : State) : Prop where
  held : ∀ call, (state.phase call).inside = true ↔ state.recordsLock = some call
  registrar : ∀ call server, (state.phase call).registers = some server ↔
    state.registrar server = some call

theorem outer_inside (phase : Phase) (outer : phase.outer = true) : phase.inside = false := by
  cases phase <;> first | rfl | cases outer

theorem outer_registers (phase : Phase) (outer : phase.outer = true) : phase.registers = none := by
  cases phase <;> first | rfl | cases outer

namespace Locked

variable {setting : Setting} {state next : State} {action : Action} {call : Call} {after : Phase}

/-- Two calls inside are one call. -/
theorem alone (locked : state.Locked) (call : Call) {other : Call} (inside : (state.phase call).inside = true)
    (inside' : (state.phase other).inside = true) : other = call :=
  Option.some.inj (((locked.held other).mp inside').symm.trans ((locked.held call).mp inside))

/-- Two calls that register a server are one call. -/
theorem single (locked : state.Locked) (call : Call) {other : Call} {server : Server}
    (registers : (state.phase call).registers = some server)
    (registers' : (state.phase other).registers = some server) : other = call :=
  Option.some.inj (((locked.registrar other server).mp registers').symm.trans
    ((locked.registrar call server).mp registers))

theorem quiet (locked : state.Locked) (step : Quiet state next) : next.Locked := by
  constructor
  · intro call
    rw [step.same outer_inside, step.recordsLock]
    exact locked.held call
  · intro call server
    rw [step.same outer_registers, step.registrar]
    exact locked.registrar call server

/-- A step of one call, that may take the lock or leave it. -/
theorem move (locked : state.Locked) (moved : next.phase = Function.update state.phase call after)
    (held : after.inside = true ↔ next.recordsLock = some call)
    (holders : ∀ other, other ≠ call →
      (next.recordsLock = some other ↔ state.recordsLock = some other))
    (registers : after.registers = (state.phase call).registers)
    (registrar : next.registrar = state.registrar) : next.Locked := by
  constructor
  · refine forall_update (fun other phase => phase.inside = true ↔ next.recordsLock = some other)
      moved held fun other different => ?_
    rw [holders other different]
    exact locked.held other
  · intro other server
    rw [registrar, moved]
    by_cases same : other = call
    · rw [same, Function.update_self, registers]
      exact locked.registrar call server
    · rw [Function.update_of_ne same]
      exact locked.registrar other server

/-- A step of one call that does not touch the lock. -/
theorem stay (locked : state.Locked) (moved : next.phase = Function.update state.phase call after)
    (inside : after.inside = (state.phase call).inside)
    (registers : after.registers = (state.phase call).registers)
    (lock : next.recordsLock = state.recordsLock)
    (registrar : next.registrar = state.registrar) : next.Locked := by
  refine locked.move moved ?_ (fun other _ => by rw [lock]) registers registrar
  rw [inside, lock]
  exact locked.held call

/-- A call takes the lock. -/
theorem take (locked : state.Locked) (moved : next.phase = Function.update state.phase call after)
    (free : state.recordsLock = none) (inside : after.inside = true)
    (registers : after.registers = (state.phase call).registers)
    (lock : next.recordsLock = some call) (registrar : next.registrar = state.registrar) :
    next.Locked := by
  refine locked.move moved (by rw [inside, lock]; simp) (fun other different => ?_) registers
    registrar
  rw [lock, free]
  simp [Ne.symm different]

/-- What a call that is inside keeps from the others. -/
theorem others_outside (locked : state.Locked) (inside : (state.phase call).inside = true)
    {other : Call} (different : other ≠ call) : state.recordsLock ≠ some other := by
  rw [(locked.held call).mp inside]
  exact fun same => different (Option.some.inj same).symm

/-- A step of one call, that begins or ends a registration. -/
theorem assign (locked : state.Locked) {server : Server} {owner : Option Call}
    (moved : next.phase = Function.update state.phase call after)
    (held : after.inside = true ↔ next.recordsLock = some call)
    (holders : ∀ other, other ≠ call →
      (next.recordsLock = some other ↔ state.recordsLock = some other))
    (registrar : next.registrar = Function.update state.registrar server owner)
    (here : ∀ other, after.registers = some other ↔
      Function.update state.registrar server owner other = some call)
    (apart : ∀ other, other ≠ call → owner ≠ some other ∧ state.registrar server ≠ some other) :
    next.Locked := by
  constructor
  · refine forall_update (fun other phase => phase.inside = true ↔ next.recordsLock = some other)
      moved held fun other different => ?_
    rw [holders other different]
    exact locked.held other
  · intro other entry
    rw [registrar, moved]
    by_cases same : other = call
    · rw [same, Function.update_self]
      exact here entry
    · rw [Function.update_of_ne same, locked.registrar]
      by_cases this : entry = server
      · rw [this, Function.update_self]
        exact ⟨fun held => absurd held (apart other same).2,
          fun held => absurd held (apart other same).1⟩
      · rw [Function.update_of_ne this]

theorem step (locked : state.Locked) (ready : guard setting state action) :
    (effect setting state action).Locked := by
  cases action with
  | register call server =>
      obtain ⟨idle, unregistered, -⟩ := ready
      have outside := locked.held call
      have nothing := locked.registrar call
      rw [idle] at outside nothing
      refine locked.assign rfl outside (fun other _ => Iff.rfl) rfl (fun other => ?_)
        (fun other different => ?_)
      · by_cases same : other = server
        · rw [same, Function.update_self]
          exact ⟨fun _ => rfl, fun _ => rfl⟩
        · rw [Function.update_of_ne same, ← nothing]
          simp [Phase.registers, Ne.symm same]
      · rw [unregistered]
        simp [Ne.symm different]
  | add call server =>
      exact locked.stay rfl (by rw [ready]; rfl) (by rw [ready]; rfl) rfl rfl
  | lock call server =>
      exact locked.take rfl ready.2 rfl (by rw [ready.1]; rfl) rfl rfl
  | check call server =>
      refine locked.stay rfl ?_ ?_ rfl rfl
      · rw [ready]
        split <;> rfl
      · rw [ready]
        split <;> rfl
  | reject call server =>
      exact locked.stay rfl (by rw [ready]; rfl) (by rw [ready]; rfl) rfl rfl
  | identify call server record =>
      cases record <;> exact locked.stay rfl (by rw [ready.1]; rfl) (by rw [ready.1]; rfl) rfl rfl
  | put call server record =>
      exact locked.stay rfl (by rw [ready]; rfl) (by rw [ready]; rfl) rfl rfl
  | write call server record =>
      exact locked.stay rfl (by rw [ready]; rfl) (by rw [ready]; rfl) rfl rfl
  | leave call server record =>
      have registers := locked.registrar call
      rw [ready] at registers
      have owner : state.registrar server = some call := (registers server).mp rfl
      refine locked.assign rfl (by simp [effect, Phase.inside]) (fun other different => ?_) rfl
        (fun other => ?_) (fun other different => ?_)
      · have outside := locked.others_outside (by rw [ready]; rfl) different
        simp [effect, outside]
      · by_cases same : other = server
        · rw [same, Function.update_self]
          simp [Phase.registers]
        · rw [Function.update_of_ne same, ← registers]
          simp [Phase.registers, Ne.symm same]
      · rw [owner]
        simp [Ne.symm different]
  | unlist call server origin =>
      exact locked.stay rfl (by rw [ready]; rfl) (by rw [ready]; rfl) rfl rfl
  | relock call server origin =>
      exact locked.take rfl ready.2 rfl (by rw [ready.1]; rfl) rfl rfl
  | remove call server origin =>
      simp only [effect]
      split <;> exact locked.stay rfl (by rw [ready]; rfl) (by rw [ready]; rfl) rfl rfl
  | rewrite call server origin =>
      exact locked.stay rfl (by rw [ready]; rfl) (by rw [ready]; rfl) rfl rfl
  | unlock call server origin =>
      have outer := afterUnregister_outer server origin
      refine locked.move rfl (by rw [outer_inside _ outer]; simp [effect])
        (fun other different => ?_) (by rw [outer_registers _ outer, ready]; rfl) rfl
      have outside := locked.others_outside (by rw [ready]; rfl) different
      simp [effect, outside]
  | _ => exact locked.quiet (State.quiet ready rfl)

end Locked

/-! ## What is closed -/

/-- What the calls know to be closed is closed. -/
def Doomed (setting : Setting) (state : State) : Prop :=
  ∀ call, ∀ server ∈ (state.phase call).doomed, state.isClosed setting server = true

namespace Doomed

variable {setting : Setting} {state : State} {action : Action} {call : Call} {after : Phase}

/-- A step of one call, that may learn of closed servers. -/
theorem move (doomed : state.Doomed setting)
    (moved : (effect setting state action).phase = Function.update state.phase call after)
    (here : ∀ server ∈ after.doomed, server ∈ (state.phase call).doomed ∨
      (effect setting state action).isClosed setting server = true) :
    (effect setting state action).Doomed setting := by
  refine forall_update (fun _ phase => ∀ server ∈ phase.doomed,
    (effect setting state action).isClosed setting server = true) moved
    (fun server member => ?_) (fun other _ server member => ?_)
  · obtain before | closed := here server member
    · exact isClosed_step action server (doomed call server before)
    · exact closed
  · exact isClosed_step action server (doomed other server member)

/-- A step of one call that learns nothing. -/
theorem stay (doomed : state.Doomed setting)
    (moved : (effect setting state action).phase = Function.update state.phase call after)
    (fewer : ∀ server ∈ after.doomed, server ∈ (state.phase call).doomed) :
    (effect setting state action).Doomed setting :=
  doomed.move moved fun server member => .inl (fewer server member)

theorem nothing (doomed : state.Doomed setting)
    (moved : (effect setting state action).phase = Function.update state.phase call after)
    (empty : after.doomed = []) : (effect setting state action).Doomed setting :=
  doomed.stay moved fun server member => by
    rw [empty] at member
    exact absurd member List.not_mem_nil

theorem step (doomed : state.Doomed setting) (ready : guard setting state action) :
    (effect setting state action).Doomed setting := by
  cases action with
  | check call server =>
      refine doomed.nothing rfl ?_
      split <;> rfl
  | identify call server record => cases record <;> exact doomed.nothing rfl rfl
  | shutdown server => exact doomed
  | skip call server rest =>
      cases rest with
      | none => exact doomed.nothing rfl rfl
      | some rest =>
          refine doomed.move rfl fun other member => .inr ?_
          obtain rfl := List.mem_singleton.mp member
          exact (Bool.or_eq_true _ _).mpr (.inl ready.2)
  | shut call server rest =>
      refine doomed.move rfl fun other member => .inr ?_
      obtain rfl := List.mem_singleton.mp member
      simp [effect, isClosed]
  | free call server rest threw =>
      have here : server ∈ (state.phase call).doomed := by
        rw [ready]
        exact List.mem_singleton_self server
      cases threw with
      | false => exact doomed.stay rfl fun other member => List.mem_singleton.mp member ▸ here
      | true =>
          cases rest with
          | none => exact doomed.nothing rfl rfl
          | some rest => exact doomed.stay rfl fun other member => List.mem_singleton.mp member ▸ here
  | unlist call server origin => exact doomed.stay rfl fun other member => by rwa [ready]
  | relock call server origin => exact doomed.stay rfl fun other member => by rwa [ready.1]
  | remove call server origin =>
      refine doomed.stay (remove_phase setting state call server origin) fun other member => ?_
      rw [ready]
      split at member <;> exact member
  | rewrite call server origin => exact doomed.stay rfl fun other member => by rwa [ready]
  | unlock call server origin =>
      refine doomed.stay rfl fun other member => ?_
      rw [ready]
      cases origin with
      | close rest =>
          cases rest with
          | none => exact absurd member List.not_mem_nil
          | some rest => exact member
      | sweep rest => exact absurd member List.not_mem_nil
      | prune runtime rest => exact List.mem_cons_of_mem _ member
  | sweep call rest => cases rest <;> exact doomed.nothing rfl rfl
  | filter call runtime pending chosen =>
      cases pending with
      | nil => exact doomed.stay rfl fun other member => by rwa [ready]
      | cons server pending =>
          refine doomed.move rfl fun other member => ?_
          rw [ready]
          by_cases closed : state.isClosed setting server = true
          · simp only [Phase.doomed, closed, if_true, List.mem_append, List.mem_singleton] at member
            obtain before | rfl := member
            · exact .inl before
            · exact .inr closed
          · simp only [Phase.doomed, closed] at member
            exact .inl member
  | prune call runtime rest =>
      cases rest with
      | nil => exact doomed.nothing rfl rfl
      | cons server rest => exact doomed.stay rfl fun other member => by rwa [ready]
  | register call _ | add call _ | lock call _ | reject call _ | put call _ _ | write call _ _
  | leave call _ _ | close call _ | closeAll call | count call _ _ | findNone call _ _
  | closeRuntime call _ | skipRuntime call _ | claim call _ | stop call _
  | unregisterClosed call _ =>
      exact doomed.nothing rfl rfl
  | list call reader size servers => cases reader <;> exact doomed.nothing rfl rfl

end Doomed

end State

end KtBridge.Registry
