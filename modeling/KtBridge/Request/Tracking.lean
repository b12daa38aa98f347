import KtBridge.Request.Answers
import KtBridge.Request.Delivery

/-! # Tokens and admission

A call that is on its way holds a token of the task tracker: its reservation until
the tracked future exists, and the future's own token until the task is gone
(`State.Tracked`). Once the pending table is closed it stays closed, and no call is
accepted any more (`accepted_before`). So a tracker without tokens means that every
call is over (`Phase.ceased_of_untracked`).
-/

namespace KtBridge.Request

open Foundation

variable {reqId : Call → UInt64}

/-- Whether the call holds its reservation. -/
def Phase.reserves : Phase → Bool
  | reserved | refused _ | released _ | admitted | tracked => true
  | _ => false

/-- Whether the call's tracked future exists. -/
def Phase.tracks : Phase → Bool
  | tracked | ready | running | settled _ | retired _ | leaving | abandoned => true
  | _ => false

/-- Whether the call is not made yet, was rejected, or has ended with its task. -/
def Phase.ceased : Phase → Bool
  | idle | rejected _ | finished | lost => true
  | _ => false

/-- A call without a token is over. -/
theorem Phase.ceased_of_untracked {phase : Phase} (unreserved : phase.reserves = false)
    (untracked : phase.tracks = false) : phase.ceased := by
  cases phase <;> simp only [reserves, tracks, ceased, reduceCtorEq] at *

/-- Every call on its way holds its token. -/
structure State.Tracked (state : State) : Prop where
  reserved : ∀ call, (state.phase call).reserves → .reservation call ∈ state.tracker.outstanding
  requested : ∀ call, (state.phase call).tracks → .request call ∈ state.tracker.outstanding

namespace State.Tracked

variable {state next : State}

theorem frame (tracked : state.Tracked) (phase : next.phase = state.phase)
    (kept : ∀ token ∈ state.tracker.outstanding, token.foreign = false →
      token ∈ next.tracker.outstanding) : next.Tracked := by
  constructor
  · intro call reserves
    rw [phase] at reserves
    exact kept _ (tracked.reserved call reserves) rfl
  · intro call tracks
    rw [phase] at tracks
    exact kept _ (tracked.requested call tracks) rfl

/-- One call moves on, and the others keep their tokens. -/
theorem move (tracked : state.Tracked) {call : Call} {phase : Phase}
    (moved : next.phase = Function.update state.phase call phase)
    (others : ∀ other, other ≠ call → ∀ token ∈ state.tracker.outstanding,
      token = .reservation other ∨ token = .request other → token ∈ next.tracker.outstanding)
    (reserves : phase.reserves → .reservation call ∈ next.tracker.outstanding)
    (tracks : phase.tracks → .request call ∈ next.tracker.outstanding) : next.Tracked := by
  constructor
  · intro other holds
    by_cases same : other = call
    · subst same
      rw [moved, Function.update_self] at holds
      exact reserves holds
    · rw [moved, Function.update_of_ne same] at holds
      exact others other same _ (tracked.reserved other holds) (Or.inl rfl)
  · intro other holds
    by_cases same : other = call
    · subst same
      rw [moved, Function.update_self] at holds
      exact tracks holds
    · rw [moved, Function.update_of_ne same] at holds
      exact others other same _ (tracked.requested other holds) (Or.inr rfl)

/-- One call moves on under the tokens it had. -/
theorem within (tracked : state.Tracked) {call : Call} {before phase : Phase}
    (was : state.phase call = before) (moved : next.phase = Function.update state.phase call phase)
    (tracker : next.tracker = state.tracker) (reserves : phase.reserves → before.reserves)
    (tracks : phase.tracks → before.tracks) : next.Tracked := by
  subst was
  apply tracked.move moved
  · intro _ _ token held _
    rw [tracker]
    exact held
  · intro holds
    rw [tracker]
    exact tracked.reserved call (reserves holds)
  · intro holds
    rw [tracker]
    exact tracked.requested call (tracks holds)

/-- One call takes a token and moves on. -/
theorem take (tracked : state.Tracked) {call : Call} {phase : Phase} {token : Token}
    (moved : next.phase = Function.update state.phase call phase)
    (tracker : next.tracker = state.tracker.token token)
    (reserves : phase.reserves → token = .reservation call ∨ (state.phase call).reserves)
    (tracks : phase.tracks → token = .request call) : next.Tracked := by
  have grown : ∀ held ∈ state.tracker.outstanding, held ∈ next.tracker.outstanding := by
    intro held member
    rw [tracker]
    exact Finset.mem_insert_of_mem member
  have taken : token ∈ next.tracker.outstanding := by
    rw [tracker]
    exact Finset.mem_insert_self ..
  apply tracked.move moved
  · intro _ _ held member _
    exact grown held member
  · intro holds
    cases reserves holds with
    | inl same => exact same ▸ taken
    | inr before => exact grown _ (tracked.reserved call before)
  · intro holds
    exact tracks holds ▸ taken

/-- One call drops a token of its own and moves on. -/
theorem release (tracked : state.Tracked) {call : Call} {phase : Phase} {token : Token}
    (own : token = .reservation call ∨ token = .request call)
    (moved : next.phase = Function.update state.phase call phase)
    (tracker : next.tracker = state.tracker.dropToken token)
    (reserves : phase.reserves = false)
    (tracks : phase.tracks → token = .reservation call ∧ (state.phase call).tracks) :
    next.Tracked := by
  apply tracked.move moved
  · intro other different held member whose
    rw [tracker]
    apply Finset.mem_erase.mpr ⟨?_, member⟩
    intro same
    subst same
    rcases own with rfl | rfl <;> rcases whose with same | same <;> cases same <;>
      exact different rfl
  · intro holds
    rw [reserves] at holds
    cases holds
  · intro holds
    obtain ⟨same, before⟩ := tracks holds
    rw [tracker, same]
    exact Finset.mem_erase.mpr ⟨by simp, tracked.requested call before⟩

end State.Tracked

/-- Every call keeps its token until it is over. -/
theorem tracked_invariant (reqId : Call → UInt64) :
    (machine reqId).Invariant State.Tracked where
  start := by
    constructor
    · intro _ holds
      cases holds
    · intro _ holds
      cases holds
  step := by
    intro state action _ tracked ready
    cases action with
    | reserve call =>
        exact tracked.take rfl rfl (fun _ => Or.inl rfl) (by simp [Phase.tracks])
    | register call =>
        simp only [machine, effect]
        cases state.register (reqId call) with
        | none => exact tracked.within ready.1 rfl rfl (fun _ => rfl) (by simp [Phase.tracks])
        | some error => exact tracked.within ready.1 rfl rfl (fun _ => rfl) (by simp [Phase.tracks])
    | dropOperation call error =>
        exact tracked.within ready rfl rfl (fun _ => rfl) (by simp [Phase.tracks])
    | reject call error =>
        exact tracked.release (Or.inl rfl) rfl rfl rfl (by simp [Phase.tracks])
    | track call =>
        have admitted : state.phase call = .admitted := ready
        exact tracked.take rfl rfl (fun _ => Or.inr (by rw [admitted]; rfl)) (fun _ => rfl)
    | unreserve call =>
        have tracks : state.phase call = .tracked := ready
        exact tracked.release (Or.inl rfl) rfl rfl rfl (fun _ => ⟨rfl, by rw [tracks]; rfl⟩)
    | spawn call => exact tracked.within ready rfl rfl (by simp [Phase.reserves]) (fun _ => rfl)
    | observeCancel call =>
        exact tracked.within ready.1 rfl rfl (by simp [Phase.reserves]) (fun _ => rfl)
    | complete call result =>
        exact tracked.within ready.1 rfl rfl (by simp [Phase.reserves]) (fun _ => rfl)
    | panic call message =>
        exact tracked.within ready rfl rfl (by simp [Phase.reserves]) (fun _ => rfl)
    | abandon call => exact tracked.within ready rfl rfl (by simp [Phase.reserves]) (fun _ => rfl)
    | lose call => exact tracked.release (Or.inr rfl) rfl rfl rfl (by simp [Phase.tracks])
    | retire call result =>
        simp only [machine, effect]
        split
        · exact tracked.within ready.1 rfl rfl (by simp [Phase.reserves]) (fun _ => rfl)
        · exact tracked.within ready.1 rfl rfl (by simp [Phase.reserves]) (fun _ => rfl)
    | answer call result =>
        exact tracked.within ready.1 rfl rfl (by simp [Phase.reserves]) (fun _ => rfl)
    | leave call => exact tracked.release (Or.inr rfl) rfl rfl rfl (by simp [Phase.tracks])
    | cancel id =>
        simp only [machine, effect]
        cases state.pending.lookup id with
        | none => exact tracked
        | some call => exact tracked.frame rfl fun _ held _ => held
    | issue token => exact tracked.frame rfl fun _ held _ => Finset.mem_insert_of_mem held
    | release token =>
        refine tracked.frame rfl ?_
        intro held member own
        apply Finset.mem_erase.mpr ⟨?_, member⟩
        intro same
        rw [same, ready.1] at own
        cases own
    | _ => exact tracked.frame rfl fun _ held _ => held

/-- Nothing outstanding means that every call is over. -/
theorem ceased_of_drained {state : State} (reached : (machine reqId).Reachable state)
    (drained : state.tracker.outstanding = ∅) (call : Call) : (state.phase call).ceased := by
  have tracked := (tracked_invariant reqId).reachable reached
  apply Phase.ceased_of_untracked
  · by_contra reserves
    have held := tracked.reserved call (Bool.eq_true_of_not_eq_false reserves)
    rw [drained] at held
    exact Finset.notMem_empty _ held
  · by_contra tracks
    have held := tracked.requested call (Bool.eq_true_of_not_eq_false tracks)
    rw [drained] at held
    exact Finset.notMem_empty _ held

/-- A closed pending table stays closed, and admits nobody: a call accepted after
the step was accepted before it. -/
theorem accepted_before {state : State} (closed : state.closed) {action : Action}
    (ready : (machine reqId).guard state action) :
    ((machine reqId).effect state action).closed ∧
      ∀ call, (((machine reqId).effect state action).phase call).accepted →
        (state.phase call).accepted := by
  rcases (projects reqId).step state action ready with same | ⟨label, met, next⟩
  · refine ⟨?_, ?_⟩
    · exact (congrArg Protocol.State.closed same).trans closed
    · intro call accepted outside
      apply accepted
      exact (congrArg (fun view : Protocol.State Pending => view.stage call) same).trans outside
  · have unchanged : (Protocol.effect reqId state.view label).closed := by
      cases label with
      | close => rfl
      | _ => exact closed
    refine ⟨(congrArg Protocol.State.closed next).trans unchanged, ?_⟩
    intro call accepted outside
    apply accepted
    apply (congrArg (fun view : Protocol.State Pending => view.stage call) next).trans
    have inside : ∀ other stage, state.view.stage other ≠ .outside →
        Function.update state.view.stage other stage call = .outside := by
      intro other stage already
      have different : call ≠ other := by
        intro same
        exact already (same ▸ outside)
      rw [Function.update_of_ne different]
      exact outside
    cases label with
    | register other =>
        have opened : state.closed = false := met.2.2.1
        rw [opened] at closed
        cases closed
    | retire other => exact inside other _ (by rw [met.1]; simp)
    | forfeit other => exact inside other _ (by rw [met.1]; simp)
    | answer other result => exact inside other _ (by rw [met.1]; simp)
    | _ => exact outside

/-- Whether a step issues or releases a token of somebody else's. -/
def Action.lends : Action → Bool
  | issue _ | release _ => true
  | _ => false

/-- The request machine keeps to its own tokens. -/
theorem foreign_outstanding (reqId : Call → UInt64) (state : State) (action : Action)
    (own : action.lends = false) {token : Token} (foreign : token.foreign) :
    token ∈ (effect reqId state action).tracker.outstanding ↔
      token ∈ state.tracker.outstanding := by
  have insert : ∀ other : Token, other.foreign = false →
      (token ∈ insert other state.tracker.outstanding ↔ token ∈ state.tracker.outstanding) := by
    intro other native
    apply Finset.mem_insert.trans (or_iff_right ?_)
    intro same
    rw [same, native] at foreign
    cases foreign
  have erase : ∀ other : Token, other.foreign = false →
      (token ∈ state.tracker.outstanding.erase other ↔ token ∈ state.tracker.outstanding) := by
    intro other native
    apply Finset.mem_erase.trans (and_iff_right ?_)
    intro same
    rw [same, native] at foreign
    cases foreign
  cases action with
  | reserve call => exact insert _ rfl
  | register call =>
      simp only [effect]
      cases state.register (reqId call) <;> exact Iff.rfl
  | reject call error => exact erase _ rfl
  | track call => exact insert _ rfl
  | unreserve call => exact erase _ rfl
  | lose call => exact erase _ rfl
  | retire call result =>
      simp only [effect]
      split <;> exact Iff.rfl
  | leave call => exact erase _ rfl
  | cancel id =>
      simp only [effect]
      cases state.pending.lookup id <;> exact Iff.rfl
  | issue other => cases own
  | release other => cases own
  | _ => exact Iff.rfl

/-- The call whose operation a step ends. -/
def Action.ends : Action → Option Call
  | observeCancel call | complete call _ | panic call _ | abandon call => some call
  | _ => none

/-- A running operation runs on until it is ended. -/
theorem running_kept {reqId : Call → UInt64} {state : State} {action : Action}
    (ready : guard reqId state action) {call : Call} (running : state.phase call = .running)
    (unended : action.ends ≠ some call) : (effect reqId state action).phase call = .running := by
  have other : ∀ moved phase, state.phase moved ≠ .running →
      Function.update state.phase moved phase call = .running := by
    intro moved phase different
    rw [Function.update_of_ne]
    · exact running
    · intro same
      exact different (same ▸ running)
  have ended : ∀ moved phase, some moved ≠ some call →
      Function.update state.phase moved phase call = .running := by
    intro moved phase different
    rw [Function.update_of_ne]
    · exact running
    · intro same
      exact different (congrArg some same.symm)
  cases action with
  | reserve moved => exact other moved _ (by rw [show state.phase moved = _ from ready]; simp)
  | register moved =>
      have reserved : state.phase moved ≠ .running := by rw [ready.1]; simp
      simp only [effect]
      cases state.register (reqId moved) with
      | none => exact other moved _ reserved
      | some error => exact other moved _ reserved
  | dropOperation moved error =>
      exact other moved _ (by rw [show state.phase moved = _ from ready]; simp)
  | reject moved error => exact other moved _ (by rw [show state.phase moved = _ from ready]; simp)
  | track moved => exact other moved _ (by rw [show state.phase moved = _ from ready]; simp)
  | unreserve moved => exact other moved _ (by rw [show state.phase moved = _ from ready]; simp)
  | spawn moved => exact other moved _ (by rw [show state.phase moved = _ from ready]; simp)
  | observeCancel moved => exact ended moved _ unended
  | complete moved result => exact ended moved _ unended
  | panic moved message => exact ended moved _ unended
  | abandon moved => exact ended moved _ unended
  | lose moved => exact other moved _ (by rw [show state.phase moved = _ from ready]; simp)
  | retire moved result =>
      simp only [effect]
      split
      · exact other moved _ (by rw [ready.1]; simp)
      · exact other moved _ (by rw [ready.1]; simp)
  | answer moved result => exact other moved _ (by rw [ready.1]; simp)
  | leave moved => exact other moved _ (by rw [show state.phase moved = _ from ready]; simp)
  | cancel id =>
      simp only [effect]
      cases state.pending.lookup id <;> exact running
  | _ => exact running

/-- A call whose task is gone takes no step. -/
theorem ended_kept {state : State} {action : Action} (ready : guard reqId state action)
    {call : Call} (ended : (state.phase call).ceased) (accepted : (state.phase call).accepted) :
    (effect reqId state action).phase call = state.phase call := by
  have other : ∀ moved phase, (state.phase moved).ceased = false ∨ state.phase moved = .idle →
      Function.update state.phase moved phase call = state.phase call := by
    intro moved phase goes
    apply Function.update_of_ne
    intro same
    subst same
    rcases goes with goes | idle
    · rw [ended] at goes
      cases goes
    · rw [idle] at accepted
      exact accepted rfl
  cases action with
  | reserve moved => exact other moved _ (Or.inr ready)
  | register moved =>
      have reserved : (state.phase moved).ceased = false := by
        rw [ready.1]
        rfl
      simp only [effect]
      cases state.register (reqId moved) with
      | none => exact other moved _ (Or.inl reserved)
      | some error => exact other moved _ (Or.inl reserved)
  | dropOperation moved error =>
      exact other moved _ (Or.inl (by rw [show state.phase moved = _ from ready]; rfl))
  | reject moved error =>
      exact other moved _ (Or.inl (by rw [show state.phase moved = _ from ready]; rfl))
  | track moved => exact other moved _ (Or.inl (by rw [show state.phase moved = _ from ready]; rfl))
  | unreserve moved =>
      exact other moved _ (Or.inl (by rw [show state.phase moved = _ from ready]; rfl))
  | spawn moved => exact other moved _ (Or.inl (by rw [show state.phase moved = _ from ready]; rfl))
  | observeCancel moved => exact other moved _ (Or.inl (by rw [ready.1]; rfl))
  | complete moved result => exact other moved _ (Or.inl (by rw [ready.1]; rfl))
  | panic moved message =>
      exact other moved _ (Or.inl (by rw [show state.phase moved = _ from ready]; rfl))
  | abandon moved =>
      exact other moved _ (Or.inl (by rw [show state.phase moved = _ from ready]; rfl))
  | lose moved => exact other moved _ (Or.inl (by rw [show state.phase moved = _ from ready]; rfl))
  | retire moved result =>
      simp only [effect]
      split
      · exact other moved _ (Or.inl (by rw [ready.1]; rfl))
      · exact other moved _ (Or.inl (by rw [ready.1]; rfl))
  | answer moved result => exact other moved _ (Or.inl (by rw [ready.1]; rfl))
  | leave moved => exact other moved _ (Or.inl (by rw [show state.phase moved = _ from ready]; rfl))
  | cancel id =>
      simp only [effect]
      cases state.pending.lookup id <;> rfl
  | _ => rfl

/-- A runtime that admits nobody, and whose accepted calls are over. -/
structure State.Quiet (state : State) : Prop where
  closed : state.closed
  ceased : ∀ call, (state.phase call).accepted → (state.phase call).ceased

/-- A quiet runtime stays quiet, and its accepted calls are those it had. -/
theorem State.Quiet.step {state : State} (quiet : state.Quiet) {action : Action}
    (ready : (machine reqId).guard state action) :
    ((machine reqId).effect state action).Quiet ∧
      ∀ call, (((machine reqId).effect state action).phase call).accepted →
        (state.phase call).accepted := by
  obtain ⟨closed, before⟩ := accepted_before quiet.closed ready
  refine ⟨⟨closed, ?_⟩, before⟩
  intro call accepted
  have was := before call accepted
  have kept : ((machine reqId).effect state action).phase call = state.phase call :=
    ended_kept ready (quiet.ceased call was) was
  rw [kept]
  exact quiet.ceased call was

end KtBridge.Request
