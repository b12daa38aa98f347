import KtBridge.Exchange.Machine
import KtBridge.Pump.Keeping

/-! # The continuations that completions come for

A completion comes only for a call whose operation was admitted, and such a call is past its
failures: its continuation is resumed by the pump thread or not at all. So the continuation
that the pump thread takes for a completion accepts it, whatever happens to calls whose
`start` failed.
-/

namespace KtBridge.Pump

/-- `start` has not ended yet. -/
def Phase.early : Phase → Bool
  | entered => true
  | stored => true
  | checking => true
  | starting => true
  | _ => false

/-- Where the caller of an admitted operation may be. -/
def Phase.issuing : Phase → Bool
  | starting => true
  | started => true
  | left => true
  | _ => false

end KtBridge.Pump

namespace KtBridge.Exchange

open Foundation
open Pump (requestId)

/-- The operation was admitted, or may still be. -/
def Live (issued : Call → Prop) (state : Pump.State) (call : Call) : Prop :=
  (state.phase call).early ∨ issued call

/-- The continuation is on its way into the map, in it, or in the pump thread's hands. -/
def InPlay (state : Pump.State) (call : Call) : Prop :=
  state.phase call = .entered ∨ state.pending.lookup (requestId call) = some call ∨
    state.pump.held = some call

/-- The continuations of live calls are resumed once they are out of play, and not before. -/
structure Apart (issued : Call → Prop) (state : Pump.State) : Prop where
  outside : ∀ call, state.phase call = .outside ↔ state.entered ≤ call
  few : state.entered < 2 ^ 64
  keyed : ∀ id call, state.pending.lookup id = some call → requestId call = id ∧ call < state.entered
  issues : ∀ call, issued call → (state.phase call).issuing
  fresh : ∀ call, state.phase call = .entered →
    state.pending.lookup (requestId call) = none ∧ state.pump.held ≠ some call
  apart : ∀ call, state.pump.held = some call →
    call < state.entered ∧ state.pending.lookup (requestId call) = none
  resumable : ∀ call, Live issued state call → InPlay state call →
    (state.continuation call).resumable
  taken : ∀ call completion rest, state.pump = .taken call completion rest →
    issued call ∧ requestId call = completion.reqId
  untouched : ∀ call, state.entered ≤ call → state.continuation call = .active

/-- What a step may do to the calls there are. -/
structure Turns (issued : Call → Prop) (state next : Pump.State) : Prop where
  entered : next.entered = state.entered
  outside : ∀ call, next.phase call = .outside ↔ state.phase call = .outside
  early : ∀ call, (next.phase call).early → (state.phase call).early
  fresh : ∀ call, next.phase call = .entered → state.phase call = .entered
  issues : ∀ call, issued call → (next.phase call).issuing
  pending : ∀ id call, next.pending.lookup id = some call → state.pending.lookup id = some call
  held : ∀ call, next.pump.held = some call → state.pump.held = some call ∨
    state.pending.lookup (requestId call) = some call ∧
      next.pending.lookup (requestId call) = none
  resumable : ∀ call, (state.continuation call).resumable → Live issued next call →
    InPlay next call → (next.continuation call).resumable
  taken : ∀ call completion rest, next.pump = .taken call completion rest →
    issued call ∧ requestId call = completion.reqId
  untouched : ∀ call, state.entered ≤ call → next.continuation call = state.continuation call

variable {issued : Call → Prop} {state next : Pump.State} {call : Call}

/-- An absent id stays absent while entries are only removed. -/
theorem Turns.absent (turns : Turns issued state next) {id : UInt64}
    (absent : state.pending.lookup id = none) : next.pending.lookup id = none := by
  rw [Option.eq_none_iff_forall_ne_some]
  intro other found
  rw [turns.pending id other found] at absent
  cases absent

/-- What is in play was so before. -/
theorem Turns.inPlay (turns : Turns issued state next) (inPlay : InPlay next call) :
    InPlay state call := by
  rcases inPlay with fresh | found | held
  · exact Or.inl (turns.fresh call fresh)
  · exact Or.inr (Or.inl (turns.pending _ call found))
  · rcases turns.held call held with before | ⟨found, _⟩
    · exact Or.inr (Or.inr before)
    · exact Or.inr (Or.inl found)

theorem Apart.turns (apart : Apart issued state) (turns : Turns issued state next) :
    Apart issued next where
  outside := by
    intro call
    rw [turns.outside, turns.entered]
    exact apart.outside call
  few := by
    rw [turns.entered]
    exact apart.few
  keyed := by
    intro id call found
    rw [turns.entered]
    exact apart.keyed id call (turns.pending id call found)
  issues := turns.issues
  fresh := by
    intro call entered
    obtain ⟨absent, unheld⟩ := apart.fresh call (turns.fresh call entered)
    refine ⟨turns.absent absent, ?_⟩
    intro held
    rcases turns.held call held with before | ⟨found, _⟩
    · exact unheld before
    · rw [found] at absent
      cases absent
  apart := by
    intro call held
    rw [turns.entered]
    rcases turns.held call held with before | ⟨found, absent⟩
    · obtain ⟨inside, absent⟩ := apart.apart call before
      exact ⟨inside, turns.absent absent⟩
    · exact ⟨(apart.keyed _ call found).2, absent⟩
  resumable := by
    intro call live inPlay
    have before : Live issued state call := live.imp_left (turns.early call)
    exact turns.resumable call (apart.resumable call before (turns.inPlay inPlay)) live inPlay
  taken := turns.taken
  untouched := by
    intro call beyond
    rw [turns.entered] at beyond
    exact (turns.untouched call beyond).trans (apart.untouched call beyond)

namespace Turns

/-- The pump thread goes on without a continuation it did not have. -/
theorem of_pump (apart : Apart issued state) (phase : next.phase = state.phase)
    (continuation : next.continuation = state.continuation) (pending : next.pending = state.pending)
    (entered : next.entered = state.entered)
    (held : ∀ call, next.pump.held = some call → state.pump.held = some call)
    (taken : ∀ call completion rest, next.pump = .taken call completion rest →
      state.pump = .taken call completion rest) : Turns issued state next where
  entered := entered
  outside := by simp [phase]
  early := by simp [phase]
  fresh := by simp [phase]
  issues := by
    rw [phase]
    exact apart.issues
  pending := by simp [pending]
  held := fun call there => Or.inl (held call there)
  resumable := by
    intro call before _ _
    rw [continuation]
    exact before
  taken := fun call completion rest there =>
    apart.taken call completion rest (taken call completion rest there)
  untouched := by simp [continuation]

/-- The pump thread goes on without a continuation. -/
theorem of_idle (apart : Apart issued state) (phase : next.phase = state.phase)
    (continuation : next.continuation = state.continuation) (pending : next.pending = state.pending)
    (entered : next.entered = state.entered) (lacks : next.pump.held = none) :
    Turns issued state next := by
  apply of_pump apart phase continuation pending entered
  · intro call there
    rw [lacks] at there
    cases there
  · intro call completion rest there
    rw [there] at lacks
    cases lacks

/-- A caller goes on, perhaps taking its entry out of the map. It touches its continuation
only if its operation neither was nor will be admitted. -/
theorem of_caller (apart : Apart issued state) {phase : Pump.Phase}
    (phases : next.phase = Function.update state.phase call phase)
    (inside : state.phase call ≠ .outside) (target : phase ≠ .outside) (begun : phase ≠ .entered)
    (ending : phase.early → (state.phase call).early) (issues : issued call → phase.issuing)
    (others : ∀ other, other ≠ call → next.continuation other = state.continuation other)
    (own : next.continuation call = state.continuation call ∨
      phase.early = false ∧ ¬ issued call)
    (pending : ∀ id other, next.pending.lookup id = some other →
      state.pending.lookup id = some other)
    (entered : next.entered = state.entered) (pump : next.pump = state.pump) :
    Turns issued state next where
  entered := entered
  outside := by
    rw [phases]
    exact Pump.outside_update inside target
  early := by
    intro other there
    rw [phases] at there
    by_cases same : other = call
    · subst same
      rw [Function.update_self] at there
      exact ending there
    · rwa [Function.update_of_ne same] at there
  fresh := by
    intro other there
    rw [phases] at there
    by_cases same : other = call
    · subst same
      rw [Function.update_self] at there
      exact absurd there begun
    · rwa [Function.update_of_ne same] at there
  issues := by
    intro other admitted
    rw [phases]
    by_cases same : other = call
    · subst same
      rw [Function.update_self]
      exact issues admitted
    · rw [Function.update_of_ne same]
      exact apart.issues other admitted
  pending := pending
  held := by
    intro other there
    rw [pump] at there
    exact Or.inl there
  resumable := by
    intro other before live _
    by_cases same : other = call
    · subst same
      rcases own with kept | ⟨late, never⟩
      · rw [kept]
        exact before
      · rw [Live, phases, Function.update_self, late] at live
        rcases live with impossible | admitted
        · cases impossible
        · exact absurd admitted never
    · rw [others other same]
      exact before
  taken := by
    rw [pump]
    exact apart.taken
  untouched := by
    intro other beyond
    apply others
    rintro rfl
    exact inside ((apart.outside other).mpr beyond)

/-- A caller whose operation was not admitted fails its continuation. -/
theorem of_failure (apart : Apart issued state) (result : Pump.Resumption)
    (inside : state.phase call ≠ .outside) (unissued : (state.phase call).issuing = false) :
    Turns issued state ((state.resume call result).setPhase call .left) := by
  have never : ¬ issued call := by
    intro admitted
    rw [apart.issues call admitted] at unissued
    cases unissued
  have phases : ((state.resume call result).setPhase call .left).phase =
      Function.update state.phase call .left := by
    simp only [Pump.State.setPhase, Pump.State.resume_phase]
  refine of_caller apart phases inside (by simp) (by simp) ?_
    (fun admitted => absurd admitted never) ?_ (Or.inr ⟨rfl, never⟩) ?_ (state.resume_entered ..)
    (state.resume_pump ..)
  · intro impossible
    cases impossible
  · exact fun other differs => Pump.State.resume_others differs
  · simp only [Pump.State.setPhase, Pump.State.resume_pending]
    exact fun _ _ found => found

/-- A continuation is cancelled, or its coroutine goes on. -/
theorem of_continuation (apart : Apart issued state) {value : Pump.Continuation}
    (inside : call < state.entered)
    (kept : value.resumable ∨ (state.continuation call).resumable = false)
    (continuation : next.continuation = Function.update state.continuation call value)
    (phase : next.phase = state.phase) (pending : next.pending = state.pending)
    (entered : next.entered = state.entered) (pump : next.pump = state.pump) :
    Turns issued state next where
  entered := entered
  outside := by simp [phase]
  early := by simp [phase]
  fresh := by simp [phase]
  issues := by
    rw [phase]
    exact apart.issues
  pending := by simp [pending]
  held := by
    intro other there
    rw [pump] at there
    exact Or.inl there
  resumable := by
    intro other before _ _
    rw [continuation]
    by_cases same : other = call
    · subst same
      rw [Function.update_self]
      rcases kept with kept | done
      · exact kept
      · rw [before] at done
        cases done
    · rw [Function.update_of_ne same]
      exact before
  taken := by
    rw [pump]
    exact apart.taken
  untouched := by
    intro other beyond
    rw [continuation]
    exact Function.update_of_ne (Nat.ne_of_gt (inside.trans_le beyond)) ..

/-- The pump thread takes a continuation out of the map. -/
theorem of_take (apart : Apart issued state) {id : UInt64} {pump : Pump.PumpPhase}
    (found : state.pending.lookup id = some call) (held : pump.held = some call)
    (taken : ∀ call completion rest, pump = .taken call completion rest →
      issued call ∧ requestId call = completion.reqId) :
    Turns issued state { state with pending := state.pending.erase id, pump := pump } where
  entered := rfl
  outside := fun _ => Iff.rfl
  early := fun _ there => there
  fresh := fun _ there => there
  issues := apart.issues
  pending := fun _ _ => lookup_of_erase
  held := by
    intro other there
    obtain rfl := Option.some.inj (held.symm.trans there)
    obtain rfl := (apart.keyed id call found).1
    exact Or.inr ⟨found, AList.lookup_erase ..⟩
  resumable := fun _ before _ _ => before
  taken := taken
  untouched := fun _ _ => rfl

/-- The pump thread resumes the continuation it took. -/
theorem of_resume (apart : Apart issued state) (result : Pump.Resumption)
    (held : state.pump.held = some call) (phase : next.phase = state.phase)
    (continuation : next.continuation = (state.resume call result).continuation)
    (pending : next.pending = state.pending) (entered : next.entered = state.entered)
    (lacks : next.pump.held = none) : Turns issued state next where
  entered := entered
  outside := by simp [phase]
  early := by simp [phase]
  fresh := by simp [phase]
  issues := by
    rw [phase]
    exact apart.issues
  pending := by simp [pending]
  held := by
    intro other there
    rw [lacks] at there
    cases there
  resumable := by
    intro other before _ inPlay
    rw [continuation]
    by_cases same : other = call
    · -- Its entry is gone and its caller is past the insertion.
      subst same
      exfalso
      rcases inPlay with fresh | found | there
      · rw [phase] at fresh
        exact (apart.fresh other fresh).2 held
      · rw [pending, (apart.apart other held).2] at found
        cases found
      · rw [lacks] at there
        cases there
    · rw [Pump.State.resume_others same]
      exact before
  taken := by
    intro other completion rest there
    rw [there] at lacks
    cases lacks
  untouched := by
    intro other beyond
    rw [continuation]
    exact Pump.State.resume_others (Nat.ne_of_gt ((apart.apart call held).1.trans_le beyond))

end Turns

namespace Apart

/-- A call that is somewhere inside `request` has drawn its id. -/
theorem entered_of_phase (apart : Apart issued state) {phase : Pump.Phase}
    (here : state.phase call = phase) (inside : phase ≠ .outside) :
    state.phase call ≠ .outside ∧ call < state.entered := by
  have notOutside : state.phase call ≠ .outside := by
    rw [here]
    exact inside
  exact ⟨notOutside, Nat.lt_of_not_le fun beyond => notOutside ((apart.outside call).mpr beyond)⟩

/-- Ids of calls that were drawn are distinct. -/
theorem requestId_inj (apart : Apart issued state) {first second : Call}
    (firstInside : first < state.entered) (secondInside : second < state.entered)
    (same : requestId first = requestId second) : first = second :=
  Pump.requestId_inj (firstInside.trans apart.few) (secondInside.trans apart.few) same

/-- A new call is nowhere else yet. -/
theorem enter (apart : Apart issued state) (few : state.entered + 1 < 2 ^ 64) :
    Apart issued (Pump.effect state (.enter state.entered)) := by
  have outside : state.phase state.entered = .outside := (apart.outside _).mpr le_rfl
  have never : ¬ issued state.entered := by
    intro admitted
    have issues := apart.issues _ admitted
    rw [outside] at issues
    cases issues
  have absent : state.pending.lookup (requestId state.entered) = none := by
    rw [Option.eq_none_iff_forall_ne_some]
    intro other found
    obtain ⟨own, inside⟩ := apart.keyed _ other found
    have same := Pump.requestId_inj (inside.trans apart.few) apart.few own
    exact absurd inside (same ▸ lt_irrefl _)
  have unheld : state.pump.held ≠ some state.entered := fun held =>
    absurd (apart.apart _ held).1 (lt_irrefl _)
  constructor
  · intro other
    by_cases same : other = state.entered
    · subst same
      simp [Pump.effect, Pump.State.setPhase]
    · have still := apart.outside other
      have later : state.entered ≤ other ↔ state.entered + 1 ≤ other :=
        ⟨fun below => Nat.lt_of_le_of_ne below (Ne.symm same), Nat.le_of_succ_le⟩
      simp only [Pump.effect, Pump.State.setPhase, Function.update_of_ne same, still]
      exact later
  · exact few
  · intro id other found
    obtain ⟨own, inside⟩ := apart.keyed id other found
    exact ⟨own, Nat.lt_succ_of_lt inside⟩
  · intro other admitted
    have differs : other ≠ state.entered := fun same => never (same ▸ admitted)
    simp only [Pump.effect, Pump.State.setPhase, Function.update_of_ne differs]
    exact apart.issues other admitted
  · intro other entered
    by_cases same : other = state.entered
    · subst same
      exact ⟨absent, unheld⟩
    · simp only [Pump.effect, Pump.State.setPhase, Function.update_of_ne same] at entered
      exact apart.fresh other entered
  · intro other held
    obtain ⟨inside, gone⟩ := apart.apart other held
    exact ⟨Nat.lt_succ_of_lt inside, gone⟩
  · intro other live inPlay
    by_cases same : other = state.entered
    · subst same
      simp [Pump.effect, Pump.Continuation.resumable]
    · simp only [Live, InPlay, Pump.effect, Pump.State.setPhase, Function.update_of_ne same]
        at live inPlay ⊢
      exact apart.resumable other live inPlay
  · exact apart.taken
  · intro other beyond
    exact (Function.update_of_ne (Nat.ne_of_gt beyond) ..).trans
      (apart.untouched other (Nat.le_of_succ_le beyond))

/-- A call puts its continuation into the map. -/
theorem store (apart : Apart issued state) (here : state.phase call = .entered) :
    Apart issued (Pump.effect state (.store call)) := by
  obtain ⟨notOutside, inside⟩ := apart.entered_of_phase here (by simp)
  obtain ⟨absent, unheld⟩ := apart.fresh call here
  have never : ¬ issued call := by
    intro admitted
    have issues := apart.issues _ admitted
    rw [here] at issues
    cases issues
  have elsewhere : ∀ other < state.entered, other ≠ call → requestId other ≠ requestId call :=
    fun other known differs same => differs (apart.requestId_inj known inside same)
  constructor
  · intro other
    exact (Pump.outside_update notOutside (by simp) other).trans (apart.outside other)
  · exact apart.few
  · intro id other found
    rcases lookup_of_insert found with old | ⟨rfl, rfl⟩
    · exact apart.keyed id other old
    · exact ⟨rfl, inside⟩
  · intro other admitted
    have differs : other ≠ call := fun same => never (same ▸ admitted)
    simp only [Pump.effect, Pump.State.setPhase, Function.update_of_ne differs]
    exact apart.issues other admitted
  · intro other entered
    have differs : other ≠ call := by
      rintro rfl
      simp [Pump.effect, Pump.State.setPhase] at entered
    simp only [Pump.effect, Pump.State.setPhase, Function.update_of_ne differs] at entered
    obtain ⟨gone, free⟩ := apart.fresh other entered
    have known := (apart.entered_of_phase entered (by simp)).2
    refine ⟨?_, free⟩
    exact (AList.lookup_insert_ne (elsewhere other known differs)).trans gone
  · intro other held
    obtain ⟨known, gone⟩ := apart.apart other held
    have differs : other ≠ call := fun same => unheld (same ▸ held)
    refine ⟨known, ?_⟩
    exact (AList.lookup_insert_ne (elsewhere other known differs)).trans gone
  · intro other live inPlay
    by_cases same : other = call
    · subst same
      exact apart.resumable other (Or.inl (by rw [here]; rfl)) (Or.inl here)
    · simp only [Live, InPlay, Pump.effect, Pump.State.setPhase, Function.update_of_ne same]
        at live inPlay ⊢
      apply apart.resumable other live
      rcases inPlay with fresh | found | held
      · exact Or.inl fresh
      · rcases lookup_of_insert found with old | ⟨_, own⟩
        · exact Or.inr (Or.inl old)
        · exact absurd own same
      · exact Or.inr (Or.inr held)
  · exact apart.taken
  · exact apart.untouched

/-- A call in `start` is admitted, and nothing else changes. -/
theorem accept {more : Call → Prop} (apart : Apart issued state)
    (admitted : ∀ call, more call → issued call ∨ state.phase call = .starting)
    (kept : ∀ call, issued call → more call) : Apart more state where
  outside := apart.outside
  few := apart.few
  keyed := apart.keyed
  issues := by
    intro call now
    rcases admitted call now with before | here
    · exact apart.issues call before
    · rw [here]
      rfl
  fresh := apart.fresh
  apart := apart.apart
  resumable := by
    intro call live inPlay
    apply apart.resumable call _ inPlay
    rcases live with early | now
    · exact Or.inl early
    · rcases admitted call now with before | here
      · exact Or.inr before
      · left
        rw [here]
        rfl
  taken := fun call completion rest here =>
    (apart.taken call completion rest here).imp_left (kept call)
  untouched := apart.untouched

/-- A continuation that is not active is a call's. -/
theorem entered_of_continuation (apart : Apart issued state)
    (touched : state.continuation call ≠ .active) : call < state.entered :=
  Nat.lt_of_not_le fun beyond => touched (apart.untouched call beyond)

/-- What each step of the pump's side does, where a failing `start` was not admitted and what
is dispatched answers an admitted call. -/
theorem step (apart : Apart issued state) {action : Pump.Action}
    (ready : Pump.guard state action) (drawn : ∀ call, action ≠ .enter call)
    (stored : ∀ call, action ≠ .store call)
    (failing : ∀ call thrown, action = .startThrows call thrown → ¬ issued call)
    (answering : ∀ call completion rest, action = .dispatch completion rest →
      state.pending.lookup completion.reqId = some call → completion.reqId ≠ 0 → issued call) :
    Turns issued state (Pump.effect state action) := by
  have unissued : ∀ {call phase}, state.phase call = phase → phase.issuing = false →
      ¬ issued call := by
    intro call phase here outside admitted
    have issues := apart.issues call admitted
    rw [here, outside] at issues
    cases issues
  cases action with
  | enter call => exact absurd rfl (drawn call)
  | store call => exact absurd rfl (stored call)
  | readDead call =>
      have here : state.phase call = .stored := ready
      have never := unissued here rfl
      have inside := (apart.entered_of_phase here (by simp)).1
      simp only [Pump.effect]
      split <;>
        exact Turns.of_caller apart rfl inside (by simp) (by simp) (by simp [here, Pump.Phase.early])
          (fun admitted => absurd admitted never) (fun _ _ => rfl) (Or.inl rfl)
          (fun _ _ found => found) rfl rfl
  | readRunning call =>
      have here : state.phase call = .checking := ready
      have never := unissued here rfl
      have inside := (apart.entered_of_phase here (by simp)).1
      simp only [Pump.effect]
      split <;>
        exact Turns.of_caller apart rfl inside (by simp) (by simp) (by simp [here, Pump.Phase.early])
          (fun admitted => absurd admitted never) (fun _ _ => rfl) (Or.inl rfl)
          (fun _ _ found => found) rfl rfl
  | withdraw call =>
      have here : state.phase call = .refused := ready
      have never := unissued here rfl
      have inside := (apart.entered_of_phase here (by simp)).1
      simp only [Pump.effect]
      split
      · exact Turns.of_caller apart rfl inside (by simp) (by simp) (by simp [Pump.Phase.early])
          (fun admitted => absurd admitted never) (fun _ _ => rfl) (Or.inl rfl)
          (fun _ _ => lookup_of_erase) rfl rfl
      · exact Turns.of_caller apart rfl inside (by simp) (by simp) (by simp [Pump.Phase.early])
          (fun admitted => absurd admitted never) (fun _ _ => rfl) (Or.inl rfl)
          (fun _ _ found => found) rfl rfl
  | refuse call =>
      have here : state.phase call = .withdrawn := ready
      exact Turns.of_failure apart _ (apart.entered_of_phase here (by simp)).1 (by rw [here]; rfl)
  | startReturns call =>
      have here : state.phase call = .starting := ready
      have inside := (apart.entered_of_phase here (by simp)).1
      exact Turns.of_caller apart rfl inside (by simp) (by simp) (by simp [Pump.Phase.early])
        (fun _ => rfl) (fun _ _ => rfl) (Or.inl rfl) (fun _ _ found => found) rfl rfl
  | startThrows call thrown =>
      have here : state.phase call = .starting := ready
      have never := failing call thrown rfl
      have inside := (apart.entered_of_phase here (by simp)).1
      exact Turns.of_caller apart rfl inside (by simp) (by simp) (by simp [Pump.Phase.early])
        (fun admitted => absurd admitted never) (fun _ _ => rfl) (Or.inl rfl)
        (fun _ _ found => found) rfl rfl
  | retire call thrown =>
      have here : state.phase call = .threw thrown := ready
      have never := unissued here rfl
      have inside := (apart.entered_of_phase here (by simp)).1
      exact Turns.of_caller apart rfl inside (by simp) (by simp) (by simp [Pump.Phase.early])
        (fun admitted => absurd admitted never) (fun _ _ => rfl) (Or.inl rfl)
        (fun _ _ => lookup_of_erase) rfl rfl
  | readActive call thrown found =>
      have here : state.phase call = .retired thrown found := ready
      have never := unissued here rfl
      have inside := (apart.entered_of_phase here (by simp)).1
      simp only [Pump.effect]
      split <;>
        exact Turns.of_caller apart rfl inside (by simp) (by simp) (by simp [Pump.Phase.early])
          (fun admitted => absurd admitted never) (fun _ _ => rfl) (Or.inl rfl)
          (fun _ _ found => found) rfl rfl
  | raise call thrown =>
      have here : state.phase call = .raising thrown := ready
      exact Turns.of_failure apart _ (apart.entered_of_phase here (by simp)).1 (by rw [here]; rfl)
  | invokeOnCancellation call =>
      have here : state.phase call = .started := ready
      have inside := (apart.entered_of_phase here (by simp)).1
      exact Turns.of_caller apart rfl inside (by simp) (by simp) (by simp [Pump.Phase.early])
        (fun _ => rfl) (fun _ _ => rfl) (Or.inl rfl) (fun _ _ found => found) rfl rfl
  | cancel call => exact Turns.of_continuation apart ready.1 (Or.inl rfl) rfl rfl rfl rfl rfl
  | receive call result =>
      have here : state.continuation call = .resumed result := ready
      have inside := apart.entered_of_continuation (by rw [here]; simp)
      exact Turns.of_continuation apart inside (Or.inr (by rw [here]; rfl)) rfl rfl rfl rfl rfl
  | revoke call completion =>
      have here : state.continuation call = .resumed (.value completion) := ready
      have inside := apart.entered_of_continuation (by rw [here]; simp)
      exact Turns.of_continuation apart inside (Or.inr (by rw [here]; rfl)) rfl rfl rfl rfl rfl
  | poll timeoutMillis rc batch =>
      simp only [Pump.effect]
      split <;> exact Turns.of_idle apart rfl rfl rfl rfl rfl
  | readSize batch =>
      simp only [Pump.effect]
      split <;> exact Turns.of_idle apart rfl rfl rfl rfl rfl
  | dispatch completion rest =>
      by_cases event : completion.reqId = 0
      · simp only [Pump.effect, event, ↓reduceIte]
        exact Turns.of_idle apart rfl rfl rfl rfl rfl
      · cases found : state.pending.lookup completion.reqId with
        | none =>
            simp only [Pump.effect, event, ↓reduceIte, found]
            exact Turns.of_idle apart rfl rfl rfl rfl rfl
        | some call =>
            simp only [Pump.effect, event, ↓reduceIte, found]
            refine Turns.of_take apart found rfl ?_
            intro other answer later same
            cases same
            exact ⟨answering call completion rest rfl found event, (apart.keyed _ _ found).1⟩
  | resume call completion rest =>
      have held : state.pump.held = some call := by
        rw [show state.pump = .taken call completion rest from ready]
        rfl
      refine Turns.of_resume apart (.value completion) held (state.resume_phase ..) rfl
        (state.resume_pending ..) (state.resume_entered ..) ?_
      simp only [Pump.effect]
      split <;> rfl
  | failNext id rest =>
      cases found : state.pending.lookup id with
      | none =>
          simp only [Pump.effect, found]
          exact Turns.of_idle apart rfl rfl rfl rfl rfl
      | some call =>
          simp only [Pump.effect, found]
          exact Turns.of_take apart found rfl (by simp)
  | failActive call id rest =>
      have held : state.pump.held = some call := by
        rw [show state.pump = .withdrew call id rest from ready]
        rfl
      simp only [Pump.effect]
      split
      · exact Turns.of_pump apart rfl rfl rfl rfl (fun _ there => held.trans there) (by simp)
      · exact Turns.of_idle apart rfl rfl rfl rfl rfl
  | failResume call id rest =>
      have held : state.pump.held = some call := by
        rw [show state.pump = .raising call id rest from ready]
        rfl
      refine Turns.of_resume apart (.exception (Pump.notCompleted id)) held (state.resume_phase ..)
        rfl (state.resume_pending ..) (state.resume_entered ..) ?_
      simp only [Pump.effect]
      split <;> rfl
  | close => exact Turns.of_pump apart rfl rfl rfl rfl (fun _ there => there) (fun _ _ _ there => there)
  | _ => exact Turns.of_idle apart rfl rfl rfl rfl rfl

end Apart

end KtBridge.Exchange
