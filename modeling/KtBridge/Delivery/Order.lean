import KtBridge.Delivery.Served
import KtBridge.Runtime.Edits

/-! # What was received is the first part of what was polled, whoever closes

A worker is registered once, before its loops start, and its stream is told one event after the other
until its handler is removed or its flag is set. So whatever is closed meanwhile, and by whom, the
tasks that a stream was sent are the first of those that Core's polls returned. -/

namespace KtBridge.Delivery

open Foundation
open Pump (Completion Call Throwable)
open KtBridge.Runtime (KtTaskKind Worker Phase)
open KtBridge.Worker (TaskKind)

/-- Whether a call is making the worker, and has not registered it yet. -/
def making (worker : Worker) : Phase → Bool
  | .validating other | .registering other => other = worker
  | _ => false

namespace State

/-- One call makes a worker and registers it once; its loops start after that. -/
structure Registered (worker : Worker) (state : State) : Prop where
  alone : ∀ call other, making worker (state.runtime.phase call) = true →
    making worker (state.runtime.phase other) = true → call = other
  made : ∀ call, making worker (state.runtime.phase call) = true →
    worker ∈ state.runtime.workers ∧ worker ∉ state.opened
  created : ∀ call, state.runtime.phase call = .created worker → worker ∈ state.opened
  opened : worker ∈ state.opened → worker ∈ state.runtime.workers
  handlers : worker ∈ state.runtime.handlers → worker ∈ state.opened
  started : ∀ kind, (state.loops worker kind).phase ≠ .absent → worker ∈ state.opened

end State

section Registered

variable {decode : ByteArray → String} {worker : Worker} {state next : State} {call : Call}

/-- A call moves on that makes the worker only if it did before, and does not register it. -/
theorem State.Registered.move (registered : state.Registered worker) {after : Phase}
    (phases : next.runtime.phase = Function.update state.runtime.phase call after)
    (makes : making worker after = true → making worker (state.runtime.phase call) = true)
    (creates : after ≠ .created worker)
    (workers : worker ∈ state.runtime.workers → worker ∈ next.runtime.workers)
    (opened : worker ∈ next.opened ↔ worker ∈ state.opened)
    (handlers : worker ∈ next.runtime.handlers → worker ∈ state.runtime.handlers)
    (loops : next.loops = state.loops) : next.Registered worker := by
  have before : ∀ other, making worker (next.runtime.phase other) = true →
      making worker (state.runtime.phase other) = true := by
    rw [phases]
    exact @forall_update (fun other phase => making worker phase = true →
      making worker (state.runtime.phase other) = true) _ _ _ (fun _ => id) makes
  refine ⟨fun one other makes also => ?_, fun other makes => ?_, fun other => ?_, fun there => ?_,
    fun there => ?_, fun kind spawned => ?_⟩
  · exact registered.alone one other (before one makes) (before other also)
  · obtain ⟨known, unopened⟩ := registered.made other (before other makes)
    exact ⟨workers known, fun there => unopened (opened.mp there)⟩
  · rw [phases, opened]
    exact @forall_update (fun _ phase => phase = Phase.created worker → worker ∈ state.opened) _ _ _
      registered.created (fun same => absurd same creates) other
  · exact workers (registered.opened (opened.mp there))
  · exact opened.mpr (registered.handlers (handlers there))
  · rw [loops] at spawned
    exact opened.mpr (registered.started kind spawned)

/-- What leaves the calls alone. -/
theorem State.Registered.same (registered : state.Registered worker)
    (phases : next.runtime.phase = state.runtime.phase)
    (workers : next.runtime.workers = state.runtime.workers)
    (handlers : next.runtime.handlers = state.runtime.handlers)
    (opened : worker ∈ next.opened ↔ worker ∈ state.opened)
    (started : ∀ kind, (next.loops worker kind).phase ≠ .absent → worker ∈ state.opened) :
    next.Registered worker where
  alone := by
    rw [phases]
    exact registered.alone
  made := by
    rw [phases, workers, opened]
    exact registered.made
  created := by
    rw [phases, opened]
    exact registered.created
  opened := by
    rw [workers, opened]
    exact registered.opened
  handlers := by
    rw [handlers, opened]
    exact registered.handlers
  started := by
    rw [opened]
    exact started

/-- A new handle is made by the call that got it. -/
theorem State.Registered.workerNew (registered : state.Registered worker) {other : Worker}
    (fresh : other ∉ state.runtime.workers) :
    (effect decode state (.runtime (.workerNew call (some other)))).Registered worker := by
  have opened : (effect decode state (.runtime (.workerNew call (some other)))).opened =
      state.opened := Finset.union_empty _
  by_cases same : other = worker
  · subst same
    have nobody : ∀ call, making other (state.runtime.phase call) = false := by
      intro call
      by_contra makes
      exact fresh (registered.made call (by simpa using makes)).1
    have unopened : other ∉ state.opened := fun there => fresh (registered.opened there)
    have own : ∀ caller, making other (Function.update state.runtime.phase call
        (.validating other) caller) = true → caller = call := by
      intro caller makes
      by_contra different
      rw [Function.update_of_ne different, nobody caller] at makes
      cases makes
    refine ⟨fun one two makes also => (own one makes).trans (own two also).symm, fun caller _ => ?_,
      fun caller => ?_, fun there => ?_, ?_, ?_⟩
    · rw [opened]
      exact ⟨Finset.mem_insert_self .., unopened⟩
    · rw [opened]
      refine @forall_update (fun _ phase => phase = Phase.created other → other ∈ state.opened) _ _ _
        registered.created (fun impossible => ?_) caller
      cases impossible
    · exact Finset.mem_insert_self ..
    · rw [opened]
      exact registered.handlers
    · rw [opened]
      exact registered.started
  · refine @State.Registered.move worker state _ call registered (.validating other) rfl
      (fun makes => absurd (of_decide_eq_true makes) same) (by simp)
      (fun known => Finset.mem_insert_of_mem known) ?_ id rfl
    rw [opened]

/-- The call that made a worker registers it. -/
theorem State.Registered.onWorkerEvents (registered : state.Registered worker) {other : Worker}
    (phase : state.runtime.phase call = .registering other) :
    (effect decode state (.runtime (.onWorkerEvents call other))).Registered worker := by
  cases closed : state.runtime.closed with
  | true =>
      refine @State.Registered.move worker state _ call registered (.removing other true) ?_
        (fun impossible => (by cases impossible)) (by simp) ?_ ?_ ?_ rfl
      all_goals simp [effect, opens, Runtime.effect, Runtime.State.setPhase, closed]
  | false =>
      by_cases same : other = worker
      · subst same
        have makes : making other (state.runtime.phase call) = true := by
          rw [phase]
          exact decide_eq_true rfl
        have nobody : ∀ caller, making other (Function.update state.runtime.phase call
            (.created other) caller) = false := by
          intro caller
          by_cases own : caller = call
          · rw [own, Function.update_self]
            rfl
          · rw [Function.update_of_ne own]
            by_contra also
            exact own (registered.alone caller call (by simpa using also) makes)
        have there : other ∈ (effect decode state (.runtime (.onWorkerEvents call other))).opened := by
          simp [effect, opens, closed]
        refine ⟨fun one two makes => ?_, fun one makes => ?_, fun _ _ => there, fun _ => ?_,
          fun _ => there, fun _ _ => there⟩
        all_goals simp only [effect, Runtime.effect, closed, Bool.false_eq_true, if_false] at *
        · exact absurd makes (by simp [Runtime.State.setPhase, nobody one])
        · exact absurd makes (by simp [Runtime.State.setPhase, nobody one])
        · exact (registered.made call makes).1
      · refine @State.Registered.move worker state _ call registered (.created other) ?_
          (fun impossible => (by cases impossible)) (by simp [same]) ?_ ?_ ?_ rfl
        all_goals
          simp [effect, opens, Runtime.effect, Runtime.State.setPhase, closed, Ne.symm same]

/-- `onEvent` makes no worker. -/
theorem onEvent_making (decode : ByteArray → String) (runtime : Runtime.State) (call : Call)
    (completion : Completion) (worker : Worker) :
    ∃ after, (Runtime.onEvent decode runtime call completion).phase =
        Function.update runtime.phase call after ∧
      making worker after = false ∧ after ≠ .created worker ∧
      (Runtime.onEvent decode runtime call completion).workers = runtime.workers := by
  unfold Runtime.onEvent
  split
  · split <;> exact ⟨_, rfl, rfl, by simp, rfl⟩
  · split
    · exact ⟨_, rfl, rfl, by simp, rfl⟩
    · split
      · exact ⟨_, rfl, rfl, by simp, rfl⟩
      · split <;> exact ⟨_, rfl, rfl, by simp, rfl⟩

theorem registered_invariant (decode : ByteArray → String) (worker : Worker) :
    (system decode).Invariant (State.Registered worker) where
  start := by
    refine ⟨fun _ _ impossible => ?_, fun _ impossible => ?_, fun _ impossible => ?_,
      fun impossible => ?_, fun impossible => ?_, fun kind spawned => absurd rfl spawned⟩
    all_goals cases impossible
  step := by
    intro state action _ registered ready
    cases action with
    | exchange action => exact registered.same rfl rfl rfl Iff.rfl registered.started
    | loop other kind step =>
        exact registered.same rfl rfl rfl Iff.rfl fun this spawned =>
          registered.started this (spawned_before decode ready spawned)
    | start call other =>
        refine registered.same rfl rfl rfl Iff.rfl fun this spawned => ?_
        by_cases same : worker = other
        · subst same
          exact registered.created call ready.1
        · refine registered.started this fun absent => spawned ?_
          simp only [system, effect, Function.update_of_ne same]
          exact absent
    | deliver call completion rest =>
        exact @State.Registered.move worker state _ call registered (.pushed completion) rfl
          (fun impossible => (by cases impossible)) (by simp) id Iff.rfl id rfl
    | runtime action =>
        have moved : ∀ {call after}, (Runtime.effect decode state.runtime action).phase =
            Function.update state.runtime.phase call after → making worker after = false →
              after ≠ .created worker → opens state.runtime action = ∅ →
                (Runtime.effect decode state.runtime action).workers = state.runtime.workers →
                  (worker ∈ (Runtime.effect decode state.runtime action).handlers →
                    worker ∈ state.runtime.handlers) →
                    ((system decode).effect state (.runtime action)).Registered worker := by
          intro call after phases quiet creates opens_ workers handlers
          refine registered.move phases (fun makes => ?_) creates (fun known => ?_) ?_ handlers rfl
          · rw [quiet] at makes
            cases makes
          · exact workers.symm ▸ known
          · simp [system, effect, opens_]
        cases action with
        | workerNew call handle =>
            cases handle with
            | none => exact moved rfl rfl (by simp) rfl rfl id
            | some other => exact registered.workerNew (ready.1.2 other rfl)
        | ensureOpen call =>
            refine moved rfl ?_ ?_ rfl rfl id
            all_goals split <;> simp [making]
        | validate call other accepted =>
            have phase : state.runtime.phase call = .validating other := ready.1
            refine @State.Registered.move worker state _ call registered _ rfl ?_ ?_ id ?_ id rfl
            · intro makes
              rw [phase]
              cases accepted
              · cases makes
              · exact makes
            · cases accepted <;> simp
            · simp [system, effect, opens]
        | onWorkerEvents call other => exact registered.onWorkerEvents ready.1
        | remove call other failed =>
            exact moved rfl rfl (by simp) rfl rfl fun there => Finset.mem_of_mem_erase there
        | flag call other failed kinds =>
            cases kinds with
            | nil =>
                refine moved rfl ?_ ?_ rfl rfl id
                all_goals split <;> simp [making]
            | cons kind kinds => exact moved rfl rfl (by simp) rfl rfl id
        | endStream call other kinds remaining =>
            cases kinds <;> exact moved rfl rfl (by simp) rfl rfl id
        | runtimeFree call interrupted =>
            refine moved rfl ?_ ?_ rfl rfl id
            all_goals split <;> simp [making]
        | clear call =>
            exact moved rfl rfl (by simp) rfl rfl fun impossible => by cases impossible
        | push call completion => exact ready.2.elim
        | onPushed call completion =>
            by_cases taken : ¬Runtime.logs completion ∧ completion.aux0 ∈ state.runtime.handlers
            · have kept : Runtime.effect decode state.runtime (.onPushed call completion) =
                  state.runtime.setPhase call (.handling completion) := if_pos taken
              rw [kept] at moved
              exact moved rfl rfl (by simp) rfl rfl id
            · have kept : Runtime.effect decode state.runtime (.onPushed call completion) =
                  state.runtime.setPhase call .returned := if_neg taken
              rw [kept] at moved
              exact moved rfl rfl (by simp) rfl rfl id
        | onEvent call completion =>
            obtain ⟨after, phases, quiet, created, workers⟩ :=
              onEvent_making decode state.runtime call completion worker
            exact moved phases quiet created rfl workers
              ((Runtime.State.onEvent_handlers decode state.runtime call completion).1 ▸ id)
        | receive other kind action =>
            refine registered.same rfl rfl rfl ?_ registered.started
            simp [system, effect, opens]
        | _ => exact moved rfl rfl (by simp) rfl rfl id

end Registered

/-- Whether a stream takes what its worker's handler is told. -/
def live (worker : Worker) (kind : KtTaskKind) (state : State) : Prop :=
  (∃ task, state.here = .sending worker kind task) ∨
    (state.runtime.stream worker kind).closed = false ∧
      (worker ∈ state.runtime.handlers ∨
        ∃ completion, state.here = .handling completion ∧ completion.aux0 = worker)

/-- A stream was sent the tasks of what it was told `before`. That is the first part of the story,
and all of it but what is being told, while the stream takes it. -/
structure State.Telling (worker : Worker) (kind : KtTaskKind) (state : State)
    (before : List Event) : Prop where
  sent : (state.runtime.stream worker kind).sent = Event.tasks before
  told : before <+: story worker kind state.exchange.pump.pushed
  last : ∃ earlier, story worker kind state.exchange.pump.pushed =
    earlier ++ current worker kind state.here
  whole : live worker kind state →
    story worker kind state.exchange.pump.pushed = before ++ current worker kind state.here
  ending : flags worker kind state.here = true → (state.runtime.stream worker kind).closed = true

section Telling

variable {decode : ByteArray → String} {worker : Worker} {kind : KtTaskKind} {state next : State}
  {before : List Event}

namespace State.Telling

/-- What leaves the story and the pump thread alone, and opens nothing. -/
theorem same (telling : state.Telling worker kind before)
    (pushed : next.exchange.pump.pushed = state.exchange.pump.pushed) (here : next.here = state.here)
    (sent : (next.runtime.stream worker kind).sent = (state.runtime.stream worker kind).sent)
    (closed : (state.runtime.stream worker kind).closed = true →
      (next.runtime.stream worker kind).closed = true)
    (handlers : worker ∈ next.runtime.handlers → worker ∈ state.runtime.handlers) :
    next.Telling worker kind before where
  sent := sent.trans telling.sent
  told := by
    rw [pushed]
    exact telling.told
  last := by
    rw [pushed, here]
    exact telling.last
  whole := by
    intro alive
    rw [pushed, here]
    refine telling.whole ?_
    rw [live, here] at alive
    refine alive.imp_right fun rest => ⟨?_, rest.2.imp_left handlers⟩
    by_contra closed_
    rw [closed (by simpa using closed_)] at rest
    cases rest.1
  ending := by
    rw [here]
    exact fun flagged => closed (telling.ending flagged)

/-- The pump thread goes on to tell the stream the same, or stops telling it. -/
theorem turn (telling : state.Telling worker kind before) {phase after : Phase}
    (here : state.here = phase) (moved : next.here = after)
    (pushed : next.exchange.pump.pushed = state.exchange.pump.pushed)
    (tells : current worker kind after = current worker kind phase ∨ current worker kind after = [])
    (sent : (next.runtime.stream worker kind).sent = (state.runtime.stream worker kind).sent)
    (alive : live worker kind next →
      live worker kind state ∧ current worker kind after = current worker kind phase)
    (ending : flags worker kind after = true →
      (next.runtime.stream worker kind).closed = true) : next.Telling worker kind before where
  sent := sent.trans telling.sent
  told := by
    rw [pushed]
    exact telling.told
  last := by
    rw [pushed, moved]
    rcases tells with same | nothing
    · rw [same, ← here]
      exact telling.last
    · exact ⟨_, by rw [nothing, List.append_nil]⟩
  whole := by
    intro alive_
    obtain ⟨before_, same⟩ := alive alive_
    rw [pushed, moved, same, ← here]
    exact telling.whole before_
  ending := by
    rw [moved]
    exact ending

theorem deliver (telling : state.Telling worker kind before) {call : Call}
    {completion : Completion} {rest : List Completion}
    (ready : guard state (.deliver call completion rest)) :
    (effect decode state (.deliver call completion rest)).Telling worker kind before := by
  obtain ⟨_, idle, _, event⟩ := ready
  have here := busy_eq_false.mp idle
  have after : (effect decode state (.deliver call completion rest)).here = .pushed completion :=
    Function.update_self ..
  have pushed : (effect decode state (.deliver call completion rest)).exchange.pump.pushed =
      state.exchange.pump.pushed ++ [completion] := by
    simp [effect, Exchange.effect, Pump.effect, event]
  have tells : story worker kind [completion] = current worker kind (.pushed completion) := by
    simp only [current, story, List.filterMap_cons, List.filterMap_nil]
    cases Delivery.told worker kind completion <;> rfl
  refine ⟨telling.sent, ?_, ?_, fun alive => ?_, ?_⟩
  · rw [pushed, story_append]
    exact telling.told.trans (List.prefix_append _ _)
  · rw [pushed, after, story_append, tells]
    exact ⟨_, rfl⟩
  · have before_ : live worker kind state := by
      rw [live, after] at alive
      rcases alive with ⟨_, impossible⟩ | ⟨opened, registered | ⟨_, impossible, _⟩⟩
      · cases impossible
      · exact .inr ⟨opened, .inl registered⟩
      · cases impossible
    have whole := telling.whole before_
    rw [here] at whole
    rw [pushed, after, story_append, tells, whole]
    exact congrArg (· ++ _) (List.append_nil before)
  · rw [after]
    exact fun impossible => by cases impossible

theorem onPushed (telling : state.Telling worker kind before) (pumped : state.Pumped) {call : Call}
    {completion : Completion} (ready : guard state (.runtime (.onPushed call completion))) :
    (effect decode state (.runtime (.onPushed call completion))).Telling worker kind before := by
  have phase : state.runtime.phase call = .pushed completion := ready.1
  have inside : delivers (state.runtime.phase call) = true := by
    rw [phase]
    rfl
  have here := (here_of_delivers pumped inside).trans phase
  by_cases taken : ¬Runtime.logs completion ∧ completion.aux0 ∈ state.runtime.handlers
  · have kept : Runtime.effect decode state.runtime (.onPushed call completion) =
        state.runtime.setPhase call (.handling completion) := if_pos taken
    have after := here_after pumped inside (congrArg Runtime.State.phase kept)
    refine telling.turn here after rfl (.inl rfl) ?_ (fun alive => ⟨?_, rfl⟩)
      fun impossible => by cases impossible
    · simp only [effect, kept]
      rfl
    · rw [live, after] at alive
      simp only [effect, kept] at alive
      rcases alive with ⟨_, impossible⟩ | ⟨opened, registered | ⟨_, same, named⟩⟩
      · cases impossible
      · exact .inr ⟨opened, .inl registered⟩
      · cases same
        exact .inr ⟨opened, .inl (named ▸ taken.2)⟩
  · have kept : Runtime.effect decode state.runtime (.onPushed call completion) =
        state.runtime.setPhase call .returned := if_neg taken
    have after := here_after pumped inside (congrArg Runtime.State.phase kept)
    refine telling.turn here after rfl (.inr rfl) ?_ (fun alive => ?_)
      fun impossible => by cases impossible
    · simp only [effect, kept]
      rfl
    · rw [live, after] at alive
      simp only [effect, kept] at alive
      rcases alive with ⟨_, impossible⟩ | ⟨opened, registered | ⟨_, impossible, _⟩⟩
      · cases impossible
      · refine ⟨.inr ⟨opened, .inl registered⟩, ?_⟩
        -- What would tell the stream something would be passed on.
        simp only [current]
        cases tells : Delivery.told worker kind completion with
        | none => rfl
        | some event =>
            obtain ⟨names, quiet⟩ := named_of_told tells
            exact absurd ⟨by simp [quiet], names ▸ registered⟩ taken
      · cases impossible

/-- Nothing of a stream is live but by its handler, once the event is told. -/
theorem live_after {after : Phase} (here : next.here = after) (read : unread after = none)
    (elsewhere : ∀ task, after ≠ .sending worker kind task)
    (closed : (next.runtime.stream worker kind).closed = (state.runtime.stream worker kind).closed)
    (handlers : next.runtime.handlers = state.runtime.handlers) (alive : live worker kind next) :
    live worker kind state := by
  rw [live, here, closed, handlers] at alive
  rcases alive with ⟨task, same⟩ | ⟨opened, registered | ⟨_, same, _⟩⟩
  · exact absurd same (elsewhere task)
  · exact .inr ⟨opened, .inl registered⟩
  · rw [same] at read
    cases read

theorem onEvent (telling : state.Telling worker kind before) (pumped : state.Pumped) {call : Call}
    {completion : Completion} (ready : guard state (.runtime (.onEvent call completion))) :
    ∃ before, (effect decode state (.runtime (.onEvent call completion))).Telling worker kind
      before := by
  have phase : state.runtime.phase call = .handling completion := ready.1
  have inside : delivers (state.runtime.phase call) = true := by
    rw [phase]
    rfl
  have here := (here_of_delivers pumped inside).trans phase
  have event : completion.reqId = 0 := pumped.event call completion (by rw [phase]; rfl)
  have stream : (effect decode state (.runtime (.onEvent call completion))).runtime.stream =
      state.runtime.stream := Runtime.State.onEvent_stream call completion
  have handlers : (effect decode state (.runtime (.onEvent call completion))).runtime.handlers =
      state.runtime.handlers :=
    (Runtime.State.onEvent_handlers decode state.runtime call completion).1
  have sent : ((effect decode state (.runtime (.onEvent call completion))).runtime.stream worker
      kind).sent = (state.runtime.stream worker kind).sent := by rw [stream]
  have alive : ∀ {after}, (effect decode state (.runtime (.onEvent call completion))).here = after →
      unread after = none → (∀ task, after ≠ .sending worker kind task) →
        live worker kind (effect decode state (.runtime (.onEvent call completion))) →
          live worker kind state :=
    fun moved read elsewhere => live_after moved read elsewhere (by rw [stream]) handlers
  cases tells : Delivery.told worker kind completion with
  | none =>
      obtain ⟨after, phases, nothing, _, unflagged, _, read, _, _⟩ :=
        onEvent_untold decode state.runtime call event tells
      have moved : (effect decode state (.runtime (.onEvent call completion))).here = after :=
        here_after pumped inside phases
      refine ⟨before, telling.turn here moved rfl (.inr nothing) sent
        (fun alive_ => ⟨alive moved read (fun task same => ?_) alive_, ?_⟩) fun flagged => ?_⟩
      · simp [same, current] at nothing
      · rw [nothing]
        simp [current, tells]
      · rw [unflagged] at flagged
        cases flagged
  | some told =>
      have same : current worker kind (.handling completion) = [told] := by simp [current, tells]
      obtain ⟨names, _⟩ := named_of_told tells
      cases told with
      | task bytes =>
          have kept := onEvent_task decode state.runtime call tells
          by_cases closed : (state.runtime.stream worker kind).closed = true
          · rw [if_pos closed] at kept
            have moved : (effect decode state (.runtime (.onEvent call completion))).here = .returned :=
              here_after pumped inside (congrArg Runtime.State.phase kept :)
            refine ⟨before, telling.turn here moved rfl (.inr rfl) sent (fun alive => ?_)
              fun impossible => by cases impossible⟩
            rw [live, moved, stream, closed] at alive
            rcases alive with ⟨_, impossible⟩ | ⟨impossible, _⟩ <;> cases impossible
          · rw [if_neg closed] at kept
            have moved : (effect decode state (.runtime (.onEvent call completion))).here =
                .sending worker kind bytes :=
              here_after pumped inside (congrArg Runtime.State.phase kept :)
            have tells_ : current worker kind (.sending worker kind bytes) =
                current worker kind (.handling completion) := by
              rw [same]
              simp [current]
            refine ⟨before, telling.turn here moved rfl (.inl tells_) sent (fun _ => ⟨?_, tells_⟩)
              fun impossible => by cases impossible⟩
            exact .inr ⟨by simpa using closed, .inr ⟨completion, here, names⟩⟩
      | ended =>
          have kept : Runtime.effect decode state.runtime (.onEvent call completion) =
              state.runtime.setPhase call
                (.handlingEnd worker kind (state.runtime.streamFailures worker kind)) :=
            onEvent_ended tells
          have moved := here_after pumped inside (congrArg Runtime.State.phase kept)
          have tells_ : current worker kind (.handlingEnd worker kind
              (state.runtime.streamFailures worker kind)) =
                current worker kind (.handling completion) := by
            rw [same]
            simp [current]
          exact ⟨before, telling.turn here moved rfl (.inl tells_) sent
            (fun alive_ => ⟨alive moved rfl (by simp) alive_, tells_⟩)
            fun impossible => by cases impossible⟩
      | failed status message =>
          have kept := onEvent_failed decode state.runtime call tells
          have moved : (effect decode state (.runtime (.onEvent call completion))).here = .returned :=
            here_after pumped inside (congrArg Runtime.State.phase kept :)
          by_cases alive_ : live worker kind state
          · have whole := telling.whole alive_
            rw [here, same] at whole
            refine ⟨before ++ [.failed status message], ?_, ?_, ?_, fun _ => ?_, ?_⟩
            · rw [sent, telling.sent, Event.tasks_append]
              exact (List.append_nil _).symm
            · exact ⟨[], (List.append_nil _).trans whole.symm⟩
            · rw [moved]
              exact ⟨_, (List.append_nil _).symm⟩
            · rw [moved]
              exact whole.trans (List.append_nil _).symm
            · rw [moved]
              exact fun impossible => by cases impossible
          · exact ⟨before, telling.turn here moved rfl (.inr rfl) sent
              (fun next => absurd (alive moved rfl (by simp) next) alive_)
              fun impossible => by cases impossible⟩

theorem add (telling : state.Telling worker kind before) (pumped : state.Pumped) {call : Call}
    {owner : Worker} {this : KtTaskKind} {task : ByteArray}
    (ready : guard state (.runtime (.add call owner this task))) :
    ∃ before, (effect decode state (.runtime (.add call owner this task))).Telling worker kind
      before := by
  have phase : state.runtime.phase call = .sending owner this task := ready.1
  have inside : delivers (state.runtime.phase call) = true := by
    rw [phase]
    rfl
  have here := (here_of_delivers pumped inside).trans phase
  have after : (effect decode state (.runtime (.add call owner this task))).here =
      .offering owner this := here_after pumped inside rfl
  by_cases own : worker = owner ∧ kind = this
  · obtain ⟨rfl, rfl⟩ := own
    have whole := telling.whole (.inl ⟨task, here⟩)
    simp only [here, current, and_self, if_true] at whole
    have stream : (effect decode state (.runtime (.add call worker kind task))).runtime.stream worker
        kind = { state.runtime.stream worker kind with
          tasks := (state.runtime.stream worker kind).tasks ++ [task]
          sent := (state.runtime.stream worker kind).sent ++ [task] } :=
      Runtime.State.setStream_self
    refine ⟨before ++ [.task task], ?_, ?_, ?_, fun _ => ?_, ?_⟩
    · rw [stream, Event.tasks_append, ← telling.sent]
      rfl
    · exact ⟨[], (List.append_nil _).trans whole.symm⟩
    · rw [after]
      exact ⟨_, (List.append_nil _).symm⟩
    · rw [after]
      exact whole.trans (List.append_nil _).symm
    · rw [after]
      exact fun impossible => by cases impossible
  · have other : ¬(owner = worker ∧ this = kind) := fun same => own ⟨same.1.symm, same.2.symm⟩
    have stream : (effect decode state (.runtime (.add call owner this task))).runtime.stream worker
        kind = state.runtime.stream worker kind := Runtime.State.setStream_of_ne own
    have tells : current worker kind (.offering owner this) =
        current worker kind (.sending owner this task) := by simp [current, other]
    exact ⟨before, telling.turn here after rfl (.inl tells) (by rw [stream])
      (fun alive => ⟨live_after after rfl (by simp) (by rw [stream]) rfl alive, tells⟩)
      fun impossible => by cases impossible⟩

theorem offer (telling : state.Telling worker kind before) (pumped : state.Pumped) {call : Call}
    {owner : Worker} {this : KtTaskKind} (ready : guard state (.runtime (.offer call owner this))) :
    (effect decode state (.runtime (.offer call owner this))).Telling worker kind before := by
  have phase : state.runtime.phase call = .offering owner this := ready.1
  have inside : delivers (state.runtime.phase call) = true := by
    rw [phase]
    rfl
  have here := (here_of_delivers pumped inside).trans phase
  have after : (effect decode state (.runtime (.offer call owner this))).here = .returned :=
    here_after pumped inside rfl
  have kept : ((effect decode state (.runtime (.offer call owner this))).runtime.stream worker
        kind).sent = (state.runtime.stream worker kind).sent ∧
      ((effect decode state (.runtime (.offer call owner this))).runtime.stream worker
        kind).closed = (state.runtime.stream worker kind).closed :=
    Runtime.State.forall_setStream (fun other that stream =>
      stream.sent = (state.runtime.stream other that).sent ∧
        stream.closed = (state.runtime.stream other that).closed)
      ⟨TaskStream.trySend_sent _, TaskStream.State.trySend_closed _⟩ (fun _ _ => ⟨rfl, rfl⟩) worker
      kind
  exact telling.turn here after rfl (.inl rfl) kept.1
    (fun alive => ⟨live_after after rfl (by simp) kept.2 rfl alive, rfl⟩)
    fun impossible => by cases impossible

theorem handleEnd (telling : state.Telling worker kind before) (pumped : state.Pumped) {call : Call}
    {owner : Worker} {this : KtTaskKind} {cause : Option Throwable}
    (ready : guard state (.runtime (.handleEnd call owner this cause))) :
    (effect decode state (.runtime (.handleEnd call owner this cause))).Telling worker kind
      before := by
  have phase : state.runtime.phase call = .handlingEnd owner this cause := ready.1
  have inside : delivers (state.runtime.phase call) = true := by
    rw [phase]
    rfl
  have here := (here_of_delivers pumped inside).trans phase
  have after : (effect decode state (.runtime (.handleEnd call owner this cause))).here =
      .handlingChannel owner this cause := here_after pumped inside rfl
  by_cases own : worker = owner ∧ kind = this
  · obtain ⟨rfl, rfl⟩ := own
    have stream : (effect decode state (.runtime (.handleEnd call worker kind cause))).runtime.stream
        worker kind = { state.runtime.stream worker kind with closed := true } :=
      Runtime.State.setStream_self
    refine telling.turn here after rfl (.inl rfl) (by rw [stream]) (fun alive => ?_)
      fun _ => by rw [stream]
    rw [live, after, stream] at alive
    rcases alive with ⟨_, impossible⟩ | ⟨impossible, _⟩ <;> cases impossible
  · have other : ¬(owner = worker ∧ this = kind) := fun same => own ⟨same.1.symm, same.2.symm⟩
    have stream : (effect decode state (.runtime (.handleEnd call owner this cause))).runtime.stream
        worker kind = state.runtime.stream worker kind := Runtime.State.setStream_of_ne own
    refine telling.turn here after rfl (.inl rfl) (by rw [stream])
      (fun alive => ⟨live_after after rfl (by simp) (by rw [stream]) rfl alive, rfl⟩) fun flagged => ?_
    simp [flags, other] at flagged

theorem handleChannel (telling : state.Telling worker kind before) (pumped : state.Pumped)
    {call : Call} {owner : Worker} {this : KtTaskKind} {cause : Option Throwable}
    (ready : guard state (.runtime (.handleChannel call owner this cause))) :
    (effect decode state (.runtime (.handleChannel call owner this cause))).Telling worker kind
      before := by
  have phase : state.runtime.phase call = .handlingChannel owner this cause := ready.1
  have inside : delivers (state.runtime.phase call) = true := by
    rw [phase]
    rfl
  have here := (here_of_delivers pumped inside).trans phase
  have after : (effect decode state (.runtime (.handleChannel call owner this cause))).here =
      .returned := here_after pumped inside rfl
  by_cases own : worker = owner ∧ kind = this
  · obtain ⟨rfl, rfl⟩ := own
    have stream : (effect decode state
        (.runtime (.handleChannel call worker kind cause))).runtime.stream worker kind =
          (state.runtime.stream worker kind).closeChannel cause := Runtime.State.setStream_self
    have closed : (state.runtime.stream worker kind).closed = true :=
      telling.ending (by simp [here, flags])
    refine telling.turn here after rfl (.inr rfl) ?_ (fun alive => ?_)
      fun impossible => by cases impossible
    · rw [stream]
      exact TaskStream.closeChannel_sent ..
    · rw [live, after, stream, TaskStream.State.closeChannel_closed, closed] at alive
      rcases alive with ⟨_, impossible⟩ | ⟨impossible, _⟩ <;> cases impossible
  · have other : ¬(owner = worker ∧ this = kind) := fun same => own ⟨same.1.symm, same.2.symm⟩
    have stream : (effect decode state
        (.runtime (.handleChannel call owner this cause))).runtime.stream worker kind =
          state.runtime.stream worker kind := Runtime.State.setStream_of_ne own
    have tells : current worker kind (.handlingChannel owner this cause) = [] := by
      simp [current, other]
    exact telling.turn here after rfl (.inr rfl) (by rw [stream])
      (fun alive => ⟨live_after after rfl (by simp) (by rw [stream]) rfl alive, tells.symm⟩)
      fun impossible => by cases impossible

end State.Telling

/-- A stream of a worker that was not registered yet was told nothing. -/
theorem story_of_unopened (reached : (system decode).Reachable state)
    (registered : state.Registered worker) (unopened : worker ∉ state.opened) :
    story worker kind state.exchange.pump.pushed = [] := by
  obtain ⟨polled, rfl⟩ := exists_stream kind
  obtain ⟨lost, split, _⟩ := events_split reached worker polled
  have absent : (state.loops worker polled).phase = .absent := by
    by_contra spawned
    exact unopened (registered.started polled spawned)
  rw [((loops_sound reached worker polled).idle absent).1] at split
  exact (List.append_eq_nil_iff.mp (List.append_eq_nil_iff.mp split.symm).1).1

/-- Only the pump thread sends, and nobody opens a stream again. -/
theorem sent_of_elsewhere (decode : ByteArray → String) {action : Runtime.Action} {call : Call}
    (ready : guard state (.runtime action)) (turn : action.turn = some call)
    (elsewhere : delivers (state.runtime.phase call) = false) :
    ((Runtime.effect decode state.runtime action).stream worker kind).sent =
      (state.runtime.stream worker kind).sent := by
  obtain ⟨ready, _⟩ := ready
  have there : ∀ {phase}, state.runtime.phase call = phase → delivers phase = true → False := by
    intro phase here inside
    rw [here, inside] at elsewhere
    cases elsewhere
  have edited : ∀ {owner this} {stream : TaskStream.State},
      stream.sent = (state.runtime.stream owner this).sent →
        ((state.runtime.setStream owner this stream).stream worker kind).sent =
          (state.runtime.stream worker kind).sent :=
    fun same => Runtime.State.forall_setStream (fun other that stream =>
      stream.sent = (state.runtime.stream other that).sent) same (fun _ _ => rfl) worker kind
  cases action with
  | workerNew call handle => cases handle <;> rfl
  | onWorkerEvents call owner =>
      simp only [Runtime.effect]
      split <;> rfl
  | flag caller owner failed kinds =>
      cases kinds with
      | nil => rfl
      | cons this kinds => exact edited rfl
  | channel caller owner failed this kinds => exact edited (TaskStream.closeChannel_sent ..)
  | endStream caller owner kinds remaining => cases kinds <;> rfl
  | endFlag caller owner this cause kinds remaining => exact edited rfl
  | endChannel caller owner this cause kinds remaining =>
      exact edited (TaskStream.closeChannel_sent ..)
  | onPushed caller completion =>
      cases turn
      exact (there ready rfl).elim
  | onEvent caller completion =>
      cases turn
      exact (there ready rfl).elim
  | add caller owner this task =>
      cases turn
      exact (there ready rfl).elim
  | offer caller owner this =>
      cases turn
      exact (there ready rfl).elim
  | handleEnd caller owner this cause =>
      cases turn
      exact (there ready rfl).elim
  | handleChannel caller owner this cause =>
      cases turn
      exact (there ready rfl).elim
  | receive owner this action => cases turn
  | _ => rfl

/-- Only a registration adds a handler. -/
theorem handlers_before (decode : ByteArray → String) {action : Runtime.Action}
    (quiet : ∀ call, action ≠ .onWorkerEvents call worker)
    (there : worker ∈ (Runtime.effect decode state.runtime action).handlers) :
    worker ∈ state.runtime.handlers := by
  cases action with
  | workerNew call handle => cases handle <;> exact there
  | onWorkerEvents call other =>
      have different : worker ≠ other := fun same => quiet call (by rw [same])
      simp only [Runtime.effect] at there
      split at there
      · exact there
      · exact (Finset.mem_insert.mp there).resolve_left different
  | remove call other failed => exact Finset.mem_of_mem_erase there
  | flag call other failed kinds => cases kinds <;> exact there
  | endStream call other kinds remaining => cases kinds <;> exact there
  | clear call => cases there
  | onPushed call completion =>
      simp only [Runtime.effect] at there
      split at there <;> exact there
  | onEvent call completion =>
      rwa [show (Runtime.effect decode state.runtime (.onEvent call completion)).handlers = _ from
        (Runtime.State.onEvent_handlers decode state.runtime call completion).1] at there
  | _ => exact there

/-- A call outside `onPushed` tells the stream nothing. -/
theorem State.Telling.elsewhere (telling : state.Telling worker kind before)
    (reached : (system decode).Reachable state) (pumped : state.Pumped)
    (registered : state.Registered worker) {action : Runtime.Action} {call : Call}
    (ready : guard state (.runtime action)) (turn : action.turn = some call)
    (elsewhere : delivers (state.runtime.phase call) = false) :
    (effect decode state (.runtime action)).Telling worker kind before := by
  have here : (effect decode state (.runtime action)).here = state.here := by
    refine here_of_elsewhere pumped ready fun other same => ?_
    rw [turn] at same
    cases same
    exact elsewhere
  have sent := @sent_of_elsewhere worker kind state decode action call ready turn elsewhere
  have closed : (state.runtime.stream worker kind).closed = true →
      ((Runtime.effect decode state.runtime action).stream worker kind).closed = true :=
    fun flagged => Runtime.State.Flagged.step flagged ready.1
  by_cases registers : ∃ call, action = .onWorkerEvents call worker
  · obtain ⟨caller, rfl⟩ := registers
    have makes : making worker (state.runtime.phase caller) = true := by
      rw [show state.runtime.phase caller = _ from ready.1]
      exact decide_eq_true rfl
    have nothing : story worker kind state.exchange.pump.pushed = [] :=
      story_of_unopened reached registered (registered.made caller makes).2
    have told := telling.told
    obtain ⟨earlier, last⟩ := telling.last
    rw [nothing] at told last
    obtain ⟨_, quiet⟩ := List.append_eq_nil_iff.mp last.symm
    refine ⟨sent.trans telling.sent, telling.told, ⟨earlier, ?_⟩, fun _ => ?_, fun flagged => ?_⟩
    · rw [here]
      exact nothing.trans last
    · rw [here, quiet, List.prefix_nil.mp told]
      exact nothing
    · rw [here] at flagged
      exact closed (telling.ending flagged)
  · exact telling.same rfl here sent closed
      (handlers_before decode fun call same => registers ⟨call, same⟩)

/-- A receiver tells it nothing either. -/
theorem State.Telling.receive (telling : state.Telling worker kind before) {owner : Worker}
    {this : KtTaskKind} {action : TaskStream.Action}
    (ready : guard state (.runtime (.receive owner this action))) :
    (effect decode state (.runtime (.receive owner this action))).Telling worker kind before := by
  obtain ⟨⟨receiving, allowed⟩, _⟩ := ready
  have kept : ((effect decode state (.runtime (.receive owner this action))).runtime.stream worker
        kind).sent = (state.runtime.stream worker kind).sent ∧
      ((effect decode state (.runtime (.receive owner this action))).runtime.stream worker
        kind).closed = (state.runtime.stream worker kind).closed :=
    Runtime.State.forall_setStream (fun other that stream =>
      stream.sent = (state.runtime.stream other that).sent ∧
        stream.closed = (state.runtime.stream other that).closed)
      ⟨TaskStream.sent_receiving receiving, TaskStream.State.closed_step receiving⟩
      (fun _ _ => ⟨rfl, rfl⟩) worker kind
  exact telling.same rfl rfl kept.1 (fun closed => kept.2.trans closed) id

theorem telling_invariant (decode : ByteArray → String) (worker : Worker) (kind : KtTaskKind) :
    (system decode).Invariant fun state => ∃ before, state.Telling worker kind before where
  start := ⟨[], rfl, List.prefix_refl _, ⟨[], rfl⟩, fun _ => rfl, fun impossible => (by cases impossible)⟩
  step := by
    intro state action reached told ready
    have pumped := (pumped_invariant decode).reachable reached
    have registered := (registered_invariant decode worker).reachable reached
    obtain ⟨before, telling⟩ := told
    cases action with
    | exchange action => exact ⟨before, telling.same (pushed_exchange ready.2) rfl rfl id id⟩
    | loop other this step =>
        refine ⟨before, telling.same ?_ rfl rfl id id⟩
        simp only [system, effect]
        split <;> rfl
    | start call other => exact ⟨before, telling.same rfl rfl rfl id id⟩
    | deliver call completion rest => exact ⟨before, telling.deliver ready⟩
    | runtime action =>
        cases action with
        | receive owner this action => exact ⟨before, telling.receive ready⟩
        | onPushed call completion => exact ⟨before, telling.onPushed pumped ready⟩
        | onEvent call completion => exact telling.onEvent pumped ready
        | add call owner this task => exact telling.add pumped ready
        | offer call owner this => exact ⟨before, telling.offer pumped ready⟩
        | handleEnd call owner this cause => exact ⟨before, telling.handleEnd pumped ready⟩
        | handleChannel call owner this cause => exact ⟨before, telling.handleChannel pumped ready⟩
        | push call completion => exact ready.2.elim
        | _ =>
            refine ⟨before, telling.elsewhere reached pumped registered ready rfl ?_⟩
            first
              | rw [show state.runtime.phase _ = _ from ready.1]
                rfl
              | rw [show state.runtime.phase _ = _ from ready.1.1]
                rfl

end Telling

/-- What the callers have of one stream of a worker, whatever has been closed. -/
structure State.Ordered (state : State) (worker : Worker) (kind : TaskKind) : Prop where
  /-- The tasks taken, then those queued, are the first of those that Core's polls returned. -/
  first : (state.runtime.stream worker kind.stream).taken.map Prod.snd ++
    (state.runtime.stream worker kind.stream).tasks <+: (state.loops worker kind).polled
  once : ((state.runtime.stream worker kind.stream).taken.map Prod.fst).Nodup
  owned : ∀ call bytes, (call, bytes) ∈ (state.runtime.stream worker kind.stream).taken ↔
    ((state.runtime.stream worker kind.stream).phase call).task = some bytes

/-- Whoever closes the worker or its runtime, and whenever: what its callers took of a stream is the
first part of what Core's polls returned, in order, each task once. -/
theorem received_tasks_are_first {decode : ByteArray → String} {state : State}
    (reached : (system decode).Reachable state) (worker : Worker) (kind : TaskKind) :
    state.Ordered worker kind := by
  obtain ⟨before, telling⟩ := (telling_invariant decode worker kind.stream).reachable reached
  have kept := (Runtime.State.kept_invariant decode).reachable (runtime_projects.reachable reached)
    worker kind.stream
  obtain ⟨lost, split, _⟩ := events_split reached worker kind
  refine ⟨?_, kept.nodup_takers, fun call bytes => kept.mem_taken⟩
  rw [kept.ordered, telling.sent, ← (loops_sound reached worker kind).tasks, split]
  refine (telling.told.trans ?_).filterMap _
  rw [List.append_assoc]
  exact List.prefix_append _ _

/-- The worker is closed while the pump thread is about to add a task, which a caller then takes. -/
def racing : List Action :=
  [.deliver 10 lastTask.record [lastFailure.record, lastEnd.record],
    .runtime (.onPushed 10 lastTask.record), .runtime (.onEvent 10 lastTask.record),
    .runtime (.close 3 7), .runtime (.remove 3 7 false), .runtime (.free 3 7 false),
    .runtime (.flag 3 7 false KtTaskKind.entries),
    .runtime (.channel 3 7 false .workflowActivation [.activity, .nexus]),
    .runtime (.flag 3 7 false [.activity, .nexus]),
    .runtime (.channel 3 7 false .activity [.nexus]),
    .runtime (.add 10 7 .activity ⟨#[1]⟩), .runtime (.offer 10 7 .activity),
    .deliver 11 lastFailure.record [lastEnd.record], .runtime (.onPushed 11 lastFailure.record),
    .runtime (.receive 7 .activity (.call 0)), .runtime (.receive 7 .activity (.ensureActive 0)),
    .runtime (.receive 7 .activity (.poll 0)), .runtime (.receive 7 .activity (.look 0 ⟨#[1]⟩))]

theorem received_tasks_are_first_racing :
    [⟨#[1]⟩] <+: (((system lostText).after start (polling ++ pumping ++ racing)).loops 7
      .activity).polled := by
  have runs : (system lostText).Runs start (polling ++ pumping ++ racing) := by decide +kernel
  have ordered := received_tasks_are_first (GuardedSystem.Reachable.start.run runs) 7 .activity
  refine List.IsPrefix.trans ?_ ordered.first
  decide +kernel

end KtBridge.Delivery
