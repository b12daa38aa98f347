import KtBridge.Foundation.System
import KtBridge.Request.Machine
import KtBridge.Runtime.Machine
import KtBridge.Worker.Machine

/-! # A poll loop and what it pushes

One loop polls one stream of Core's until that reports shutdown. Its history is what Core's polls
ended with, and what was pushed about the stream. A panic inside the loop is caught, reported, and
ends the stream; an error is reported once, and the loop polls on. -/

namespace KtBridge

namespace Worker.TaskKind

/-- `completion_kind`. -/
def completionKind : TaskKind → KtKind
  | .workflowActivation => .taskWorkflowActivation
  | .activity => .taskActivity
  | .nexus => .taskNexus

/-- The discriminant that `kind as u64` gives. -/
def discriminant : TaskKind → UInt64
  | .workflowActivation => 0
  | .activity => 1
  | .nexus => 2

/-- The stream of the JVM's worker that takes the tasks. -/
def stream : TaskKind → Runtime.KtTaskKind
  | .workflowActivation => .workflowActivation
  | .activity => .activity
  | .nexus => .nexus

theorem stream_injective : Function.Injective stream := by
  intro first second same
  cases first <;> cases second <;> first | rfl | cases same

/-- Both sides number the streams alike. -/
theorem fromAux_discriminant (kind : TaskKind) :
    Runtime.KtTaskKind.fromAux kind.discriminant = some kind.stream := by
  cases kind <;> rfl

theorem ofKind_completionKind (kind : TaskKind) :
    Runtime.KtTaskKind.ofKind kind.completionKind.discriminant = some kind.stream := by
  cases kind <;> rfl

end Worker.TaskKind

namespace Delivery

open Foundation
open KtBridge.Runtime (KtTaskKind Worker)
open KtBridge.Worker (TaskKind)
open KtBridge.Request (pushedEvent)

/-- What Core's poll of a stream returns. -/
inductive Polled where
  | task (bytes : ByteArray)
  | shutDown
  | error (message : String)
  deriving DecidableEq

/-- How far a loop has come. -/
inductive LoopPhase where
  | absent
  | polling (reported : Bool)
  /-- `reported` was set; the error is about to be pushed. -/
  | reporting (message : String)
  | sleeping
  /-- A panic was caught, and is about to be pushed. -/
  | caught (message : String)
  /-- The end of the stream is about to be pushed. -/
  | ending
  /-- Core's shutdown is about to be initiated. -/
  | stopping
  | finished
  | aborted
  deriving DecidableEq

/-- What one stream of a worker is told. -/
inductive Event where
  | task (bytes : ByteArray)
  | failed (status : Int) (message : ByteArray)
  | ended
  deriving DecidableEq

namespace Event

def task? : Event → Option ByteArray
  | task bytes => some bytes
  | _ => none

def failure? : Event → Option (Int × ByteArray)
  | failed status message => some (status, message)
  | _ => none

/-- The tasks among what a stream was told. -/
def tasks (events : List Event) : List ByteArray := events.filterMap task?

/-- The failure it was told last. -/
def failure (events : List Event) : Option (Int × ByteArray) := (events.filterMap failure?).getLast?

@[simp] theorem tasks_append (first second : List Event) :
    tasks (first ++ second) = tasks first ++ tasks second :=
  List.filterMap_append

/-- Only a failure changes the last one. -/
theorem failure_append_toList (events : List Event) (event : Option Event) :
    failure (events ++ event.toList) = (event.bind failure?).or (failure events) := by
  obtain _ | event := event
  · simp
  · cases event <;> simp [failure, failure?, List.filterMap_append]

/-- The end comes last, if it comes. -/
def Closed (events : List Event) : Prop := ended ∉ events.dropLast

/-- What comes before a further event is not the end. -/
theorem Closed.before {before after : List Event} {event : Event}
    (closed : Closed (before ++ event :: after)) : ended ∉ before := by
  intro member
  apply closed
  rw [List.dropLast_append_of_ne_nil (List.cons_ne_nil _ _)]
  exact List.mem_append_left _ member

/-- An event may follow where the end has not come. -/
theorem closed_append {events : List Event} (running : ended ∉ events) (event : Event) :
    Closed (events ++ [event]) := by
  rwa [Closed, List.dropLast_concat]

end Event

/-- A task as the loop pushes it. -/
def taskPending (worker : Worker) (kind : TaskKind) (bytes : ByteArray) : Pending :=
  ((((Pending.ack pushedEvent).withKind kind.completionKind).withPayload bytes).withAux0
    worker).withAux1 kind.discriminant

def endPending (worker : Worker) (kind : TaskKind) : Pending :=
  (((Pending.ack pushedEvent).withKind .taskStreamEnd).withAux0 worker).withAux1 kind.discriminant

def failurePending (worker : Worker) (kind : TaskKind) (status : Int) (message : String) : Pending :=
  (((Pending.error pushedEvent status message).withKind .workerFailed).withAux0 worker).withAux1
    kind.discriminant

/-- The text of a panic that was caught. -/
def panicText (message : String) : String := "worker poll panic: " ++ message

/-- A loop, with what Core's polls ended with: the tasks, the errors, and the panic that ended it;
and with what was pushed. -/
structure Loop where
  phase : LoopPhase
  polled : List ByteArray
  errors : List String
  panicked : Option String
  events : List Event
  deriving DecidableEq

namespace Loop

def absent : Loop where
  phase := .absent
  polled := []
  errors := []
  panicked := none
  events := []

/-- The loop as `start` spawns it. -/
def spawn (loop : Loop) : Loop := { loop with phase := .polling false }

end Loop

/-- The steps of a loop. -/
inductive LoopStep where
  | poll (outcome : Polled)
  | report (message : String)
  | wake
  | panic (message : String)
  | reportPanic (message : String)
  | pushEnd
  | initiateShutdown
  | abort
  deriving DecidableEq

/-- Whether a panic there is caught by the loop. -/
def LoopPhase.guarded : LoopPhase → Bool
  | polling _ | reporting _ | sleeping => true
  | _ => false

/-- Whether the loop waits there, so that an abort may end it. -/
def LoopPhase.awaits : LoopPhase → Bool
  | polling _ | sleeping => true
  | _ => false

namespace Loop

def guard (loop : Loop) : LoopStep → Prop
  | .poll _ => ∃ reported, loop.phase = .polling reported
  | .report message => loop.phase = .reporting message
  | .wake => loop.phase = .sleeping
  | .panic _ => loop.phase.guarded
  | .reportPanic message => loop.phase = .caught message
  | .pushEnd => loop.phase = .ending
  | .initiateShutdown => loop.phase = .stopping
  | .abort => loop.phase.awaits

/-- What a step pushes. -/
def pushes (worker : Worker) (kind : TaskKind) : LoopStep → Option Pending
  | .poll (.task bytes) => some (taskPending worker kind bytes)
  | .poll .shutDown => some (endPending worker kind)
  | .report message => some (failurePending worker kind ktErrFailed message)
  | .reportPanic message => some (failurePending worker kind ktErrPanic (panicText message))
  | .pushEnd => some (endPending worker kind)
  | _ => none

/-- What the stream is told by it. -/
def tells : LoopStep → Option Event
  | .poll (.task bytes) => some (.task bytes)
  | .poll .shutDown => some .ended
  | .report message => some (.failed ktErrFailed message.toByteArray)
  | .reportPanic message => some (.failed ktErrPanic (panicText message).toByteArray)
  | .pushEnd => some .ended
  | _ => none

/-- The phase after a step. -/
def next (loop : Loop) : LoopStep → LoopPhase
  | .poll (.task _) => loop.phase
  | .poll .shutDown => .finished
  | .poll (.error message) => if loop.phase = .polling true then .sleeping else .reporting message
  | .report _ => .sleeping
  | .wake => .polling true
  | .panic message => .caught message
  | .reportPanic _ => .ending
  | .pushEnd => .stopping
  | .initiateShutdown => .finished
  | .abort => .aborted

def effect (loop : Loop) (step : LoopStep) : Loop where
  phase := loop.next step
  polled := match step with
    | .poll (.task bytes) => loop.polled ++ [bytes]
    | _ => loop.polled
  errors := match step with
    | .poll (.error message) => loop.errors ++ [message]
    | _ => loop.errors
  panicked := match step with
    | .panic message => some message
    | _ => loop.panicked
  events := loop.events ++ (tells step).toList

instance decidableGuard (loop : Loop) (step : LoopStep) : Decidable (loop.guard step) :=
  match step with
  | .poll _ => decidable_of_iff ((match loop.phase with | .polling _ => true | _ => false) = true) (by
      unfold guard
      cases loop.phase <;> simp)
  | .report _ => inferInstanceAs (Decidable (_ = _))
  | .wake => inferInstanceAs (Decidable (_ = _))
  | .panic _ => inferInstanceAs (Decidable (_ = _))
  | .reportPanic _ => inferInstanceAs (Decidable (_ = _))
  | .pushEnd => inferInstanceAs (Decidable (_ = _))
  | .initiateShutdown => inferInstanceAs (Decidable (_ = _))
  | .abort => inferInstanceAs (Decidable (_ = _))

/-- The failure that a stream ends with: of the panic if there was one, else of the first error. -/
def failure (loop : Loop) : Option (Int × ByteArray) :=
  match loop.panicked, loop.errors with
  | some message, _ => some (ktErrPanic, (panicText message).toByteArray)
  | none, message :: _ => some (ktErrFailed, message.toByteArray)
  | none, [] => none

end Loop

/-- Whether the stream was told of its end. -/
def LoopPhase.ended : LoopPhase → Bool
  | stopping | finished => true
  | _ => false

/-- Whether a failure that happened was pushed. -/
def LoopPhase.reported : LoopPhase → Bool
  | reporting _ | caught _ => false
  | _ => true

/-- What a loop has pushed, and what it knows of what happened. -/
structure Loop.Sound (loop : Loop) : Prop where
  tasks : Event.tasks loop.events = loop.polled
  ended : .ended ∈ loop.events ↔ loop.phase.ended
  closed : Event.Closed loop.events
  failure : loop.phase.reported → Event.failure loop.events = loop.failure
  calm : loop.phase.guarded ∨ loop.phase = .absent → loop.panicked = none
  flag : ∀ reported, loop.phase = .polling reported → (reported = true ↔ loop.errors ≠ [])
  erred : ∀ message, loop.phase = .reporting message → loop.errors = [message]
  asleep : loop.phase = .sleeping → loop.errors ≠ []
  panicked : ∀ message, loop.phase = .caught message → loop.panicked = some message
  idle : loop.phase = .absent → loop.events = [] ∧ loop.errors = []

namespace Loop

theorem sound_absent : absent.Sound where
  tasks := rfl
  ended := by simp [absent, LoopPhase.ended]
  closed := List.not_mem_nil
  failure := fun _ => rfl
  calm := fun _ => rfl
  flag := fun _ impossible => by cases impossible
  erred := fun _ impossible => by cases impossible
  asleep := fun impossible => by cases impossible
  panicked := fun _ impossible => by cases impossible
  idle := fun _ => ⟨rfl, rfl⟩

theorem failure_effect (loop : Loop) (step : LoopStep) :
    Event.failure (loop.effect step).events =
      ((tells step).bind Event.failure?).or (Event.failure loop.events) :=
  Event.failure_append_toList ..

namespace Sound

variable {loop : Loop}

theorem spawn (sound : loop.Sound) (absent : loop.phase = .absent) : loop.spawn.Sound where
  tasks := sound.tasks
  ended := by
    have before := sound.ended
    rw [absent] at before
    exact before
  closed := sound.closed
  failure := fun _ => sound.failure (by rw [absent]; rfl)
  calm := fun _ => sound.calm (.inr absent)
  flag := by
    intro reported same
    cases same
    simpa [Loop.spawn] using (sound.idle absent).2
  erred := fun _ impossible => by cases impossible
  asleep := fun impossible => by cases impossible
  panicked := fun _ impossible => by cases impossible
  idle := fun impossible => by cases impossible

/-- The tasks told are those polled. -/
theorem tasks_step (sound : loop.Sound) (step : LoopStep) :
    Event.tasks (loop.effect step).events = (loop.effect step).polled := by
  refine (Event.tasks_append ..).trans ?_
  rw [sound.tasks]
  have nothing : loop.polled ++ [] = loop.polled := List.append_nil _
  cases step with
  | poll outcome =>
      cases outcome with
      | task bytes => rfl
      | _ => exact nothing
  | _ => exact nothing

/-- A loop that has not ended its stream may tell it more. -/
theorem closed_step (sound : loop.Sound) (running : loop.phase.ended = false) (step : LoopStep) :
    Event.Closed (loop.effect step).events := by
  change Event.Closed (loop.events ++ (tells step).toList)
  cases tells step with
  | none =>
      rw [Option.toList_none, List.append_nil]
      exact sound.closed
  | some event =>
      apply Event.closed_append
      rw [sound.ended, running]
      exact Bool.false_ne_true

/-- The end is told by the steps that end the loop. -/
theorem ended_step (sound : loop.Sound) (running : loop.phase.ended = false) {step : LoopStep}
    (ends : (tells step = some .ended) ↔ (loop.next step).ended = true) :
    .ended ∈ (loop.effect step).events ↔ (loop.effect step).phase.ended = true := by
  have before : .ended ∉ loop.events := by
    rw [sound.ended, running]
    exact Bool.false_ne_true
  refine Iff.trans ?_ ends
  change .ended ∈ loop.events ++ (tells step).toList ↔ _
  rw [List.mem_append, Option.mem_toList]
  exact or_iff_right before

theorem step (sound : loop.Sound) {step : LoopStep} (ready : loop.guard step) :
    (loop.effect step).Sound := by
  cases step with
  | poll outcome =>
      obtain ⟨reported, polling⟩ := ready
      have running : loop.phase.ended = false := by rw [polling]; rfl
      have calm : loop.panicked = none := sound.calm (.inl (by rw [polling]; rfl))
      have failure := sound.failure (by rw [polling]; rfl)
      have flag := sound.flag reported polling
      cases outcome with
      | task bytes =>
          refine ⟨sound.tasks_step _, sound.ended_step running ?_, sound.closed_step running _, ?_,
            fun _ => calm, sound.flag, sound.erred, sound.asleep, sound.panicked, ?_⟩
          · simp [tells, next, running]
          · exact fun _ => (failure_effect ..).trans failure
          · intro absent
            cases polling.symm.trans absent
      | shutDown =>
          refine ⟨sound.tasks_step _, sound.ended_step running ?_, sound.closed_step running _, ?_,
            fun _ => calm, ?_, ?_, ?_, ?_, ?_⟩
          · simp [tells, next, LoopPhase.ended]
          · exact fun _ => (failure_effect ..).trans failure
          all_goals simp [effect, next]
      | error message =>
          have told := failure_effect loop (.poll (.error message))
          cases reported with
          | true =>
              have asleep : loop.next (.poll (.error message)) = .sleeping := if_pos polling
              obtain ⟨first, rest, errors⟩ := List.exists_cons_of_ne_nil (flag.mp rfl)
              refine ⟨sound.tasks_step _, sound.ended_step running ?_, sound.closed_step running _,
                fun _ => told.trans (failure.trans ?_), fun _ => calm, ?_, ?_, ?_, ?_, ?_⟩
              · simp [tells, asleep, LoopPhase.ended]
              · simp [Loop.failure, effect, calm, errors]
              all_goals simp [effect, asleep]
          | false =>
              have none_ : loop.errors = [] := by simpa using flag
              have reporting : loop.next (.poll (.error message)) = .reporting message :=
                if_neg (by rw [polling]; simp)
              refine ⟨sound.tasks_step _, sound.ended_step running ?_, sound.closed_step running _,
                ?_, fun _ => calm, ?_, ?_, ?_, ?_, ?_⟩
              · simp [tells, reporting, LoopPhase.ended]
              all_goals simp [effect, reporting, LoopPhase.reported, none_]
  | report message =>
      have reporting : loop.phase = .reporting message := ready
      have errors := sound.erred message reporting
      have calm : loop.panicked = none := sound.calm (.inl (by rw [reporting]; rfl))
      have running : loop.phase.ended = false := by rw [reporting]; rfl
      refine ⟨sound.tasks_step _, sound.ended_step running ?_, sound.closed_step running _,
        fun _ => (failure_effect ..).trans ?_, fun _ => calm, ?_, ?_, ?_, ?_, ?_⟩
      · simp [tells, next, LoopPhase.ended]
      · simp [tells, Event.failure?, Loop.failure, effect, calm, errors]
      all_goals simp [effect, next, errors]
  | wake =>
      have sleeping : loop.phase = .sleeping := ready
      have running : loop.phase.ended = false := by rw [sleeping]; rfl
      have calm : loop.panicked = none := sound.calm (.inl (by rw [sleeping]; rfl))
      have failure := sound.failure (by rw [sleeping]; rfl)
      refine ⟨sound.tasks_step _, sound.ended_step running ?_, sound.closed_step running _,
        fun _ => (failure_effect ..).trans failure, fun _ => calm, ?_, ?_, ?_, ?_, ?_⟩
      · simp [tells, next, LoopPhase.ended]
      · intro reported polling
        cases polling
        simpa [effect] using sound.asleep sleeping
      all_goals simp [effect, next]
  | panic message =>
      have running : loop.phase.ended = false := by
        have guarded : loop.phase.guarded = true := ready
        cases phase : loop.phase <;> simp_all [LoopPhase.guarded, LoopPhase.ended]
      refine ⟨sound.tasks_step _, sound.ended_step running ?_, sound.closed_step running _,
        fun reported => absurd reported Bool.false_ne_true, ?_, ?_, ?_, ?_, ?_, ?_⟩
      · simp [tells, next, LoopPhase.ended]
      all_goals simp [effect, next, LoopPhase.guarded]
  | reportPanic message =>
      have caught : loop.phase = .caught message := ready
      have panicked := sound.panicked message caught
      have running : loop.phase.ended = false := by rw [caught]; rfl
      refine ⟨sound.tasks_step _, sound.ended_step running ?_, sound.closed_step running _,
        fun _ => (failure_effect ..).trans ?_, ?_, ?_, ?_, ?_, ?_, ?_⟩
      · simp [tells, next, LoopPhase.ended]
      · simp [tells, Event.failure?, Loop.failure, effect, panicked]
      all_goals simp [effect, next, LoopPhase.guarded]
  | pushEnd =>
      have ending : loop.phase = .ending := ready
      have running : loop.phase.ended = false := by rw [ending]; rfl
      have failure := sound.failure (by rw [ending]; rfl)
      refine ⟨sound.tasks_step _, sound.ended_step running ?_, sound.closed_step running _,
        fun _ => (failure_effect ..).trans failure, ?_, ?_, ?_, ?_, ?_, ?_⟩
      · simp [tells, next, LoopPhase.ended]
      all_goals simp [effect, next, LoopPhase.guarded]
  | initiateShutdown =>
      have stopping : loop.phase = .stopping := ready
      have failure := sound.failure (by rw [stopping]; rfl)
      have told : .ended ∈ loop.events := sound.ended.mpr (by rw [stopping]; rfl)
      have same : (loop.effect .initiateShutdown).events = loop.events := List.append_nil _
      refine ⟨sound.tasks_step _, ?_, ?_, fun _ => (failure_effect ..).trans failure, ?_, ?_, ?_, ?_,
        ?_, ?_⟩
      · rw [same]
        exact ⟨fun _ => rfl, fun _ => told⟩
      · rw [same]
        exact sound.closed
      all_goals simp [effect, next, LoopPhase.guarded]
  | abort =>
      have awaits : loop.phase.awaits = true := ready
      have running : loop.phase.ended = false := by
        cases phase : loop.phase <;> simp_all [LoopPhase.awaits, LoopPhase.ended]
      have failure := sound.failure (by
        cases phase : loop.phase <;> simp_all [LoopPhase.awaits, LoopPhase.reported])
      refine ⟨sound.tasks_step _, sound.ended_step running ?_, sound.closed_step running _,
        fun _ => (failure_effect ..).trans failure, ?_, ?_, ?_, ?_, ?_, ?_⟩
      · simp [tells, next, LoopPhase.ended]
      all_goals simp [effect, next, LoopPhase.guarded]

end Sound

end Loop

end Delivery

end KtBridge
