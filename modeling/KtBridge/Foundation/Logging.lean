import KtBridge.Foundation.System

/-! # Systems with a log

A system whose steps report events, and what a run has reported. An invariant of the system with its
log is a property of every run and of what it has reported so far. -/

namespace Foundation.GuardedSystem

variable {State Action Event : Type} (system : GuardedSystem State Action)
  (events : State → Action → List Event)

/-- What a run reports. -/
def log : State → List Action → List Event
  | _, [] => []
  | state, action :: rest => events state action ++ log (system.effect state action) rest

/-- The system with what it has reported. -/
def logged : GuardedSystem (State × List Event) Action where
  start := (system.start, [])
  guard := fun logged action => system.guard logged.1 action
  effect := fun logged action =>
    (system.effect logged.1 action, logged.2 ++ events logged.1 action)

variable {system events}

/-- A step that reports nothing leaves the log. -/
theorem effect_logged_of_silent {state : State} {action : Action} (reported : List Event)
    (silent : events state action = []) :
    (system.logged events).effect (state, reported) action =
      (system.effect state action, reported) := by
  simp only [logged, silent, List.append_nil]

theorem after_logged (state : State) (reported : List Event) (trace : List Action) :
    (system.logged events).after (state, reported) trace =
      (system.after state trace, reported ++ system.log events state trace) := by
  induction trace generalizing state reported with
  | nil => simp [log]
  | cons action rest ih =>
      rw [after_cons, after_cons, log, ← List.append_assoc]
      exact ih ..

theorem runs_logged {state : State} {reported : List Event} {trace : List Action} :
    (system.logged events).Runs (state, reported) trace ↔ system.Runs state trace := by
  induction trace generalizing state reported with
  | nil => rfl
  | cons action rest ih => exact and_congr_right fun _ => ih

/-- A state with what was reported on the way to it is forgotten to a reachable state. -/
theorem Reachable.of_logged {state : State × List Event}
    (reached : (system.logged events).Reachable state) : system.Reachable state.1 := by
  induction reached with
  | start => exact Reachable.start
  | step _ action ready ih => exact ih.step action ready

/-- Something was reported on the way to a reachable state. -/
theorem Reachable.exists_log (events : State → Action → List Event) {state : State}
    (reached : system.Reachable state) :
    ∃ reported, (system.logged events).Reachable (state, reported) := by
  induction reached with
  | start => exact ⟨[], Reachable.start⟩
  | step _ action ready ih =>
      obtain ⟨reported, before⟩ := ih
      exact ⟨_, before.step action ready⟩

/-- A run of the system leads to its end and its log. -/
theorem reachable_log {trace : List Action} (runs : system.Runs system.start trace) :
    (system.logged events).Reachable
      (system.after system.start trace, system.log events system.start trace) := by
  have begin : (system.logged events).Reachable (system.start, []) := Reachable.start
  have reached := begin.run (runs_logged.mpr runs)
  have ends : (system.logged events).after (system.start, []) trace =
      (system.after system.start trace, [] ++ system.log events system.start trace) :=
    after_logged ..
  rw [List.nil_append] at ends
  rw [← ends]
  exact reached

end Foundation.GuardedSystem
