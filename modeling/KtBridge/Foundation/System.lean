import Mathlib.Data.List.Basic

/-! # Guarded systems and their runs

A guarded system is a start state, and for each action a guard saying when it may
happen and an effect saying what it does. Everything nondeterministic about a
step is part of its action, so a run is determined by its trace: a list of actions
each of whose guards is met in turn. Guards and effects being separate, an
invariant is checked one action at a time with the guard as a hypothesis and the
effect as the next state, and a concrete trace is replayed by evaluation.
-/

namespace Foundation

/-- A start state with guarded actions. -/
structure GuardedSystem (State Action : Type) where
  start : State
  guard : State → Action → Prop
  effect : State → Action → State

namespace GuardedSystem

variable {State Action : Type} (system : GuardedSystem State Action)

/-- The trace can be taken from the state: every guard is met in turn. -/
def Runs : State → List Action → Prop
  | _, [] => True
  | state, action :: rest => system.guard state action ∧ Runs (system.effect state action) rest

/-- The state a trace leads to. -/
def after (state : State) (trace : List Action) : State :=
  trace.foldl system.effect state

/-- Whether a trace can be taken is decidable when the guards are. -/
def decidableRuns [∀ state action, Decidable (system.guard state action)] :
    ∀ (trace : List Action) (state : State), Decidable (system.Runs state trace)
  | [], _ => isTrue trivial
  | action :: rest, state =>
      have : Decidable (system.Runs (system.effect state action) rest) :=
        decidableRuns rest (system.effect state action)
      inferInstanceAs (Decidable (_ ∧ _))

instance [∀ state action, Decidable (system.guard state action)] (state : State)
    (trace : List Action) : Decidable (system.Runs state trace) :=
  system.decidableRuns trace state

@[simp] theorem after_nil (state : State) : system.after state [] = state := rfl

@[simp] theorem after_cons (state : State) (action : Action) (rest : List Action) :
    system.after state (action :: rest) = system.after (system.effect state action) rest := rfl

theorem after_append (state : State) (first second : List Action) :
    system.after state (first ++ second) = system.after (system.after state first) second :=
  List.foldl_append

theorem runs_append (state : State) (first second : List Action) :
    system.Runs state (first ++ second) ↔
      system.Runs state first ∧ system.Runs (system.after state first) second := by
  induction first generalizing state with
  | nil => simp [Runs]
  | cons action rest ih =>
      simp only [List.cons_append, Runs, ih, after_cons, and_assoc]

/-- The states some run leads to. -/
inductive Reachable : State → Prop where
  | start : Reachable system.start
  | step {state : State} (reached : Reachable state) (action : Action)
      (ready : system.guard state action) : Reachable (system.effect state action)

variable {system}

/-- A run from a reachable state stays among the reachable states. -/
theorem Reachable.run {state : State} (reached : system.Reachable state) {trace : List Action}
    (runs : system.Runs state trace) : system.Reachable (system.after state trace) := by
  induction trace generalizing state with
  | nil => exact reached
  | cons action rest ih => exact ih (reached.step action runs.1) runs.2

/-- The reachable states are those at the end of a run. -/
theorem reachable_iff {state : State} :
    system.Reachable state ↔
      ∃ trace, system.Runs system.start trace ∧ system.after system.start trace = state := by
  constructor
  · intro reached
    induction reached with
    | start => exact ⟨[], trivial, rfl⟩
    | step _ action ready ih =>
        obtain ⟨trace, runs, rfl⟩ := ih
        refine ⟨trace ++ [action], ?_, by rw [after_append]; rfl⟩
        exact (system.runs_append ..).mpr ⟨runs, ready, trivial⟩
  · rintro ⟨trace, runs, rfl⟩
    exact Reachable.start.run runs

/-- A property that holds at the start and is kept by every step from a reachable
state, so that one invariant may rest on another. -/
structure Invariant (system : GuardedSystem State Action) (property : State → Prop) : Prop where
  start : property system.start
  step : ∀ state action, system.Reachable state → property state → system.guard state action →
    property (system.effect state action)

/-- An invariant holds of every reachable state. -/
theorem Invariant.reachable {property : State → Prop} (invariant : system.Invariant property)
    {state : State} (reached : system.Reachable state) : property state := by
  induction reached with
  | start => exact invariant.start
  | step reached action ready ih => exact invariant.step _ action reached ih ready

/-- A property kept by every step from a reachable state is kept by every run. -/
theorem Reachable.keeps {property : State → Prop} {state : State}
    (reached : system.Reachable state)
    (step : ∀ state action, system.Reachable state → property state → system.guard state action →
      property (system.effect state action))
    (holds : property state) {trace : List Action} (runs : system.Runs state trace) :
    property (system.after state trace) := by
  induction trace generalizing state with
  | nil => exact holds
  | cons action rest ih =>
      exact ih (reached.step action runs.1) (step state action reached holds runs.1) runs.2

/-- Steps of one kind that lower a measure which no step raises are bounded by it. -/
theorem Reachable.countP_le (property : State → Prop) (own : Action → Bool) (measure : State → Nat)
    (keeps : ∀ state action, system.Reachable state → property state → system.guard state action →
      property (system.effect state action))
    (falls : ∀ state action, system.Reachable state → property state → system.guard state action →
      measure (system.effect state action) + (own action).toNat ≤ measure state)
    {state : State} (reached : system.Reachable state) (holds : property state)
    {trace : List Action} (runs : system.Runs state trace) :
    trace.countP own + measure (system.after state trace) ≤ measure state := by
  induction trace generalizing state with
  | nil => simp
  | cons action rest ih =>
      have first := falls state action reached holds runs.1
      have later := ih (reached.step action runs.1) (keeps state action reached holds runs.1) runs.2
      cases mine : own action with
      | false =>
          simp only [List.countP_cons, mine, after_cons, Bool.toNat_false] at first ⊢
          simp only [Bool.false_eq_true, if_false]
          omega
      | true =>
          simp only [List.countP_cons, mine, after_cons, Bool.toNat_true, if_true] at first ⊢
          omega

/-- The runs whose steps all meet a further condition. -/
def restrict (system : GuardedSystem State Action) (condition : State → Action → Prop) :
    GuardedSystem State Action where
  start := system.start
  guard := fun state action => system.guard state action ∧ condition state action
  effect := system.effect

/-- A run meeting the condition is a run. -/
theorem Reachable.of_restrict {condition : State → Action → Prop} {state : State}
    (reached : (system.restrict condition).Reachable state) : system.Reachable state := by
  induction reached with
  | start => exact Reachable.start
  | step _ action ready ih => exact ih.step action ready.1

/-- A run whose steps meet a condition on the actions alone. -/
theorem Runs.restrict {condition : Action → Prop} {trace : List Action} {state : State}
    (runs : system.Runs state trace) (met : ∀ action ∈ trace, condition action) :
    (system.restrict fun _ action => condition action).Runs state trace := by
  induction trace generalizing state with
  | nil => trivial
  | cons action rest ih =>
      obtain ⟨here, later⟩ := List.forall_mem_cons.mp met
      exact ⟨⟨runs.1, here⟩, ih runs.2 later⟩

/-- Steps of one kind can lead from a state to a goal. -/
def Leads (system : GuardedSystem State Action) (own : Action → Bool) (state : State)
    (goal : State → Prop) : Prop :=
  ∃ trace, (∀ action ∈ trace, own action) ∧ system.Runs state trace ∧
    goal (system.after state trace)

namespace Leads

variable {own : Action → Bool} {state : State} {goal : State → Prop}

theorem here (holds : goal state) : system.Leads own state goal :=
  ⟨[], fun _ member => absurd member List.not_mem_nil, trivial, holds⟩

theorem cons {action : Action} (kind : own action) (ready : system.guard state action)
    (rest : system.Leads own (system.effect state action) goal) : system.Leads own state goal := by
  obtain ⟨trace, owned, runs, holds⟩ := rest
  refine ⟨action :: trace, ?_, ⟨ready, runs⟩, holds⟩
  intro other member
  rcases List.mem_cons.mp member with same | later
  · rw [same]
    exact kind
  · exact owned other later

theorem trans {middle : State → Prop} (first : system.Leads own state middle)
    (second : ∀ trace, system.Runs state trace → middle (system.after state trace) →
      system.Leads own (system.after state trace) goal) : system.Leads own state goal := by
  obtain ⟨trace, owned, runs, holds⟩ := first
  obtain ⟨later, ownedLater, runsLater, holdsLater⟩ := second trace runs holds
  refine ⟨trace ++ later, ?_, (system.runs_append ..).mpr ⟨runs, runsLater⟩, ?_⟩
  · intro action member
    rcases List.mem_append.mp member with before | after
    · exact owned action before
    · exact ownedLater action after
  · rw [system.after_append]
    exact holdsLater

end Leads

/-- A lower system seen through a map: each of its steps is a step of the upper
system or leaves the upper state alone. -/
structure Projects {Lower Label : Type} (lower : GuardedSystem Lower Label)
    (upper : GuardedSystem State Action) (view : Lower → State) : Prop where
  start : view lower.start = upper.start
  step : ∀ state label, lower.guard state label →
    view (lower.effect state label) = view state ∨
      ∃ action, upper.guard (view state) action ∧
        view (lower.effect state label) = upper.effect (view state) action

/-- What the upper system never leaves, the lower system never leaves either. -/
theorem Projects.reachable {Lower Label : Type} {lower : GuardedSystem Lower Label}
    {view : Lower → State} (projects : Projects lower system view) {state : Lower}
    (reached : lower.Reachable state) : system.Reachable (view state) := by
  induction reached with
  | start =>
      rw [projects.start]
      exact Reachable.start
  | step _ label ready ih =>
      rcases projects.step _ label ready with same | ⟨action, met, next⟩
      · rw [same]
        exact ih
      · rw [next]
        exact ih.step action met

end GuardedSystem

end Foundation
