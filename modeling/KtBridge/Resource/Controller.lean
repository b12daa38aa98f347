import KtBridge.Foundation.Skipping
import Mathlib.Algebra.Order.Ring.Defs
import Mathlib.Algebra.Field.Defs
import Mathlib.Data.Int.Basic
import Mathlib.Data.Nat.Cast.Order.Ring
import Mathlib.Algebra.Order.Ring.Rat
import Mathlib.Algebra.Field.Rat

/-! # Admission by memory and CPU

A `JvmResourceController` grants slots while two PID controllers say so and memory is below its
target. Samples that come too soon after a decision are not shown to the controllers; they can
only withdraw what was granted. The arithmetic is exact, in any ordered field.
-/

namespace KtBridge.Resource

open Foundation

variable {K : Type} [Field K] [LinearOrder K]

/-- `coerceIn`, for bounds in order. -/
def coerceIn (value least most : K) : K :=
  if value < least then least else if value > most then most else value

/-- The settings of a PID controller, with a limit that `coerceIn` accepts. -/
structure PidSettings (K : Type) [Field K] [LinearOrder K] where
  setpoint : K
  kp : K
  ki : K
  kd : K
  outputLimit : K
  limited : -outputLimit ≤ outputLimit

structure PidController (K : Type) where
  lastError : K
  integral : K
  deriving DecidableEq

def PidController.new : PidController K where
  lastError := 0
  integral := 0

/-- `PidController.update`: the output, and the controller afterwards. -/
def PidController.update (settings : PidSettings K) (pid : PidController K) (measurement : K) :
    K × PidController K :=
  let error := settings.setpoint - measurement
  let integral := coerceIn (pid.integral + error) (-settings.outputLimit) settings.outputLimit
  let derivative := error - pid.lastError
  (coerceIn (settings.kp * error + settings.ki * integral + settings.kd * derivative)
    (-settings.outputLimit) settings.outputLimit,
    { lastError := error, integral := integral })

structure PidTuning (K : Type) where
  memoryPGain : K
  memoryIGain : K
  memoryDGain : K
  memoryOutputThreshold : K
  cpuPGain : K
  cpuIGain : K
  cpuDGain : K
  cpuOutputThreshold : K

structure JvmResourceBased (K : Type) where
  targetMemoryUsage : K
  targetCpuUsage : K
  rampThrottleMs : Int64
  pidTuning : PidTuning K

/-- One call of `update`. -/
structure Sample (K : Type) where
  memoryUsage : K
  cpuLoad : K
  nowNanos : Int64

/-- What decisions leave behind: the two controllers, their outputs, and when it was. -/
structure History (K : Type) where
  memory : PidController K
  cpu : PidController K
  lastUpdate : Option Int64
  memoryOutput : K
  cpuOutput : K
  deriving DecidableEq

structure JvmResourceController (K : Type) where
  history : History K
  allow : Bool
  deriving DecidableEq

section Settings

variable [IsStrictOrderedRing K]

/-- `DEFAULT_OUTPUT_LIMIT`. -/
def defaultOutputLimit : K := 100

theorem default_limited : -(defaultOutputLimit : K) ≤ defaultOutputLimit := by
  have positive : (0 : K) ≤ 100 := Nat.ofNat_nonneg 100
  exact (neg_nonpos.mpr positive).trans positive

def JvmResourceBased.memorySettings (options : JvmResourceBased K) : PidSettings K where
  setpoint := options.targetMemoryUsage
  kp := options.pidTuning.memoryPGain
  ki := options.pidTuning.memoryIGain
  kd := options.pidTuning.memoryDGain
  outputLimit := defaultOutputLimit
  limited := default_limited

def JvmResourceBased.cpuSettings (options : JvmResourceBased K) : PidSettings K where
  setpoint := options.targetCpuUsage
  kp := options.pidTuning.cpuPGain
  ki := options.pidTuning.cpuIGain
  kd := options.pidTuning.cpuDGain
  outputLimit := defaultOutputLimit
  limited := default_limited

end Settings

namespace JvmResourceController

def new : JvmResourceController K where
  history :=
    { memory := .new
      cpu := .new
      lastUpdate := none
      memoryOutput := 0
      cpuOutput := 0 }
  allow := false

/-- Whether a sample is a decision: the first, or far enough from the last. Longs wrap, and
division drops the remainder. -/
def decides (options : JvmResourceBased K) (history : History K) (sample : Sample K) : Bool :=
  match history.lastUpdate with
  | none => true
  | some previous => !((sample.nowNanos - previous) / 1000000 < options.rampThrottleMs)

variable [IsStrictOrderedRing K]

/-- What a decision does to the controllers. -/
def decide (options : JvmResourceBased K) (history : History K) (sample : Sample K) : History K :=
  let (memoryOutput, memory) := history.memory.update options.memorySettings sample.memoryUsage
  let (cpuOutput, cpu) := history.cpu.update options.cpuSettings sample.cpuLoad
  { memory := memory
    cpu := cpu
    lastUpdate := some sample.nowNanos
    memoryOutput := memoryOutput
    cpuOutput := cpuOutput }

def update (options : JvmResourceBased K) (controller : JvmResourceController K)
    (sample : Sample K) : JvmResourceController K :=
  if decides options controller.history sample then
    let history := decide options controller.history sample
    { history := history
      allow := sample.memoryUsage < options.targetMemoryUsage ∧
        history.memoryOutput > options.pidTuning.memoryOutputThreshold ∧
        history.cpuOutput > options.pidTuning.cpuOutputThreshold }
  else
    { controller with
      allow := controller.allow ∧ sample.memoryUsage < options.targetMemoryUsage }

/-- A sequence of calls. -/
def run (options : JvmResourceBased K) (controller : JvmResourceController K)
    (samples : List (Sample K)) : JvmResourceController K :=
  samples.foldl (update options) controller

/-- The calls that decide. -/
def decisions (options : JvmResourceBased K) (controller : JvmResourceController K)
    (samples : List (Sample K)) : List (Sample K) :=
  acted (decides options) (decide options) controller.history samples

variable {options : JvmResourceBased K}

/-- Only decisions touch the history. -/
theorem skips (options : JvmResourceBased K) :
    Skips (update options) history (decides options) (decide options) where
  acting := by
    intro controller sample decided
    simp only [update, decided, ↓reduceIte]
  skipping := by
    intro controller sample throttled
    simp only [update, throttled, Bool.false_eq_true, ↓reduceIte]

/-- A decision remembers when it was. -/
theorem decide_lastUpdate (past : History K) (sample : Sample K) :
    (decide options past sample).lastUpdate = some sample.nowNanos :=
  rfl

/-- A decision grants by the target and the two thresholds. -/
theorem allow_of_decided {controller : JvmResourceController K} {sample : Sample K}
    (decided : decides options controller.history sample = true) :
    (update options controller sample).allow = true ↔
      sample.memoryUsage < options.targetMemoryUsage ∧
        (decide options controller.history sample).memoryOutput >
          options.pidTuning.memoryOutputThreshold ∧
        (decide options controller.history sample).cpuOutput >
          options.pidTuning.cpuOutputThreshold := by
  simp only [update, decided, ↓reduceIte]
  exact decide_eq_true_iff

/-- What is granted is granted below the target. -/
theorem below_of_allow {controller : JvmResourceController K} {sample : Sample K}
    (allowed : (update options controller sample).allow) :
    sample.memoryUsage < options.targetMemoryUsage := by
  unfold update at allowed
  split at allowed
  · exact (of_decide_eq_true allowed).1
  · exact (of_decide_eq_true allowed).2

/-- A throttled sample withdraws, or leaves as it was. -/
theorem allow_of_throttled {controller : JvmResourceController K} {sample : Sample K}
    (throttled : decides options controller.history sample = false) :
    (update options controller sample).allow =
      (controller.allow && sample.memoryUsage < options.targetMemoryUsage) := by
  simp only [update, throttled, Bool.false_eq_true, ↓reduceIte, Bool.decide_and,
    Bool.decide_eq_true]

/-- Between decisions admission is what it was, if all samples stayed below the target. -/
theorem allow_between {samples : List (Sample K)} :
    ∀ {controller : JvmResourceController K}, decisions options controller samples = [] →
      (run options controller samples).allow =
        (controller.allow &&
          samples.all fun sample => sample.memoryUsage < options.targetMemoryUsage) := by
  induction samples with
  | nil =>
      intro controller _
      exact (Bool.and_true _).symm
  | cons sample rest ih =>
      intro controller none
      have throttled : decides options controller.history sample = false := by
        by_contra decided
        rw [decisions, acted, if_pos (Bool.not_eq_false _ |>.mp decided)] at none
        cases none
      have later : decisions options (update options controller sample) rest = [] := by
        rw [decisions, acted, throttled] at none
        rw [decisions, (skips options).skipping controller sample throttled]
        exact none
      rw [run, List.foldl_cons]
      have between := ih later
      rw [run, allow_of_throttled throttled, Bool.and_assoc] at between
      rw [between, List.all_cons]

/-- A wrapped quotient that is not too small is the quotient of the times. -/
theorem apart_of_long {previous now ramp : Int64} (order : previous.toInt ≤ now.toInt)
    (long : ¬(now - previous) / 1000000 < ramp) :
    ramp.toInt * 1000000 ≤ now.toInt - previous.toInt := by
  have wrapped : ramp.toInt ≤ ((now.toInt - previous.toInt).bmod (2 ^ 64)).tdiv 1000000 := by
    rw [Int64.lt_iff_toInt_lt, Int64.toInt_div_of_ne_right _ _ (by decide), Int64.toInt_sub,
      Int.not_lt] at long
    exact long
  have least := previous.le_toInt
  have most := now.toInt_lt
  -- A difference of 2 ^ 63 or more wraps to a negative one.
  rcases Int.lt_or_le (now.toInt - previous.toInt) (2 ^ 63) with near | far
  · rw [Int.bmod_eq_of_le (by omega) (by omega), Int.tdiv_eq_ediv_of_nonneg (by omega)] at wrapped
    omega
  · have negative : (now.toInt - previous.toInt).bmod (2 ^ 64) < 0 :=
      (Int.bmod_neg_iff (by omega) (by omega)).mpr (Or.inr far)
    have quotient := Int.neg_tdiv (-(now.toInt - previous.toInt).bmod (2 ^ 64)) 1000000
    have magnitude : 0 ≤ (-(now.toInt - previous.toInt).bmod (2 ^ 64)).tdiv 1000000 :=
      Int.tdiv_nonneg (by omega) (by decide)
    rw [Int.neg_neg] at quotient
    omega

/-- Each decision is far enough from the one before, by the clock's arithmetic. -/
theorem decisions_long (options : JvmResourceBased K) (controller : JvmResourceController K)
    (samples : List (Sample K)) :
    (decisions options controller samples).IsChain fun first second =>
      ¬(second.nowNanos - first.nowNanos) / 1000000 < options.rampThrottleMs := by
  have chain := acted_chain (decides options) (decide options) (fun sample => sample.nowNanos)
    (fun past => past.lastUpdate)
    (fun previous now => ¬(now - previous) / 1000000 < options.rampThrottleMs)
    (fun past sample _ => decide_lastUpdate past sample) ?_ controller.history samples
  · exact chain.1
  · intro past sample previous last decided
    simp only [decides, last, Bool.not_eq_true', decide_eq_false_iff_not] at decided
    exact decided

theorem decisions_sublist (options : JvmResourceBased K) (controller : JvmResourceController K)
    (samples : List (Sample K)) : (decisions options controller samples).Sublist samples :=
  acted_sublist _ samples

/-- A controller over any calls in order: admission is granted only below the target; decisions
are at least the ramp interval apart; the controllers, outputs and times end as without the
throttled calls, all of whose others still decide; between decisions admission lasts until the
first sample at the target; and every call that decides shows its sample to the controllers and
grants by their outputs, as no other call does. -/
theorem throttled_samples_only_withdraw (options : JvmResourceBased K)
    (samples : List (Sample K))
    (order : samples.Pairwise fun first second =>
      first.nowNanos.toInt ≤ second.nowNanos.toInt) :
    (∀ before sample after, samples = before ++ sample :: after →
      (run options new (before ++ [sample])).allow →
        sample.memoryUsage < options.targetMemoryUsage) ∧
    ((decisions options new samples).IsChain fun first second =>
      options.rampThrottleMs.toInt * 1000000 ≤
        second.nowNanos.toInt - first.nowNanos.toInt) ∧
    ((run options new samples).history =
        (run options new (decisions options new samples)).history ∧
      decisions options new (decisions options new samples) = decisions options new samples) ∧
    (∀ before between after, samples = before ++ between ++ after →
      decisions options (run options new before) between = [] →
        (run options new (before ++ between)).allow = ((run options new before).allow &&
          between.all fun sample => sample.memoryUsage < options.targetMemoryUsage)) ∧
    (∀ before sample after, samples = before ++ sample :: after →
      (decides options (run options new before).history sample = true →
        (run options new (before ++ [sample])).history =
            decide options (run options new before).history sample ∧
          ((run options new (before ++ [sample])).allow = true ↔
            sample.memoryUsage < options.targetMemoryUsage ∧
              (run options new (before ++ [sample])).history.memoryOutput >
                options.pidTuning.memoryOutputThreshold ∧
              (run options new (before ++ [sample])).history.cpuOutput >
                options.pidTuning.cpuOutputThreshold)) ∧
      (decides options (run options new before).history sample = false →
        (run options new (before ++ [sample])).history = (run options new before).history)) := by
  refine ⟨?_, ?_, ⟨(skips options).view_run_acted samples new, acted_acted _ samples⟩, ?_, ?_⟩
  · intro before sample after _ allowed
    rw [run, List.foldl_append] at allowed
    exact below_of_allow allowed
  · rw [List.isChain_iff_forall_rel_of_append_cons_cons]
    intro first second before after same
    have long := List.isChain_iff_forall_rel_of_append_cons_cons.mp
      (decisions_long options new samples) same
    have ordered := order.sublist (decisions_sublist options new samples)
    rw [same, List.pairwise_append, List.pairwise_cons] at ordered
    exact apart_of_long (ordered.2.1.1 second List.mem_cons_self) long
  · intro before between after _ none
    rw [run, List.foldl_append]
    exact allow_between none
  · intro before sample after _
    have last : run options new (before ++ [sample]) =
        update options (run options new before) sample := by
      rw [run, List.foldl_append]
      rfl
    rw [last]
    refine ⟨fun decided => ?_, (skips options).skipping _ sample⟩
    have shown := (skips options).acting _ sample decided
    refine ⟨shown, ?_⟩
    rw [shown]
    exact allow_of_decided decided

/-- The settings of a supplier, with a ramp of 100 ms. -/
def ramped : JvmResourceBased ℚ where
  targetMemoryUsage := 4 / 5
  targetCpuUsage := 4 / 5
  rampThrottleMs := 100
  pidTuning :=
    { memoryPGain := 5
      memoryIGain := 0
      memoryDGain := 1
      memoryOutputThreshold := 1 / 4
      cpuPGain := 5
      cpuIGain := 0
      cpuDGain := 1
      cpuOutputThreshold := 1 / 20 }

/-- A decision, a throttled sample over the target, and a decision. -/
def spike : List (Sample ℚ) :=
  [{ memoryUsage := 1 / 5, cpuLoad := 1 / 5, nowNanos := 0 },
    { memoryUsage := 9 / 10, cpuLoad := 1 / 5, nowNanos := 99000000 },
    { memoryUsage := 1 / 5, cpuLoad := 1 / 5, nowNanos := 100000000 }]

theorem throttled_samples_only_withdraw_spike :
    (decisions ramped new spike).length = 2 ∧
      (run ramped new spike).history = (run ramped new (decisions ramped new spike)).history ∧
      (run ramped new (spike.take 1)).allow = true := by
  obtain ⟨-, -, throttled, -, decided⟩ :=
    throttled_samples_only_withdraw ramped spike (by decide +kernel)
  refine ⟨by decide +kernel, throttled.1, ?_⟩
  exact (((decided [] _ _ rfl).1 (by decide +kernel)).2).mpr (by decide +kernel)

end JvmResourceController

end KtBridge.Resource
