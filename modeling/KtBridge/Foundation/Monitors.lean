import Mathlib.Logic.Function.Basic
import Mathlib.Order.Basic
import Mathlib.Tactic.Lemma

/-! # Reentrant monitors

A monitor is free, or a thread has entered it, once or again. Threads that enter monitors in the order
of a rank never wait for each other in a circle: behind everyone who waits there is somebody who does
not (`exists_unblocked`). -/

namespace Foundation

/-- A monitor, and how often its owner has entered it again. -/
inductive Monitor (Thread : Type) where
  | free
  | owned (owner : Thread) (again : Nat)
  deriving DecidableEq

namespace Monitor

variable {Thread : Type}

def owner : Monitor Thread → Option Thread
  | free => none
  | owned thread _ => some thread

/-- A thread may enter a monitor that nobody else has. -/
def Available (monitor : Monitor Thread) (thread : Thread) : Prop :=
  ∀ other ∈ monitor.owner, other = thread

def enter (monitor : Monitor Thread) (thread : Thread) : Monitor Thread :=
  match monitor with
  | free => owned thread 0
  | owned other again => owned other (again + 1)

def leave : Monitor Thread → Monitor Thread
  | free => free
  | owned _ 0 => free
  | owned thread (again + 1) => owned thread again

variable [DecidableEq Thread]

instance decidableAvailable (monitor : Monitor Thread) (thread : Thread) :
    Decidable (monitor.Available thread) :=
  match monitor with
  | free => isTrue fun _ impossible => by cases impossible
  | owned other _ => decidable_of_iff (other = thread) (by simp [Available, owner])

/-- How often a thread has entered. -/
def entries (monitor : Monitor Thread) (thread : Thread) : Nat :=
  match monitor with
  | free => 0
  | owned other again => if other = thread then again + 1 else 0

variable {monitor : Monitor Thread} {thread other : Thread}

theorem owner_of_entries (inside : 0 < monitor.entries thread) : monitor.owner = some thread := by
  cases monitor with
  | free => cases inside
  | owned owner again =>
      simp only [entries] at inside
      split at inside
      · next same => rw [← same]; rfl
      · cases inside

theorem entries_of_owner (owned : monitor.owner = some thread) : 0 < monitor.entries thread := by
  cases monitor with
  | free => cases owned
  | owned owner again =>
      cases owned
      simp [entries]

/-- Two threads are not both inside. -/
theorem exclusive (one : 0 < monitor.entries thread) (two : 0 < monitor.entries other) :
    thread = other :=
  Option.some.inj ((owner_of_entries one).symm.trans (owner_of_entries two))

theorem entries_enter (available : monitor.Available thread) (other : Thread) :
    (monitor.enter thread).entries other =
      monitor.entries other + if thread = other then 1 else 0 := by
  cases monitor with
  | free => simp [enter, entries]
  | owned owner again =>
      obtain rfl : owner = thread := available owner rfl
      simp only [enter, entries]
      split <;> rfl

theorem entries_leave (inside : 0 < monitor.entries thread) (other : Thread) :
    monitor.leave.entries other + (if thread = other then 1 else 0) = monitor.entries other := by
  cases monitor with
  | free => cases inside
  | owned owner again =>
      obtain rfl : owner = thread := Option.some.inj (owner_of_entries inside)
      cases again with
      | zero => simp [leave, entries]
      | succ again =>
          simp only [leave, entries]
          split <;> rfl

end Monitor

/-- What a step of a thread does to the monitors it is inside of: nothing, or it enters the one it
wants, or it leaves one. -/
inductive Turn {Thread Lock : Type} [DecidableEq Lock] (thread : Thread) (wants : Option Lock)
    (old new : Lock → Bool) (before after : Lock → Monitor Thread) : Prop where
  | keeps (same : after = before) (holds : new = old)
  | enters (lock : Lock) (wanted : wants = some lock) (outside : old lock = false)
      (entered : after = Function.update before lock ((before lock).enter thread))
      (holds : new = Function.update old lock true)
  | leaves (lock : Lock) (inside : old lock = true)
      (left : after = Function.update before lock (before lock).leave)
      (holds : new = Function.update old lock false)

/-- A step changes the entries of its own thread, by what it enters or leaves. -/
theorem Turn.entries {Thread Lock : Type} [DecidableEq Thread] [DecidableEq Lock] {thread : Thread}
    {wants : Option Lock} {old new : Lock → Bool} {before after : Lock → Monitor Thread}
    (turn : Turn thread wants old new before after)
    (available : ∀ lock ∈ wants, (before lock).Available thread)
    (inside : ∀ lock, old lock → 0 < (before lock).entries thread) (lock : Lock) (other : Thread) :
    (after lock).entries other + (if thread = other then (old lock).toNat else 0) =
      (before lock).entries other + if thread = other then (new lock).toNat else 0 := by
  cases turn with
  | keeps same holds => rw [same, holds]
  | enters entered wanted outside changed holds =>
      rw [changed, holds]
      by_cases here : lock = entered
      · subst here
        rw [Function.update_self, Function.update_self,
          Monitor.entries_enter (available lock wanted), outside]
        split <;> simp
      · rw [Function.update_of_ne here, Function.update_of_ne here]
  | leaves left was changed holds =>
      rw [changed, holds]
      by_cases here : lock = left
      · subst here
        rw [Function.update_self, Function.update_self, was]
        simpa using Monitor.entries_leave (inside lock was) other
      · rw [Function.update_of_ne here, Function.update_of_ne here]

section Ranked

variable {Thread Lock : Type} (rank : Lock → Nat) (owner : Lock → Option Thread)
  (waits : Thread → Option Lock)

/-- Whether a thread waits for a monitor that another has. -/
def Blocked (thread : Thread) : Prop :=
  ∃ lock other, waits thread = some lock ∧ owner lock = some other ∧ other ≠ thread

variable {rank owner waits}

/-- Where threads enter monitors in the order of their ranks, there is somebody behind every thread
who is not blocked: the thread itself, or one that is inside a monitor. -/
theorem exists_unblocked {most : Nat} (bounded : ∀ lock, rank lock ≤ most)
    (ordered : ∀ thread wanted held other, waits thread = some wanted → owner wanted = some other →
      other ≠ thread → owner held = some thread → rank held < rank wanted) (thread : Thread) :
    ∃ runs, (runs = thread ∨ ∃ lock, owner lock = some runs) ∧ ¬Blocked owner waits runs := by
  by_cases blocked : Blocked owner waits thread
  · obtain ⟨lock, other, wants, owned, _⟩ := blocked
    -- The rank of what is waited for rises along the chain.
    have climbs : ∀ distance lock, most - rank lock = distance → ∀ other, owner lock = some other →
        ∃ runs, (∃ lock, owner lock = some runs) ∧ ¬Blocked owner waits runs := by
      intro distance
      induction distance using Nat.strongRecOn with
      | _ distance ih =>
          intro lock far other owned
          by_cases blocked : Blocked owner waits other
          · obtain ⟨next, holder, wants, owns, different⟩ := blocked
            have higher := ordered other next lock holder wants owns different owned
            have below := bounded next
            exact ih (most - rank next) (by omega) next rfl holder owns
          · exact ⟨other, ⟨lock, owned⟩, blocked⟩
    obtain ⟨runs, inside, free⟩ := climbs _ lock rfl other owned
    exact ⟨runs, .inr inside, free⟩
  · exact ⟨thread, .inl rfl, blocked⟩

end Ranked

end Foundation
