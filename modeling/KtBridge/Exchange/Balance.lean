import KtBridge.Exchange.Answers
import KtBridge.Foundation.Tally

/-! # Every completion is somewhere, once

What the polls handed over is what was given to `onPushed`, what the pump thread has in its
hands, what the continuations were resumed with, and what was discarded, each completion as
often as it was handed over. One step moves a completion from one of these to another.
-/

namespace KtBridge.Pump

/-- The completion that a continuation was resumed with, unless it was taken back. -/
def Continuation.value : Continuation → Multiset Completion
  | resumed (.value completion) => {completion}
  | received (.value completion) => {completion}
  | _ => 0

end KtBridge.Pump

namespace KtBridge.Exchange

open Foundation
open Pump (Completion requestId)

/-- The completions that the pump's side has kept. -/
def content (state : Pump.State) : Multiset Completion :=
  state.pushed + hands state.pump + tally state.entered fun call => (state.continuation call).value

section Content

variable {issued : Call → Prop} {state next : Pump.State} {call : Call}

/-- The values the continuations have, where no value changes. -/
theorem tally_same (entered : next.entered = state.entered)
    (values : ∀ call, (next.continuation call).value = (state.continuation call).value) :
    (tally next.entered fun call => (next.continuation call).value) =
      tally state.entered fun call => (state.continuation call).value := by
  rw [entered]
  exact tally_congr fun call _ => values call

/-- The values the continuations have, where one call's changes. -/
theorem tally_changed (inside : call < state.entered) (value : Pump.Continuation) :
    (tally state.entered fun other => (Function.update state.continuation call value other).value) +
        (state.continuation call).value =
      (tally state.entered fun other => (state.continuation other).value) + value.value := by
  have changed : (fun other => (Function.update state.continuation call value other).value) =
      Function.update (fun other => (state.continuation other).value) call value.value := by
    funext other
    exact Function.apply_update (fun _ => Pump.Continuation.value) state.continuation call value other
  rw [changed]
  exact tally_update inside value.value

/-- Failing a continuation changes no value. -/
theorem resume_exception (thrown : Pump.Throwable) (other : Call) :
    ((state.resume call (.exception thrown)).continuation other).value =
      (state.continuation other).value := by
  by_cases same : other = call
  · subst same
    unfold Pump.State.resume
    split
    · next active =>
      rw [active]
      simp only [Function.update_self]
      rfl
    · rfl
    · rfl
  · rw [Pump.State.resume_others same]

/-- A value that does not change with the step of a coroutine. -/
theorem value_update {value : Pump.Continuation} (same : value.value = (state.continuation call).value)
    (other : Call) :
    (Function.update state.continuation call value other).value = (state.continuation other).value := by
  by_cases here : other = call
  · subst here
    rw [Function.update_self, same]
  · rw [Function.update_of_ne here]

/-- The pump thread resumes a continuation that accepts it, or discards the completion. -/
theorem content_resume (apart : Apart issued state) {completion : Completion}
    {rest : List Completion} (ready : Pump.guard state (.resume call completion rest)) :
    content (Pump.effect state (.resume call completion rest)) +
        (discards state (.resume call completion rest) : Multiset Completion) =
      content state := by
  have here : state.pump = .taken call completion rest := ready
  have held : state.pump.held = some call := by
    rw [here]
    rfl
  obtain ⟨inside, _⟩ := apart.apart call held
  have resumable : (state.continuation call).resumable := by
    apply apart.resumable call (Or.inr (apart.taken call completion rest here).1)
    exact Or.inr (Or.inr held)
  cases was : state.continuation call with
  | active =>
      have gained := tally_changed inside (.resumed (.value completion))
      rw [was] at gained
      simp only [content, Pump.effect, discards, Pump.State.resume, was, here, hands,
        Pump.Continuation.resumable, Pump.Continuation.value, reduceCtorEq, ↓reduceIte,
        Multiset.coe_nil, add_zero, coe_cons] at gained ⊢
      rw [gained]
      abel
  | cancelled =>
      simp only [content, Pump.effect, discards, Pump.State.resume, was, here, hands,
        Pump.Continuation.resumable, ↓reduceIte, coe_cons, Multiset.coe_nil, add_zero]
      abel
  | _ =>
      rw [was] at resumable
      cases resumable

/-- A completion handed over is added to what is kept, and one discarded is taken from it. -/
theorem content_step (apart : Apart issued state) {action : Pump.Action}
    (ready : Pump.guard state action)
    (failed : ∀ timeoutMillis rc batch, action = .poll timeoutMillis rc batch → rc ≠ ktOk → batch = [])
    (thrown : action = .throw → hands state.pump = []) :
    content (Pump.effect state action) + (discards state action : Multiset Completion) =
      content state + (polled action : Multiset Completion) := by
  have quiet : ∀ {next : Pump.State}, next.pushed = state.pushed → next.entered = state.entered →
      hands next.pump = hands state.pump →
      (∀ call, (next.continuation call).value = (state.continuation call).value) →
      content next + (([] : List Completion) : Multiset Completion) =
        content state + (([] : List Completion) : Multiset Completion) := by
    intro next pushed entered hand values
    simp only [content, pushed, hand, tally_same entered values]
  cases action with
  | enter call =>
      obtain rfl : call = state.entered := ready
      have older : ∀ call < state.entered,
          (Function.update state.continuation state.entered .active call).value =
            (state.continuation call).value := by
        intro call inside
        rw [Function.update_of_ne (Nat.ne_of_lt inside)]
      have none : Pump.Continuation.active.value = 0 := rfl
      simp only [content, Pump.effect, Pump.State.setPhase, discards, polled, tally_succ,
        tally_congr older, Function.update_self, none, add_zero]
  | withdraw call =>
      simp only [Pump.effect]
      split <;> exact quiet rfl rfl rfl fun _ => rfl
  | refuse call =>
      exact quiet (state.resume_pushed ..) (state.resume_entered ..)
        (congrArg hands (state.resume_pump ..)) (resume_exception _)
  | raise call thrown =>
      exact quiet (state.resume_pushed ..) (state.resume_entered ..)
        (congrArg hands (state.resume_pump ..)) (resume_exception _)
  | cancel call =>
      exact quiet rfl rfl rfl (value_update (by rw [ready.2]; rfl))
  | receive call result =>
      have here : state.continuation call = .resumed result := ready
      refine quiet rfl rfl rfl (value_update ?_)
      rw [here]
      cases result <;> rfl
  | revoke call completion =>
      have here : state.continuation call = .resumed (.value completion) := ready
      have inside := apart.entered_of_continuation (by rw [here]; simp)
      have lost := tally_changed inside (.revoked completion)
      rw [here] at lost
      simp only [content, Pump.effect, discards, polled, Pump.Continuation.value, add_zero,
        Multiset.coe_nil, Multiset.coe_singleton] at lost ⊢
      rw [← lost, add_assoc]
  | readTimeout =>
      refine quiet rfl rfl ?_ fun _ => rfl
      rw [show state.pump = .looping from ready]
      rfl
  | poll timeoutMillis rc batch =>
      have here : state.pump = .polling timeoutMillis := ready.1
      simp only [content, Pump.effect, discards, polled, here]
      split
      · next error =>
        rw [failed timeoutMillis rc batch rfl error]
        rfl
      · simp only [hands, Multiset.coe_nil, add_zero]
        abel
  | readSize batch =>
      have here : state.pump = .polled batch := ready
      simp only [Pump.effect]
      split
      · next last =>
        refine quiet rfl rfl ?_ fun _ => rfl
        rw [here, last.2]
        rfl
      · refine quiet rfl rfl ?_ fun _ => rfl
        rw [here]
        rfl
  | repeatLoop =>
      refine quiet rfl rfl ?_ fun _ => rfl
      rw [show state.pump = .dispatching [] from ready]
      rfl
  | throw =>
      refine quiet rfl rfl ?_ fun _ => rfl
      rw [thrown rfl]
      rfl
  | dispatch completion rest =>
      have here : state.pump = .dispatching (completion :: rest) := ready
      by_cases event : completion.reqId = 0
      · simp only [content, Pump.effect, discards, polled, event, here, hands, ↓reduceIte, ne_eq,
          not_true_eq_false, false_and, ← Multiset.coe_add, coe_cons, Multiset.coe_nil, add_zero]
        abel
      · cases found : state.pending.lookup completion.reqId with
        | none =>
            simp only [content, Pump.effect, discards, polled, event, found, here, hands, ↓reduceIte,
              ne_eq, not_false_eq_true, and_self, coe_cons, Multiset.coe_nil, add_zero]
            abel
        | some call =>
            simp only [content, Pump.effect, discards, polled, event, found, here, hands, ↓reduceIte,
              ne_eq, reduceCtorEq, and_false]
  | resume call completion rest =>
      rw [content_resume apart ready]
      exact (add_zero _).symm
  | failNext id rest =>
      have here : state.pump = .failing (id :: rest) := ready
      simp only [Pump.effect]
      split
      · refine quiet rfl rfl ?_ fun _ => rfl
        rw [here]
        rfl
      · refine quiet rfl rfl ?_ fun _ => rfl
        rw [here]
        rfl
  | failActive call id rest =>
      have here : state.pump = .withdrew call id rest := ready
      refine quiet rfl rfl ?_ fun _ => rfl
      rw [here]
      simp only [Pump.effect]
      split <;> rfl
  | failResume call id rest =>
      have here : state.pump = .raising call id rest := ready
      refine quiet (state.resume_pushed ..) (state.resume_entered ..) ?_ (resume_exception _)
      rw [here]
      simp only [Pump.effect]
      split <;> rfl
  | setDead =>
      refine quiet rfl rfl ?_ fun _ => rfl
      rw [show state.pump = .exiting from ready]
      rfl
  | countKeys size =>
      refine quiet rfl rfl ?_ fun _ => rfl
      rw [show state.pump = .dying from ready]
      rfl
  | listKeys size seen stragglers =>
      refine quiet rfl rfl ?_ fun _ => rfl
      rw [show state.pump = .listing size seen from ready.1]
      rfl
  | findNone size seen =>
      refine quiet rfl rfl ?_ fun _ => rfl
      rw [show state.pump = .listing size seen from ready.1]
      rfl
  | failDone =>
      refine quiet rfl rfl ?_ fun _ => rfl
      rw [show state.pump = .failing [] from ready]
      rfl
  | pollerFree =>
      refine quiet rfl rfl ?_ fun _ => rfl
      rw [show state.pump = .freeing from ready]
      rfl
  | _ => exact quiet rfl rfl rfl fun _ => rfl

end Content

end KtBridge.Exchange
