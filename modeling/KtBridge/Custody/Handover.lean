import KtBridge.Custody.Machine

/-! # How requests hand handles over

A step of the request machine hands what a task, the queue or a batch holds to the
next place, and loses, copies or invents nothing (`Moved`).
-/

namespace KtBridge.Custody

open Foundation Request

variable {reqId : Call → UInt64}

/-- The item is held, and not yet delivered. -/
def Undelivered (holding : Place → List (Handle × UInt8)) (item : Handle × UInt8) : Prop :=
  ∃ place, place.delivered = false ∧ item ∈ holding place

/-- What every step of the request machine keeps of the handles held. -/
structure Moved (before after : Place → List (Handle × UInt8)) : Prop where
  exclusive : Exclusive before → Exclusive after
  held : ∀ item, Held after item ↔ Held before item
  undelivered : ∀ item, Undelivered after item → Undelivered before item

namespace Moved

theorem of_eq {before after : Place → List (Handle × UInt8)} (same : after = before) :
    Moved before after where
  exclusive := fun exclusive => same ▸ exclusive
  held := fun item => by rw [same]
  undelivered := fun item held => by rwa [same] at held

/-- Handing over from a place that is not delivered and only loses items. -/
theorem of_transfer {before after : Place → List (Handle × UInt8)} {source target : Place}
    (transfer : Transfer before after source target) (open_source : source.delivered = false)
    (shrinks : after source ⊆ before source) : Moved before after where
  exclusive := transfer.exclusive
  held := transfer.held_iff
  undelivered := by
    intro item held
    obtain ⟨place, undelivered, member⟩ := held
    by_cases isSource : place = source
    · subst isSource
      exact ⟨place, undelivered, shrinks member⟩
    by_cases isTarget : place = target
    · subst isTarget
      rcases (transfer.mem_iff item).mp (Or.inr member) with there | there
      · exact ⟨source, open_source, there⟩
      · exact ⟨place, undelivered, there⟩
    · rw [transfer.others place isSource isTarget] at member
      exact ⟨place, undelivered, member⟩

end Moved

/-- Two states hold the same where tasks, queue, batches, dropped completions and
records carry the same handles. -/
theorem items_congr {state next : Request.State}
    (tasks : ∀ call, (next.phase call).result?.bind Pending.owned =
      (state.phase call).result?.bind Pending.owned)
    (queue : next.queue.queue.filterMap Pending.owned = state.queue.queue.filterMap Pending.owned)
    (batch : ∀ poller, (next.poller poller).batch = (state.poller poller).batch)
    (dropping : next.dropping.filterMap Pending.owned = state.dropping.filterMap Pending.owned)
    (received : next.received = state.received) : items next = items state := by
  funext place
  cases place with
  | task call => simp only [items, tasks]
  | queue => exact queue
  | batch poller => simp only [items, batch]
  | dropping => exact dropping
  | records poller => simp only [items, received]

/-- A call moving between phases that carry the same handle. -/
theorem owned_update (state : Request.State) (call : Call) (phase : Phase)
    (same : phase.result?.bind Pending.owned = (state.phase call).result?.bind Pending.owned)
    (other : Call) :
    (Function.update state.phase call phase other).result?.bind Pending.owned =
      (state.phase other).result?.bind Pending.owned := by
  by_cases here : other = call
  · rw [here, Function.update_self]
    exact same
  · rw [Function.update_of_ne here]

/-- A push of a completion without a handle is not seen. -/
theorem items_push_none (state : Request.State) (origin : Option Call) {pending : Pending}
    (nothing : pending.owned = none) : items (state.push origin pending) = items state := by
  apply items_congr
  · exact fun _ => rfl
  · by_cases closed : state.queue.closed <;>
      simp [State.push, Queue.push, closed, nothing]
  · exact fun _ => rfl
  · by_cases closed : state.queue.closed <;>
      simp [State.push, Queue.push, closed, nothing]
  · rfl

/-- A result whose id is gone goes to be dropped. -/
theorem moved_forfeit {state : Request.State} {call : Call} {result : Pending}
    (settled : state.phase call = .settled result) :
    Moved (items state)
      (items { state.setPhase call .leaving with dropping := state.dropping ++ [result] }) := by
  have transfer : Transfer (items state)
      (items { state.setPhase call .leaving with dropping := state.dropping ++ [result] })
      (.task call) .dropping := by
    refine ⟨(by simp), ?_, ?_⟩
    · simp only [items, State.setPhase, Function.update_self, settled, Phase.result?,
        Option.bind_none, Option.toList_none, List.nil_append, Option.bind_some,
        List.filterMap_append]
      have last : [result].filterMap Pending.owned = result.owned.toList := by
        cases owned : result.owned <;> simp [owned]
      rw [last]
      exact List.perm_append_comm
    · intro other notSource notTarget
      cases other with
      | task another =>
          have differs : another ≠ call := fun same => notSource (same ▸ rfl)
          simp only [items, State.setPhase, Function.update_of_ne differs]
      | dropping => exact absurd rfl notTarget
      | _ => rfl
  apply Moved.of_transfer transfer rfl
  simp [items, State.setPhase, Phase.result?]

/-- A retired result goes into the queue, or to be dropped when the queue is closed. -/
theorem moved_answer {state : Request.State} {call : Call} {result : Pending}
    (retired : state.phase call = .retired result) :
    Moved (items state)
      (items { (state.push (some call) result).setPhase call .leaving with lock := none }) := by
  have last : [result].filterMap Pending.owned = result.owned.toList := by
    cases owned : result.owned <;> simp [owned]
  have transfer : ∃ target, Transfer (items state)
      (items { (state.push (some call) result).setPhase call .leaving with lock := none })
      (.task call) target := by
    by_cases closed : state.queue.closed
    · refine ⟨.dropping, (by simp), ?_, ?_⟩
      · simp only [items, State.setPhase, State.push, Queue.push, closed, ↓reduceIte,
          Function.update_self, retired, Phase.result?, Option.bind_none, Option.toList_none,
          List.nil_append, Option.bind_some, List.filterMap_append, last]
        exact List.perm_append_comm
      · intro other notSource notTarget
        cases other with
        | task another =>
            have differs : another ≠ call := fun same => notSource (same ▸ rfl)
            simp only [items, State.setPhase, State.push, Function.update_of_ne differs]
        | queue => simp only [items, State.setPhase, State.push, Queue.push, closed, ↓reduceIte]
        | dropping => exact absurd rfl notTarget
        | _ => rfl
    · refine ⟨.queue, (by simp), ?_, ?_⟩
      · simp only [items, State.setPhase, State.push, Queue.push, closed, Bool.false_eq_true,
          ↓reduceIte, Function.update_self, retired, Phase.result?, Option.bind_none,
          Option.toList_none, List.nil_append, Option.bind_some, List.filterMap_append, last]
        exact List.perm_append_comm
      · intro other notSource notTarget
        cases other with
        | task another =>
            have differs : another ≠ call := fun same => notSource (same ▸ rfl)
            simp only [items, State.setPhase, State.push, Function.update_of_ne differs]
        | queue => exact absurd rfl notTarget
        | dropping =>
            simp only [items, State.setPhase, State.push, Queue.push, closed, Bool.false_eq_true,
              ↓reduceIte, List.append_nil]
        | _ => rfl
  obtain ⟨target, transfer⟩ := transfer
  apply Moved.of_transfer transfer rfl
  simp [items, State.setPhase, State.push, Phase.result?]

/-- A pass moves the front of the queue into the batch. -/
theorem moved_pass {state : Request.State} {poller cap : Nat} {timeoutMillis : Int}
    {timedOut closed : Bool} {next : Queue} {batch : List Pending}
    (ready : Request.guard reqId state
      (.pass poller cap timeoutMillis timedOut next batch closed)) :
    Moved (items state) (items (Request.effect reqId state
      (.pass poller cap timeoutMillis timedOut next batch closed))) := by
  obtain ⟨waiting, passed⟩ := ready
  have split := (Queue.pass_takes_prefix passed).1
  have last : (if batch = [] then PollerPhase.idle else .delivering batch).batch = batch := by
    cases batch <;> rfl
  have emptyBatch : (PollerPhase.polling cap timeoutMillis).batch = [] := rfl
  have transfer : Transfer (items state) (items (Request.effect reqId state
      (.pass poller cap timeoutMillis timedOut next batch closed))) .queue (.batch poller) := by
    refine ⟨(by simp), ?_, ?_⟩
    · simp only [items, Request.effect, Function.update_self, last, waiting, emptyBatch, split,
        List.filterMap_append, List.filterMap_nil, List.append_nil]
      exact List.perm_append_comm
    · intro other notSource notTarget
      cases other with
      | queue => exact absurd rfl notSource
      | batch another =>
          have differs : another ≠ poller := fun same => notTarget (same ▸ rfl)
          simp only [items, Request.effect, Function.update_of_ne differs]
      | _ => rfl
  apply Moved.of_transfer transfer rfl
  simp only [items, Request.effect, split, List.filterMap_append]
  exact List.subset_append_right _ _

/-- A record takes over the handle of the completion it is written for, and the
completion keeps none. -/
theorem moved_write {state : Request.State} {poller : Nat} {pending : Pending}
    {rest : List Pending} (ready : state.poller poller = .delivering (pending :: rest)) :
    Moved (items state) (items (Request.effect reqId state (.write poller pending rest))) := by
  have transfer : Transfer (items state)
      (items (Request.effect reqId state (.write poller pending rest)))
      (.batch poller) (.records poller) := by
    refine ⟨(by simp), ?_, ?_⟩
    · simp only [items, Request.effect, Function.update_self, ready, PollerPhase.batch,
        List.filterMap_append]
      have first : (pending :: rest).filterMap Pending.owned =
          pending.owned.toList ++ rest.filterMap Pending.owned := by
        cases owned : pending.owned <;> simp [owned]
      have written : [pending.record].filterMap Record.owned = pending.owned.toList := by
        cases owned : pending.owned <;> simp [owned]
      rw [first, written, List.append_assoc, ← List.append_assoc]
      exact List.perm_append_comm
    · intro other notSource notTarget
      cases other with
      | batch another =>
          have differs : another ≠ poller := fun same => notSource (same ▸ rfl)
          simp only [items, Request.effect, Function.update_of_ne differs]
      | dropping =>
          simp only [items, Request.effect, List.filterMap_append, List.filterMap_cons,
            Pending.owned_withAux0_zero, List.filterMap_nil, List.append_nil]
      | records another =>
          have differs : another ≠ poller := fun same => notTarget (same ▸ rfl)
          simp only [items, Request.effect, Function.update_of_ne differs]
      | _ => rfl
  apply Moved.of_transfer transfer rfl
  simp only [items, Request.effect, Function.update_self, ready, PollerPhase.batch]
  exact List.filterMap_subset _ (List.subset_cons_self _ _)

/-- Every step of the request machine that is taken as it is only hands over. -/
theorem moved_effect {state : Request.State} {action : Request.Action}
    (ready : Request.guard reqId state action) (isPlain : plain action) :
    Moved (items state) (items (Request.effect reqId state action)) := by
  -- A call that changes its phase without touching the handle it carries.
  have quiet : ∀ {next : Request.State} (call : Call) (phase : Phase),
      next.phase = Function.update state.phase call phase → next.queue = state.queue →
      next.poller = state.poller → next.dropping = state.dropping →
      next.received = state.received →
      phase.result?.bind Pending.owned = (state.phase call).result?.bind Pending.owned →
      Moved (items state) (items next) := by
    intro next call phase phases queue poller dropping received same
    apply Moved.of_eq
    apply items_congr
    · intro other
      rw [phases]
      exact owned_update state call phase same other
    · rw [queue]
    · intro other
      rw [poller]
    · rw [dropping]
    · exact received
  -- A poller that changes its phase without touching its batch.
  have parked : ∀ (poller : Nat) (phase : PollerPhase),
      phase.batch = (state.poller poller).batch →
      Moved (items state)
        (items { state with poller := Function.update state.poller poller phase }) := by
    intro poller phase same
    apply Moved.of_eq
    apply items_congr
    · exact fun _ => rfl
    · rfl
    · intro other
      by_cases here : other = poller
      · subst here
        simp only [Function.update_self]
        exact same
      · simp only [Function.update_of_ne here]
    · rfl
    · rfl
  cases action with
  | reserve call =>
      exact quiet call .reserved rfl rfl rfl rfl rfl
        (by rw [show state.phase call = _ from ready]; rfl)
  | register call =>
      simp only [Request.effect]
      cases state.register (reqId call) with
      | some error => exact quiet call (.refused error) rfl rfl rfl rfl rfl (by rw [ready.1]; rfl)
      | none => exact quiet call .admitted rfl rfl rfl rfl rfl (by rw [ready.1]; rfl)
  | dropOperation call error =>
      exact quiet call (.released error) rfl rfl rfl rfl rfl
        (by rw [show state.phase call = _ from ready]; rfl)
  | reject call error =>
      exact quiet call (.rejected error) rfl rfl rfl rfl rfl
        (by rw [show state.phase call = _ from ready]; rfl)
  | track call =>
      exact quiet call .tracked rfl rfl rfl rfl rfl
        (by rw [show state.phase call = _ from ready]; rfl)
  | unreserve call =>
      exact quiet call .ready rfl rfl rfl rfl rfl
        (by rw [show state.phase call = _ from ready]; rfl)
  | spawn call =>
      exact quiet call .running rfl rfl rfl rfl rfl
        (by rw [show state.phase call = _ from ready]; rfl)
  | observeCancel call =>
      exact quiet call (.settled (cancelledCompletion (reqId call))) rfl rfl rfl rfl rfl
        (by rw [ready.1]; simp [Phase.result?, cancelledCompletion])
  | complete call result =>
      have nothing : result.owned = none := isPlain
      exact quiet call (.settled result) rfl rfl rfl rfl rfl
        (by rw [ready.1]; simpa [Phase.result?] using nothing)
  | panic call message =>
      exact quiet call (.settled (panicCompletion (reqId call) message)) rfl rfl rfl rfl rfl
        (by rw [show state.phase call = _ from ready]; simp [Phase.result?, panicCompletion])
  | abandon call =>
      exact quiet call .abandoned rfl rfl rfl rfl rfl
        (by rw [show state.phase call = _ from ready]; rfl)
  | lose call =>
      exact quiet call .lost rfl rfl rfl rfl rfl
        (by rw [show state.phase call = _ from ready]; rfl)
  | retire call result =>
      simp only [Request.effect]
      split
      · exact quiet call (.retired result) rfl rfl rfl rfl rfl (by rw [ready.1]; rfl)
      · exact moved_forfeit ready.1
  | answer call result => exact moved_answer ready.1
  | leave call =>
      exact quiet call .finished rfl rfl rfl rfl rfl
        (by rw [show state.phase call = _ from ready]; rfl)
  | cancel id =>
      simp only [Request.effect]
      cases state.pending.lookup id <;> exact Moved.of_eq rfl
  | drainAnswer id call =>
      exact Moved.of_eq (items_push_none state (some call) (Pending.owned_error ..))
  | event pending => exact Moved.of_eq (items_push_none state none isPlain)
  | poll poller cap timeoutMillis =>
      have idle : state.poller poller = .idle := by
        by_contra busy
        simp only [Request.guard, pollEntry] at ready
        split at ready
        · cases ready
        · simp [busy] at ready
      exact parked poller (.polling cap timeoutMillis) (by rw [idle]; rfl)
  | pass poller cap timeoutMillis timedOut next batch closed => exact moved_pass ready
  | write poller pending rest => exact moved_write ready
  | finishPoll poller =>
      exact parked poller .idle (by rw [show state.poller poller = _ from ready]; rfl)
  | drop pending => exact isPlain.elim
  | _ => exact Moved.of_eq rfl

/-- Dropping the queue hands over what is in it. -/
theorem moved_dropQueue (state : Request.State) :
    Moved (items state) (items { state with
      queue := { state.queue with queue := [] }
      dropping := state.dropping ++ state.queue.queue }) := by
  have transfer : Transfer (items state) (items { state with
      queue := { state.queue with queue := [] }
      dropping := state.dropping ++ state.queue.queue }) .queue .dropping := by
    refine ⟨(by simp), ?_, ?_⟩
    · simp only [items, List.filterMap_nil, List.nil_append, List.filterMap_append]
      exact List.perm_append_comm
    · intro other notSource notTarget
      cases other with
      | queue => exact absurd rfl notSource
      | dropping => exact absurd rfl notTarget
      | _ => rfl
  apply Moved.of_transfer transfer rfl
  exact List.nil_subset _

/-- A creation puts the handle it was issued into its task. -/
theorem acquires_create {state : Request.State} {call : Call} {result : Pending}
    (running : state.phase call = .running) {item : Handle × UInt8}
    (owned : result.owned = some item) (fresh : ¬ Held (items state) item) :
    Acquires (items state) (items (Request.effect reqId state (.complete call result)))
      (.task call) item := by
  refine ⟨fresh, ?_, ?_⟩
  · simp [items, Request.effect, State.setPhase, running, Phase.result?, owned]
  · intro other differs
    cases other with
    | task another =>
        have apart : another ≠ call := fun same => differs (same ▸ rfl)
        simp only [items, Request.effect, State.setPhase, Function.update_of_ne apart]
    | _ => rfl

/-- Dropping a completion gives up the handle it owns, and no other. -/
theorem items_drop (reqId : Call → UInt64) {state : Request.State} {pending : Pending}
    (member : pending ∈ state.dropping) :
    (∀ place, (items (Request.effect reqId state (.drop pending)) place).Sublist
      (items state place)) ∧
    (∀ item, Held (items state) item → pending.owned ≠ some item →
      Held (items (Request.effect reqId state (.drop pending))) item) ∧
    ∀ item, Exclusive (items state) → pending.owned = some item →
      ¬ Held (items (Request.effect reqId state (.drop pending))) item := by
  have fewer : ∀ place, (items (Request.effect reqId state (.drop pending)) place).Sublist
      (items state place) := by
    intro place
    cases place with
    | dropping => exact List.erase_sublist.filterMap _
    | _ => exact List.Sublist.refl _
  refine ⟨fewer, ?_, ?_⟩
  · intro item held differs
    obtain ⟨place, there⟩ := held
    cases place with
    | dropping =>
        obtain ⟨other, present, owned⟩ := List.mem_filterMap.mp there
        have apart : other ≠ pending := by
          intro same
          subst same
          exact differs owned
        exact ⟨.dropping, List.mem_filterMap.mpr
          ⟨other, (List.mem_erase_of_ne apart).mpr present, owned⟩⟩
    | task call => exact ⟨.task call, there⟩
    | queue => exact ⟨.queue, there⟩
    | batch poller => exact ⟨.batch poller, there⟩
    | records poller => exact ⟨.records poller, there⟩
  · intro item exclusive owned held
    obtain ⟨place, there⟩ := held
    have here : item ∈ items state .dropping := List.mem_filterMap.mpr ⟨pending, member, owned⟩
    obtain rfl := exclusive.single place .dropping item ((fewer place).subset there) here
    -- The dropped completion and another one would hold the item together.
    have split : (items state .dropping).Perm
        (item :: items (Request.effect reqId state (.drop pending)) .dropping) := by
      have perm := (List.perm_cons_erase member).filterMap Pending.owned
      rwa [List.filterMap_cons, owned] at perm
    exact (List.nodup_cons.mp (split.nodup_iff.mp (exclusive.once .dropping))).1 there

end KtBridge.Custody
