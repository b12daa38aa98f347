import KtBridge.Custody.Keeping

/-! # Created handles are kept, removed and delivered once

The guarantee for every reachable state within the bounds, and why the bound on the
number of slots is needed.
-/

namespace KtBridge.Custody

open Foundation Request

variable {Ref : Type}

/-- Dropping a completion whose lease is in the table removes that lease alone. -/
theorem holds_drop (runtime : Handle) (reqId : Call → UInt64) {state : State Ref}
    {pending : Pending} {lease : Lease Ref} (sound : state.Sound) (created : lease ∈ state.created)
    (owned : pending.owned = some (asItem lease)) (holds : state.table.Holds lease)
    (other : Lease Ref) :
    ((machine runtime reqId).effect state (.drop pending)).table.Holds other ↔
      state.table.Holds other ∧ other ≠ lease := by
  have next : ((machine runtime reqId).effect state (.drop pending)).table =
      (state.table.removeOfKind lease.handle lease.entry.kind).1 := by
    simp only [machine, table_drop, Pending.drop, owned, asItem]
  rw [next, (state.table.holds_removeOfKind holds.removeOfKind).2 other]
  constructor
  · intro kept
    exact ⟨kept.1, fun same => kept.2 (congrArg Lease.handle same)⟩
  · intro kept
    exact ⟨kept.1, fun same => kept.2 (sound.own lease created other kept.1 same)⟩

/-- Dropping a completion whose lease is gone leaves the table alone. -/
theorem table_drop_gone (runtime : Handle) (reqId : Call → UInt64) {state : State Ref}
    {pending : Pending} {lease : Lease Ref} (sound : state.Sound) (created : lease ∈ state.created)
    (owned : pending.owned = some (asItem lease)) (gone : ¬ state.table.Holds lease) :
    ((machine runtime reqId).effect state (.drop pending)).table = state.table := by
  have next : ((machine runtime reqId).effect state (.drop pending)).table =
      (state.table.removeOfKind lease.handle lease.entry.kind).1 := by
    simp only [machine, table_drop, Pending.drop, owned, asItem]
  rw [next]
  rcases state.table.removeOfKind_cases lease.handle lease.entry.kind with
    ⟨_, _, result⟩ | ⟨_, entry, _, _, _, _, _, _, result⟩
  · rw [result]
  · obtain ⟨other, holds, same, _⟩ :=
      (state.table.holds_removeOfKind (show _ = Outcome.ok entry from congrArg Prod.snd result)).1
    obtain rfl := sound.own lease created other holds same
    exact absurd holds gone

/-- In every reachable state within the bounds: a created handle still in the table
is carried by exactly one undelivered completion or one written record; a
completion that is dropped removes the lease of its own creation and nothing else,
or finds it swept with its runtime and removes nothing; and no drop removes a
delivered handle. -/
theorem created_handle_has_one_keeper (runtime : Handle) (reqId : Call → UInt64)
    (state : State Ref) (reached : (machine runtime reqId).Reachable state)
    (fits : state.table.slots.length ≤ 2 ^ 32)
    (few : ∀ index, Table.removals index Table.empty state.history < 2 ^ 24 - 1) :
    (∀ lease ∈ state.created, state.table.Holds lease →
      ∃ place, (items state.request place).count (asItem lease) = 1 ∧
        ∀ other, other ≠ place → asItem lease ∉ items state.request other) ∧
    (∀ pending item, (machine runtime reqId).guard state (.drop pending) →
      pending.owned = some item →
      ∃ lease ∈ state.created, asItem lease = item ∧
        (∀ poller, item ∉ items state.request (.records poller)) ∧
        (state.table.Holds lease ∧
          (state.table.removeOfKind item.1 item.2).2 = .ok lease.entry ∧
          (∀ other, ((machine runtime reqId).effect state (.drop pending)).table.Holds other ↔
            state.table.Holds other ∧ other ≠ lease) ∨
        Swept state.history lease ∧
          ((machine runtime reqId).effect state (.drop pending)).table = state.table)) ∧
    ∀ pending, (machine runtime reqId).guard state (.drop pending) →
      ∀ lease ∈ state.created, ∀ poller, asItem lease ∈ items state.request (.records poller) →
        state.table.Holds lease →
        ((machine runtime reqId).effect state (.drop pending)).table.Holds lease := by
  have sound := sound reqId reached ⟨fits, few⟩
  have undelivered : ∀ pending item, pending ∈ state.request.dropping →
      pending.owned = some item → ∀ poller, item ∉ items state.request (.records poller) := by
    intro pending item member owned poller there
    have here := (sound.carrier member owned).1
    cases sound.exclusive.single _ _ item here there
  refine ⟨?_, ?_, ?_⟩
  · intro lease created holds
    obtain ⟨place, there⟩ := sound.held lease created holds
    exact ⟨place, sound.exclusive.count_eq_one there⟩
  · intro pending item member owned
    obtain ⟨here, lease, created, same⟩ := sound.carrier member owned
    subst same
    refine ⟨lease, created, rfl, undelivered pending _ member owned, ?_⟩
    by_cases holds : state.table.Holds lease
    · left
      exact ⟨holds, holds.removeOfKind, holds_drop runtime reqId sound created owned holds⟩
    · right
      refine ⟨?_, table_drop_gone runtime reqId sound created owned holds⟩
      exact (sound.lost lease created ⟨.dropping, rfl, here⟩).resolve_left holds
  · intro pending member lease created poller delivered holds
    cases owned : pending.owned with
    | none =>
        simp only [machine, table_drop, Pending.drop, owned]
        exact holds
    | some item =>
        obtain ⟨_, dropped, created', same⟩ := sound.carrier member owned
        subst same
        have apart : lease ≠ dropped := by
          intro equal
          subst equal
          exact undelivered pending _ member owned poller delivered
        by_cases still : state.table.Holds dropped
        · exact (holds_drop runtime reqId sound created' owned still lease).mpr ⟨holds, apart⟩
        · rw [table_drop_gone runtime reqId sound created' owned still]
          exact holds

/-- A connection that succeeds. -/
def connectTrace (call : Call) : List (Action Unit) :=
  [.request (.reserve call), .request (.register call), .request (.track call),
    .request (.unreserve call), .request (.spawn call), .create call (.client ()) ByteArray.empty]

/-- The first runtime a table holds. -/
def firstRuntime : Handle := Handle.encode kindRuntime 1 0

/-- A runtime with one connected client. -/
theorem created_handle_has_one_keeper_connected :
    ∃ place, (items ((machine firstRuntime fun _ => 7).after start
      (.exported (.insert (.runtime ())) :: connectTrace 0)).request place).count
        (Handle.encode kindClient 1 1, kindClient) = 1 := by
  have runs : (machine firstRuntime fun _ => 7).Runs start
      (.exported (.insert (.runtime ())) :: connectTrace 0) :=
    ⟨trivial, ⟨by decide, trivial⟩, ⟨by decide, trivial⟩, ⟨by decide, trivial⟩,
      ⟨by decide, trivial⟩, ⟨by decide, trivial⟩, ⟨by decide, by decide⟩, trivial⟩
  obtain ⟨place, once, _⟩ := (created_handle_has_one_keeper firstRuntime (fun _ => 7)
    ((machine firstRuntime fun _ => 7).after start
      (.exported (.insert (.runtime ())) :: connectTrace 0))
    (GuardedSystem.Reachable.start.run runs) (by decide) (by
      intro index
      rw [Table.removals_of_inserted Table.WellFormed.empty]
      · decide
      · simp [machine, GuardedSystem.after, effect, start, connectTrace, TableCall.inserted?])).1
    ⟨Handle.encode kindClient 1 1, firstRuntime, .client ()⟩ (by decide) ⟨by decide, by decide⟩
  exact ⟨place, once⟩

/-- So many connections in flight: each call below the count holds the client it
connected, in a table that was only inserted into. -/
structure Crowded (count : Nat) (state : State Unit) : Prop where
  reached : (machine firstRuntime UInt64.ofNat).Reachable state
  waiting : ∀ call, count ≤ call → state.request.phase call = .idle
  carried : ∀ call, call < count → items state.request (.task call) =
    [(Handle.encode kindClient 1 (UInt32.ofNat (call + 1)), kindClient)]
  created : ∀ call, call < count →
    ⟨Handle.encode kindClient 1 (UInt32.ofNat (call + 1)), firstRuntime, .client ()⟩ ∈ state.created
  unlocked : state.request.lock = none
  opened : state.request.closed = false
  ids : ∀ id ∈ state.request.pending, ∃ call, call < count ∧ id = UInt64.ofNat call
  table : state.table = ⟨⟨1, 0, some (.runtime ())⟩ ::
    List.replicate count ⟨1, firstRuntime, some (.client ())⟩, []⟩
  inserted : ∀ call ∈ state.history, ∃ entry, call.inserted? = some entry

/-- What a connection mints in a crowded table. -/
theorem insertOwned_crowded (count : Nat) :
    (⟨⟨1, 0, some (.runtime ())⟩ :: List.replicate count ⟨1, firstRuntime, some (.client ())⟩,
      []⟩ : Table Unit).insertOwned firstRuntime (.client ()) =
    (⟨⟨1, 0, some (.runtime ())⟩ ::
      List.replicate (count + 1) ⟨1, firstRuntime, some (.client ())⟩, []⟩,
      .ok (Handle.encode kindClient 1 (UInt32.ofNat (count + 1))), none) := by
  have valid : (⟨⟨1, 0, some (.runtime ())⟩ ::
      List.replicate count ⟨1, firstRuntime, some (.client ())⟩, []⟩ : Table Unit).validate
      firstRuntime kindRuntime = .ok 0 := by
    have index : firstRuntime.index = 0 := by decide
    have generation : firstRuntime.generation = 1 := by decide
    simp only [Table.validate, index, generation, List.getElem?_cons_zero]
    decide
  have slots : (⟨1, 0, some (.runtime ())⟩ ::
      List.replicate count (⟨1, firstRuntime, some (.client ())⟩ : Slot Unit)) ++
      [⟨1, firstRuntime, some (.client ())⟩] =
      ⟨1, 0, some (.runtime ())⟩ :: List.replicate (count + 1) ⟨1, firstRuntime, some (.client ())⟩ := by
    rw [List.cons_append, List.replicate_succ']
  have minted : ∀ index : UInt32, index.toNat ≤ count + 1 →
      (⟨⟨1, 0, some (.runtime ())⟩ ::
        List.replicate (count + 1) ⟨1, firstRuntime, some (.client ())⟩, []⟩ : Table Unit).mint
        kindClient index = .ok (Handle.encode kindClient 1 index) := by
    intro index inside
    simp only [Table.mint]
    cases slot : index.toNat with
    | zero => rfl
    | succ before =>
        rw [List.getElem?_cons_succ, List.getElem?_replicate, if_pos (by omega)]
  simp only [Table.insertOwned, valid, Table.insertInto, slots, Entry.kind, List.length_cons,
    List.length_replicate]
  rw [minted]
  rw [UInt32.toNat_ofNat']
  exact Nat.mod_le _ _

/-- One connection more. -/
theorem Crowded.step {count : Nat} {state : State Unit} (crowded : Crowded count state)
    (small : count < 2 ^ 64) :
    Crowded (count + 1) ((machine firstRuntime UInt64.ofNat).after state (connectTrace count)) := by
  have idle := crowded.waiting count le_rfl
  have unlocked := crowded.unlocked
  have fresh : UInt64.ofNat count ∉ state.request.pending := by
    intro present
    obtain ⟨call, below, same⟩ := crowded.ids _ present
    have equal := congrArg UInt64.toNat same
    rw [UInt64.toNat_ofNat_of_lt' small, UInt64.toNat_ofNat_of_lt' (below.trans small)] at equal
    omega
  have runs : (machine firstRuntime UInt64.ofNat).Runs state (connectTrace count) := by
    simp [GuardedSystem.Runs, connectTrace, machine, guard, effect, plain, Request.guard,
      Request.effect, Request.State.setPhase, Request.State.register, crowded.opened, fresh, idle,
      unlocked, Entry.kind]
  have outcome := insertOwned_crowded count
  rw [← crowded.table] at outcome
  have carrying : (((Pending.ack (UInt64.ofNat count)).withKind .clientConnected).withAux0
      (Handle.encode kindClient 1 (UInt32.ofNat (count + 1)))).owned =
      some (Handle.encode kindClient 1 (UInt32.ofNat (count + 1)), kindClient) :=
    @owned_creationResult Unit (UInt64.ofNat count) (.client ()) ByteArray.empty _ (Or.inl rfl)
      (Handle.kind_encode ..)
  simp only [State.table] at outcome
  generalize minted : Handle.encode kindClient 1 (UInt32.ofNat (count + 1)) = handle
    at outcome carrying
  obtain ⟨phases, pending, opened, lock, history, created⟩ :
      ((machine firstRuntime UInt64.ofNat).after state (connectTrace count)).request.phase =
        Function.update state.request.phase count (.settled
          (((Pending.ack (UInt64.ofNat count)).withKind .clientConnected).withAux0 handle)) ∧
      ((machine firstRuntime UInt64.ofNat).after state (connectTrace count)).request.pending =
        state.request.pending.insert (UInt64.ofNat count) count ∧
      ((machine firstRuntime UInt64.ofNat).after state (connectTrace count)).request.closed =
        false ∧
      ((machine firstRuntime UInt64.ofNat).after state (connectTrace count)).request.lock =
        none ∧
      ((machine firstRuntime UInt64.ofNat).after state (connectTrace count)).history =
        state.history ++ [.insertOwned firstRuntime (.client ())] ∧
      ((machine firstRuntime UInt64.ofNat).after state (connectTrace count)).created =
        state.created ++ [⟨handle, firstRuntime, .client ()⟩] := by
    refine ⟨?_, ?_, ?_, ?_, ?_, ?_⟩ <;>
      simp [connectTrace, machine, effect, Request.effect, Request.State.setPhase,
        Request.State.register, crowded.opened, fresh, unlocked, outcome, State.table,
        creationResult]
  constructor
  · exact crowded.reached.run runs
  · intro call beyond
    rw [phases, Function.update_of_ne (Nat.ne_of_gt beyond)]
    exact crowded.waiting call (by omega)
  · intro call below
    by_cases last : call = count
    · subst last
      simp only [items, phases, Function.update_self, Phase.result?, Option.bind_some, carrying,
        minted, Option.toList_some]
    · simp only [items, phases, Function.update_of_ne last]
      exact crowded.carried call (by omega)
  · intro call below
    rw [created]
    by_cases last : call = count
    · subst last
      rw [minted]
      exact List.mem_append_right _ (List.mem_singleton.mpr rfl)
    · exact List.mem_append_left _ (crowded.created call (by omega))
  · exact lock
  · exact opened
  · intro id present
    rw [pending, AList.mem_insert] at present
    rcases present with same | earlier
    · exact ⟨count, by omega, same⟩
    · obtain ⟨call, below, same⟩ := crowded.ids id earlier
      exact ⟨call, by omega, same⟩
  · simp only [State.table, history, Table.run_append]
    change (state.table.perform (.insertOwned firstRuntime (.client ()))).1 = _
    simp only [Table.perform, State.table, outcome]
  · intro call member
    rw [history] at member
    rcases List.mem_append.mp member with earlier | last
    · exact crowded.inserted call earlier
    · rw [List.mem_singleton.mp last]
      exact ⟨_, rfl⟩

/-- Any number of connections up to the number of ids can be in flight. -/
theorem exists_crowded (count : Nat) (small : count ≤ 2 ^ 64) :
    ∃ state : State Unit, Crowded count state := by
  induction count with
  | zero =>
      refine ⟨(machine firstRuntime UInt64.ofNat).after start [.exported (.insert (.runtime ()))],
        ?_, fun _ _ => rfl, nofun, nofun, rfl, rfl, nofun, rfl, ?_⟩
      · exact GuardedSystem.Reachable.start.run ⟨trivial, trivial⟩
      · intro call member
        rw [List.mem_singleton.mp member]
        exact ⟨_, rfl⟩
  | succ count ih =>
      obtain ⟨state, crowded⟩ := ih (by omega)
      exact ⟨_, crowded.step (by omega)⟩

/-- With more than `2^32` slots the index in a handle wraps: two creations in flight
carry one handle. -/
theorem created_handle_has_two_keepers :
    ¬ ∀ state : State Unit, (machine firstRuntime UInt64.ofNat).Reachable state →
      (∀ index, Table.removals index Table.empty state.history < 2 ^ 24 - 1) →
      ∀ lease ∈ state.created, state.table.Holds lease →
        ∃ place, (items state.request place).count (asItem lease) = 1 ∧
          ∀ other, other ≠ place → asItem lease ∉ items state.request other := by
  intro kept
  obtain ⟨state, crowded⟩ := exists_crowded (2 ^ 32 + 1) (by omega)
  have few : ∀ index, Table.removals index Table.empty state.history < 2 ^ 24 - 1 := by
    intro index
    rw [Table.removals_of_inserted Table.WellFormed.empty state.history crowded.inserted]
    decide
  have first := crowded.carried 0 (by omega)
  have last := crowded.carried (2 ^ 32) (by omega)
  have same : UInt32.ofNat (2 ^ 32 + 1) = UInt32.ofNat (0 + 1) := by decide
  rw [same] at last
  have holds : state.table.Holds
      ⟨Handle.encode kindClient 1 (UInt32.ofNat (0 + 1)), firstRuntime, .client ()⟩ := by
    refine ⟨by decide, ?_⟩
    have index : (Handle.encode kindClient 1 (UInt32.ofNat (0 + 1))).index = 0 + 1 := by decide
    have generation : (Handle.encode kindClient 1 (UInt32.ofNat (0 + 1))).generation = 1 := by
      decide
    simp only [crowded.table, index, generation]
    rw [List.getElem?_cons_succ, List.getElem?_replicate, if_pos (by omega)]
  obtain ⟨place, _, alone⟩ :=
    kept state crowded.reached few _ (crowded.created 0 (by omega)) holds
  have here : ∀ call, items state.request (.task call) =
      [(Handle.encode kindClient 1 (UInt32.ofNat (0 + 1)), kindClient)] → place = .task call := by
    intro call held
    by_contra elsewhere
    apply alone (.task call) (Ne.symm elsewhere)
    rw [held]
    exact List.mem_singleton.mpr rfl
  have apart : Place.task 0 = Place.task (2 ^ 32) := (here 0 first).symm.trans (here _ last)
  have zero : 0 = 2 ^ 32 := Place.task.inj apart
  omega

end KtBridge.Custody
