import KtBridge.Custody.Handover

/-! # Every created handle has one keeper

Within the bounds of the handle layout, a created handle that is still in the table
is held exactly once, a completion that is dropped removes its own handle or finds
it swept, and nothing that was delivered is removed by a drop.
-/

namespace KtBridge.Custody

open Foundation Request

variable {Ref : Type} {runtime : Handle} {reqId : Call → UInt64}

/-- What a lease is held as. -/
def asItem (lease : Lease Ref) : Handle × UInt8 := (lease.handle, lease.entry.kind)

/-- The lease went with its runtime: a `remove_runtime` of its owner found it in the
table and left it out. -/
def Swept (history : List (TableCall Ref)) (lease : Lease Ref) : Prop :=
  ∃ before after, history = before ++ .removeRuntime lease.owner :: after ∧
    (Table.empty.run before).Holds lease ∧
    ¬ (Table.empty.run (before ++ [.removeRuntime lease.owner])).Holds lease

theorem Swept.append {history : List (TableCall Ref)} {lease : Lease Ref}
    (swept : Swept history lease) (later : List (TableCall Ref)) :
    Swept (history ++ later) lease := by
  obtain ⟨before, after, rfl, held, gone⟩ := swept
  exact ⟨before, after ++ later, by rw [List.append_assoc]; rfl, held, gone⟩

/-- What ties the created leases, the table and the places. -/
structure State.Sound (state : State Ref) : Prop where
  exclusive : Exclusive (items state.request)
  issued : ∀ lease ∈ state.created, state.table.Issued lease.handle
  distinct : (state.created.map Lease.handle).Nodup
  childKind : ∀ lease ∈ state.created,
    lease.entry.kind = kindClient ∨ lease.entry.kind = kindEphemeral
  origin : ∀ item, Held (items state.request) item → ∃ lease ∈ state.created, asItem lease = item
  held : ∀ lease ∈ state.created, state.table.Holds lease →
    Held (items state.request) (asItem lease)
  lost : ∀ lease ∈ state.created, Undelivered (items state.request) (asItem lease) →
    state.table.Holds lease ∨ Swept state.history lease
  own : ∀ lease ∈ state.created, ∀ other, state.table.Holds other →
    other.handle = lease.handle → other = lease

/-- The places after a step, with the table and the creations as they were. -/
theorem State.Sound.moved {state : State Ref} (sound : state.Sound) {request : Request.State}
    (moved : Moved (items state.request) (items request)) :
    ({ state with request := request } : State Ref).Sound where
  exclusive := moved.exclusive sound.exclusive
  issued := sound.issued
  distinct := sound.distinct
  childKind := sound.childKind
  origin := fun item held => sound.origin item ((moved.held item).mp held)
  held := fun lease member holds => (moved.held _).mpr (sound.held lease member holds)
  lost := fun lease member undelivered =>
    sound.lost lease member (moved.undelivered _ undelivered)
  own := sound.own

/-- Two created leases with one handle are one lease. -/
theorem State.Sound.eq_of_handle {state : State Ref} (sound : state.Sound) {first second : Lease Ref}
    (firstCreated : first ∈ state.created) (secondCreated : second ∈ state.created)
    (same : first.handle = second.handle) : first = second :=
  List.inj_on_of_nodup_map sound.distinct firstCreated secondCreated same

namespace State

theorem formed (state : State Ref) : state.table.WellFormed :=
  Table.WellFormed.empty.run state.history

/-- One more call on the table. -/
theorem table_append (state : State Ref) (call : TableCall Ref) :
    Table.empty.run (state.history ++ [call]) = (state.table.perform call).1 := by
  rw [Table.run_append]
  rfl

theorem compact {state : State Ref} (fits : state.table.Fits) : state.table.Compact :=
  Table.Compact.empty.run Table.WellFormed.empty state.history fits

end State

/-- A call of another export keeps the created leases: none comes back, and an
undelivered one goes only with its runtime. -/
theorem State.Sound.call {state : State Ref} (sound : state.Sound) {call : TableCall Ref}
    (bounded : Table.Bounded (state.history ++ [call]))
    (polite : ∀ lease ∈ state.created, state.table.Holds lease →
      Undelivered (items state.request) (asItem lease) → ∀ kind,
      call ≠ .removeOfKind lease.handle kind) :
    ({ state with history := state.history ++ [call] } : State Ref).Sound := by
  have next := state.table_append call
  have fits : (state.table.perform call).1.Fits := by
    rw [← next]
    exact bounded.1
  have compact := state.compact (fits.of_le (state.table.le_length_perform call))
  have leases := fun lease => Table.holds_perform state.formed compact call fits lease
  refine ⟨sound.exclusive, ?_, sound.distinct, sound.childKind, sound.origin, ?_, ?_, ?_⟩
  · intro lease created
    exact (sound.issued lease created).extend bounded
  · intro lease created holds
    simp only [State.table, next] at holds
    have before := ((leases lease).1 holds).resolve_right fun fresh =>
      fresh (sound.issued lease created)
    exact sound.held lease created before
  · intro lease created undelivered
    rcases sound.lost lease created undelivered with holds | swept
    · rcases (leases lease).2 holds with after | ⟨kind, removed⟩ | ⟨owner, removed, which⟩
      · left
        simpa only [State.table, next] using after
      · exact absurd removed (polite lease created holds undelivered kind)
      · by_cases after : (state.table.perform call).1.Holds lease
        · left
          simpa only [State.table, next] using after
        · right
          -- A client or a server is no runtime, so it went as a child.
          have child : lease.owner = owner := by
            rcases which with ⟨own, tagged⟩ | child
            · have kinds : lease.entry.kind = kindRuntime := by rw [← holds.1, own, tagged]
              rcases sound.childKind lease created with kind | kind <;> rw [kind] at kinds <;>
                exact absurd kinds (by decide)
            · exact child
          subst removed
          rw [← child] at next after ⊢
          exact ⟨state.history, [], rfl, holds, by rw [next]; exact after⟩
    · exact Or.inr (swept.append [call])
  · intro lease created other holds same
    simp only [State.table, next] at holds
    rcases (leases other).1 holds with before | fresh
    · exact sound.own lease created other before same
    · exact absurd (sound.issued lease created) (same ▸ fresh)

/-- The lease a completion about to be dropped carries the handle of. -/
theorem State.Sound.carrier {state : State Ref} (sound : state.Sound) {pending : Pending}
    (member : pending ∈ state.request.dropping) {item : Handle × UInt8}
    (owned : pending.owned = some item) :
    item ∈ items state.request .dropping ∧ ∃ lease ∈ state.created, asItem lease = item := by
  have here : item ∈ items state.request .dropping :=
    List.mem_filterMap.mpr ⟨pending, member, owned⟩
  exact ⟨here, sound.origin item ⟨.dropping, here⟩⟩

/-- A dropped completion gives its handle up, and takes no other lease away. -/
theorem State.Sound.drop {state : State Ref} (sound : state.Sound) {pending : Pending}
    (member : pending ∈ state.request.dropping)
    (bounded : Table.Bounded ((machine runtime reqId).effect state (.drop pending)).history) :
    ((machine runtime reqId).effect state (.drop pending)).Sound := by
  obtain ⟨fewer, others, gone⟩ := items_drop reqId member
  have subset : ∀ item, Held (items (Request.effect reqId state.request (.drop pending))) item →
      Held (items state.request) item := by
    intro item held
    obtain ⟨place, there⟩ := held
    exact ⟨place, (fewer place).subset there⟩
  have undelivered : ∀ item,
      Undelivered (items (Request.effect reqId state.request (.drop pending))) item →
      Undelivered (items state.request) item := by
    intro item held
    obtain ⟨place, inside, there⟩ := held
    exact ⟨place, inside, (fewer place).subset there⟩
  cases owned : pending.owned with
  | none =>
      have moved : Moved (items state.request)
          (items (Request.effect reqId state.request (.drop pending))) := by
        refine ⟨fun exclusive => exclusive.sublist fewer, fun item => ?_, undelivered⟩
        refine ⟨subset item, fun held => others item held ?_⟩
        rw [owned]
        simp
      simpa only [machine, effect, owned] using sound.moved moved
  | some item =>
      obtain ⟨handle, kind⟩ := item
      simp only [machine, effect, owned] at bounded ⊢
      obtain ⟨_, lease, created, same⟩ := sound.carrier member owned
      obtain ⟨rfl, rfl⟩ := Prod.mk.inj same
      have next : Table.empty.run (state.history ++ [.removeOfKind lease.handle lease.entry.kind]) =
          (state.table.perform (.removeOfKind lease.handle lease.entry.kind)).1 :=
        state.table_append _
      have fits : (state.table.perform (.removeOfKind lease.handle lease.entry.kind)).1.Fits := by
        rw [← next]
        exact bounded.1
      have compact := state.compact (fits.of_le (state.table.le_length_perform _))
      have leases := fun other => Table.holds_perform state.formed compact
        (.removeOfKind lease.handle lease.entry.kind) fits other
      refine ⟨sound.exclusive.sublist fewer, ?_, sound.distinct, sound.childKind,
        fun item held => sound.origin item (subset item held), ?_, ?_, ?_⟩
      · intro other created'
        exact (sound.issued other created').extend bounded
      · intro other created' holds
        simp only [State.table, next] at holds
        have before := ((leases other).1 holds).resolve_right fun fresh =>
          fresh (sound.issued other created')
        refine others _ (sound.held other created' before) ?_
        intro whose
        rw [owned] at whose
        have handles : lease.handle = other.handle := congrArg Prod.fst (Option.some.inj whose)
        obtain rfl := sound.eq_of_handle created created' handles
        exact (((state.table.holds_removeOfKind before.removeOfKind).2 lease).mp holds).2 rfl
      · intro other created' held
        have apart : other ≠ lease := by
          intro whose
          subst whose
          obtain ⟨place, _, there⟩ := held
          exact gone _ sound.exclusive owned ⟨place, there⟩
        rcases sound.lost other created' (undelivered _ held) with holds | swept
        · rcases (leases other).2 holds with after | ⟨_, removed⟩ | ⟨_, removed, _⟩
          · left
            simpa only [State.table, next] using after
          · have handles : lease.handle = other.handle := (TableCall.removeOfKind.inj removed).1
            exact absurd (sound.eq_of_handle created' created handles.symm) apart
          · cases removed
        · exact Or.inr (swept.append _)
      · intro kept created' other holds equal
        simp only [State.table, next] at holds
        rcases (leases other).1 holds with before | fresh
        · exact sound.own kept created' other before equal
        · exact absurd (sound.issued kept created') (equal ▸ fresh)

/-- The completion of a successful creation owns the handle it was issued. -/
theorem owned_creationResult {id : UInt64} {entry : Entry Ref} {info : ByteArray} {handle : Handle}
    (child : entry.kind = kindClient ∨ entry.kind = kindEphemeral)
    (tagged : handle.kind = entry.kind) :
    (creationResult id entry info (.ok handle)).owned = some (handle, entry.kind) := by
  have nonzero : handle ≠ 0 := by
    apply Handle.ne_zero_of_kind
    rw [tagged]
    exact entry.kind_ne_zero
  cases entry with
  | client object =>
      simp [creationResult, Pending.owned, Pending.ack, Pending.withKind, Pending.withAux0, nonzero,
        Entry.kind]
  | ephemeral object =>
      simp [creationResult, Pending.owned, Pending.ack, Pending.withKind, Pending.withAux0,
        Pending.withPayload, nonzero, Entry.kind]
  | _ => rcases child with kind | kind <;> exact absurd kind (by simp only [Entry.kind]; decide)

/-- A creation: rejected and its entry closed, or inserted and carried by its task. -/
theorem State.Sound.create {state : State Ref} (sound : state.Sound) {call : Call}
    {entry : Entry Ref} {info : ByteArray} (running : state.request.phase call = .running)
    (child : entry.kind = kindClient ∨ entry.kind = kindEphemeral)
    (bounded : Table.Bounded (state.history ++ [.insertOwned runtime entry])) :
    (effect runtime reqId state (.create call entry info)).Sound := by
  have called : ({ state with history := state.history ++ [.insertOwned runtime entry] } :
      State Ref).Sound := sound.call bounded (fun _ _ _ _ _ => nofun)
  have next := state.table_append (.insertOwned runtime entry)
  cases valid : state.table.validate runtime kindRuntime with
  | error error =>
      have outcome : (state.table.insertOwned runtime entry).2.1 = .error .shutdown := by
        simp only [Table.insertOwned, valid]
      have moved : Moved (items state.request) (items (Request.effect reqId state.request
          (.complete call (creationResult (reqId call) entry info (.error .shutdown))))) :=
        moved_effect ⟨running, rfl⟩ (Pending.owned_error ..)
      simp only [effect, outcome]
      exact called.moved moved
  | ok index =>
      have placed : (state.table.perform (.insertOwned runtime entry)).1 =
          (state.table.insertInto entry runtime).1 := by
        simp only [Table.perform, Table.insertOwned, valid]
        cases (state.table.insertInto entry runtime).2 <;> rfl
      rw [placed] at next
      have fits : (state.table.insertInto entry runtime).1.Fits := by
        rw [← next]
        exact bounded.1
      have compact := state.compact (fits.of_le (state.table.le_length_insertInto entry runtime))
      obtain ⟨handle, issued, free, holds⟩ := state.table.holds_insertInto state.formed compact
        entry runtime fits
      have outcome : (state.table.insertOwned runtime entry).2.1 = .ok handle := by
        simp only [Table.insertOwned, valid, issued]
      obtain ⟨fresh, nowIssued⟩ := Table.not_issued_of_insertInto state.formed compact fits issued
      have new : (state.table.insertInto entry runtime).1.Holds ⟨handle, runtime, entry⟩ :=
        (holds _).mpr (Or.inr rfl)
      have unknown : ∀ lease ∈ state.created, lease.handle ≠ handle := by
        intro lease created same
        exact fresh (same ▸ sound.issued lease created)
      have acquires : Acquires (items state.request)
          (items (Request.effect reqId state.request
            (.complete call (creationResult (reqId call) entry info (.ok handle)))))
          (.task call) (handle, entry.kind) := by
        apply acquires_create running (owned_creationResult child new.1)
        intro held
        obtain ⟨lease, created, same⟩ := sound.origin _ held
        exact unknown lease created (congrArg Prod.fst same)
      simp only [effect, outcome]
      refine ⟨acquires.exclusive sound.exclusive, ?_, ?_, ?_, ?_, ?_, ?_, ?_⟩
      · intro lease member
        rcases List.mem_append.mp member with old | last
        · exact called.issued lease old
        · rw [List.mem_singleton.mp last]
          simpa only [State.table, next] using nowIssued
      · rw [List.map_append, List.map_singleton]
        apply List.nodup_append.mpr
        refine ⟨sound.distinct, List.nodup_singleton _, ?_⟩
        intro first member second single equal
        obtain ⟨lease, created, rfl⟩ := List.mem_map.mp member
        exact unknown lease created (equal.trans (List.mem_singleton.mp single))
      · intro lease member
        rcases List.mem_append.mp member with old | last
        · exact sound.childKind lease old
        · rw [List.mem_singleton.mp last]
          exact child
      · intro item held
        obtain ⟨place, there⟩ := held
        rcases (acquires.mem_iff place item).mp there with old | ⟨_, rfl⟩
        · obtain ⟨lease, created, same⟩ := sound.origin item ⟨place, old⟩
          exact ⟨lease, List.mem_append_left _ created, same⟩
        · exact ⟨_, List.mem_append_right _ (List.mem_singleton.mpr rfl), rfl⟩
      · intro lease member holdsAfter
        rcases List.mem_append.mp member with old | last
        · obtain ⟨place, there⟩ := called.held lease old holdsAfter
          exact ⟨place, (acquires.mem_iff place _).mpr (Or.inl there)⟩
        · rw [List.mem_singleton.mp last]
          exact ⟨.task call, (acquires.mem_iff _ _).mpr (Or.inr ⟨rfl, rfl⟩)⟩
      · intro lease member undelivered
        rcases List.mem_append.mp member with old | last
        · obtain ⟨place, inside, there⟩ := undelivered
          rcases (acquires.mem_iff place _).mp there with before | ⟨_, same⟩
          · exact called.lost lease old ⟨place, inside, before⟩
          · exact absurd (congrArg Prod.fst same) (unknown lease old)
        · rw [List.mem_singleton.mp last]
          left
          simpa only [State.table, next] using new
      · intro lease member other holdsAfter same
        rcases List.mem_append.mp member with old | last
        · exact called.own lease old other holdsAfter same
        · rw [List.mem_singleton.mp last] at same ⊢
          simp only [State.table, next] at holdsAfter
          exact ((holds other).mp holdsAfter).resolve_left fun before => free other before same

/-- Within the bounds, the invariant holds of every reachable state. -/
theorem sound (reqId : Call → UInt64) {state : State Ref}
    (reached : (machine runtime reqId).Reachable state)
    (bounded : Table.Bounded state.history) : state.Sound := by
  revert bounded
  have invariant : (machine runtime reqId).Invariant
      fun state : State Ref => Table.Bounded state.history → state.Sound := by
    refine ⟨?_, ?_⟩
    · intro _
      refine ⟨⟨fun place => ?_, fun first second item there => ?_⟩, nofun, List.nodup_nil, nofun,
        fun item held => ?_, nofun, nofun, nofun⟩
      · cases place <;> exact List.nodup_nil
      · cases first <;> exact absurd there List.not_mem_nil
      · obtain ⟨place, there⟩ := held
        cases place <;> exact absurd there List.not_mem_nil
    · intro state action _ before ready bounded
      cases action with
      | request action => exact (before bounded).moved (moved_effect ready.1 ready.2)
      | create call entry info =>
          exact (before bounded.of_append).create ready.1 ready.2 bounded
      | drop pending =>
          have earlier : Table.Bounded state.history := by
            simp only [machine, effect] at bounded
            cases owned : pending.owned with
            | none => rwa [owned] at bounded
            | some item =>
                rw [owned] at bounded
                exact bounded.of_append
          exact (before earlier).drop ready bounded
      | exported call =>
          have earlier := before bounded.of_append
          apply earlier.call bounded
          intro lease _ _ undelivered kind same
          obtain ⟨place, inside, there⟩ := undelivered
          subst same
          exact ready place lease.entry.kind inside there
      | dropQueue => exact (before bounded).moved (moved_dropQueue state.request)
  exact invariant.reachable reached

end KtBridge.Custody
