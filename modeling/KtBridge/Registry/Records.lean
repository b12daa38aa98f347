import KtBridge.Registry.Keeping

/-! # What is recorded

A server has a record from its registration until it is closed, and while it has one it is in the
live set, or about to lose the record. -/

namespace KtBridge.Registry

open Foundation

namespace State

/-- The servers with a record. -/
def keys (state : State) : List Server := state.records.map Prod.fst

/-- Whether a call is about to remove the server's record. -/
def Clearing (state : State) (server : Server) : Prop :=
  ∃ call, (state.phase call).clears = some server

/-- What a call knows of the server it registers or registered. -/
def Fits (setting : Setting) (state : State) : Phase → Prop
  | .registering server => server ∉ state.keys
  | .added server | .checking server =>
      server ∉ state.keys ∧ (server ∈ state.live ∨ state.isClosed setting server = true)
  | .rejecting server => server ∉ state.keys ∧ state.isClosed setting server = true
  | .identifying server | .recording server _ =>
      server ∉ state.keys ∧ (server ∈ state.live ∨ state.Clearing server)
  | .writing server record | .leaving server (some record) | .registered server (some record) =>
      (server, record) ∈ state.records ∨ state.isClosed setting server = true
  | _ => True

/-- The records agree with the calls and with the live set. -/
structure Kept (setting : Setting) (state : State) : Prop where
  nodup : state.keys.Nodup
  fits : ∀ call, state.Fits setting (state.phase call)
  listed : ∀ server ∈ state.keys, server ∈ state.live ∨ state.Clearing server

section Clearing

variable {state next : State} {call : Call} {after : Phase} {server : Server}

/-- What is being cleared still is, unless by the call that moved. -/
theorem Clearing.move (clearing : state.Clearing server)
    (moved : next.phase = Function.update state.phase call after) :
    (state.phase call).clears = some server ∨ next.Clearing server := by
  obtain ⟨other, clears⟩ := clearing
  by_cases same : other = call
  · exact .inl (same ▸ clears)
  · refine .inr ⟨other, ?_⟩
    rwa [moved, Function.update_of_ne same]

/-- A call that moves and clears what it did. -/
theorem Clearing.stay (clearing : state.Clearing server)
    (moved : next.phase = Function.update state.phase call after)
    (clears : after.clears = (state.phase call).clears) : next.Clearing server := by
  obtain here | there := clearing.move moved
  · refine ⟨call, ?_⟩
    rwa [moved, Function.update_self, clears]
  · exact there

end Clearing

theorem outer_clears (phase : Phase) (outer : phase.outer = true) : phase.clears = none := by
  cases phase <;> first | rfl | cases outer

section Fits

variable {setting : Setting} {state next : State}

/-- What a call knows stays true of a state that differs in what it does not know. -/
theorem Fits.mono {phase : Phase} (fits : state.Fits setting phase)
    (closed : ∀ server, state.isClosed setting server = true →
      next.isClosed setting server = true)
    (unrecorded : ∀ server, phase.unrecorded = some server → server ∉ state.keys →
      server ∉ next.keys)
    (live : ∀ server ∈ state.live, server ∈ next.live ∨ next.isClosed setting server = true)
    (passed : ∀ server, phase.passed = some server →
      server ∈ state.live ∨ state.Clearing server → server ∈ next.live ∨ next.Clearing server)
    (recorded : ∀ entry ∈ state.records,
      entry ∈ next.records ∨ next.isClosed setting entry.1 = true) : next.Fits setting phase := by
  have present : ∀ server, server ∈ state.live ∨ state.isClosed setting server = true →
      server ∈ next.live ∨ next.isClosed setting server = true :=
    fun server either => either.elim (live server) fun before => .inr (closed server before)
  have kept : ∀ server record, (server, record) ∈ state.records ∨
      state.isClosed setting server = true → (server, record) ∈ next.records ∨
        next.isClosed setting server = true :=
    fun server record either => either.elim (recorded (server, record))
      fun before => .inr (closed server before)
  cases phase with
  | registering server => exact unrecorded server rfl fits
  | added server => exact ⟨unrecorded server rfl fits.1, present server fits.2⟩
  | checking server => exact ⟨unrecorded server rfl fits.1, present server fits.2⟩
  | rejecting server => exact ⟨unrecorded server rfl fits.1, closed server fits.2⟩
  | identifying server => exact ⟨unrecorded server rfl fits.1, passed server rfl fits.2⟩
  | recording server record => exact ⟨unrecorded server rfl fits.1, passed server rfl fits.2⟩
  | writing server record => exact kept server record fits
  | leaving server record =>
      cases record with
      | none => trivial
      | some record => exact kept server record fits
  | registered server record =>
      cases record with
      | none => trivial
      | some record => exact kept server record fits
  | _ => trivial

theorem outer_fits {phase : Phase} (outer : phase.outer = true) : next.Fits setting phase := by
  cases phase <;> trivial

end Fits

namespace Kept

variable {setting : Setting} {state : State} {action : Action} {call : Call} {after : Phase}

theorem quiet (kept : state.Kept setting) (step : Quiet state (effect setting state action)) :
    (effect setting state action).Kept setting := by
  have clearing : ∀ server, state.Clearing server →
      (effect setting state action).Clearing server := by
    rintro server ⟨call, clears⟩
    exact ⟨call, by rwa [step.same outer_clears]⟩
  refine ⟨?_, fun call => ?_, fun server member => ?_⟩
  · rw [keys, step.records]
    exact kept.nodup
  · obtain same | ⟨-, outer⟩ := step.phases call
    · rw [same]
      refine (kept.fits call).mono (isClosed_step action) (fun server _ absent => ?_)
        (fun server member => ?_) (fun server _ either => ?_) (fun entry member => ?_)
      · rwa [keys, step.records]
      · exact .inl (step.live ▸ member)
      · rw [step.live]
        exact either.imp_right (clearing server)
      · exact .inl (step.records ▸ member)
    · exact outer_fits outer
  · rw [keys, step.records] at member
    rw [step.live]
    exact (kept.listed server member).imp_right (clearing server)

/-- A step of one call that leaves the records, and what is in the live set. -/
theorem move (kept : state.Kept setting)
    (moved : (effect setting state action).phase = Function.update state.phase call after)
    (records : (effect setting state action).records = state.records)
    (live : ∀ server ∈ state.live, server ∈ (effect setting state action).live)
    (clears : after.clears = (state.phase call).clears)
    (here : (effect setting state action).Fits setting after) :
    (effect setting state action).Kept setting := by
  refine ⟨?_, ?_, fun server member => ?_⟩
  · rw [keys, records]
    exact kept.nodup
  · refine forall_update (fun _ phase => (effect setting state action).Fits setting phase) moved
      here fun other _ => ?_
    refine (kept.fits other).mono (isClosed_step action) (fun server _ absent => ?_)
      (fun server member => .inl (live server member)) (fun server _ either => ?_)
      (fun entry member => .inl (records ▸ member))
    · rwa [keys, records]
    · exact either.imp (live server) fun clearing => clearing.stay moved clears
  · rw [keys, records] at member
    exact (kept.listed server member).imp (live server) fun clearing => clearing.stay moved clears

/-- What is known of the server of a call that moves. -/
theorem fits_of (kept : state.Kept setting) {before : Phase} (ready : state.phase call = before) :
    state.Fits setting before :=
  ready ▸ kept.fits call

/-- Rejecting a server that is closed leaves what is known of the others. -/
theorem reject (kept : state.Kept setting) (locked : state.Locked) {server : Server}
    (ready : state.phase call = .rejecting server) :
    (effect setting state (.reject call server)).Kept setting := by
  obtain ⟨absent, closed⟩ := kept.fits_of ready
  have live : ∀ other ∈ state.live, other ≠ server → other ∈ state.live.erase server :=
    fun other member different => Finset.mem_erase.mpr ⟨different, member⟩
  have clearing : ∀ other, state.Clearing other →
      (effect setting state (.reject call server)).Clearing other :=
    fun other clearing => clearing.stay rfl (by rw [ready]; rfl)
  refine ⟨kept.nodup, ?_, fun other member => ?_⟩
  · refine forall_update (fun _ phase =>
      (effect setting state (.reject call server)).Fits setting phase) rfl trivial
      fun other different => ?_
    refine (kept.fits other).mono (isClosed_step _) (fun _ _ absent => absent)
      (fun entry member => ?_) (fun entry passed either => ?_) (fun entry member => .inl member)
    · by_cases same : entry = server
      · exact .inr (same ▸ closed)
      · exact .inl (live entry member same)
    · refine either.imp (fun member => live entry member ?_) (clearing entry)
      -- Nobody else is registering this server.
      rintro rfl
      refine different (locked.single call (by rw [ready]; rfl) ?_)
      cases phase : state.phase other <;> simp_all [Phase.passed, Phase.registers]
  · refine (kept.listed other member).imp (fun listed => live other listed ?_) (clearing other)
    rintro rfl
    exact absent member

/-- A server that is unregistered leaves the live set, and its record is about to go. -/
theorem unlist (kept : state.Kept setting) (doomed : state.Doomed setting) {server : Server}
    {origin : Origin} (ready : state.phase call = .unregistering server origin) :
    (effect setting state (.unlist call server origin)).Kept setting := by
  have closed : state.isClosed setting server = true :=
    doomed call server (by rw [ready]; exact List.mem_cons_self)
  have moved : (effect setting state (.unlist call server origin)).phase =
      Function.update state.phase call (.unlisted server origin) := rfl
  have present : ∀ other, other ∈ state.live ∨ state.Clearing other →
      other ∈ state.live.erase server ∨
        (effect setting state (.unlist call server origin)).Clearing other := by
    intro other either
    by_cases same : other = server
    · subst same
      exact .inr ⟨call, by simp [effect, setPhase, Phase.clears]⟩
    · refine either.imp (fun member => Finset.mem_erase.mpr ⟨same, member⟩) fun clearing => ?_
      obtain here | there := clearing.move moved
      · rw [ready] at here
        cases here
      · exact there
  refine ⟨kept.nodup, ?_, fun other member => present other (kept.listed other member)⟩
  refine forall_update (fun _ phase =>
    (effect setting state (.unlist call server origin)).Fits setting phase) rfl trivial
    fun other _ => ?_
  refine (kept.fits other).mono (isClosed_step _) (fun _ _ absent => absent)
    (fun entry member => ?_) (fun entry _ => present entry) (fun entry member => .inl member)
  by_cases same : entry = server
  · exact .inr (same ▸ closed)
  · exact .inl (Finset.mem_erase.mpr ⟨same, member⟩)

theorem putRecord_of_absent {server : Server} (absent : server ∉ state.keys)
    (record : ProcessRecord) :
    putRecord state.records server record = state.records ++ [(server, record)] :=
  if_neg absent

/-- A server gets its record. -/
theorem put (kept : state.Kept setting) (locked : state.Locked) {server : Server}
    {record : ProcessRecord} (ready : state.phase call = .recording server record) :
    (effect setting state (.put call server record)).Kept setting := by
  obtain ⟨absent, present⟩ := kept.fits_of ready
  have records : (effect setting state (.put call server record)).records =
      state.records ++ [(server, record)] := putRecord_of_absent absent record
  have keys : (effect setting state (.put call server record)).keys = state.keys ++ [server] := by
    rw [State.keys, records, List.map_append]
    rfl
  have clearing : ∀ other, state.Clearing other →
      (effect setting state (.put call server record)).Clearing other :=
    fun other clearing => clearing.stay rfl (by rw [ready]; rfl)
  refine ⟨?_, ?_, fun other member => ?_⟩
  · rw [keys]
    exact List.nodup_append.mpr ⟨kept.nodup, List.nodup_singleton server, fun other member entry
      here same => absent (List.mem_singleton.mp here ▸ same ▸ member)⟩
  · refine forall_update (fun _ phase =>
      (effect setting state (.put call server record)).Fits setting phase) rfl ?_
      fun other different => ?_
    · refine .inl ?_
      rw [records]
      exact List.mem_append_right _ (List.mem_singleton_self _)
    · refine (kept.fits other).mono (isClosed_step _) (fun entry unrecorded absent' => ?_)
        (fun entry member => .inl member) (fun entry _ => Or.imp_right (clearing entry))
        (fun entry member => .inl (records ▸ List.mem_append_left _ member))
      rw [keys, List.mem_append, List.mem_singleton]
      rintro (member | rfl)
      · exact absent' member
      · refine different (locked.single call (by rw [ready]; rfl) ?_)
        cases phase : state.phase other <;> simp_all [Phase.unrecorded, Phase.registers]
  · rw [keys, List.mem_append, List.mem_singleton] at member
    obtain before | rfl := member
    · exact (kept.listed other before).imp_right (clearing other)
    · exact present.imp_right (clearing other)

/-- Whether it changes anything or not, removing a record leaves the others. -/
theorem remove_records (setting : Setting) (state : State) (call : Call) (server : Server)
    (origin : Origin) : (effect setting state (.remove call server origin)).records =
      removeRecord state.records server := by
  simp only [effect]
  split
  · rfl
  · next absent =>
      refine (List.filter_eq_self.mpr fun entry member => ?_).symm
      have different : entry.1 ≠ server := by
        rintro rfl
        exact absent (List.mem_map_of_mem member)
      simpa using different

theorem remove_keys (setting : Setting) (state : State) (call : Call) (server : Server)
    (origin : Origin) : (effect setting state (.remove call server origin)).keys =
      state.keys.filter (· ≠ server) := by
  rw [keys, remove_records, removeRecord, keys, List.filter_map]
  rfl

theorem remove_live (setting : Setting) (state : State) (call : Call) (server : Server)
    (origin : Origin) :
    (effect setting state (.remove call server origin)).live = state.live := by
  simp only [effect]
  split <;> rfl

/-- A closed server loses its record. -/
theorem remove (kept : state.Kept setting) (locked : state.Locked)
    (doomed : state.Doomed setting) {server : Server} {origin : Origin}
    (ready : state.phase call = .removing server origin) :
    (effect setting state (.remove call server origin)).Kept setting := by
  have closed : state.isClosed setting server = true :=
    doomed call server (by rw [ready]; exact List.mem_cons_self)
  have moved := remove_phase setting state call server origin
  have live := remove_live setting state call server origin
  have keys := remove_keys setting state call server origin
  refine ⟨?_, ?_, fun other member => ?_⟩
  · rw [keys]
    exact kept.nodup.filter _
  · refine forall_update (fun _ phase =>
      (effect setting state (.remove call server origin)).Fits setting phase) moved ?_
      fun other different => ?_
    · split <;> trivial
    · refine (kept.fits other).mono (isClosed_step _) (fun entry _ absent member => ?_)
        (fun entry member => .inl (live ▸ member)) (fun entry passed => ?_)
        (fun entry member => ?_)
      · rw [keys] at member
        exact absent (List.mem_of_mem_filter member)
      · -- The lock keeps the others from finding a server open now.
        refine absurd (locked.alone call (by rw [ready]; rfl) ?_) different
        cases phase : state.phase other <;> simp_all [Phase.passed, Phase.inside]
      · by_cases same : entry.1 = server
        · exact .inr (isClosed_step _ _ (same ▸ closed))
        · refine .inl ?_
          rw [remove_records, removeRecord]
          exact List.mem_filter.mpr ⟨member, decide_eq_true same⟩
  · rw [keys] at member
    obtain ⟨before, different⟩ := List.mem_filter.mp member
    rw [live]
    refine (kept.listed other before).imp_right fun clearing => ?_
    obtain here | there := clearing.move moved
    · rw [ready] at here
      exact absurd (Option.some.inj here).symm (of_decide_eq_true different)
    · exact there

theorem step (kept : state.Kept setting) (locked : state.Locked) (doomed : state.Doomed setting)
    (ready : guard setting state action) : (effect setting state action).Kept setting := by
  cases action with
  | register call server =>
      obtain ⟨idle, -, absent⟩ := ready
      exact kept.move rfl rfl (fun _ member => member) (by rw [idle]; rfl) absent
  | add call server =>
      refine kept.move rfl rfl (fun _ member => Finset.mem_insert_of_mem member)
        (by rw [ready]; rfl) ?_
      exact ⟨kept.fits_of ready, .inl (Finset.mem_insert_self _ _)⟩
  | lock call server =>
      exact kept.move rfl rfl (fun _ member => member) (by rw [ready.1]; rfl)
        (kept.fits_of ready.1)
  | check call server =>
      obtain ⟨absent, listed⟩ := kept.fits_of ready
      refine kept.move rfl rfl (fun _ member => member) ?_ ?_
      · rw [ready]
        split <;> rfl
      · by_cases closed : state.isClosed setting server = true
        · rw [if_pos closed]
          exact ⟨absent, closed⟩
        · rw [if_neg closed]
          exact ⟨absent, .inl (listed.resolve_right closed)⟩
  | reject call server => exact kept.reject locked ready
  | identify call server record =>
      obtain ⟨absent, present⟩ := kept.fits_of ready.1
      cases record with
      | none => exact kept.move rfl rfl (fun _ member => member) (by rw [ready.1]; rfl) trivial
      | some record =>
          refine kept.move rfl rfl (fun _ member => member) (by rw [ready.1]; rfl) ⟨absent, ?_⟩
          exact present.imp_right fun clearing => clearing.stay rfl (by rw [ready.1]; rfl)
  | put call server record => exact kept.put locked ready
  | write call server record =>
      exact kept.move rfl rfl (fun _ member => member) (by rw [ready]; rfl) (kept.fits_of ready)
  | leave call server record =>
      refine kept.move rfl rfl (fun _ member => member) (by rw [ready]; rfl) ?_
      have fits := kept.fits_of ready
      cases record <;> exact fits
  | unlist call server origin => exact kept.unlist doomed ready
  | relock call server origin =>
      exact kept.move rfl rfl (fun _ member => member) (by rw [ready.1]; rfl) trivial
  | remove call server origin => exact kept.remove locked doomed ready
  | rewrite call server origin =>
      exact kept.move rfl rfl (fun _ member => member) (by rw [ready]; rfl) trivial
  | unlock call server origin =>
      have outer := afterUnregister_outer server origin
      exact kept.move rfl rfl (fun _ member => member)
        (by rw [outer_clears _ outer, ready]; rfl) (outer_fits outer)
  | _ => exact kept.quiet (State.quiet ready rfl)

end Kept

end State

end KtBridge.Registry
