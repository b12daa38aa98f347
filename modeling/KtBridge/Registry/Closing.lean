import KtBridge.Registry.Records

/-! # A closed server is forgotten

Whoever closes a server takes it out of the live set and out of the records before it returns, and
so does whoever closes its runtime, unless the list it makes of the live set misses the server, or
another call is about to remove the record. -/

namespace KtBridge.Registry

open Foundation

/-- The closed servers that a call is still to take out of the live set. -/
def Phase.Owes (setting : Setting) (seen : Finset Server) : Phase → Server → Prop
  | .freeing this _, server => server = this
  | .unregistering this origin, server => server = this ∨ server ∈ origin.rest
  | .unlisted _ origin, server | .removing _ origin, server => server ∈ origin.rest
  | .rewriting _ origin, server | .unlocking _ origin, server => server ∈ origin.rest
  | .freed runtime, server => setting.runtimeOf server = runtime
  | .counting (.unregisterClosed runtime), server => setting.runtimeOf server = runtime
  | .listing (.unregisterClosed _) _, server => server ∈ seen
  | .filtering _ pending chosen, server => server ∈ pending ∨ server ∈ chosen
  | .pruning _ rest, server => server ∈ rest
  | _, _ => False

/-- The server that a call is about to unregister itself. -/
def Phase.unlists : Phase → Option Server
  | .freeing server _ | .unregistering server _ => some server
  | _ => none

theorem Phase.Owes.mono {setting : Setting} {seen seen' : Finset Server} {phase : Phase}
    {server : Server} (owes : phase.Owes setting seen server)
    (kept : server ∈ seen → server ∈ seen') : phase.Owes setting seen' server := by
  cases phase with
  | counting reader => cases reader <;> exact owes
  | listing reader size =>
      cases reader with
      | closeAll => exact owes
      | unregisterClosed runtime => exact kept owes
  | _ => exact owes

namespace State

/-- Whether the call closed the server, or its runtime. -/
def Closes (setting : Setting) (state : State) (call : Call) (server : Server) : Prop :=
  state.closer server = some call ∨ state.runtimeCloser (setting.runtimeOf server) = some call

/-- Whether a call that added the server is yet to find it closed. -/
def Unchecked (state : State) (server : Server) : Prop :=
  ∃ call, (state.phase call).unchecked = some server

/-- Whether the server has a record, or is about to get one. -/
def Recording (state : State) (server : Server) : Prop :=
  server ∈ state.keys ∨ ∃ call, (state.phase call).passed = some server

/-- What a call is still to take out of the live set. -/
def Owing (setting : Setting) (state : State) (call : Call) (server : Server) : Prop :=
  (state.phase call).Owes setting (state.seen call) server

/-- What was closed and is not out yet will be taken out by the call that closed it, unless that
call threw, or by a registration that finds it closed. The list of the call that closed a runtime
may miss a server. -/
structure Owed (setting : Setting) (state : State) : Prop where
  live : ∀ call server, state.closer server = some call → server ∈ state.live →
    (state.phase call).unlists = some server ∨ state.phase call = .thrown ∨ state.Unchecked server
  listed : ∀ call server, state.runtimeCloser (setting.runtimeOf server) = some call →
    server ∈ state.live → state.Owing setting call server ∨ state.phase call = .thrown ∨
      state.Unchecked server ∨ server ∈ state.missed call
  records : ∀ call server, state.closer server = some call → state.Recording server →
    (state.phase call).unlists = some server ∨ (state.phase call).clears = some server ∨
      state.phase call = .thrown

theorem Closes.isClosed {setting : Setting} {state : State} {call : Call} {server : Server}
    (closes : state.Closes setting call server) : state.isClosed setting server = true := by
  obtain own | runtime := closes
  · simp [State.isClosed, own]
  · simp [State.isClosed, runtime]

theorem outer_passed (phase : Phase) (outer : phase.outer = true) : phase.passed = none := by
  cases phase <;> first | rfl | cases outer

/-- What a call leaves that closes nothing and changes neither the live set nor the records. -/
structure Apart (state next : State) (call : Call) : Prop where
  closer : next.closer = state.closer := by rfl
  runtimeCloser : next.runtimeCloser = state.runtimeCloser := by rfl
  live : next.live = state.live := by rfl
  records : next.records = state.records := by rfl
  seen : ∀ other, other ≠ call → next.seen other = state.seen other := by exact fun _ _ => rfl
  missed : ∀ other server, server ∈ state.missed other → server ∈ next.missed other := by
    exact fun _ _ => id

namespace Owed

variable {setting : Setting} {state next : State} {action : Action} {call : Call} {after : Phase}

/-- What was being recorded is, as far as it is not the call that moves. -/
theorem recording_of (moved : next.phase = Function.update state.phase call after) {server : Server}
    (keys : server ∈ next.keys → state.Recording server)
    (passed : after.passed = some server → state.Recording server)
    (recording : next.Recording server) : state.Recording server := by
  obtain member | ⟨other, passes⟩ := recording
  · exact keys member
  · rw [moved] at passes
    by_cases same : other = call
    · rw [same, Function.update_self] at passes
      exact passed passes
    · rw [Function.update_of_ne same] at passes
      exact .inr ⟨other, passes⟩

/-- A step of one call, that may close a server. -/
theorem move (owed : state.Owed setting) {before : Phase} (ready : state.phase call = before)
    (moved : next.phase = Function.update state.phase call after) (running : before ≠ .thrown)
    (missed : ∀ other server, server ∈ state.missed other → server ∈ next.missed other)
    (stops : ∀ other server, next.runtimeCloser (setting.runtimeOf server) = some other →
      state.runtimeCloser (setting.runtimeOf server) = some other ∨
        other = call ∧ after.Owes setting (next.seen call) server)
    (closer : ∀ other server, next.closer server = some other →
      state.closer server = some other ∨ other = call ∧ after.unlists = some server)
    (live : ∀ server ∈ next.live, server ∈ state.live ∨ next.Unchecked server)
    (seen : ∀ other, other ≠ call → ∀ server ∈ next.live, server ∈ state.seen other →
      server ∈ next.seen other)
    (unchecked : ∀ server ∈ next.live, state.isClosed setting server = true →
      before.unchecked = some server → after.unchecked = some server)
    (keys : ∀ server ∈ next.keys, state.Recording server)
    (passed : ∀ server, state.isClosed setting server = true → after.passed = some server →
      before.passed = some server)
    (owes : ∀ server ∈ next.live, state.isClosed setting server = true →
      before.Owes setting (state.seen call) server →
        after.Owes setting (next.seen call) server ∨ after = .thrown ∨ server ∈ next.missed call)
    (unlists : ∀ server ∈ next.live, before.unlists = some server →
      after.unlists = some server ∨ after = .thrown)
    (clears : ∀ server, next.Recording server →
      before.unlists = some server ∨ before.clears = some server →
        after.unlists = some server ∨ after.clears = some server ∨ after = .thrown) :
    next.Owed setting := by
  subst ready
  have here : next.phase call = after := by rw [moved, Function.update_self]
  have there : ∀ other, other ≠ call → next.phase other = state.phase other := by
    intro other different
    rw [moved, Function.update_of_ne different]
  have waits : ∀ server ∈ next.live, state.isClosed setting server = true →
      state.Unchecked server → next.Unchecked server := by
    rintro server member closed ⟨registering, adds⟩
    refine ⟨registering, ?_⟩
    by_cases same : registering = call
    · subst same
      rw [here]
      exact unchecked server member closed adds
    · rwa [there registering same]
  refine ⟨fun other server closes member => ?_, fun other server closes member => ?_,
    fun other server closes recording' => ?_⟩
  · obtain before | ⟨rfl, unlisting⟩ := closer other server closes
    · have closed : state.isClosed setting server = true := by simp [State.isClosed, before]
      obtain member' | waiting := live server member
      · obtain unlisting | thrown | waiting := owed.live other server before member'
        · by_cases same : other = call
          · subst same
            rw [here]
            exact (unlists server member unlisting).imp_right .inl
          · rw [there other same]
            exact .inl unlisting
        · by_cases same : other = call
          · exact absurd (same ▸ thrown) running
          · exact .inr (.inl ((there other same).trans thrown))
        · exact .inr (.inr (waits server member closed waiting))
      · exact .inr (.inr waiting)
    · rw [here]
      exact .inl unlisting
  · obtain before | ⟨rfl, owing⟩ := stops other server closes
    · have closed : state.isClosed setting server = true := by simp [State.isClosed, before]
      obtain member' | waiting := live server member
      · obtain owing | thrown | waiting | passed := owed.listed other server before member'
        · by_cases same : other = call
          · subst same
            rw [Owing, here]
            obtain owes | thrown | passed := owes server member closed owing
            · exact .inl owes
            · exact .inr (.inl thrown)
            · exact .inr (.inr (.inr passed))
          · refine .inl ?_
            rw [Owing, there other same]
            exact owing.mono (seen other same server member)
        · by_cases same : other = call
          · exact absurd (same ▸ thrown) running
          · exact .inr (.inl ((there other same).trans thrown))
        · exact .inr (.inr (.inl (waits server member closed waiting)))
        · exact .inr (.inr (.inr (missed other server passed)))
      · exact .inr (.inr (.inl waiting))
    · refine .inl ?_
      rwa [Owing, here]
  · obtain before | ⟨rfl, unlisting⟩ := closer other server closes
    · have closed : state.isClosed setting server = true := by simp [State.isClosed, before]
      have recording := recording_of moved (keys server)
        (fun passes => .inr ⟨call, passed server closed passes⟩) recording'
      have either := owed.records other server before recording
      by_cases same : other = call
      · subst same
        rw [here]
        exact clears server recording' (by tauto)
      · rwa [there other same]
    · rw [here]
      exact .inl unlisting

/-- A step of one call that closes nothing and leaves the live set and the records. -/
theorem plain (owed : state.Owed setting) {before : Phase} (ready : state.phase call = before)
    (moved : next.phase = Function.update state.phase call after) (running : before ≠ .thrown)
    (apart : Apart state next call)
    (unchecked : ∀ server, state.isClosed setting server = true →
      before.unchecked = some server → after.unchecked = some server)
    (passed : ∀ server, state.isClosed setting server = true → after.passed = some server →
      before.passed = some server)
    (owes : ∀ server ∈ state.live, state.isClosed setting server = true →
      before.Owes setting (state.seen call) server →
        after.Owes setting (next.seen call) server ∨ after = .thrown ∨ server ∈ next.missed call)
    (unlists : ∀ server, before.unlists = some server →
      after.unlists = some server ∨ after = .thrown)
    (clears : ∀ server, before.clears = some server →
      after.clears = some server ∨ after = .thrown) :
    next.Owed setting := by
  refine owed.move ready moved running apart.missed (fun other server closes => .inl ?_)
    (fun other server closes => .inl (apart.closer ▸ closes))
    (fun server member => .inl (apart.live ▸ member))
    (fun other different server _ member => by rwa [apart.seen other different])
    (fun server _ closed => unchecked server closed) (fun server member => .inl ?_) passed
    (fun server member closed owing => owes server (apart.live ▸ member) closed owing)
    (fun server _ unlisting => unlists server unlisting) (fun server _ either => ?_)
  · rwa [apart.runtimeCloser] at closes
  · rwa [keys, apart.records] at member
  · obtain unlisting | clearing := either
    · exact (unlists server unlisting).imp_right .inr
    · exact .inr (clears server clearing)

/-- A step of a call that closes nothing, from where it has nothing to do with closed servers. -/
theorem idle (owed : state.Owed setting) {before : Phase} (ready : state.phase call = before)
    (moved : next.phase = Function.update state.phase call after) (running : before ≠ .thrown)
    (apart : Apart state next call)
    (unchecked : before.unchecked = after.unchecked) (passed : after.passed = before.passed)
    (owes : ∀ server, ¬before.Owes setting (state.seen call) server)
    (unlists : before.unlists = none) (clears : before.clears = none) : next.Owed setting := by
  refine owed.plain ready moved running apart
    (fun server _ same => unchecked ▸ same) (fun server _ same => passed ▸ same)
    (fun server _ _ owing => absurd owing (owes server)) (fun server same => ?_)
    (fun server same => ?_)
  · rw [unlists] at same
    cases same
  · rw [clears] at same
    cases same

/-- A server in the live set that was closed meanwhile is found closed by who added it. -/
theorem add (owed : state.Owed setting) {server : Server}
    (ready : state.phase call = .registering server) :
    (effect setting state (.add call server)).Owed setting := by
  have moved : (effect setting state (.add call server)).phase =
      Function.update state.phase call (.added server) := rfl
  have adds : (effect setting state (.add call server)).Unchecked server := by
    refine ⟨call, ?_⟩
    rw [moved, Function.update_self]
    rfl
  refine owed.move ready moved (by simp) (fun _ _ => id) (fun _ _ => .inl) (fun _ _ => .inl)
    (fun other member => ?_) (fun _ _ _ _ member => member) (fun _ _ _ same => ?_)
    (fun _ member => .inl member) (fun _ _ same => ?_) (fun _ _ _ owing => owing.elim)
    (fun _ _ same => ?_) (fun _ _ either => ?_)
  · obtain rfl | before := Finset.mem_insert.mp member
    · exact .inr adds
    · exact .inl before
  · cases same
  · cases same
  · cases same
  · obtain same | same := either <;> cases same

theorem reject (owed : state.Owed setting) {server : Server}
    (ready : state.phase call = .rejecting server) :
    (effect setting state (.reject call server)).Owed setting := by
  refine owed.move ready rfl (by simp) (fun _ _ => id) (fun _ _ => .inl)
    (fun _ _ => .inl) (fun other member => .inl (Finset.mem_of_mem_erase member))
    (fun other _ this member seen => ?_) (fun other member _ same => ?_)
    (fun _ member => .inl member) (fun _ _ same => ?_) (fun _ _ _ owing => owing.elim)
    (fun _ _ same => ?_) (fun _ _ either => ?_)
  · exact Finset.mem_erase.mpr ⟨(Finset.mem_erase.mp member).1, seen⟩
  · obtain rfl := Option.some.inj same
    exact absurd rfl (Finset.mem_erase.mp member).1
  · cases same
  · cases same
  · obtain same | same := either <;> cases same

theorem put (owed : state.Owed setting) (kept : state.Kept setting) {server : Server}
    {record : ProcessRecord} (ready : state.phase call = .recording server record) :
    (effect setting state (.put call server record)).Owed setting := by
  obtain ⟨absent, -⟩ := kept.fits_of ready
  refine owed.move ready rfl (by simp) (fun _ _ => id) (fun _ _ => .inl)
    (fun _ _ => .inl) (fun _ => .inl) (fun _ _ _ _ member => member) (fun _ _ _ same => ?_)
    (fun other member => ?_) (fun _ _ same => ?_) (fun _ _ _ owing => owing.elim)
    (fun _ _ same => ?_) (fun _ _ either => ?_)
  · cases same
  · have records : (effect setting state (.put call server record)).records =
        state.records ++ [(server, record)] := Kept.putRecord_of_absent absent record
    rw [keys, records, List.map_append, List.mem_append] at member
    obtain before | now := member
    · exact .inl before
    · refine .inr ⟨call, ?_⟩
      rw [ready, List.mem_singleton.mp now]
      rfl
  · cases same
  · cases same
  · obtain same | same := either <;> cases same

theorem shut (owed : state.Owed setting) {server : Server} {rest : Option (List Server)}
    (ready : state.phase call = .closing server rest) :
    (effect setting state (.shut call server rest)).Owed setting := by
  have closer : ∀ other this,
      (effect setting state (.shut call server rest)).closer this = some other →
        state.closer this = some other ∨ other = call ∧ this = server := by
    intro other this closes
    by_cases same : this = server
    · rw [same] at closes
      simp only [effect, Function.update_self, Option.some.injEq] at closes
      exact .inr ⟨closes.symm, same⟩
    · simp only [effect, Function.update_of_ne same] at closes
      exact .inl closes
  refine owed.move ready rfl (by simp) (fun _ _ => id) (fun _ _ => .inl)
    (fun other this closes => ?_) (fun _ => .inl) (fun _ _ _ _ member => member)
    (fun _ _ _ same => ?_) (fun _ member => .inl member) (fun _ _ same => same)
    (fun _ _ _ owing => owing.elim) (fun _ _ same => ?_) (fun _ _ either => ?_)
  · obtain before | ⟨here, same⟩ := closer other this closes
    · exact .inl before
    · exact .inr ⟨here, same ▸ rfl⟩
  · cases same
  · cases same
  · obtain same | same := either <;> cases same

theorem unlist (owed : state.Owed setting) {server : Server} {origin : Origin}
    (ready : state.phase call = .unregistering server origin) :
    (effect setting state (.unlist call server origin)).Owed setting := by
  refine owed.move ready rfl (by simp) (fun _ _ => id) (fun _ _ => .inl)
    (fun _ _ => .inl) (fun other member => .inl (Finset.mem_of_mem_erase member))
    (fun other _ this member seen => ?_) (fun _ _ _ same => ?_) (fun _ member => .inl member)
    (fun _ _ same => ?_) (fun other member _ owing => ?_) (fun other member same => ?_)
    (fun other _ either => ?_)
  · exact Finset.mem_erase.mpr ⟨(Finset.mem_erase.mp member).1, seen⟩
  · cases same
  · cases same
  · exact .inl (owing.resolve_left (Finset.mem_erase.mp member).1)
  · exact absurd (Option.some.inj same).symm (Finset.mem_erase.mp member).1
  · obtain same | same := either
    · exact .inr (.inl same)
    · cases same

/-- A call inside the lock removes a record, and nobody is about to write it again. -/
theorem forget (owed : state.Owed setting) (locked : state.Locked) {server : Server}
    {origin : Origin} (ready : state.phase call = .removing server origin)
    (moved : next.phase = Function.update state.phase call after)
    (missed : next.missed = state.missed) (closer : next.closer = state.closer)
    (runtimeCloser : next.runtimeCloser = state.runtimeCloser)
    (live : next.live = state.live) (seen : next.seen = state.seen)
    (keys : next.keys = state.keys.filter (· ≠ server))
    (ends : after = .rewriting server origin ∨ after = .unlocking server origin) :
    next.Owed setting := by
  have passed : after.passed = none := by
    obtain rfl | rfl := ends <;> rfl
  have owes : ∀ other, other ∈ origin.rest → after.Owes setting (next.seen call) other := by
    intro other member
    obtain rfl | rfl := ends <;> exact member
  refine owed.move ready moved (by simp) (fun other this member => missed ▸ member)
    (fun other this closes => .inl ?_) (fun other this closes => .inl (closer ▸ closes))
    (fun other member => .inl (live ▸ member)) (fun other _ this _ member => seen ▸ member)
    (fun _ _ _ same => ?_) (fun other member => .inl ?_) (fun _ _ same => ?_)
    (fun other _ _ owing => .inl (owes other owing)) (fun _ _ same => ?_)
    (fun other recording either => ?_)
  · rwa [runtimeCloser] at closes
  · cases same
  · rw [keys] at member
    exact List.mem_of_mem_filter member
  · rw [passed] at same
    cases same
  · cases same
  · obtain same | same := either
    · cases same
    · obtain rfl := Option.some.inj same
      obtain member | ⟨this, passes⟩ := recording
      · rw [keys] at member
        exact absurd rfl (of_decide_eq_true (List.mem_filter.mp member).2)
      · rw [moved] at passes
        by_cases here : this = call
        · rw [here, Function.update_self, passed] at passes
          cases passes
        · rw [Function.update_of_ne here] at passes
          refine absurd (locked.alone call (by rw [ready]; rfl) ?_) here
          cases phase : state.phase this <;> simp_all [Phase.passed, Phase.inside]

theorem remove (owed : state.Owed setting) (locked : state.Locked) {server : Server}
    {origin : Origin} (ready : state.phase call = .removing server origin) :
    (effect setting state (.remove call server origin)).Owed setting := by
  have keys := Kept.remove_keys setting state call server origin
  simp only [effect] at keys ⊢
  split at keys
  · next known =>
      rw [if_pos known]
      exact owed.forget locked ready rfl rfl rfl rfl rfl rfl keys (.inl rfl)
  · next unknown =>
      rw [if_neg unknown]
      exact owed.forget locked ready rfl rfl rfl rfl rfl rfl keys (.inr rfl)

theorem unlock (owed : state.Owed setting) {server : Server} {origin : Origin}
    (ready : state.phase call = .unlocking server origin) :
    (effect setting state (.unlock call server origin)).Owed setting := by
  refine owed.plain ready rfl (by simp) {}
    (fun _ _ same => ?_) (fun _ _ same => ?_) (fun other _ _ owing => .inl ?_) (fun _ same => ?_)
    (fun _ same => ?_)
  · cases same
  · rw [outer_passed _ (afterUnregister_outer server origin)] at same
    cases same
  · cases origin with
    | close rest => exact absurd owing List.not_mem_nil
    | sweep rest => exact absurd owing List.not_mem_nil
    | prune runtime rest => exact owing
  · cases same
  · cases same

theorem stop (owed : state.Owed setting) {runtime : Runtime}
    (ready : state.phase call = .stopping runtime) :
    (effect setting state (.stop call runtime)).Owed setting := by
  refine owed.move ready rfl (by simp) (fun _ _ => id) (fun other server closes => ?_)
    (fun _ _ => .inl) (fun _ => .inl) (fun _ _ _ _ member => member) (fun _ _ _ same => ?_)
    (fun _ member => .inl member) (fun _ _ same => ?_) (fun _ _ _ owing => owing.elim)
    (fun _ _ same => ?_) (fun _ _ either => ?_)
  · by_cases same : setting.runtimeOf server = runtime
    · rw [same] at closes
      simp only [effect, Function.update_self, Option.some.injEq] at closes
      exact .inr ⟨closes.symm, same⟩
    · simp only [effect, Function.update_of_ne same] at closes
      exact .inl closes
  · cases same
  · cases same
  · cases same
  · obtain same | same := either <;> cases same

theorem filter (owed : state.Owed setting) {runtime : Runtime} {server : Server}
    {pending chosen : List Server}
    (ready : state.phase call = .filtering runtime (server :: pending) chosen) :
    (effect setting state (.filter call runtime (server :: pending) chosen)).Owed setting := by
  refine owed.plain ready rfl (by simp) {}
    (fun _ _ same => same) (fun _ _ same => same) (fun other _ closed owing => .inl ?_)
    (fun _ => .inl) (fun _ => .inl)
  obtain member | before := owing
  · obtain rfl | later := List.mem_cons.mp member
    · refine .inr ?_
      rw [if_pos closed]
      exact List.mem_append_right _ (List.mem_singleton_self _)
    · exact .inl later
  · refine .inr ?_
    split
    · exact List.mem_append_left _ before
    · exact before

/-- What stayed in the live set is in the list, or missed. -/
theorem list (owed : state.Owed setting) {reader : Reader} {size : Nat} {servers : List Server}
    (ready : state.phase call = .listing reader size) :
    (effect setting state (.list call reader size servers)).Owed setting := by
  have missed : (effect setting state (.list call reader size servers)).missed =
      Function.update state.missed call
        (state.missed call ∪ (state.seen call \ servers.toFinset)) := rfl
  have here := Function.update_self call
    (state.missed call ∪ (state.seen call \ servers.toFinset)) state.missed
  refine owed.plain ready rfl (by simp)
    { missed := fun other server member => ?_ } (fun _ _ same => ?_) (fun _ _ same => ?_)
    (fun server _ _ owing => ?_) (fun _ same => ?_) (fun _ same => ?_)
  · rw [missed]
    by_cases same : other = call
    · rw [same] at member ⊢
      rw [here]
      exact Finset.mem_union_left _ member
    · rwa [Function.update_of_ne same]
  · cases same
  · cases reader <;> cases same
  · cases reader with
    | closeAll => exact owing.elim
    | unregisterClosed runtime =>
        by_cases found : server ∈ servers
        · exact .inl (.inl found)
        · refine .inr (.inr ?_)
          rw [missed, here]
          exact Finset.mem_union_right _ (Finset.mem_sdiff.mpr ⟨owing, by simpa using found⟩)
  · cases same
  · cases same

theorem step (owed : state.Owed setting) (kept : state.Kept setting) (locked : state.Locked)
    (ready : guard setting state action) : (effect setting state action).Owed setting := by
  cases action with
  | register call _ | lock call _ | skipRuntime call _ | claim call _ =>
      exact owed.idle ready.1 rfl (by simp) {} rfl rfl (fun _ owing => owing) rfl rfl
  | write call _ _ | leave call _ _ | close call _ | closeAll call | closeRuntime call _ =>
      exact owed.idle ready rfl (by simp) {} rfl rfl (fun _ owing => owing) rfl rfl
  | add call server => exact owed.add ready
  | check call server =>
      refine owed.plain ready rfl (by simp) {}
        (fun other closed same => ?_) (fun other closed same => ?_)
        (fun _ _ _ owing => owing.elim) (fun _ same => ?_) (fun _ same => ?_)
      · obtain rfl := Option.some.inj same
        rw [if_pos closed]
        rfl
      · split at same
        · cases same
        · next opened =>
            obtain rfl := Option.some.inj same
            exact absurd closed opened
      · cases same
      · cases same
  | reject call server => exact owed.reject ready
  | identify call server record =>
      cases record with
      | none =>
          refine owed.plain ready.1 rfl (by simp) {}
            (fun _ _ same => ?_) (fun _ _ same => ?_) (fun _ _ _ owing => owing.elim)
            (fun _ same => ?_) (fun _ same => ?_)
          · cases same
          · cases same
          · cases same
          · cases same
      | some record =>
          exact owed.idle ready.1 rfl (by simp) {} rfl rfl (fun _ owing => owing) rfl rfl
  | put call server record => exact owed.put kept ready
  | shutdown server => exact ⟨owed.live, owed.listed, owed.records⟩
  | skip call server rest =>
      cases rest <;> exact owed.idle ready.1 rfl (by simp) {} rfl rfl (fun _ owing => owing) rfl rfl
  | shut call server rest => exact owed.shut ready.1
  | free call server rest threw =>
      cases threw with
      | false =>
          exact owed.plain ready rfl (by simp) {}
            (fun _ _ same => same) (fun _ _ same => same) (fun _ _ _ owing => .inl (.inl owing))
            (fun _ => .inl) (fun _ => .inl)
      | true =>
          cases rest with
          | none =>
              exact owed.plain ready rfl (by simp) {}
                (fun _ _ same => same) (fun _ _ same => same) (fun _ _ _ _ => .inr (.inl rfl))
                (fun _ _ => .inr rfl) (fun _ _ => .inr rfl)
          | some rest =>
              exact owed.plain ready rfl (by simp) {}
                (fun _ _ same => same) (fun _ _ same => same) (fun _ _ _ owing => .inl (.inl owing))
                (fun _ => .inl) (fun _ => .inl)
  | unlist call server origin => exact owed.unlist ready
  | relock call server origin =>
      exact owed.plain ready.1 rfl (by simp) {}
        (fun _ _ same => same) (fun _ _ same => same) (fun _ _ _ owing => .inl owing)
        (fun _ => .inl) (fun _ => .inl)
  | remove call server origin => exact owed.remove locked ready
  | rewrite call server origin =>
      exact owed.plain ready rfl (by simp) {}
        (fun _ _ same => same) (fun _ _ same => same) (fun _ _ _ owing => .inl owing)
        (fun _ => .inl) (fun _ => .inl)
  | unlock call server origin => exact owed.unlock ready
  | count call reader size =>
      refine owed.plain ready rfl (by simp)
        { seen := fun _ different => Function.update_of_ne different .. } (fun _ _ same => same)
        (fun _ _ same => same) (fun server member _ owing => .inl ?_) (fun _ => .inl)
        (fun _ => .inl)
      cases reader with
      | closeAll => exact owing
      | unregisterClosed runtime =>
          simpa [effect, watch, setPhase, Phase.Owes] using member
  | list call reader size servers => exact owed.list ready.1
  | findNone call reader size =>
      exact owed.plain ready.1 rfl (by simp) {}
        (fun _ _ same => same) (fun _ _ same => same) (fun _ _ _ _ => .inr (.inl rfl))
        (fun _ _ => .inr rfl) (fun _ _ => .inr rfl)
  | sweep call rest =>
      cases rest <;> exact owed.idle ready rfl (by simp) {} rfl rfl (fun _ owing => owing) rfl rfl
  | stop call runtime => exact owed.stop ready
  | unregisterClosed call runtime =>
      exact owed.plain ready rfl (by simp) {}
        (fun _ _ same => same) (fun _ _ same => same) (fun _ _ _ owing => .inl owing)
        (fun _ => .inl) (fun _ => .inl)
  | filter call runtime pending chosen =>
      cases pending with
      | nil =>
          exact owed.plain ready rfl (by simp) {}
            (fun _ _ same => same) (fun _ _ same => same)
            (fun server _ _ owing => .inl (owing.resolve_left List.not_mem_nil))
            (fun _ => .inl) (fun _ => .inl)
      | cons server pending => exact owed.filter ready
  | prune call runtime rest =>
      cases rest with
      | nil =>
          exact owed.plain ready rfl (by simp) {}
            (fun _ _ same => same) (fun _ _ same => same)
            (fun server _ _ owing => absurd owing List.not_mem_nil)
            (fun _ => .inl) (fun _ => .inl)
      | cons server rest =>
          refine owed.plain ready rfl (by simp) {}
            (fun _ _ same => same) (fun _ _ same => same)
            (fun other _ _ owing => .inl (List.mem_cons.mp owing)) (fun _ same => ?_)
            (fun _ same => ?_)
          · cases same
          · cases same

end Owed

/-! ## The file -/

/-- The file has the records, unless a call is about to write it. -/
def Filed (state : State) : Prop :=
  state.mutated = true →
    state.file = writeOwnRecords state.records ∨ ∃ call, (state.phase call).dirty = true

theorem outer_dirty (phase : Phase) (outer : phase.outer = true) : phase.dirty = false := by
  cases phase <;> first | rfl | cases outer

namespace Filed

variable {setting : Setting} {state next : State} {action : Action} {call : Call} {after : Phase}

theorem quiet (filed : state.Filed) (step : Quiet state next) : next.Filed := by
  intro mutated
  rw [step.mutated] at mutated
  rw [step.file, step.records]
  obtain same | ⟨other, dirty⟩ := filed mutated
  · exact .inl same
  · exact .inr ⟨other, by rwa [step.same outer_dirty]⟩

/-- A step of one call that changes neither the records nor the file. -/
theorem stay (filed : state.Filed) {before : Phase} (ready : state.phase call = before)
    (moved : next.phase = Function.update state.phase call after)
    (clean : before.dirty = false) (records : next.records = state.records)
    (file : next.file = state.file) (mutated : next.mutated = state.mutated) : next.Filed := by
  subst ready
  intro changed
  rw [mutated] at changed
  rw [file, records]
  obtain same | ⟨other, dirty⟩ := filed changed
  · exact .inl same
  · refine .inr ⟨other, ?_⟩
    rw [moved]
    by_cases same : other = call
    · rw [same, clean] at dirty
      cases dirty
    · rwa [Function.update_of_ne same]

theorem step (filed : state.Filed) (ready : guard setting state action) :
    (effect setting state action).Filed := by
  cases action with
  | register call server => exact filed.stay ready.1 rfl rfl rfl rfl rfl
  | add call server => exact filed.stay ready rfl rfl rfl rfl rfl
  | lock call server => exact filed.stay ready.1 rfl rfl rfl rfl rfl
  | check call server => exact filed.stay ready rfl rfl rfl rfl rfl
  | reject call server => exact filed.stay ready rfl rfl rfl rfl rfl
  | identify call server record => cases record <;> exact filed.stay ready.1 rfl rfl rfl rfl rfl
  | put call server record => exact fun _ => .inr ⟨call, by simp [effect, setPhase, Phase.dirty]⟩
  | write call server record => exact fun _ => .inl rfl
  | leave call server record => exact filed.stay ready rfl rfl rfl rfl rfl
  | unlist call server origin => exact filed.stay ready rfl rfl rfl rfl rfl
  | relock call server origin => exact filed.stay ready.1 rfl rfl rfl rfl rfl
  | remove call server origin =>
      simp only [effect]
      split
      · exact fun _ => .inr ⟨call, by simp [setPhase, Phase.dirty]⟩
      · exact filed.stay ready rfl rfl rfl rfl rfl
  | rewrite call server origin => exact fun _ => .inl rfl
  | unlock call server origin => exact filed.stay ready rfl rfl rfl rfl rfl
  | _ => exact filed.quiet (State.quiet ready rfl)

end Filed

/-! ## Every run -/

/-- All of it together. -/
structure Orderly (setting : Setting) (state : State) : Prop where
  locked : state.Locked
  doomed : state.Doomed setting
  kept : state.Kept setting
  owed : state.Owed setting
  filed : state.Filed

theorem orderly_start (setting : Setting) (file : Option (List (List Char))) :
    (start file).Orderly setting := by
  refine ⟨⟨?_, ?_⟩, ?_, ⟨List.nodup_nil, fun _ => trivial, ?_⟩, ⟨?_, ?_, ?_⟩, ?_⟩
  · exact fun call => ⟨fun inside => (by cases inside), fun held => (by cases held)⟩
  · exact fun call server => ⟨fun same => (by cases same), fun same => (by cases same)⟩
  · exact fun call server member => absurd member List.not_mem_nil
  · exact fun server member => absurd member List.not_mem_nil
  · intro call server closes
    cases closes
  · intro call server closes
    cases closes
  · intro call server closes
    cases closes
  · intro mutated
    cases mutated

theorem orderly_invariant (setting : Setting) (file : Option (List (List Char))) :
    (system setting file).Invariant (Orderly setting) where
  start := orderly_start setting file
  step := fun _ _ _ before ready =>
    ⟨before.locked.step ready, before.doomed.step ready,
      before.kept.step before.locked before.doomed ready,
      before.owed.step before.kept before.locked ready, before.filed.step ready⟩

/-- What is left of a server that was closed, and what is kept of one that is open. The close of a
runtime answers for the servers that its list of the live set did not miss, and a list misses what
was not counted, or was not alone where one was. -/
structure Tidy (setting : Setting) (state : State) : Prop where
  closed : ∀ call server, state.closer server = some call → state.phase call = .returned →
    state.registrar server = none → server ∉ state.live ∧ server ∉ state.keys
  runtimeClosed : ∀ call server,
    state.runtimeCloser (setting.runtimeOf server) = some call → state.phase call = .returned →
      state.registrar server = none → server ∉ state.missed call →
        server ∉ state.live ∧ (server ∈ state.keys → state.Clearing server)
  recorded : ∀ call server record, state.phase call = .registered server (some record) →
    state.isClosed setting server = false →
      state.records.filter (fun entry => entry.1 = server) = [(server, record)]
  misses : ∀ call reader size servers, guard setting state (.list call reader size servers) →
    ∀ server ∈ state.seen call, server ∉ servers →
      size = 0 ∨ size = 1 ∧ ∃ other ∈ state.live, other ≠ server
  file : state.mutated = true → state.recordsLock = none →
    state.file = writeOwnRecords state.records

/-- Nobody registers what nobody registers. -/
theorem Locked.not_unchecked {state : State} (locked : state.Locked) {server : Server}
    (free : state.registrar server = none) : ¬state.Unchecked server := by
  rintro ⟨call, adds⟩
  have registers : (state.phase call).registers = some server := by
    cases phase : state.phase call <;> simp_all [Phase.unchecked, Phase.registers]
  rw [(locked.registrar call server).mp registers] at free
  cases free

/-- Where no server has two records, the ones of a server are the one it has. -/
theorem filter_server {records : List (Server × ProcessRecord)}
    (nodup : (records.map Prod.fst).Nodup) {server : Server} {record : ProcessRecord}
    (member : (server, record) ∈ records) :
    records.filter (fun entry => entry.1 = server) = [(server, record)] := by
  induction records with
  | nil => exact absurd member List.not_mem_nil
  | cons first rest rests =>
      obtain ⟨absent, distinct⟩ := List.nodup_cons.mp nodup
      obtain rfl | later := List.mem_cons.mp member
      · rw [List.filter_cons_of_pos (by simp)]
        refine congrArg _ (List.filter_eq_nil_iff.mpr fun entry there same => absent ?_)
        exact List.mem_map.mpr ⟨entry, there, of_decide_eq_true same⟩
      · have different : first.1 ≠ server := by
          intro same
          exact absent (same ▸ List.mem_map.mpr ⟨(server, record), later, rfl⟩)
        rw [List.filter_cons_of_neg (by simpa using different)]
        exact rests distinct later

namespace Orderly

variable {setting : Setting} {state : State} {call : Call} {server : Server}

/-- A call that returned and closed the server took it out. -/
theorem not_live (orderly : state.Orderly setting) (closer : state.closer server = some call)
    (returned : state.phase call = .returned) (free : state.registrar server = none) :
    server ∉ state.live := by
  intro member
  have either := orderly.owed.live call server closer member
  rw [returned] at either
  obtain same | thrown | unchecked := either
  · cases same
  · cases thrown
  · exact orderly.locked.not_unchecked free unchecked

/-- A call that returned and closed the runtime took out the servers it listed. -/
theorem not_listed (orderly : state.Orderly setting)
    (closer : state.runtimeCloser (setting.runtimeOf server) = some call)
    (returned : state.phase call = .returned) (free : state.registrar server = none)
    (found : server ∉ state.missed call) : server ∉ state.live := by
  intro member
  obtain owing | thrown | unchecked | missed := orderly.owed.listed call server closer member
  · rw [Owing, returned] at owing
    exact owing
  · rw [returned] at thrown
    cases thrown
  · exact orderly.locked.not_unchecked free unchecked
  · exact found missed

theorem not_recorded (orderly : state.Orderly setting) (closer : state.closer server = some call)
    (returned : state.phase call = .returned) : server ∉ state.keys := by
  intro member
  have either := orderly.owed.records call server closer (.inl member)
  rw [returned] at either
  obtain same | same | same := either <;> cases same

/-- The one record of an open server. -/
theorem record_of (orderly : state.Orderly setting) {record : ProcessRecord}
    (registered : state.phase call = .registered server (some record))
    (opened : state.isClosed setting server = false) :
    state.records.filter (fun entry => entry.1 = server) = [(server, record)] := by
  have fits := orderly.kept.fits call
  rw [registered] at fits
  have member : (server, record) ∈ state.records := by
    obtain member | closed := fits
    · exact member
    · rw [opened] at closed
      cases closed
  exact filter_server orderly.kept.nodup member

end Orderly

/-- One server, whose pid is known. -/
def oneServer : Setting where
  runtimeOf := fun _ => 0
  pid := fun _ => some 7

/-- The server is registered. -/
def registration : List Action :=
  [.register 1 0, .add 1 0, .lock 1 0, .check 1 0, .identify 1 0 (some ⟨7, 9⟩), .put 1 0 ⟨7, 9⟩,
    .write 1 0 ⟨7, 9⟩, .leave 1 0 (some ⟨7, 9⟩)]

/-- Its runtime is closed while its own `close` is under way. -/
def overtaken : List Action :=
  registration ++ [.closeRuntime 2 0, .claim 2 0, .stop 2 0, .close 3 0, .shut 3 0 none,
    .free 3 0 none false, .unlist 3 0 (.close none), .unregisterClosed 2 0,
    .count 2 (.unregisterClosed 0) 0, .list 2 (.unregisterClosed 0) 0 [], .filter 2 0 [] [],
    .prune 2 0 []]

/-- The runtime's close does not see a server that another call is just unregistering. -/
theorem record_outlives_the_runtime :
    ¬∀ state : State, (system oneServer none).Reachable state → ∀ call server,
      state.Closes oneServer call server → state.phase call = .returned →
        state.registrar server = none → server ∉ state.live ∧ server ∉ state.keys := by
  intro forgotten
  have runs : (system oneServer none).Runs (start none) overtaken := by decide +kernel
  have gone := forgotten _ (GuardedSystem.Reachable.start.run runs) 2 0 (.inr (by decide +kernel))
    (by decide +kernel) (by decide +kernel)
  exact absurd (by decide +kernel) gone.2

/-- Two servers of two runtimes. -/
def twoServers : Setting where
  runtimeOf := fun server => server
  pid := fun _ => some 7

/-- A runtime is closed and one server counted, just before another server is added. -/
def newcomer : List Action :=
  registration ++ [.closeRuntime 2 0, .claim 2 0, .stop 2 0, .unregisterClosed 2 0,
    .count 2 (.unregisterClosed 0) 1, .register 3 1, .add 3 1,
    .list 2 (.unregisterClosed 0) 1 [1], .filter 2 0 [1] [], .filter 2 0 [] [], .prune 2 0 []]

/-- The runtime's close takes the newcomer for the one server there is, and misses its own. -/
theorem newcomer_hides_a_server :
    ¬∀ state : State, (system twoServers none).Reachable state → ∀ call server,
      state.Closes twoServers call server → state.phase call = .returned →
        state.registrar server = none → server ∉ state.live := by
  intro forgotten
  have runs : (system twoServers none).Runs (start none) newcomer := by decide +kernel
  exact forgotten _ (GuardedSystem.Reachable.start.run runs) 2 0 (.inr (by decide +kernel))
    (by decide +kernel) (by decide +kernel) (by decide +kernel)

/-- Closed servers are forgotten, open ones are recorded once, and the file follows. -/
theorem closed_servers_are_forgotten {setting : Setting} {file : Option (List (List Char))}
    {state : State} (reached : (system setting file).Reachable state) : state.Tidy setting := by
  have orderly := (orderly_invariant setting file).reachable reached
  refine ⟨fun call server closer returned free => ?_,
    fun call server closer returned free found => ?_,
    fun call server record => orderly.record_of,
    fun call reader size servers ready server => ready.2.of_missed, fun mutated unlocked => ?_⟩
  · exact ⟨orderly.not_live closer returned free, orderly.not_recorded closer returned⟩
  · have absent := orderly.not_listed closer returned free found
    exact ⟨absent, fun member => (orderly.kept.listed server member).resolve_left absent⟩
  · obtain same | ⟨call, dirty⟩ := orderly.filed mutated
    · exact same
    · have inside : (state.phase call).inside = true := by
        cases phase : state.phase call <;> simp_all [Phase.dirty, Phase.inside]
      rw [(orderly.locked.held call).mp inside] at unlocked
      cases unlocked

/-- The server is closed by `closeAll`. -/
def sweptAway : List Action :=
  registration ++ [.closeAll 2, .count 2 .closeAll 1, .list 2 .closeAll 1 [0], .sweep 2 [0],
    .shut 2 0 (some []), .free 2 0 (some []) false, .unlist 2 0 (.close (some [])),
    .relock 2 0 (.close (some [])),
    .remove 2 0 (.close (some [])), .rewrite 2 0 (.close (some [])),
    .unlock 2 0 (.close (some [])), .unlist 2 0 (.sweep []), .relock 2 0 (.sweep []),
    .remove 2 0 (.sweep []), .unlock 2 0 (.sweep []), .sweep 2 []]

/-- The server is closed with its runtime. -/
def stopped : List Action :=
  registration ++ [.closeRuntime 2 0, .claim 2 0, .stop 2 0, .unregisterClosed 2 0,
    .count 2 (.unregisterClosed 0) 1, .list 2 (.unregisterClosed 0) 1 [0], .filter 2 0 [0] [],
    .filter 2 0 [] [0], .prune 2 0 [0], .unlist 2 0 (.prune 0 []), .relock 2 0 (.prune 0 []),
    .remove 2 0 (.prune 0 []), .rewrite 2 0 (.prune 0 []), .unlock 2 0 (.prune 0 []),
    .prune 2 0 []]

theorem closed_servers_are_forgotten_sweptAway :
    (0 ∉ ((system oneServer none).after (start none) sweptAway).live ∧
      0 ∉ ((system oneServer none).after (start none) sweptAway).keys) ∧
    0 ∉ ((system oneServer none).after (start none) stopped).live ∧
    ((system oneServer none).after (start none) registration).file = some ["7 9".toList] := by
  have runs : (system oneServer none).Runs (start none) sweptAway := by decide +kernel
  have stops : (system oneServer none).Runs (start none) stopped := by decide +kernel
  have registered : (system oneServer none).Runs (start none) registration := by decide +kernel
  refine ⟨?_, ?_, ?_⟩
  · exact (closed_servers_are_forgotten (GuardedSystem.Reachable.start.run runs)).closed 2 0
      (by decide +kernel) (by decide +kernel) (by decide +kernel)
  · exact ((closed_servers_are_forgotten
      (GuardedSystem.Reachable.start.run stops)).runtimeClosed 2 0 (by decide +kernel)
      (by decide +kernel) (by decide +kernel) (by decide +kernel)).1
  · have written := (closed_servers_are_forgotten (GuardedSystem.Reachable.start.run
      registered)).file (by decide +kernel) (by decide +kernel)
    exact written.trans (by decide +kernel)

end State

end KtBridge.Registry
