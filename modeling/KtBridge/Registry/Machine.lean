import KtBridge.Foundation.Listing
import KtBridge.Foundation.System
import KtBridge.Registry.Orphans
import Mathlib.Data.Finset.Basic

/-! # Keeping the registry

`register`, `unregister` and the three ways to close a server, each called by any number of threads
at once. A call goes one access to shared state at a time; a monitor that only guards a flag makes
the flag's check and its write one step. The live set is made a list by reading its size, an
estimate while others change it, and then as much of it. File writes succeed. -/

namespace KtBridge.Registry

open Foundation

abbrev Server := Nat

abbrev Runtime := Nat

abbrev Call := Nat

/-- Where `unregister` was called. -/
inductive Origin where
  /-- In the server's `close`, itself called by `closeAll` where there is a rest to close. -/
  | close (rest : Option (List Server))
  /-- In the `finally` of `closeAll`. -/
  | sweep (rest : List Server)
  | prune (runtime : Runtime) (rest : List Server)
  deriving DecidableEq

/-- Who makes the live set a list. -/
inductive Reader where
  | closeAll
  | unregisterClosed (runtime : Runtime)
  deriving DecidableEq

/-- How far a call has come: what it does next, unless it has ended. -/
inductive Phase where
  | idle
  /-- Add to the live set. -/
  | registering (server : Server)
  /-- Lock the records. -/
  | added (server : Server)
  /-- Ask whether the server is closed. -/
  | checking (server : Server)
  /-- Remove from the live set. -/
  | rejecting (server : Server)
  /-- Find the server's process. -/
  | identifying (server : Server)
  | recording (server : Server) (record : ProcessRecord)
  /-- Write the records to the file. -/
  | writing (server : Server) (record : ProcessRecord)
  /-- Unlock the records. -/
  | leaving (server : Server) (record : Option ProcessRecord)
  | registered (server : Server) (record : Option ProcessRecord)
  /-- Ask whether `close` was called before. -/
  | closing (server : Server) (rest : Option (List Server))
  /-- `kt.close()`. -/
  | freeing (server : Server) (rest : Option (List Server))
  /-- Remove from the live set. -/
  | unregistering (server : Server) (origin : Origin)
  /-- Lock the records. -/
  | unlisted (server : Server) (origin : Origin)
  /-- Remove from the records. -/
  | removing (server : Server) (origin : Origin)
  /-- Write the records to the file. -/
  | rewriting (server : Server) (origin : Origin)
  /-- Unlock the records. -/
  | unlocking (server : Server) (origin : Origin)
  /-- Read the size of the live set. -/
  | counting (reader : Reader)
  /-- Read as much of the live set. -/
  | listing (reader : Reader) (size : Nat)
  | sweeping (rest : List Server)
  /-- Ask whether the runtime was closed before. -/
  | ending (runtime : Runtime)
  /-- Close the `KtRuntime`. -/
  | stopping (runtime : Runtime)
  /-- Free the native runtime. -/
  | freed (runtime : Runtime)
  /-- Ask which servers are closed. -/
  | filtering (runtime : Runtime) (pending chosen : List Server)
  | pruning (runtime : Runtime) (rest : List Server)
  | returned
  | thrown
  deriving DecidableEq

/-- What a list of the live set is for. -/
def Reader.next : Reader → List Server → Phase
  | .closeAll, servers => .sweeping servers
  | .unregisterClosed runtime, servers => .filtering runtime servers []

/-- The servers: the runtime each belongs to, and the pid that Core told. -/
structure Setting where
  runtimeOf : Server → Runtime
  pid : Server → Option Int64

/-- The registry of a JVM, its servers and its runtimes. A flag that closes something is kept with
the call that set it. For a call that reads the live set, `seen` is what stayed in it since the
size was read. The last two fields are history: what stayed in the live set while a call made it a
list and is not in the list, and whether the records were ever changed. -/
structure State where
  live : Finset Server
  records : List (Server × ProcessRecord)
  file : Option (List (List Char))
  recordsLock : Option Call
  closer : Server → Option Call
  shutDown : Server → Bool
  runtimeClaimed : Runtime → Bool
  runtimeCloser : Runtime → Option Call
  registrar : Server → Option Call
  phase : Call → Phase
  seen : Call → Finset Server
  missed : Call → Finset Server
  mutated : Bool

/-- `records[server] = record` of a `LinkedHashMap`. -/
def putRecord (records : List (Server × ProcessRecord)) (server : Server)
    (record : ProcessRecord) : List (Server × ProcessRecord) :=
  if server ∈ records.map Prod.fst then
    records.map fun entry => if entry.1 = server then (server, record) else entry
  else records ++ [(server, record)]

def removeRecord (records : List (Server × ProcessRecord)) (server : Server) :
    List (Server × ProcessRecord) :=
  records.filter fun entry => entry.1 ≠ server

/-- `writeOwnRecords`: what is in the file afterwards. -/
def writeOwnRecords (records : List (Server × ProcessRecord)) : Option (List (List Char)) :=
  if records.isEmpty then none else some (records.map fun entry => entry.2.serialize)

namespace State

/-- The registry before its first use; a file may be left of another JVM. -/
def start (file : Option (List (List Char))) : State where
  live := ∅
  records := []
  file := file
  recordsLock := none
  closer := fun _ => none
  shutDown := fun _ => false
  runtimeClaimed := fun _ => false
  runtimeCloser := fun _ => none
  registrar := fun _ => none
  phase := fun _ => .idle
  seen := fun _ => ∅
  missed := fun _ => ∅
  mutated := false

def setPhase (state : State) (call : Call) (phase : Phase) : State :=
  { state with phase := Function.update state.phase call phase }

/-- `live.remove(server)`. -/
def unlist (state : State) (server : Server) : State :=
  { state with
    live := state.live.erase server
    seen := fun call => (state.seen call).erase server }

def isClosed (setting : Setting) (state : State) (server : Server) : Bool :=
  (state.closer server).isSome || (state.runtimeCloser (setting.runtimeOf server)).isSome

def pid (setting : Setting) (state : State) (server : Server) : Option Int64 :=
  if state.isClosed setting server || state.shutDown server then none else setting.pid server

/-- What `close` returns to. -/
def afterClose (server : Server) : Option (List Server) → Phase
  | none => .returned
  | some rest => .unregistering server (.sweep rest)

/-- What `unregister` returns to. -/
def afterUnregister (server : Server) : Origin → Phase
  | .close rest => afterClose server rest
  | .sweep rest => .sweeping rest
  | .prune runtime rest => .pruning runtime rest

/-- The steps: of `register`, of a server's `close`, of `unregister`, of `closeAll`, and of a
runtime's `close` with `unregisterClosed`. -/
inductive Action where
  | register (call : Call) (server : Server)
  | add (call : Call) (server : Server)
  | lock (call : Call) (server : Server)
  | check (call : Call) (server : Server)
  | reject (call : Call) (server : Server)
  | identify (call : Call) (server : Server) (record : Option ProcessRecord)
  | put (call : Call) (server : Server) (record : ProcessRecord)
  | write (call : Call) (server : Server) (record : ProcessRecord)
  | leave (call : Call) (server : Server) (record : Option ProcessRecord)
  | shutdown (server : Server)
  | close (call : Call) (server : Server)
  | skip (call : Call) (server : Server) (rest : Option (List Server))
  | shut (call : Call) (server : Server) (rest : Option (List Server))
  | free (call : Call) (server : Server) (rest : Option (List Server)) (threw : Bool)
  | unlist (call : Call) (server : Server) (origin : Origin)
  | relock (call : Call) (server : Server) (origin : Origin)
  | remove (call : Call) (server : Server) (origin : Origin)
  | rewrite (call : Call) (server : Server) (origin : Origin)
  | unlock (call : Call) (server : Server) (origin : Origin)
  | closeAll (call : Call)
  | count (call : Call) (reader : Reader) (size : Nat)
  | list (call : Call) (reader : Reader) (size : Nat) (servers : List Server)
  | findNone (call : Call) (reader : Reader) (size : Nat)
  | sweep (call : Call) (rest : List Server)
  | closeRuntime (call : Call) (runtime : Runtime)
  | skipRuntime (call : Call) (runtime : Runtime)
  | claim (call : Call) (runtime : Runtime)
  | stop (call : Call) (runtime : Runtime)
  | unregisterClosed (call : Call) (runtime : Runtime)
  | filter (call : Call) (runtime : Runtime) (pending chosen : List Server)
  | prune (call : Call) (runtime : Runtime) (rest : List Server)

/-- When a step may happen. `start` registers its server once, and a server that has no record may
be registered again. -/
def guard (setting : Setting) (state : State) : Action → Prop
  | .register call server => state.phase call = .idle ∧ state.registrar server = none ∧
      server ∉ state.records.map Prod.fst
  | .add call server => state.phase call = .registering server
  | .lock call server => state.phase call = .added server ∧ state.recordsLock = none
  | .check call server => state.phase call = .checking server
  | .reject call server => state.phase call = .rejecting server
  | .identify call server record => state.phase call = .identifying server ∧
      ∀ identity ∈ record, state.pid setting server = some identity.pid
  | .put call server record => state.phase call = .recording server record
  | .write call server record => state.phase call = .writing server record
  | .leave call server record => state.phase call = .leaving server record
  | .shutdown _ => True
  | .close call _ => state.phase call = .idle
  | .skip call server rest => state.phase call = .closing server rest ∧
      (state.closer server).isSome
  | .shut call server rest => state.phase call = .closing server rest ∧
      state.closer server = none
  | .free call server rest _ => state.phase call = .freeing server rest
  | .unlist call server origin => state.phase call = .unregistering server origin
  | .relock call server origin => state.phase call = .unlisted server origin ∧
      state.recordsLock = none
  | .remove call server origin => state.phase call = .removing server origin
  | .rewrite call server origin => state.phase call = .rewriting server origin
  | .unlock call server origin => state.phase call = .unlocking server origin
  | .closeAll call => state.phase call = .idle
  | .count call reader _ => state.phase call = .counting reader
  | .list call reader size servers => state.phase call = .listing reader size ∧
      Lists size (state.seen call) state.live servers
  | .findNone call reader size => state.phase call = .listing reader size ∧
      FindsNone size (state.seen call)
  | .sweep call rest => state.phase call = .sweeping rest
  | .closeRuntime call _ => state.phase call = .idle
  | .skipRuntime call runtime => state.phase call = .ending runtime ∧
      state.runtimeClaimed runtime
  | .claim call runtime => state.phase call = .ending runtime ∧
      state.runtimeClaimed runtime = false
  | .stop call runtime => state.phase call = .stopping runtime
  | .unregisterClosed call runtime => state.phase call = .freed runtime
  | .filter call runtime pending chosen => state.phase call = .filtering runtime pending chosen
  | .prune call runtime rest => state.phase call = .pruning runtime rest

/-- Begin to read the live set. -/
def watch (state : State) (call : Call) : State :=
  { state with seen := Function.update state.seen call state.live }

def effect (setting : Setting) (state : State) : Action → State
  | .register call server =>
      { state.setPhase call (.registering server) with
        registrar := Function.update state.registrar server (some call) }
  | .add call server =>
      { state.setPhase call (.added server) with live := insert server state.live }
  | .lock call server =>
      { state.setPhase call (.checking server) with recordsLock := some call }
  | .check call server => state.setPhase call
      (if state.isClosed setting server then .rejecting server else .identifying server)
  | .reject call server => (state.unlist server).setPhase call (.leaving server none)
  | .identify call server none => state.setPhase call (.leaving server none)
  | .identify call server (some record) => state.setPhase call (.recording server record)
  | .put call server record =>
      { state.setPhase call (.writing server record) with
        records := putRecord state.records server record
        mutated := true }
  | .write call server record =>
      { state.setPhase call (.leaving server (some record)) with
        file := writeOwnRecords state.records }
  | .leave call server record =>
      { state.setPhase call (.registered server record) with
        recordsLock := none
        registrar := Function.update state.registrar server none }
  | .shutdown server => { state with shutDown := Function.update state.shutDown server true }
  | .close call server => state.setPhase call (.closing server none)
  | .skip call server rest => state.setPhase call (afterClose server rest)
  | .shut call server rest =>
      { state.setPhase call (.freeing server rest) with
        closer := Function.update state.closer server (some call) }
  | .free call server rest threw =>
      if threw then
        match rest with
        | none => state.setPhase call .thrown
        | some rest => state.setPhase call (.unregistering server (.sweep rest))
      else state.setPhase call (.unregistering server (.close rest))
  | .unlist call server origin => (state.unlist server).setPhase call (.unlisted server origin)
  | .relock call server origin =>
      { state.setPhase call (.removing server origin) with recordsLock := some call }
  | .remove call server origin =>
      if server ∈ state.records.map Prod.fst then
        { state.setPhase call (.rewriting server origin) with
          records := removeRecord state.records server
          mutated := true }
      else state.setPhase call (.unlocking server origin)
  | .rewrite call server origin =>
      { state.setPhase call (.unlocking server origin) with
        file := writeOwnRecords state.records }
  | .unlock call server origin =>
      { state.setPhase call (afterUnregister server origin) with recordsLock := none }
  | .closeAll call => state.setPhase call (.counting .closeAll)
  | .count call reader size => (state.watch call).setPhase call (.listing reader size)
  | .list call reader _ servers =>
      { state.setPhase call (reader.next servers) with
        missed := Function.update state.missed call
          (state.missed call ∪ (state.seen call \ servers.toFinset)) }
  -- The iterator's exception leaves `closeAll`, or the runtime's `close`.
  | .findNone call _ _ => state.setPhase call .thrown
  | .sweep call [] => state.setPhase call .returned
  | .sweep call (server :: rest) => state.setPhase call (.closing server (some rest))
  | .closeRuntime call runtime => state.setPhase call (.ending runtime)
  | .skipRuntime call _ => state.setPhase call .returned
  | .claim call runtime =>
      { state.setPhase call (.stopping runtime) with
        runtimeClaimed := Function.update state.runtimeClaimed runtime true }
  | .stop call runtime =>
      { state.setPhase call (.freed runtime) with
        runtimeCloser := Function.update state.runtimeCloser runtime (some call) }
  | .unregisterClosed call runtime =>
      state.setPhase call (.counting (.unregisterClosed runtime))
  | .filter call runtime [] chosen => state.setPhase call (.pruning runtime chosen)
  | .filter call runtime (server :: pending) chosen =>
      state.setPhase call (.filtering runtime pending
        (if state.isClosed setting server then chosen ++ [server] else chosen))
  | .prune call _ [] => state.setPhase call .returned
  | .prune call runtime (server :: rest) =>
      state.setPhase call (.unregistering server (.prune runtime rest))

def system (setting : Setting) (file : Option (List (List Char))) :
    GuardedSystem State Action where
  start := start file
  guard := guard setting
  effect := effect setting

instance decidableGuard (setting : Setting) (state : State) (action : Action) :
    Decidable (guard setting state action) := by
  cases action <;> unfold guard <;> infer_instance

instance decidableStep (setting : Setting) (file : Option (List (List Char))) (state : State)
    (action : Action) : Decidable ((system setting file).guard state action) :=
  inferInstanceAs (Decidable (guard setting state action))

end State

end KtBridge.Registry
