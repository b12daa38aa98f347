import KtBridge.Abi
import KtBridge.Handle.Layout

/-! # The generation-counted handle table

The table keeps every resource the JVM can refer to in a vector of slots, with
the vacated indices on a stack. A slot keeps a generation across its occupants,
so that a handle minted for an earlier occupant is told apart from the current
one. Every operation runs under the table's lock and is one step here; a step
returns the new table together with how the call ends, and `Outcome.panic`
records an index out of bounds, a failed `expect` or an `unreachable!`.
-/

namespace KtBridge

def kindRuntime : UInt8 := 1

def kindClient : UInt8 := 2

def kindWorker : UInt8 := 3

def kindEphemeral : UInt8 := 4

def kindPoller : UInt8 := 5

/-- Everything the table can hold: a variant and the shared object behind it. -/
inductive Entry (Ref : Type) where
  | runtime (object : Ref)
  | client (object : Ref)
  | worker (object : Ref)
  | ephemeral (object : Ref)
  | poller (object : Ref)
  deriving DecidableEq, Repr

namespace Entry

variable {Ref : Type}

def kind : Entry Ref → UInt8
  | runtime _ => kindRuntime
  | client _ => kindClient
  | worker _ => kindWorker
  | ephemeral _ => kindEphemeral
  | poller _ => kindPoller

/-- No entry is tagged 0, so no handle of an entry is 0. -/
theorem kind_ne_zero (entry : Entry Ref) : entry.kind ≠ 0 := by
  cases entry <;> simp only [kind] <;> decide

def runtime? : Entry Ref → Option Ref
  | runtime object => some object
  | _ => none

def client? : Entry Ref → Option Ref
  | client object => some object
  | _ => none

def worker? : Entry Ref → Option Ref
  | worker object => some object
  | _ => none

def ephemeral? : Entry Ref → Option Ref
  | ephemeral object => some object
  | _ => none

def poller? : Entry Ref → Option Ref
  | poller object => some object
  | _ => none

end Entry

/-- A slot keeps its generation while its occupants come and go; `owner` is the
handle of the runtime the occupant belongs to, 0 for none. -/
structure Slot (Ref : Type) where
  generation : UInt32
  owner : Handle
  entry : Option (Entry Ref)
  deriving DecidableEq, Repr

/-- The slots, and the stack of vacated indices with its top first. -/
structure Table (Ref : Type) where
  slots : List (Slot Ref)
  free : List UInt32
  deriving DecidableEq, Repr

/-- The generation after one more removal: it wraps in 24 bits and skips 0. -/
def Slot.bump (generation : UInt32) : UInt32 :=
  max ((generation + 1) &&& 0x00FFFFFF) 1

/-- A slot after its occupant was taken. -/
def Slot.vacated {Ref : Type} (slot : Slot Ref) : Slot Ref :=
  { generation := Slot.bump slot.generation, owner := 0, entry := none }

namespace Table

variable {Ref : Type}

def empty : Table Ref where
  slots := []
  free := []

/-- The index a handle resolves to, checked in the order zero, kind tag, bounds,
generation, occupancy, kind of the occupant. -/
def validate (table : Table Ref) (handle : Handle) (expectedKind : UInt8) :
    Except KtError Nat :=
  if handle = 0 then .error .staleHandle
  else if handle.kind ≠ expectedKind then .error .wrongHandleKind
  else
    match table.slots[handle.index]? with
    | none => .error .staleHandle
    | some slot =>
        if slot.generation ≠ handle.generation then .error .staleHandle
        else
          match slot.entry with
          | none => .error .staleHandle
          | some entry =>
              if entry.kind ≠ expectedKind then .error .wrongHandleKind
              else .ok handle.index

/-- Empty a slot, for a validated index or a live owned slot. `none` is the
panic of indexing out of bounds or of expecting a live slot. -/
def take (table : Table Ref) (index : Nat) : Option (Entry Ref × Table Ref) :=
  match table.slots[index]? with
  | none => none
  | some slot =>
      match slot.entry with
      | none => none
      | some entry => some (entry,
          { slots := table.slots.set index slot.vacated
            free := UInt32.ofNat index :: table.free })

/-- Mint the handle of the slot at an index from the slot's current generation. -/
def mint (table : Table Ref) (kind : UInt8) (index : UInt32) : Outcome Handle :=
  match table.slots[index.toNat]? with
  | none => .panic
  | some slot => .ok (Handle.encode kind slot.generation index)

/-- Place an entry in the most recently vacated slot, or in a new one. The index
is cut to 32 bits before it is used again. -/
def insertInto (table : Table Ref) (entry : Entry Ref) (owner : Handle) :
    Table Ref × Outcome Handle :=
  match table.free with
  | index :: rest =>
      match table.slots[index.toNat]? with
      | none => ({ table with free := rest }, .panic)
      | some slot =>
          let next : Table Ref :=
            { slots := table.slots.set index.toNat { slot with entry := some entry, owner := owner }
              free := rest }
          (next, next.mint entry.kind index)
  | [] =>
      let next : Table Ref :=
        { slots := table.slots ++ [{ generation := 1, owner := owner, entry := some entry }]
          free := [] }
      (next, next.mint entry.kind (UInt32.ofNat table.slots.length))

def insert (table : Table Ref) (entry : Entry Ref) : Table Ref × Outcome Handle :=
  table.insertInto entry 0

/-- Insert a child of a runtime, checking under the same lock that the runtime
is live. The last component is the entry closed by a rejected call. -/
def insertOwned (table : Table Ref) (runtime : Handle) (entry : Entry Ref) :
    Table Ref × Outcome Handle × Option (Entry Ref) :=
  match table.validate runtime kindRuntime with
  | .error _ => (table, .error .shutdown, some entry)
  | .ok _ =>
      let (next, outcome) := table.insertInto entry runtime
      (next, outcome, none)

/-- The scan of `remove_runtime`: take every slot owned by the runtime, at the
given indices in order. -/
def sweep (runtime : Handle) : List Nat → Table Ref → Table Ref × Outcome (List (Entry Ref))
  | [], table => (table, .ok [])
  | index :: rest, table =>
      match table.slots[index]? with
      | none => (table, .panic)
      | some slot =>
          if slot.owner = runtime then
            match table.take index with
            | none => (table, .panic)
            | some (entry, next) =>
                match sweep runtime rest next with
                | (last, .ok children) => (last, .ok (entry :: children))
                | (last, other) => (last, other)
          else sweep runtime rest table

/-- Invalidate a runtime and every resource it owns. -/
def removeRuntime (table : Table Ref) (runtime : Handle) :
    Table Ref × Outcome (Ref × List (Entry Ref)) :=
  match table.validate runtime kindRuntime with
  | .error error => (table, .error error)
  | .ok index =>
      match table.take index with
      | none => (table, .panic)
      | some (.runtime object, next) =>
          match sweep runtime (List.range next.slots.length) next with
          | (last, .ok children) => (last, .ok (object, children))
          | (last, .error error) => (last, .error error)
          | (last, .panic) => (last, .panic)
      | some (_, next) => (next, .panic)

def requireOwner (table : Table Ref) (handle runtime : Handle) : Outcome Unit :=
  match table.validate handle handle.kind with
  | .error error => .error error
  | .ok index =>
      match table.slots[index]? with
      | none => .panic
      | some slot =>
          if slot.owner ≠ runtime then
            .error (.invalidArgument "handle belongs to a different runtime")
          else .ok ()

/-- Remove an entry of an expected kind and invalidate every copy of its handle. -/
def removeOfKind (table : Table Ref) (handle : Handle) (expectedKind : UInt8) :
    Table Ref × Outcome (Entry Ref) :=
  match table.validate handle expectedKind with
  | .error error => (table, .error error)
  | .ok index =>
      match table.take index with
      | none => (table, .panic)
      | some (entry, next) => (next, .ok entry)

/-- Run a reader on the entry a handle resolves to, whatever its kind. -/
def withEntry {α : Type} (table : Table Ref) (handle : Handle)
    (read : Entry Ref → Except KtError α) : Outcome α :=
  match table.validate handle handle.kind with
  | .error error => .error error
  | .ok index =>
      match table.slots[index]?.bind Slot.entry with
      | none => .panic
      | some entry =>
          match read entry with
          | .ok value => .ok value
          | .error error => .error error

/-- The body shared by the typed getters. -/
def typedGetter (variant : Entry Ref → Option Ref) (table : Table Ref) (handle : Handle) :
    Outcome Ref :=
  table.withEntry handle fun entry =>
    match variant entry with
    | some object => .ok object
    | none => .error .wrongHandleKind

def runtime : Table Ref → Handle → Outcome Ref := typedGetter Entry.runtime?

def client : Table Ref → Handle → Outcome Ref := typedGetter Entry.client?

def worker : Table Ref → Handle → Outcome Ref := typedGetter Entry.worker?

def ephemeral : Table Ref → Handle → Outcome Ref := typedGetter Entry.ephemeral?

def poller : Table Ref → Handle → Outcome Ref := typedGetter Entry.poller?

end Table

/-- A call on the table. A lookup names the typed getter by the kind it reads. -/
inductive TableCall (Ref : Type) where
  | insert (entry : Entry Ref)
  | insertOwned (runtime : Handle) (entry : Entry Ref)
  | removeOfKind (handle : Handle) (expectedKind : UInt8)
  | requireOwner (handle runtime : Handle)
  | removeRuntime (runtime : Handle)
  | runtime (handle : Handle)
  | client (handle : Handle)
  | worker (handle : Handle)
  | ephemeral (handle : Handle)
  | poller (handle : Handle)

/-- The entry a call places. -/
def TableCall.inserted? {Ref : Type} : TableCall Ref → Option (Entry Ref)
  | .insert entry => some entry
  | .insertOwned _ entry => some entry
  | _ => none

/-- What a call on the table answers. -/
inductive TableReply (Ref : Type) where
  | issued (handle : Handle)
  | removed (entry : Entry Ref)
  | removedRuntime (object : Ref) (children : List (Entry Ref))
  | owned
  | found (object : Ref)
  | rejected (error : KtError) (closed : Option (Entry Ref))
  | panicked
  deriving DecidableEq, Repr

namespace Table

variable {Ref : Type}

/-- Answer a call that returns a plain outcome. -/
def answer {α : Type} (done : α → TableReply Ref) : Outcome α → TableReply Ref
  | .ok value => done value
  | .error error => .rejected error none
  | .panic => .panicked

/-- One call on the table: the next table and the answer. -/
def perform (table : Table Ref) : TableCall Ref → Table Ref × TableReply Ref
  | .insert entry =>
      let (next, outcome) := table.insert entry
      (next, answer .issued outcome)
  | .insertOwned runtime entry =>
      match table.insertOwned runtime entry with
      | (next, .error error, closed) => (next, .rejected error closed)
      | (next, outcome, _) => (next, answer .issued outcome)
  | .removeOfKind handle expectedKind =>
      let (next, outcome) := table.removeOfKind handle expectedKind
      (next, answer .removed outcome)
  | .requireOwner handle runtime =>
      (table, answer (fun _ => .owned) (table.requireOwner handle runtime))
  | .removeRuntime runtime =>
      let (next, outcome) := table.removeRuntime runtime
      (next, answer (fun result => .removedRuntime result.1 result.2) outcome)
  | .runtime handle => (table, answer .found (table.runtime handle))
  | .client handle => (table, answer .found (table.client handle))
  | .worker handle => (table, answer .found (table.worker handle))
  | .ephemeral handle => (table, answer .found (table.ephemeral handle))
  | .poller handle => (table, answer .found (table.poller handle))

end Table

end KtBridge
