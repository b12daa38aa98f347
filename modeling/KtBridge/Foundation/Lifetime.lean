import KtBridge.Foundation.System
import Mathlib.Data.Finset.Basic
import Mathlib.Data.Finset.Insert

/-! # The lifetime of a handle

A party that obtains a handle keeps it to itself, until it frees it or shares it. What is shared any
party may ask for; the first that claims it keeps it, and frees it. So a handle has one keeper at most,
is freed once at most, and not before its keeper is done with it. -/

namespace Foundation.Lifetime

/-- What a party has to do with a handle. -/
inductive Role (Handle : Type) where
  | nobody
  | creator (handle : Handle)
  | asker (handle : Handle)
  | closer (handle : Handle)
  deriving DecidableEq

/-- The handle that a party keeps to itself. -/
def Role.keeps {Handle : Type} : Role Handle → Option Handle
  | creator handle | closer handle => some handle
  | _ => none

structure State (Party Handle : Type) where
  born : Finset Handle
  shared : Finset Handle
  claimed : Handle → Bool
  freed : List Handle
  role : Party → Role Handle

inductive Action (Party Handle : Type) where
  | bear (party : Party) (handle : Handle)
  | share (party : Party) (handle : Handle)
  | ask (party : Party) (handle : Handle)
  | refuse (party : Party)
  | claim (party : Party) (handle : Handle)
  | free (party : Party) (handle : Handle)

variable {Party Handle : Type} [DecidableEq Party] [DecidableEq Handle]

def State.setRole (state : State Party Handle) (party : Party) (role : Role Handle) :
    State Party Handle :=
  { state with role := Function.update state.role party role }

def guard (state : State Party Handle) : Action Party Handle → Prop
  | .bear party handle => state.role party = .nobody ∧ handle ∉ state.born
  | .share party handle => state.role party = .creator handle
  | .ask party handle => state.role party = .nobody ∧ handle ∈ state.shared
  | .refuse party => ∃ handle, state.role party = .asker handle
  | .claim party handle => state.role party = .asker handle ∧ state.claimed handle = false
  | .free party handle => (state.role party).keeps = some handle

def effect (state : State Party Handle) : Action Party Handle → State Party Handle
  | .bear party handle =>
      { state.setRole party (.creator handle) with born := insert handle state.born }
  | .share party handle =>
      { state.setRole party .nobody with shared := insert handle state.shared }
  | .ask party handle => state.setRole party (.asker handle)
  | .refuse party => state.setRole party .nobody
  | .claim party handle =>
      { state.setRole party (.closer handle) with
        claimed := Function.update state.claimed handle true }
  | .free party handle =>
      { state.setRole party .nobody with freed := state.freed ++ [handle] }

variable (Party Handle)

def system : GuardedSystem (State Party Handle) (Action Party Handle) where
  start := ⟨∅, ∅, fun _ => false, [], fun _ => .nobody⟩
  guard := guard
  effect := effect

variable {Party Handle}

/-- Who keeps which handle, and that it is not freed. -/
structure Kept (state : State Party Handle) : Prop where
  creator : ∀ party handle, state.role party = .creator handle →
    handle ∈ state.born ∧ handle ∉ state.shared ∧ handle ∉ state.freed
  asker : ∀ party handle, state.role party = .asker handle → handle ∈ state.shared
  closer : ∀ party handle, state.role party = .closer handle →
    handle ∈ state.shared ∧ state.claimed handle ∧ handle ∉ state.freed
  one : ∀ party other handle, (state.role party).keeps = some handle →
    (state.role other).keeps = some handle → party = other
  shared : ∀ handle ∈ state.shared, handle ∈ state.born
  freed : ∀ handle ∈ state.freed, handle ∈ state.born ∧
    (handle ∈ state.shared → state.claimed handle)
  once : state.freed.Nodup

section Facts

variable {state : State Party Handle} {party : Party} {handle : Handle}

omit [DecidableEq Party] [DecidableEq Handle] in
theorem Role.keeps_iff {role : Role Handle} :
    role.keeps = some handle ↔ role = .creator handle ∨ role = .closer handle := by
  cases role <;> simp [Role.keeps]

omit [DecidableEq Handle] in
/-- What a party's role is after it, or another, took one. -/
theorem role_setRole {role : Role Handle} {other : Party} {found : Role Handle}
    (there : (state.setRole party role).role other = found) :
    other = party ∧ role = found ∨ other ≠ party ∧ state.role other = found := by
  by_cases own : other = party
  · subst own
    have taken : (state.setRole other role).role other = role := Function.update_self ..
    exact .inl ⟨rfl, taken.symm.trans there⟩
  · have same : (state.setRole party role).role other = state.role other :=
      Function.update_of_ne own ..
    exact .inr ⟨own, same.symm.trans there⟩

omit [DecidableEq Party] [DecidableEq Handle] in
/-- What is kept was born, and is not freed. -/
theorem Kept.kept (kept : Kept state) (keeps : (state.role party).keeps = some handle) :
    handle ∈ state.born ∧ handle ∉ state.freed := by
  rcases Role.keeps_iff.mp keeps with creates | closes
  · exact ⟨(kept.creator party handle creates).1, (kept.creator party handle creates).2.2⟩
  · exact ⟨kept.shared handle (kept.closer party handle closes).1,
      (kept.closer party handle closes).2.2⟩

omit [DecidableEq Handle] in
/-- A party that lets go keeps nothing, and the others keep what they kept. -/
theorem Kept.one_of_setRole (kept : Kept state) (party : Party) {role : Role Handle}
    (sole : ∀ other handle, role.keeps = some handle → other ≠ party →
      (state.role other).keeps ≠ some handle) (one two : Party) (handle : Handle)
    (first : ((state.setRole party role).role one).keeps = some handle)
    (second : ((state.setRole party role).role two).keeps = some handle) : one = two := by
  rcases role_setRole (rfl : (state.setRole party role).role one = _) with
      ⟨here, new⟩ | ⟨other, old⟩ <;>
    rcases role_setRole (rfl : (state.setRole party role).role two = _) with
      ⟨there, newer⟩ | ⟨another, older⟩
  · exact here.trans there.symm
  · rw [← new] at first
    rw [← older] at second
    exact absurd second (sole two handle first another)
  · rw [← newer] at second
    rw [← old] at first
    exact absurd first (sole one handle second other)
  · rw [← old] at first
    rw [← older] at second
    exact kept.one one two handle first second

end Facts

/-- Handles are kept by one party at most and freed once at most, in every reachable state. -/
theorem kept_invariant : (system Party Handle).Invariant Kept where
  start :=
    { creator := fun _ _ holds => by cases holds
      asker := fun _ _ holds => by cases holds
      closer := fun _ _ holds => by cases holds
      one := fun _ _ _ holds _ => by cases holds
      shared := fun _ member => absurd member (Finset.notMem_empty _)
      freed := fun _ member => absurd member List.not_mem_nil
      once := List.nodup_nil }
  step := by
    intro state action _ kept ready
    cases action with
    | bear party handle =>
        obtain ⟨idle, fresh⟩ := ready
        refine
          { creator := ?_
            asker := ?_
            closer := ?_
            one := kept.one_of_setRole party ?_
            shared := fun handle member => Finset.mem_insert_of_mem (kept.shared handle member)
            freed := ?_
            once := kept.once }
        · intro other held creates
          rcases role_setRole creates with ⟨rfl, ⟨⟩⟩ | ⟨_, old⟩
          · exact ⟨Finset.mem_insert_self .., fun shared => fresh (kept.shared _ shared),
              fun freed => fresh (kept.freed _ freed).1⟩
          · have known := kept.creator other held old
            exact ⟨Finset.mem_insert_of_mem known.1, known.2⟩
        · intro other held asks
          rcases role_setRole asks with ⟨rfl, ⟨⟩⟩ | ⟨_, old⟩
          exact kept.asker other held old
        · intro other held closes
          rcases role_setRole closes with ⟨rfl, ⟨⟩⟩ | ⟨_, old⟩
          exact kept.closer other held old
        · intro other held keeps _ also
          cases keeps
          exact fresh (kept.kept also).1
        · intro held member
          exact ⟨Finset.mem_insert_of_mem (kept.freed held member).1, (kept.freed held member).2⟩
    | share party handle =>
        have creates : state.role party = .creator handle := ready
        have own := kept.creator party handle creates
        refine
          { creator := ?_
            asker := ?_
            closer := ?_
            one := kept.one_of_setRole party fun _ _ keeps => by cases keeps
            shared := ?_
            freed := ?_
            once := kept.once }
        · intro other held creating
          rcases role_setRole creating with ⟨rfl, ⟨⟩⟩ | ⟨different, old⟩
          have known := kept.creator other held old
          refine ⟨known.1, fun member => ?_, known.2.2⟩
          rcases Finset.mem_insert.mp member with rfl | before
          · exact different (kept.one other party held (Role.keeps_iff.mpr (.inl old))
              (Role.keeps_iff.mpr (.inl creates)))
          · exact known.2.1 before
        · intro other held asks
          rcases role_setRole asks with ⟨rfl, ⟨⟩⟩ | ⟨_, old⟩
          exact Finset.mem_insert_of_mem (kept.asker other held old)
        · intro other held closes
          rcases role_setRole closes with ⟨rfl, ⟨⟩⟩ | ⟨_, old⟩
          have known := kept.closer other held old
          exact ⟨Finset.mem_insert_of_mem known.1, known.2⟩
        · intro held member
          rcases Finset.mem_insert.mp member with rfl | before
          · exact own.1
          · exact kept.shared held before
        · intro held member
          refine ⟨(kept.freed held member).1, fun shared => ?_⟩
          rcases Finset.mem_insert.mp shared with rfl | before
          · exact absurd member own.2.2
          · exact (kept.freed held member).2 before
    | ask party handle =>
        obtain ⟨idle, there⟩ := ready
        refine
          { creator := ?_
            asker := ?_
            closer := ?_
            one := kept.one_of_setRole party fun _ _ keeps => by cases keeps
            shared := kept.shared
            freed := kept.freed
            once := kept.once }
        · intro other held creates
          rcases role_setRole creates with ⟨rfl, ⟨⟩⟩ | ⟨_, old⟩
          exact kept.creator other held old
        · intro other held asks
          rcases role_setRole asks with ⟨rfl, ⟨⟩⟩ | ⟨_, old⟩
          · exact there
          · exact kept.asker other held old
        · intro other held closes
          rcases role_setRole closes with ⟨rfl, ⟨⟩⟩ | ⟨_, old⟩
          exact kept.closer other held old
    | refuse party =>
        refine
          { creator := ?_
            asker := ?_
            closer := ?_
            one := kept.one_of_setRole party fun _ _ keeps => by cases keeps
            shared := kept.shared
            freed := kept.freed
            once := kept.once }
        · intro other held creates
          rcases role_setRole creates with ⟨rfl, ⟨⟩⟩ | ⟨_, old⟩
          exact kept.creator other held old
        · intro other held asks
          rcases role_setRole asks with ⟨rfl, ⟨⟩⟩ | ⟨_, old⟩
          exact kept.asker other held old
        · intro other held closes
          rcases role_setRole closes with ⟨rfl, ⟨⟩⟩ | ⟨_, old⟩
          exact kept.closer other held old
    | claim party handle =>
        obtain ⟨asks, unclaimed⟩ := ready
        have shared := kept.asker party handle asks
        have still : ∀ held, state.claimed held → Function.update state.claimed handle true held := by
          intro held claimed
          by_cases same : held = handle
          · rw [same, Function.update_self]
          · rwa [Function.update_of_ne same]
        refine
          { creator := ?_
            asker := ?_
            closer := ?_
            one := kept.one_of_setRole party ?_
            shared := kept.shared
            freed := fun held member =>
              ⟨(kept.freed held member).1, fun shared => still held ((kept.freed held member).2 shared)⟩
            once := kept.once }
        · intro other held creates
          rcases role_setRole creates with ⟨rfl, ⟨⟩⟩ | ⟨_, old⟩
          exact kept.creator other held old
        · intro other held asks
          rcases role_setRole asks with ⟨rfl, ⟨⟩⟩ | ⟨_, old⟩
          exact kept.asker other held old
        · intro other held closes
          rcases role_setRole closes with ⟨rfl, ⟨⟩⟩ | ⟨_, old⟩
          · refine ⟨shared, Function.update_self .., fun freed => ?_⟩
            exact absurd ((kept.freed _ freed).2 shared) (Bool.not_eq_true _ ▸ unclaimed)
          · have known := kept.closer other held old
            exact ⟨known.1, still held known.2.1, known.2.2⟩
        · intro other held keeps _ also
          cases keeps
          rcases Role.keeps_iff.mp also with creates | closes
          · exact (kept.creator other handle creates).2.1 shared
          · exact absurd (kept.closer other handle closes).2.1 (Bool.not_eq_true _ ▸ unclaimed)
    | free party handle =>
        have keeps : (state.role party).keeps = some handle := ready
        have own := kept.kept keeps
        have alone : ∀ other held, other ≠ party → (state.role other).keeps = some held →
            held ∉ state.freed → held ∉ state.freed ++ [handle] := by
          intro other held different also unfreed member
          rcases List.mem_append.mp member with before | last
          · exact unfreed before
          · rw [List.mem_singleton.mp last] at also
            exact different (kept.one other party handle also keeps)
        refine
          { creator := ?_
            asker := ?_
            closer := ?_
            one := kept.one_of_setRole party fun _ _ keeps => by cases keeps
            shared := kept.shared
            freed := ?_
            once := ?_ }
        · intro other held creates
          rcases role_setRole creates with ⟨rfl, ⟨⟩⟩ | ⟨different, old⟩
          have known := kept.creator other held old
          exact ⟨known.1, known.2.1, alone other held different (Role.keeps_iff.mpr (.inl old)) known.2.2⟩
        · intro other held asks
          rcases role_setRole asks with ⟨rfl, ⟨⟩⟩ | ⟨_, old⟩
          exact kept.asker other held old
        · intro other held closes
          rcases role_setRole closes with ⟨rfl, ⟨⟩⟩ | ⟨different, old⟩
          have known := kept.closer other held old
          exact ⟨known.1, known.2.1, alone other held different (Role.keeps_iff.mpr (.inr old)) known.2.2⟩
        · intro held member
          rcases List.mem_append.mp member with before | last
          · exact kept.freed held before
          · rw [List.mem_singleton.mp last]
            refine ⟨own.1, fun shared => ?_⟩
            rcases Role.keeps_iff.mp keeps with creates | closes
            · exact absurd shared (kept.creator party handle creates).2.1
            · exact (kept.closer party handle closes).2.1
        · refine List.nodup_append.mpr ⟨kept.once, List.nodup_singleton _, ?_⟩
          intro held member other last same
          rw [same, List.mem_singleton.mp last] at member
          exact own.2 member

end Foundation.Lifetime
