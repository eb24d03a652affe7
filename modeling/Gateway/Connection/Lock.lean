import Mathlib.Logic.Relation
import Mathlib.Data.List.Basic

/-
# The shard lock

A shard's `mu` is a `sync.RWMutex`. Its documentation: "If any goroutine
calls Lock while the lock is already held by one or more readers, concurrent
calls to RLock will block until the writer has acquired (and released) the
lock ... Note that this prohibits recursive read-locking." So the mutex is
its count of readers and whether a writer has called `Lock` and not yet
`Unlock`: from that call on, `RLock` blocks; the writer takes the lock once
the readers are gone; a second writer waits for the first to unlock.

`BroadcastToUser` read-locks the shard and calls `GetUserClients`, which
read-locks it again before the first read lock is released. The mutators
(`AddClient`, `RemoveClient`, `RegisterAuthenticatedClient`,
`CleanupInactive`) lock, work and unlock. A mutator that calls `Lock`
between a broadcaster's two `RLock`s waits for that broadcaster's read lock,
and the broadcaster's second `RLock` waits for the mutator: whenever at
least one broadcaster and one mutator run, a state where every goroutine
that has not returned is blocked is reachable (`broadcast_mutate_deadlock`).

Key definitions: `RWMutex`, `Goroutine.step`, `Deadlocked`. Key theorem:
`broadcast_mutate_deadlock`.
-/

namespace Gateway
namespace Connection
namespace Lock

/-- A `sync.RWMutex`: the readers holding it, and whether a writer has called
`Lock` without calling `Unlock` yet. -/
structure RWMutex where
  readers : Nat
  writer : Bool
  deriving DecidableEq, Repr

/-- A goroutine using one shard's lock, at a point between two lock calls. -/
inductive Goroutine where
  /-- `BroadcastToUser`, before its `s.mu.RLock()`. -/
  | bStart
  /-- Holding one read lock, before the `s.mu.RLock()` of `GetUserClients`. -/
  | bOuter
  /-- Holding two, before the deferred `RUnlock` of `GetUserClients`. -/
  | bInner
  /-- Holding one, before `BroadcastToUser`'s `s.mu.RUnlock()`. -/
  | bRelease
  /-- A mutator, before `s.mu.Lock()`. -/
  | mStart
  /-- In `Lock`, announced, waiting for the readers to leave. -/
  | mWait
  /-- Holding the lock, before the deferred `Unlock`. -/
  | mHold
  /-- Returned. -/
  | done
  deriving DecidableEq, Repr

/-- `RLock`: blocks while a writer has called `Lock`. -/
def RWMutex.rLock (mu : RWMutex) : Option RWMutex :=
  if mu.writer then none else some { mu with readers := mu.readers + 1 }

/-- `RUnlock`. -/
def RWMutex.rUnlock (mu : RWMutex) : RWMutex := { mu with readers := mu.readers - 1 }

/-- The step of a goroutine: the mutex and the goroutine after it, or `none`
while it is blocked (or has returned). -/
def Goroutine.step (mu : RWMutex) : Goroutine → Option (RWMutex × Goroutine)
  | .bStart => mu.rLock.map (·, .bOuter)
  | .bOuter => mu.rLock.map (·, .bInner)
  | .bInner => some (mu.rUnlock, .bRelease)
  | .bRelease => some (mu.rUnlock, .done)
  | .mStart => if mu.writer then none else some ({ mu with writer := true }, .mWait)
  | .mWait => if mu.readers = 0 then some (mu, .mHold) else none
  | .mHold => some ({ mu with writer := false }, .done)
  | .done => none

/-- The lock and the goroutines using it. -/
structure LockSys where
  mu : RWMutex
  gs : List Goroutine

/-- One goroutine takes a step. -/
inductive LockStep (step : RWMutex → Goroutine → Option (RWMutex × Goroutine)) :
    LockSys → LockSys → Prop
  | run (mu mu' : RWMutex) (pre post : List Goroutine) (g g' : Goroutine) :
      step mu g = some (mu', g') → LockStep step ⟨mu, pre ++ g :: post⟩ ⟨mu', pre ++ g' :: post⟩

/-- The mutex as `sync.RWMutex`'s zero value. -/
def RWMutex.unlocked : RWMutex := ⟨0, false⟩

/-- Every goroutine that has not returned is blocked, and one has not. -/
def Deadlocked (step : RWMutex → Goroutine → Option (RWMutex × Goroutine)) (s : LockSys) : Prop :=
  (∃ g ∈ s.gs, g ≠ .done) ∧ ∀ g ∈ s.gs, step s.mu g = none

instance (step : RWMutex → Goroutine → Option (RWMutex × Goroutine)) (s : LockSys) :
    Decidable (Deadlocked step s) := by
  unfold Deadlocked; infer_instance

/-! ### The nested read lock deadlocks -/

/-- Goroutine `i` takes a step. -/
theorem LockStep.at (step : RWMutex → Goroutine → Option (RWMutex × Goroutine))
    (mu : RWMutex) {mu' : RWMutex} {gs : List Goroutine} {i : Nat} {g g' : Goroutine}
    (hi : gs[i]? = some g) (h : step mu g = some (mu', g')) :
    LockStep step ⟨mu, gs⟩ ⟨mu', gs.set i g'⟩ := by
  obtain ⟨hlt, rfl⟩ := List.getElem?_eq_some_iff.mp hi
  have hgs : gs = gs.take i ++ gs[i] :: gs.drop (i + 1) := by simp
  have hset : gs.set i g' = gs.take i ++ g' :: gs.drop (i + 1) := by
    rw [List.set_eq_take_append_cons_drop, if_pos hlt]
  rw [hset]
  conv => lhs; rw [hgs]
  exact .run _ _ _ _ _ _ h

/-- **The nested read lock deadlocks**: for any goroutines at the start of
`BroadcastToUser` or of a mutator, at least one of each, a state where all of
them are blocked is reachable. -/
theorem broadcast_mutate_deadlock (gs : List Goroutine)
    (hgs : ∀ g ∈ gs, g = .bStart ∨ g = .mStart) (hb : .bStart ∈ gs) (hm : .mStart ∈ gs) :
    ∃ s, Relation.ReflTransGen (LockStep Goroutine.step) ⟨.unlocked, gs⟩ s ∧
      Deadlocked Goroutine.step s := by
  obtain ⟨ib, hib⟩ := List.getElem?_of_mem hb
  obtain ⟨im, him⟩ := List.getElem?_of_mem hm
  have hne : ib ≠ im := fun h => by rw [h, him] at hib; cases hib
  have h₁ := LockStep.at Goroutine.step .unlocked hib rfl
  have him' : (gs.set ib .bOuter)[im]? = some .mStart := by rwa [List.getElem?_set_ne hne]
  have h₂ := LockStep.at Goroutine.step ⟨1, false⟩ him' rfl
  refine ⟨_, .tail (.tail .refl h₁) h₂, ⟨.bOuter, ?_, by decide⟩, fun g hg => ?_⟩
  · have : ib < gs.length := (List.getElem?_eq_some_iff.mp hib).1
    exact List.mem_iff_getElem?.mpr
      ⟨ib, by rw [List.getElem?_set_ne (Ne.symm hne), List.getElem?_set_self this]⟩
  · rcases List.mem_or_eq_of_mem_set hg with hg | rfl
    · rcases List.mem_or_eq_of_mem_set hg with hg | rfl
      · rcases hgs g hg with rfl | rfl <;> rfl
      · rfl
    · rfl

theorem broadcast_mutate_deadlock_two :
    ∃ s, Relation.ReflTransGen (LockStep Goroutine.step) ⟨.unlocked, [.bStart, .mStart]⟩ s ∧
      Deadlocked Goroutine.step s :=
  broadcast_mutate_deadlock _ (by decide) (by decide) (by decide)

end Lock
end Connection
end Gateway
