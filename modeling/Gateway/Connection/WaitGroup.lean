import Gateway.Connection.Shutdown

/-
# The manager's wait group

`m.wg` is added to in two places: `NewManager`'s `startCleanupRoutine` adds
one for the cleanup goroutine, and `AddConnection` adds two before it starts
a client's pumps. It is taken from when one of them returns: the cleanup
goroutine on `m.ctx.Done()`, `WritePump` after its deferred `cleanup`, and
`ReadPump` after its deferred `closeHandler` (the `RemoveClient` of
`handleDisconnect`, which runs inside the `ReadPump` goroutine) and `cleanup`.

In every reachable state the counter is the number of these goroutines still
running (`reachable_waitGroup`): no `Done` finds it at zero, which would
panic with "sync: negative WaitGroup counter", and `Shutdown`'s
`m.wg.Wait()` returns exactly when none of them is left.

Key definitions: `Thread.inWaitGroup`, `WaitGroupAgrees`. Key theorem:
`reachable_waitGroup`.
-/

namespace Gateway
namespace Connection

/-- The goroutines `m.wg` counts: the cleanup goroutine with the sweep it runs,
and each client's two pumps, `ReadPump` with the `RemoveClient` it makes
through `handleDisconnect`. -/
def Thread.inWaitGroup : Thread → Bool
  | .cleanupRoutine | .sweepShard _ | .sweepCount .. | .sweepLookup .. => true
  | .readPump _ | .readCleanup _ | .writePump _ => true
  | .removeShard _ _ pump | .removeCount _ _ pump | .removeClose _ _ pump
  | .removeNotify _ _ pump => pump.isSome
  | _ => false

@[simp] theorem countP_afterRemove (pump : Option Ptr) :
    (afterRemove pump).countP Thread.inWaitGroup = if pump.isSome then 1 else 0 := by
  cases pump <;> rfl

/-- **One step moves the counter as it moves the goroutines it counts**: a
goroutine that returns takes one off, `AddConnection`'s `m.wg.Add(2)` adds
the two pumps it starts, and every other step passes its place on. -/
theorem exec_wg {t : Thread} {e : Env} {m m' : Manager} {ts : List Thread}
    (h : exec t e m = some (m', ts)) (hpos : t.inWaitGroup = true → 0 < m.wg) :
    m'.wg + (if t.inWaitGroup then 1 else 0) = m.wg + ts.countP Thread.inWaitGroup := by
  cases exec_sound h <;> (try cases ‹Option Ptr›) <;>
    simp_all [Thread.inWaitGroup, Manager.pumpExit, Manager.updateClient] <;> omega

/-- `m.wg` counts the goroutines it was added for that have not returned. -/
def WaitGroupAgrees (s : Sys) : Prop := s.mgr.wg = s.threads.countP Thread.inWaitGroup

theorem waitGroupAgrees_inductive (cfg : Config) : Inductive cfg WaitGroupAgrees where
  init := rfl
  step := by
    intro s s' hs hst
    cases hst with
    | call m ts c =>
      cases c <;> simpa [WaitGroupAgrees, Call.start, List.countP_append, Thread.inWaitGroup] using hs
    | run m m' pre post new t e h =>
      have hpos : t.inWaitGroup = true → 0 < m.wg := fun ht => by
        rw [hs, List.countP_pos_iff]
        exact ⟨t, by simp, ht⟩
      have hstep := exec_wg h hpos
      simp only [WaitGroupAgrees, List.countP_append, List.countP_cons] at hs ⊢
      omega

/-- **The wait group counts the manager's goroutines**: in every reachable
state `m.wg` is the number of goroutines it was added for that are still
running: the cleanup goroutine and each client's pumps, a `ReadPump` inside
the `RemoveClient` of `handleDisconnect` included. So while one of them runs
the counter is positive, and no `Done` finds it at zero; and `Shutdown`'s
`m.wg.Wait()` can return exactly when none of them is left. -/
theorem reachable_waitGroup {cfg : Config} {s : Sys} (hs : Reachable cfg s) :
    s.mgr.wg = s.threads.countP Thread.inWaitGroup ∧
      (∀ t ∈ s.threads, t.inWaitGroup = true → 0 < s.mgr.wg) ∧
      ∀ e, (exec .shutdownWait e s.mgr).isSome ↔ ∀ t ∈ s.threads, t.inWaitGroup = false := by
  have hwg : s.mgr.wg = s.threads.countP Thread.inWaitGroup :=
    (waitGroupAgrees_inductive cfg).reachable hs
  refine ⟨hwg, fun t ht hin => ?_, fun e => ?_⟩
  · rw [hwg, List.countP_pos_iff]
    exact ⟨t, ht, hin⟩
  · simp only [exec, hwg, List.countP_eq_zero, Bool.not_eq_true]
    split_ifs with h0
    · exact iff_of_true rfl h0
    · exact iff_of_false Bool.false_ne_true h0

/-- After `Shutdown` with one client connected, the client's pumps hold the
counter at two and `m.wg.Wait()` cannot return. -/
theorem reachable_waitGroup_afterShutdown :
    Reachable smallConfig afterShutdownCall ∧ afterShutdownCall.mgr.wg = 2 ∧
      afterShutdownCall.mgr.wg = afterShutdownCall.threads.countP Thread.inWaitGroup ∧
      (exec .shutdownWait .quiet afterShutdownCall.mgr).isSome = false :=
  have hs : Reachable smallConfig afterShutdownCall := reachable_runOf rfl
  ⟨hs, by decide, (reachable_waitGroup hs).1, by decide⟩

end Connection
end Gateway
